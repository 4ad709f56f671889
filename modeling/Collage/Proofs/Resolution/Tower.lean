import Collage.Proofs.Resolution.Cycles
import Collage.Proofs.Session.Dating

/-! # Where a failure points

A failure of a resolution is a tower: inside is the failure of one template, and around it stands a
wrapper for each directive on the way there (`ComposeError.wrappers`).  `Source.Tower` tells how a
failure goes with the source and with what is in flight, and every failure of a resolution is told
by it (`Session.preprocess_tower`).  So one can read from a failure alone which directives lead to
the template that fails (`Source.Leads`) and what is wrong there (`Source.Blames`):
`Session.resolve_points`.

The source may not change in the course of the resolution, but the shelves may (`Session.Steady`).
-/

namespace Collage

/-! ## Reading a failure -/

/-- A directive that a failure is wrapped for, with the template that it stands in. -/
structure ComposeError.Wrapper where
  kind : Directive.Kind
  reference : String
  parent : String
  deriving DecidableEq, Repr

/-- The directives that a failure is wrapped for, the outermost one first. -/
def ComposeError.wrappers : ComposeError → List ComposeError.Wrapper
  | .directive kind reference parent cause => ⟨kind, reference, parent⟩ :: cause.wrappers
  | _ => []

/-- A failure with wrappers around it. -/
def ComposeError.wrapped (e : ComposeError) (wrappers : List ComposeError.Wrapper) : ComposeError :=
  wrappers.foldr (fun w cause => .directive w.kind w.reference w.parent cause) e

/-- A failure is what is inside of its wrappers, wrapped. -/
theorem ComposeError.wrapped_root (e : ComposeError) : e.root.wrapped e.wrappers = e := by
  induction e with
  | directive kind reference parent cause ih =>
    rw [wrapped] at ih
    rw [root, wrappers, wrapped, List.foldr_cons, ih]
  | _ => rfl

namespace Source

/-- Wrappers lead from one template to another: each stands for a directive that the text of its
parent meets, and the template that one refers to is the parent of the next. -/
def Leads (source : Source) : String → List ComposeError.Wrapper → String → Prop
  | name, [], failing => name = failing
  | name, w :: rest, failing =>
    w.parent = name ∧
      (∃ text, source.text? name = some text ∧ ∃ sight ∈ Directive.met text,
        sight.kind = w.kind ∧ sight.directive.reference = w.reference) ∧
      source.Leads (Directive.nameOf w.reference) rest failing

/-- A failure is one of a template by itself, and says what the source has under its name. -/
def Blames (source : Source) (name : String) : ComposeError → Prop
  | .io e => source.read name = .error e
  | .encoding about defect =>
    about = name ∧ ∃ bytes, source.read name = .ok bytes ∧ Text.Utf8.decode bytes = .error defect
  | .duplicateLayout about | .parse about _ => about = name ∧ (source.text? name).isSome = true
  | .merge definition template _ =>
    template = Directive.nameOf definition ∧ ∃ text, source.text? name = some text ∧
      definition ∈ Directive.references (Directive.met text)
  | .recursive _ | .execute .. | .data _ | .directive .. => False

/-- `source.Tower path name e`: the template of a name fails with `e` while a path is in flight.
The name may be in flight already; otherwise the template fails by itself, or behind one of its
directives, while it is in flight as well. -/
inductive Tower (source : Source) : List String → String → ComposeError → Prop where
  | circle {path : List String} {name : String} : name ∈ path →
      Tower source path name (.recursive name)
  | own {path : List String} {name : String} {e : ComposeError} : name ∉ path →
      source.Blames name e → Tower source path name e
  | behind {path : List String} {name text : String} {sight : Directive.Sighting}
      {cause : ComposeError} : name ∉ path → source.text? name = some text →
      sight ∈ Directive.met text →
      Tower source (path ++ [name]) sight.directive.name cause →
      Tower source path name
        (.directive sight.kind sight.directive.reference name cause)

variable {source : Source} {name text : String} {e : ComposeError}

theorem Blames.wrappers_eq (blames : source.Blames name e) : e.wrappers = [] := by
  cases e with
  | directive kind reference parent cause => exact blames.elim
  | _ => rfl

theorem Blames.root_eq (blames : source.Blames name e) : e.root = e := by
  cases e with
  | directive kind reference parent cause => exact blames.elim
  | _ => rfl

theorem Blames.not_isRecursive (blames : source.Blames name e) : e.isRecursive = false := by
  cases e with
  | directive kind reference parent cause => exact blames.elim
  | recursive c => exact blames.elim
  | _ => rfl

theorem blames_of_body (unfit : source.body name = .error e) : source.Blames name e := by
  rcases error_of_body unfit with ⟨cause, given, rfl⟩ | ⟨bytes, defect, given, decoded, rfl⟩ |
    ⟨known, rfl⟩
  · exact given
  · exact ⟨rfl, bytes, given, decoded⟩
  · exact ⟨rfl, known⟩

theorem blames_of_assemble {d : Draft} {kind : OutputKind} {tools : Tools} {rest : String}
    (known : source.text? name = some text)
    (reflects : d.Reflects (Directive.met text))
    (failed : d.assemble kind tools name rest = .error e) : source.Blames name e := by
  obtain ⟨i, member, rfl⟩ | ⟨message, rfl⟩ := Draft.error_of_assemble failed
  · refine ⟨(reflects.included i member).2, text, known, ?_⟩
    exact reflects.inclusions ▸ List.mem_map_of_mem member
  · exact ⟨rfl, Option.isSome_of_eq_some known⟩

/-- What a tower is made of.  The parents were put in flight one after the other, so none comes
twice; and the template that fails is in flight exactly if it fails because of a circle. -/
theorem Tower.points {path : List String} (tower : source.Tower path name e) :
    ∃ failing, source.Leads name e.wrappers failing ∧
      (e.wrappers.map (·.parent)).Nodup ∧ (∀ parent ∈ e.wrappers.map (·.parent), parent ∉ path) ∧
      (e.isRecursive = true ↔ failing ∈ path ++ e.wrappers.map (·.parent)) ∧
      if e.isRecursive then e.root = .recursive failing else source.Blames failing e.root := by
  induction tower with
  | @circle path name inside =>
    refine ⟨name, rfl, by simp [ComposeError.wrappers], by simp [ComposeError.wrappers], ?_, ?_⟩
    · simp [ComposeError.isRecursive, ComposeError.root, ComposeError.wrappers, inside]
    · simp [ComposeError.isRecursive, ComposeError.root]
  | @own path name e outside blames =>
    refine ⟨name, ?_, ?_, ?_, ?_, ?_⟩
    · rw [blames.wrappers_eq]
      rfl
    · simp [blames.wrappers_eq]
    · simp [blames.wrappers_eq]
    · simp [blames.wrappers_eq, blames.not_isRecursive, outside]
    · simpa [blames.root_eq, blames.not_isRecursive] using blames
  | @behind path name text sight cause outside known member _ ih =>
    obtain ⟨failing, leads, once, apart, circle, fails⟩ := ih
    -- What is inside of the wrapper is inside of all of them.
    have inside : (ComposeError.directive sight.kind sight.directive.reference name
        cause).isRecursive = cause.isRecursive := rfl
    refine ⟨failing, ⟨rfl, ⟨text, known, sight, member, rfl, rfl⟩, leads⟩, ?_, ?_, ?_, ?_⟩
    · rw [ComposeError.wrappers, List.map_cons, List.nodup_cons]
      exact ⟨fun again => apart name again (by simp), once⟩
    · rw [ComposeError.wrappers, List.map_cons, List.forall_mem_cons]
      exact ⟨outside, fun parent wrapped => mt (List.mem_append_left _) (apart parent wrapped)⟩
    · rw [inside, circle, ComposeError.wrappers, List.map_cons, List.append_assoc]
      rfl
    · exact fails

end Source

/-! ## Sources that do not change meanwhile -/

namespace Session

variable {s t u : Session} {kind : OutputKind} {name : String}

/-- From one session to a later one nothing disturbed the source. -/
def Steady (s t : Session) : Prop :=
  ∀ d ∈ s.disturbances, d ∈ t.disturbances ∨ ∀ c ∈ d.changes, c.keepsSource = true

/-- What a steady course of a session keeps: the source, and it can be taken apart. -/
structure Course (s t : Session) : Prop where
  fewer : ∀ d ∈ t.disturbances, d ∈ s.disturbances
  source : s.Steady t → t.source = s.source

theorem Steady.split (steady : s.Steady u) (first : s.Course t) (second : t.Course u) :
    s.Steady t ∧ t.Steady u :=
  ⟨fun d member => (steady d member).imp_left (second.fewer d),
    fun d member => steady d (first.fewer d member)⟩

theorem source_apply_of_keepsSource {c : Change} (keeps : c.keepsSource = true) (s : Session) :
    (s.apply c).source = s.source := by
  cases c with
  | store name bytes => cases keeps
  | erase name => cases keeps
  | become source => cases keeps
  | evict kind name => exact source_withShelf ..
  | invalidate kind name => exact source_withShelf ..
  | clear kind => exact source_withShelf ..

theorem source_foldl_apply {changes : List Change}
    (keep : ∀ c ∈ changes, c.keepsSource = true) (s : Session) :
    (changes.foldl apply s).source = s.source := by
  induction changes generalizing s with
  | nil => rfl
  | cons c rest ih =>
    obtain ⟨first, later⟩ := List.forall_mem_cons.1 keep
    rw [List.foldl_cons, ih later, source_apply_of_keepsSource first]

theorem course_read (s : Session) (name : String) : s.Course (s.read name).2 := by
  have pending : (s.read name).2.disturbances =
      s.disturbances.filter fun d => !d.due (⟨name, s.flight.path⟩ :: s.readings) := by
    rw [snd_read, disturbances_foldl_apply]
    rfl
  constructor
  · intro d member
    rw [pending] at member
    exact (List.mem_filter.1 member).1
  · intro steady
    rw [snd_read]
    refine source_foldl_apply ?_ (s.asked name)
    intro c happens
    obtain ⟨d, member, inside⟩ := List.mem_flatMap.1 happens
    obtain ⟨expected, due⟩ := List.mem_filter.1 member
    -- What was due is not expected any more, so it left the source alone.
    refine (steady d expected).resolve_left (fun left => ?_) c inside
    rw [pending, List.mem_filter] at left
    simp [due] at left

theorem kept_course (kind : OutputKind) : Kept kind Course where
  refl := fun s => ⟨fun _ => id, fun _ => rfl⟩
  trans := by
    intro s t u first second
    refine ⟨fun d member => first.fewer d (second.fewer d member), fun steady => ?_⟩
    obtain ⟨before, after⟩ := steady.split first second
    exact (second.source after).trans (first.source before)
  read := course_read
  commit := fun s name artifact dependencies =>
    ⟨by simp, fun _ => source_commit s kind name artifact dependencies⟩

theorem course_preprocess (kind : OutputKind) (room : Nat) (name : String) (s : Session) :
    s.Course (preprocess kind room name s).2 :=
  (kept_course kind).preprocess (fun _ _ _ course => ⟨course.fewer, course.source⟩) room name s

/-! ## Resolutions -/

/-- A halt of a resolution is a failure that is told by the source, if that did not change and there
was room for every name of it that is not in flight. -/
def Towers (name : String) (s : Session) (halt : Halt) (t : Session) (room : Nat) : Prop :=
  s.Steady t → unseen s.source s.flight.path < room →
    ∃ e, halt = .failed e ∧ s.source.Tower s.flight.path name e

/-- What is known while the directives of a text are followed. -/
structure Following (s : Session) (text : String) (rest : List Directive.Sighting) (t : Session) :
    Prop where
  course : s.Course t
  flight : t.flight = s.flight
  ahead : rest ⊆ Directive.met text

theorem Following.next {text : String} {sight : Directive.Sighting}
    {rest : List Directive.Sighting} (following : Following s text (sight :: rest) t)
    (course : t.Course u) (flight : u.flight = t.flight) : Following s text rest u where
  course := (kept_course .text).trans following.course course
  flight := flight.trans following.flight
  ahead := fun _ member => following.ahead (List.mem_cons_of_mem sight member)

theorem tower_loop (kind : OutputKind) {room : Nat} {text : String}
    (normal : Name.normalize name = name) (idle : s.flight.isActive name = false)
    (known : s.source.text? name = some text)
    (inside : ∀ name t, Name.normalize name = name →
      Ends (fun _ _ => True) (fun halt u => Towers name t halt u room)
        (preprocess kind room name t)) :
    Loop kind (preprocess kind room) name (fun rest _ t => Following (s.entering name) text rest t)
      (fun halt t => Towers name s halt t (room + 1)) where
  second := by
    intro sight rest d t following _ _ _ _
    have outside : name ∉ s.flight.path := by simpa [Flight.isActive] using idle
    exact ⟨_, rfl, .own outside ⟨rfl, Option.isSome_of_eq_some known⟩⟩
  repeated := fun following _ _ => following.next ((kept_course kind).refl _) rfl
  again := fun following _ _ _ => following.next ((kept_course kind).refl _) rfl
  kept := fun following _ _ _ _ _ => following.next ((kept_course kind).refl _) rfl
  visited := by
    intro sight rest d t following _ _ _
    have outside : name ∉ s.flight.path := by simpa [Flight.isActive] using idle
    have course := course_preprocess kind room sight.directive.name t
    have flight := flight_preprocess kind room sight.directive.name t
    refine ((inside sight.directive.name t sight.directive.normalize_name).and_snd
      (P := fun u => t.Course u ∧ u.flight = t.flight) ⟨course, flight⟩).imp ?_ ?_
    · rintro node u ⟨-, course, flight⟩
      exact following.next course flight
    · rintro halt u ⟨towers, course, -⟩ steady enough
      -- The source was the same when the directive was met, and one more name was in flight.
      obtain ⟨before, after⟩ := Steady.split (s := s.entering name) steady following.course course
      have source : t.source = s.source := following.course.source before
      have path : t.flight.path = s.flight.path ++ [name] := congrArg Flight.path following.flight
      have fewer := unseen_lt (Source.mem_names_of_text? normal known) outside
      obtain ⟨cause, rfl, tower⟩ := towers after (by rw [source, path]; omega)
      rw [source, path] at tower
      exact ⟨_, rfl, .behind outside known (following.ahead List.mem_cons_self) tower⟩

/-- Every failure of a resolution is a tower. -/
theorem preprocess_tower (kind : OutputKind) (room : Nat) (name : String) (s : Session)
    (normal : Name.normalize name = name) :
    Ends (fun _ _ => True) (fun halt t => Towers name s halt t room)
      (preprocess kind room name s) := by
  induction room generalizing name s with
  | zero =>
    intro _ enough
    omega
  | succ room ih =>
    refine preprocess_rule ?_ fun idle => ?_
    · intro active _ _
      exact ⟨_, rfl, .circle (by simpa [Flight.isActive] using active)⟩
    · have outside : name ∉ s.flight.path := by simpa [Flight.isActive] using idle
      refine build_rule ?_ fun text body => ?_
      · intro e unfit _ _
        exact ⟨e, rfl, .own outside (Source.blames_of_body unfit)⟩
      · have known := Source.text?_of_body body
        have start : Following (s.entering name) text (Directive.met text)
            ((s.entering name).read name).2 :=
          ⟨course_read _ name, ((s.entering name).beside_read name).flight, fun _ => id⟩
        have ends := follow_rule (tower_loop kind normal idle known
          fun name t normal => ih name t normal) (Directive.met text) (d := .empty) start
        refine (ends.and (ends_gathers ..)).imp ?_ fun _ _ ended => ended.1
        rintro draft t ⟨-, gathers⟩
        split
        · next e failed =>
          have reflects := gathers.reflects Draft.reflects_empty
          exact fun _ _ => ⟨e, rfl, .own outside (Source.blames_of_assemble known reflects failed)⟩
        · trivial

/-- A session has room for all names of its source. -/
theorem unseen_lt_room (s : Session) : unseen s.source [] < s.room := by
  have gains : ∀ (changes : List Change) (room : Nat),
      room ≤ changes.foldl (fun room c => room + c.gain) room := by
    intro changes
    induction changes with
    | nil => exact fun room => Nat.le_refl room
    | cons c rest ih => exact fun room => (Nat.le_add_right room c.gain).trans (ih _)
  have enough := gains (s.disturbances.flatMap (·.changes)) (s.source.capacity + 2)
  have bound := (unseen_le s.source []).trans (List.toFinset_card_le s.source.names)
  rw [Source.length_names] at bound
  rw [Session.room]
  omega

/-- While the source does not change, whatever is kept and whatever is given up meanwhile: every
failure is a failure in wrappers, and these lead from the template that is asked for, from parent to
parent, none of them twice, to the template that fails.  That is one of the parents exactly if the
failure inside is about a circle, and then it tells the name; any other failure inside is one of
that template by itself. -/
theorem resolve_points (s : Session) (kind : OutputKind) (spelling : String) (e : ComposeError)
    (steady : s.Steady (s.resolve kind spelling).2)
    (failed : (s.resolve kind spelling).1 = .error e) :
    e.root.wrapped e.wrappers = e ∧
      ∃ failing, s.source.Leads (Name.normalize spelling) e.wrappers failing ∧
        (e.wrappers.map (·.parent)).Nodup ∧
        (e.isRecursive = true ↔ failing ∈ e.wrappers.map (·.parent)) ∧
        if e.isRecursive then e.root = .recursive failing
        else s.source.Blames failing e.root := by
  have tower : s.source.Tower [] (Name.normalize spelling) e := by
    obtain ⟨node, -, eq⟩ | ⟨-, eq⟩ := s.resolve_cases kind spelling
    · rw [eq] at failed
      cases failed
    · have ends := preprocess_tower kind s.room (Name.normalize spelling)
        { s with flight := .empty } (Name.normalize_normalize spelling)
      rw [eq] at steady failed
      rcases result : preprocess kind s.room (Name.normalize spelling) { s with flight := .empty }
        with ⟨halt | node, t⟩
      · rw [result] at ends steady failed
        obtain ⟨cause, rfl, tower⟩ := ends steady s.unseen_lt_room
        cases failed
        exact tower
      · rw [result] at failed
        cases failed
  obtain ⟨failing, leads, once, -, circle, fails⟩ := tower.points
  exact ⟨e.wrapped_root, failing, leads, once, circle, fails⟩

/-- A page with a part whose layout is missing.  All that is kept is given up meanwhile. -/
theorem resolve_points_of_page :
    let s := start (.store [("page", "\x7b\x7b template \"@./part\" . \x7d\x7d".toUTF8),
      ("part", "\x7b\x7b layout \"@gone\" \x7d\x7d".toUTF8)]) .empty .enabled
      [⟨fun _ => true, [.clear .html]⟩]
    s.Steady (s.resolve .html "page/").2 ∧
      ∃ e, (s.resolve .html "page/").1 = .error e ∧ e.root.wrapped e.wrappers = e ∧
        ∃ failing, s.source.Leads (Name.normalize "page/") e.wrappers failing ∧
          (e.wrappers.map (·.parent)).Nodup ∧
          (e.isRecursive = true ↔ failing ∈ e.wrappers.map (·.parent)) ∧
          if e.isRecursive then e.root = .recursive failing
          else s.source.Blames failing e.root := by
  intro s
  have steady : s.Steady (s.resolve .html "page/").2 := by
    intro d member
    obtain rfl := List.mem_singleton.1 member
    exact .inr (by simp [Change.keepsSource])
  have fails : (s.resolve .html "page/").1.toBool = false := by decide +kernel
  cases failed : (s.resolve .html "page/").1 with
  | ok node =>
    rw [failed] at fails
    cases fails
  | error e => exact ⟨steady, e, rfl, resolve_points s .html "page/" e steady failed⟩

end Session

end Collage

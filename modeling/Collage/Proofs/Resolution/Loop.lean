import Mathlib.Data.List.Infix
import Collage.Proofs.Cache.Shelf
import Collage.Proofs.Directive.Course
import Collage.Proofs.Session.Frame
import Collage.Resolution

/-! # The loop of a resolution

To resolve a text is to take the directives of its course into a draft, one after the other
(`Session.gather_eq`).  From this come the rules by which a property is carried through a
resolution: `Session.follow_rule` through the directives of a text, `Session.build_rule` through
one template, and `Session.preprocess_of_idle` from one template to those it refers to.

`Session.Kept` is for the properties that hold whatever the outcome is, such as what is in flight.
-/

namespace Collage

namespace Draft

/-- Whether a directive still has to be resolved for the draft: no second layout and no reference
that is included already. -/
def Wants (d : Draft) (sight : Directive.Sighting) : Prop :=
  match sight.kind with
  | .layout => d.layout = none
  | .inclusion => d.includes sight.directive.reference = false

theorem wants_cases (d : Draft) (sight : Directive.Sighting) :
    (sight.kind = .layout ∧ d.layout.isSome = true) ∨
      (sight.kind = .inclusion ∧ d.includes sight.directive.reference = true) ∨ d.Wants sight := by
  unfold Wants
  cases sight.kind with
  | layout =>
    cases d.layout with
    | none => exact .inr (.inr rfl)
    | some node => exact .inl ⟨rfl, rfl⟩
  | inclusion =>
    cases d.includes sight.directive.reference with
    | true => exact .inr (.inl ⟨rfl, rfl⟩)
    | false => exact .inr (.inr rfl)

/-- The draft with a directive resolved. -/
def take (d : Draft) (sight : Directive.Sighting) (node : Node Artifact) : Draft :=
  match sight.kind with
  | .layout => d.withLayout node
  | .inclusion => d.withInclusion sight.directive.reference node

/-- The node that was resolved under a name. -/
def resolved? (d : Draft) (name : String) : Option (Node Artifact) :=
  d.dependencies.find? (·.name == name)

theorem mem_of_resolved? {d : Draft} {name : String} {node : Node Artifact}
    (found : d.resolved? name = some node) : node ∈ d.dependencies ∧ node.name = name :=
  ⟨List.mem_of_find?_eq_some found, by simpa using List.find?_some found⟩

theorem resolved?_eq_none_iff {d : Draft} {name : String} :
    d.resolved? name = none ↔ name ∉ d.dependencies.map (·.name) := by
  simp [resolved?]

@[simp] theorem dependencies_take (d : Draft) (sight : Directive.Sighting)
    (node : Node Artifact) :
    (d.take sight node).dependencies = addUnique d.dependencies node := by
  unfold take
  cases sight.kind <;> rfl

theorem mem_addUnique {nodes : List (Node Artifact)} {node m : Node Artifact} :
    m ∈ addUnique nodes node → m ∈ nodes ∨ m = node := by
  unfold addUnique
  split
  · exact .inl
  · intro member
    simpa using member

/-- What holds of the nodes of a draft and of one more node holds when that is taken in. -/
theorem forall_take {P : Node Artifact → Prop} {d : Draft} {node : Node Artifact}
    (all : ∀ n ∈ d.dependencies, P n) (one : P node) (sight : Directive.Sighting) :
    ∀ n ∈ (d.take sight node).dependencies, P n := by
  intro n member
  rw [dependencies_take] at member
  cases mem_addUnique member with
  | inl member => exact all n member
  | inr same =>
    obtain rfl := same
    exact one

theorem mem_take_of_new {d : Draft} {node : Node Artifact} (new : d.resolved? node.name = none)
    (sight : Directive.Sighting) : node ∈ (d.take sight node).dependencies := by
  have absent : ¬ d.dependencies.any (·.name == node.name) = true := by
    simpa [resolved?] using new
  simp [addUnique, absent]

theorem mem_addUnique_of_mem {nodes : List (Node Artifact)} {node m : Node Artifact}
    (member : m ∈ nodes) : m ∈ addUnique nodes node := by
  unfold addUnique
  split
  · exact member
  · exact List.mem_append_left _ member

theorem mem_names_addUnique {nodes : List (Node Artifact)} {node : Node Artifact} {name : String} :
    name ∈ (addUnique nodes node).map (·.name) ↔ name ∈ nodes.map (·.name) ∨ name = node.name := by
  unfold addUnique
  split
  · next known =>
    simp only [List.any_eq_true, beq_iff_eq] at known
    obtain ⟨m, member, same⟩ := known
    constructor
    · exact .inl
    · rintro (named | rfl)
      · exact named
      · exact same ▸ List.mem_map_of_mem member
  · simp

end Draft

namespace Session

variable (kind : OutputKind) (visit : Visit) (parent : String)

/-- Takes directives into a draft, one after the other. -/
def follow : List Directive.Sighting → Draft → Session → Outcome Draft × Session
  | [], draft, s => (.ok draft, s)
  | sight :: rest, draft, s =>
    match meet kind visit parent sight draft s with
    | (.error halt, s) => (.error halt, s)
    | (.ok draft, s) => follow rest draft s

variable {kind visit parent}

/-- A directive that still has to be resolved is taken in with the node it refers to. -/
theorem meet_of_wants {sight : Directive.Sighting} {draft : Draft} (wants : draft.Wants sight)
    (s : Session) :
    meet kind visit parent sight draft s =
      match dependency kind visit parent sight draft.dependencies s with
      | (.error halt, s) => (.error halt, s)
      | (.ok node, s) => (.ok (draft.take sight node), s) := by
  unfold Draft.Wants at wants
  unfold meet Draft.take
  -- What the dependency comes to is the same for both kinds, so it is told apart first.
  rcases dependency kind visit parent sight draft.dependencies s with ⟨halt | node, t⟩
  all_goals
    cases kindOf : sight.kind with
    | layout =>
      simp only [kindOf] at wants
      simp [wants]
    | inclusion =>
      simp only [kindOf] at wants
      simp [wants]

/-- After a directive was taken in, there is a layout if there was one or it is one. -/
theorem isSome_layout_of_meet {sight : Directive.Sighting} {draft draft' : Draft} {s t : Session}
    (met : meet kind visit parent sight draft s = (.ok draft', t)) :
    draft'.layout.isSome = (draft.layout.isSome || decide (sight.kind = .layout)) := by
  unfold meet at met
  cases kindOf : sight.kind with
  | layout =>
    simp only [kindOf] at met
    split at met
    · cases met
    · split at met
      · cases met
      · cases met
        simp [Draft.withLayout]
  | inclusion =>
    simp only [kindOf] at met
    split at met
    · cases met
      simp
    · split at met
      · cases met
      · cases met
        simp [Draft.withInclusion]

/-- To resolve a text from a place on is to take the directives of its course into the draft. -/
theorem gather_eq (before ahead : List Char) (draft : Draft) (s : Session) :
    gather kind visit parent before ahead draft s =
      match follow kind visit parent (Directive.course draft.layout.isSome before ahead) draft s with
      | (.error halt, t) => (.error halt, t)
      | (.ok draft', t) =>
        (.ok (draft', Directive.remainder draft.layout.isSome before ahead), t) := by
  rw [gather]
  split
  · next none =>
    rw [Directive.course_of_none none, Directive.remainder_of_none none]
    rfl
  · next sight found =>
    have shorter := Directive.length_next? found
    rw [Directive.course_of_some found, Directive.remainder_of_some found]
    by_cases second : draft.layout.isSome = true ∧ sight.kind = .layout
    · -- The walk ends at a second layout, for the loop as for the course.
      have refused : meet kind visit parent sight draft s =
          (.error (.failed (.duplicateLayout parent)), s) := by
        simp only [meet, second.2, if_pos second.1]
      simp only [if_pos second, follow, refused]
    · simp only [if_neg second, follow]
      cases taken : meet kind visit parent sight draft s with
      | mk outcome t =>
        cases outcome with
        | error halt => rfl
        | ok draft' =>
          -- The rest of the course was listed for the layout that the draft has by now.
          simp only [← isSome_layout_of_meet taken]
          exact gather_eq sight.onward sight.rest draft' t
termination_by ahead.length

/-! ## Postconditions -/

/-- `Ends good bad result`: a step of a resolution came to a value and a session that are `good`, or
stopped in a way that is `bad`. -/
def Ends {α : Type} (good : α → Session → Prop) (bad : Halt → Session → Prop) :
    Outcome α × Session → Prop
  | (.ok a, s) => good a s
  | (.error halt, s) => bad halt s

theorem Ends.imp {α : Type} {good good' : α → Session → Prop} {bad bad' : Halt → Session → Prop}
    {result : Outcome α × Session} (ends : Ends good bad result)
    (ok : ∀ a s, good a s → good' a s) (error : ∀ halt s, bad halt s → bad' halt s) :
    Ends good' bad' result := by
  rcases result with ⟨halt | a, s⟩
  · exact error halt s ends
  · exact ok a s ends

theorem Ends.of_ok {α : Type} {good : α → Session → Prop} {bad : Halt → Session → Prop}
    {result : Outcome α × Session} (ends : Ends good bad result) {a : α} (ok : result.1 = .ok a) :
    good a result.2 := by
  obtain ⟨outcome, s⟩ := result
  cases ok
  exact ends

theorem Ends.of_error {α : Type} {good : α → Session → Prop} {bad : Halt → Session → Prop}
    {result : Outcome α × Session} (ends : Ends good bad result) {halt : Halt}
    (error : result.1 = .error halt) : bad halt result.2 := by
  obtain ⟨outcome, s⟩ := result
  cases error
  exact ends

/-- What is said of the session alone does not depend on the outcome. -/
theorem ends_snd_iff {α : Type} {P : Session → Prop} {result : Outcome α × Session} :
    Ends (fun _ t => P t) (fun _ t => P t) result ↔ P result.2 := by
  rcases result with ⟨halt | a, s⟩ <;> exact Iff.rfl

theorem Ends.and {α : Type} {good good' : α → Session → Prop} {bad bad' : Halt → Session → Prop}
    {result : Outcome α × Session} (first : Ends good bad result) (second : Ends good' bad' result) :
    Ends (fun a s => good a s ∧ good' a s) (fun halt s => bad halt s ∧ bad' halt s) result := by
  rcases result with ⟨halt | a, s⟩ <;> exact ⟨first, second⟩

theorem Ends.and_snd {α : Type} {good : α → Session → Prop} {bad : Halt → Session → Prop}
    {P : Session → Prop} {result : Outcome α × Session} (ends : Ends good bad result)
    (holds : P result.2) :
    Ends (fun a s => good a s ∧ P s) (fun halt s => bad halt s ∧ P s) result :=
  ends.and (ends_snd_iff.2 holds)

/-! ## One directive -/

end Session

/-- A halt as a directive of `parent` reports it. -/
def Halt.within (parent : String) (sight : Directive.Sighting) : Halt → Halt
  | .failed cause => .failed (.directive sight.kind sight.directive.reference parent cause)
  | .outOfRoom => .outOfRoom

namespace Session

/-- A template has to be put together: its name is in flight, or it is not kept. -/
def Needs (s : Session) (kind : OutputKind) (name : String) : Prop :=
  s.flight.isActive name = true ∨ (s.shelf kind).get? name = none

theorem needs_or_kept (s : Session) (kind : OutputKind) (name : String) :
    s.Needs kind name ∨
      s.flight.isActive name = false ∧ ∃ node, (s.shelf kind).get? name = some node := by
  unfold Needs
  cases s.flight.isActive name with
  | true => exact .inl (.inl rfl)
  | false =>
    cases (s.shelf kind).get? name with
    | none => exact .inl (.inr rfl)
    | some node => exact .inr ⟨rfl, node, rfl⟩

/-- A name that has to be put together without being in flight is not kept. -/
theorem Needs.absent {s : Session} {kind : OutputKind} {name : String} (needed : s.Needs kind name)
    (idle : s.flight.isActive name = false) : (s.shelf kind).cache.contains name = false :=
  Cache.get?_eq_none_iff.1 (needed.resolve_left (by simp [idle]))

variable {kind : OutputKind} {visit : Visit} {parent : String}

/-- The rest of a walk, once the node of a directive is known. -/
def resume (kind : OutputKind) (visit : Visit) (parent : String) (sight : Directive.Sighting)
    (rest : List Directive.Sighting) (d : Draft) :
    Outcome (Node Artifact) × Session → Outcome Draft × Session
  | (.error halt, t) => (.error (halt.within parent sight), t)
  | (.ok node, t) => follow kind visit parent rest (d.take sight node) t

section

variable {sight : Directive.Sighting} {rest : List Directive.Sighting} {d : Draft} {s : Session}
  {node : Node Artifact}

theorem follow_of_second (layout : sight.kind = .layout) (second : d.layout.isSome = true) :
    follow kind visit parent (sight :: rest) d s =
      (.error (.failed (.duplicateLayout parent)), s) := by
  simp only [follow, meet, layout, if_pos second]

theorem follow_of_repeated (inclusion : sight.kind = .inclusion)
    (again : d.includes sight.directive.reference = true) :
    follow kind visit parent (sight :: rest) d s = follow kind visit parent rest d s := by
  simp only [follow, meet, inclusion, if_pos again]

theorem follow_of_resolved (wants : d.Wants sight)
    (found : d.resolved? sight.directive.name = some node) :
    follow kind visit parent (sight :: rest) d s =
      follow kind visit parent rest (d.take sight node) s := by
  rw [Draft.resolved?] at found
  simp only [follow, meet_of_wants wants, dependency, found]

theorem follow_of_kept (wants : d.Wants sight) (new : d.resolved? sight.directive.name = none)
    (idle : s.flight.isActive sight.directive.name = false)
    (kept : (s.shelf kind).get? sight.directive.name = some node) :
    follow kind visit parent (sight :: rest) d s =
      follow kind visit parent rest (d.take sight node) s := by
  rw [Draft.resolved?] at new
  simp only [follow, meet_of_wants wants, dependency, new, idle, Bool.false_eq_true, if_false, kept]

theorem follow_of_needed (wants : d.Wants sight) (new : d.resolved? sight.directive.name = none)
    (needed : s.Needs kind sight.directive.name) :
    follow kind visit parent (sight :: rest) d s =
      resume kind visit parent sight rest d (visit sight.directive.name s) := by
  rw [Draft.resolved?] at new
  have absent : (if s.flight.isActive sight.directive.name = true then none
      else (s.shelf kind).get? sight.directive.name) = none := by
    cases needed with
    | inl active => rw [if_pos active]
    | inr missing => rw [missing, ite_self]
  simp only [follow, meet_of_wants wants, dependency, new, absent]
  rcases visit sight.directive.name s with ⟨(cause | _) | node, t⟩ <;> rfl

end

/-! ## The directives of a text -/

/-- What has to be shown of each directive to carry an invariant through all of them.  The
invariant may speak of the directives that are still to come. -/
structure Loop (kind : OutputKind) (visit : Visit) (parent : String)
    (inv : List Directive.Sighting → Draft → Session → Prop) (bad : Halt → Session → Prop) :
    Prop where
  /-- A second layout is refused. -/
  second : ∀ {sight rest d s}, inv (sight :: rest) d s → sight.kind = .layout →
    d.layout.isSome = true → bad (.failed (.duplicateLayout parent)) s
  /-- A reference that is included already changes nothing. -/
  repeated : ∀ {sight rest d s}, inv (sight :: rest) d s → sight.kind = .inclusion →
    d.includes sight.directive.reference = true → inv rest d s
  /-- A template that was resolved under another spelling is used again. -/
  again : ∀ {sight rest d s}, inv (sight :: rest) d s → d.Wants sight →
    ∀ node, d.resolved? sight.directive.name = some node → inv rest (d.take sight node) s
  /-- A node that is kept is taken. -/
  kept : ∀ {sight rest d s}, inv (sight :: rest) d s → d.Wants sight →
    d.resolved? sight.directive.name = none →
    s.flight.isActive sight.directive.name = false →
    ∀ node, (s.shelf kind).get? sight.directive.name = some node → inv rest (d.take sight node) s
  /-- Any other template is put together. -/
  visited : ∀ {sight rest d s}, inv (sight :: rest) d s → d.Wants sight →
    d.resolved? sight.directive.name = none →
    s.Needs kind sight.directive.name →
    Ends (fun node t => inv rest (d.take sight node) t)
      (fun halt t => bad (halt.within parent sight) t) (visit sight.directive.name s)

variable {inv : List Directive.Sighting → Draft → Session → Prop} {bad : Halt → Session → Prop}

/-- What each directive keeps is kept by all of them. -/
theorem follow_rule (loop : Loop kind visit parent inv bad) (sights : List Directive.Sighting)
    {d : Draft} {s : Session} (holds : inv sights d s) :
    Ends (inv []) bad (follow kind visit parent sights d s) := by
  -- One case for each field of the loop, in their order.
  induction sights generalizing d s with
  | nil => exact holds
  | cons sight rest ih =>
    rcases d.wants_cases sight with ⟨layout, second⟩ | ⟨inclusion, again⟩ | wants
    · rw [follow_of_second layout second]
      exact loop.second holds layout second
    · rw [follow_of_repeated inclusion again]
      exact ih (loop.repeated holds inclusion again)
    · cases found : d.resolved? sight.directive.name with
      | some node =>
        rw [follow_of_resolved wants found]
        exact ih (loop.again holds wants node found)
      | none =>
        rcases s.needs_or_kept kind sight.directive.name with needed | ⟨idle, node, kept⟩
        · have ends := loop.visited holds wants found needed
          rw [follow_of_needed wants found needed]
          revert ends
          rcases visit sight.directive.name s with ⟨halt | node, t⟩
          · exact id
          · exact fun holds => ih holds
        · rw [follow_of_kept wants found idle kept]
          exact ih (loop.kept holds wants found idle node kept)

/-! ## One template -/

/-- What becomes of a text once its directives were taken into a draft. -/
def finish (kind : OutputKind) (name text : String) :
    Outcome Draft × Session → Outcome (Node Artifact) × Session
  | (.error halt, t) => (.error halt, t)
  | (.ok draft, t) =>
    match draft.assemble kind t.tools name (Directive.left text) with
    | .error e => (.error (.failed e), t)
    | .ok artifact =>
      (.ok (t.commit kind name artifact draft.dependencies).1,
        (t.commit kind name artifact draft.dependencies).2)

end Session

/-- The text of a template, where there is one and its bytes are text. -/
def Source.text? (source : Source) (name : String) : Option String :=
  match source.read name with
  | .error _ => none
  | .ok bytes => (Text.Utf8.decode bytes).toOption

/-- The text of a template that can be resolved, or what is wrong with it before any of its
directives is met. -/
def Source.body (source : Source) (name : String) : Except ComposeError String :=
  match source.read name with
  | .error e => .error (.io e)
  | .ok bytes =>
    match Text.Utf8.decode bytes with
    | .error defect => .error (.encoding name defect)
    | .ok text => if Session.asksTwice text then .error (.duplicateLayout name) else .ok text

theorem Source.text?_of_body {source : Source} {name text : String}
    (known : source.body name = .ok text) : source.text? name = some text := by
  unfold Source.body at known
  unfold Source.text?
  cases given : source.read name with
  | error e => simp [given] at known
  | ok bytes =>
    cases decoded : Text.Utf8.decode bytes with
    | error defect => simp [given, decoded] at known
    | ok other =>
      simp only [given, decoded] at known
      split at known
      · cases known
      · cases known
        simp [decoded, Except.toOption]

/-- A template that cannot be resolved cannot be read, is no text, or has two layouts. -/
theorem Source.error_of_body {source : Source} {name : String} {e : ComposeError}
    (unfit : source.body name = .error e) :
    (∃ cause, source.read name = .error cause ∧ e = .io cause) ∨
      (∃ bytes defect, source.read name = .ok bytes ∧ Text.Utf8.decode bytes = .error defect ∧
        e = .encoding name defect) ∨
      ((source.text? name).isSome = true ∧ e = .duplicateLayout name) := by
  unfold Source.body at unfit
  cases given : source.read name with
  | error cause =>
    simp only [given] at unfit
    cases unfit
    exact .inl ⟨cause, rfl, rfl⟩
  | ok bytes =>
    cases decoded : Text.Utf8.decode bytes with
    | error defect =>
      simp only [given, decoded] at unfit
      cases unfit
      exact .inr (.inl ⟨bytes, defect, rfl, decoded, rfl⟩)
    | ok text =>
      simp only [given, decoded] at unfit
      split at unfit
      · cases unfit
        exact .inr (.inr ⟨by simp [text?, given, decoded, Except.toOption], rfl⟩)
      · cases unfit

theorem Source.body_of_text? {source : Source} {name text : String}
    (known : source.text? name = some text) :
    source.body name =
      if Session.asksTwice text then .error (.duplicateLayout name) else .ok text := by
  unfold Source.text? at known
  unfold Source.body
  cases given : source.read name with
  | error e =>
    rw [given] at known
    cases known
  | ok bytes =>
    simp only [given] at known
    cases decoded : Text.Utf8.decode bytes with
    | error defect =>
      rw [decoded] at known
      cases known
    | ok other =>
      rw [decoded] at known
      cases known
      simp only [decoded]

namespace Session

variable {good : Node Artifact → Session → Prop} {name : String} {s : Session}

/-- To put a template together is to read it, to follow its directives, and to finish. -/
theorem build_eq (kind : OutputKind) (visit : Visit) (name : String) (s : Session) :
    build kind visit name s =
      match s.source.body name with
      | .error e => (.error (.failed e), (s.read name).2)
      | .ok text =>
        finish kind name text (follow kind visit name (Directive.met text) .empty (s.read name).2) := by
  -- A reading gives what the source had before anything disturbed.
  have split : s.read name = (s.source.read name, (s.read name).2) := rfl
  rw [build, split, Source.body]
  cases s.source.read name with
  | error e => rfl
  | ok bytes =>
    cases decoded : Text.Utf8.decode bytes with
    | error defect => simp only [decoded]
    | ok text =>
      cases asked : asksTwice text with
      | true => simp only [decoded, asked, if_true]
      | false =>
        simp only [decoded, asked, Bool.false_eq_true, if_false, gather_eq, Directive.met,
          Draft.empty, Option.isSome_none]
        rcases follow kind visit name (Directive.course false [] text.toList) ⟨none, [], []⟩
          (s.read name).2 with ⟨halt | draft, t⟩
        · rfl
        · cases assembled : draft.assemble kind t.tools name (Directive.left text) with
          | error e =>
            rw [Directive.left] at assembled
            simp only [finish, Directive.left, assembled]
          | ok artifact =>
            rw [Directive.left] at assembled
            simp only [finish, Directive.left, assembled]

/-- What has to be shown of one template to know what putting it together comes to. -/
theorem build_rule
    (unfit : ∀ e, s.source.body name = .error e → bad (.failed e) (s.read name).2)
    (walked : ∀ text, s.source.body name = .ok text →
      Ends
        (fun draft t =>
          match draft.assemble kind t.tools name (Directive.left text) with
          | .error e => bad (.failed e) t
          | .ok artifact => good (t.commit kind name artifact draft.dependencies).1
              (t.commit kind name artifact draft.dependencies).2)
        bad (follow kind visit name (Directive.met text) .empty (s.read name).2)) :
    Ends good bad (build kind visit name s) := by
  rw [build_eq]
  cases known : s.source.body name with
  | error e => exact unfit e known
  | ok text =>
    have ends := walked text known
    revert ends
    simp only
    rcases follow kind visit name (Directive.met text) .empty (s.read name).2 with ⟨halt | draft, t⟩
    · exact id
    · rw [finish]
      cases assembled : draft.assemble kind t.tools name (Directive.left text) with
      | error e => simp [Ends, assembled]
      | ok artifact => simp [Ends, assembled]

/-! ## What holds whatever the outcome is -/

/-- A relation between a session and a later one that each step of a resolution keeps. -/
structure Kept (kind : OutputKind) (R : Session → Session → Prop) : Prop where
  refl : ∀ s, R s s
  trans : ∀ {s t u}, R s t → R t u → R s u
  read : ∀ s name, R s (s.read name).2
  commit : ∀ s name artifact dependencies, R s (s.commit kind name artifact dependencies).2

variable {R : Session → Session → Prop}

theorem Kept.follow (kept : Kept kind R) (visits : ∀ name s, R s (visit name s).2)
    (parent : String) (sights : List Directive.Sighting) (d : Draft) (s : Session) :
    R s (Session.follow kind visit parent sights d s).2 := by
  have loop : Loop kind visit parent (fun _ _ t => R s t) (fun _ t => R s t) :=
    { second := fun holds _ _ => holds
      repeated := fun holds _ _ => holds
      again := fun holds _ _ _ => holds
      kept := fun holds _ _ _ _ _ => holds
      visited := by
        intro sight rest d t holds _ _ _
        exact ends_snd_iff.2 (kept.trans holds (visits sight.directive.name t)) }
  exact ends_snd_iff.1 (follow_rule loop sights (kept.refl s))

theorem Kept.build (kept : Kept kind R) (visits : ∀ name s, R s (visit name s).2) (name : String)
    (s : Session) : R s (Session.build kind visit name s).2 := by
  have ends : Ends (fun _ t => R s t) (fun _ t => R s t) (Session.build kind visit name s) := by
    refine build_rule ?_ ?_
    · exact fun _ _ => kept.read s name
    · intro text _
      have walked := kept.trans (kept.read s name)
        (kept.follow visits name (Directive.met text) .empty (s.read name).2)
      revert walked
      rcases Session.follow kind visit name (Directive.met text) .empty (s.read name).2 with
        ⟨halt | draft, t⟩
      · exact id
      · intro walked
        simp only [Ends]
        split
        · exact walked
        · exact kept.trans walked (kept.commit t name _ _)
  exact ends_snd_iff.1 ends

/-! ## From one template to the next -/

/-- The session with one more name in flight. -/
def entering (s : Session) (name : String) : Session :=
  { s with flight := ⟨s.flight.path ++ [name]⟩ }

theorem preprocess_of_active {room : Nat} (active : s.flight.isActive name = true) :
    preprocess kind (room + 1) name s = (.error (.failed (.recursive name)), s) := by
  simp [preprocess, Flight.enter?, active]

theorem leave_path (path : List String) (name : String) :
    (Flight.mk (path ++ [name])).leave name = ⟨path⟩ := by
  simp [Flight.leave]

/-- What is in flight after a template was put together is what was before. -/
theorem flight_preprocess (kind : OutputKind) (room : Nat) (name : String) (s : Session) :
    (preprocess kind room name s).2.flight = s.flight := by
  induction room generalizing name s with
  | zero => rfl
  | succ room ih =>
    cases active : s.flight.isActive name with
    | true => rw [preprocess_of_active active]
    | false =>
      have kept : Kept kind (fun s t => t.flight = s.flight) :=
        { refl := fun _ => rfl
          trans := fun first second => second.trans first
          read := fun s name => (s.beside_read name).flight
          commit := by simp }
      -- Inside, every name that enters leaves again, so the last one in flight is this one.
      have inside := kept.build ih name (s.entering name)
      simp only [preprocess, Flight.enter?, active, Bool.false_eq_true, if_false]
      change Flight.leave (Session.build kind (preprocess kind room) name (s.entering name)).2.flight
        name = s.flight
      rw [inside]
      exact leave_path s.flight.path name

/-- A name that is not in flight enters, its template is put together, and it leaves. -/
theorem preprocess_of_idle {room : Nat} (idle : s.flight.isActive name = false) :
    preprocess kind (room + 1) name s =
      ((build kind (preprocess kind room) name (s.entering name)).1,
        { (build kind (preprocess kind room) name (s.entering name)).2 with flight := s.flight }) := by
  -- What is in flight at the end is known, however it came about.
  have same := flight_preprocess kind (room + 1) name s
  have unfolded : preprocess kind (room + 1) name s =
      ((build kind (preprocess kind room) name (s.entering name)).1,
        { (build kind (preprocess kind room) name (s.entering name)).2 with
          flight := (build kind (preprocess kind room) name (s.entering name)).2.flight.leave
            name }) := by
    simp only [preprocess, Flight.enter?, idle, Bool.false_eq_true, if_false]
    rfl
  rw [unfolded] at same ⊢
  simp only at same
  rw [same]

/-- What has to be shown of a name that is in flight and of one that is not, to know what putting
its template together comes to. -/
theorem preprocess_rule {bad : Halt → Session → Prop} {room : Nat}
    (active : s.flight.isActive name = true → bad (.failed (.recursive name)) s)
    (idle : s.flight.isActive name = false →
      Ends (fun n t => good n { t with flight := s.flight })
        (fun halt t => bad halt { t with flight := s.flight })
        (build kind (preprocess kind room) name (s.entering name))) :
    Ends good bad (preprocess kind (room + 1) name s) := by
  cases known : s.flight.isActive name with
  | true =>
    rw [preprocess_of_active known]
    exact active known
  | false =>
    have ends := idle known
    rw [preprocess_of_idle known]
    revert ends
    rcases build kind (preprocess kind room) name (s.entering name) with ⟨halt | n, t⟩
    · exact id
    · exact id

/-- What each step keeps, and what does not depend on the flight, a whole resolution keeps. -/
theorem Kept.preprocess (kept : Kept kind R)
    (inside : ∀ s t flight, R { s with flight } t → R s { t with flight := s.flight })
    (room : Nat) (name : String) (s : Session) : R s (Session.preprocess kind room name s).2 := by
  induction room generalizing name s with
  | zero => exact kept.refl s
  | succ room ih =>
    cases active : s.flight.isActive name with
    | true =>
      rw [preprocess_of_active active]
      exact kept.refl s
    | false =>
      rw [preprocess_of_idle active]
      exact inside s _ _ (kept.build ih name (s.entering name))

end Session

end Collage

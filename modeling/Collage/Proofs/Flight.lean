import Collage.Flight.Register
import Collage.Proofs.Resolution.Walk

/-! # Flights as call stacks

A register changes its set and its path by separate operations, and names leave it in any order.
Still both hold the same names, the path each of them once and in the order in which they last
entered (`Flight.Register.sound_run`, `Flight.Register.pairwise_run`).  So the path is all that has
to be carried through a resolution (`Flight.Register.enter?_flight`), and a resolution leaves it as
it was (`Flight.Register.run_stack`).
-/

namespace Collage

namespace Flight

/-- One thing that is done to a register. -/
inductive Step where
  | enter (name : String)
  | leave (name : String)
  deriving DecidableEq, Repr

/-- The name that a step is about. -/
def Step.name : Step → String
  | .enter name | .leave name => name

namespace Register

/-- The register after a step; a name that cannot enter changes nothing. -/
def perform (r : Register) : Step → Register
  | .enter name => (r.enter name).2
  | .leave name => r.leave name

/-- The register after steps. -/
def run (r : Register) (steps : List Step) : Register := steps.foldl perform r

variable {r : Register} {name other : String} {steps : List Step} {step : Step} {place : Nat}

@[simp] theorem run_concat (r : Register) (steps : List Step) (step : Step) :
    r.run (steps ++ [step]) = (r.run steps).perform step := by
  simp [run]

theorem isActive_iff : r.isActive name = true ↔ name ∈ r.active := by
  simp [isActive]

theorem enter_of_active (active : r.isActive name = true) : r.enter name = (false, r) :=
  if_pos active

theorem enter_of_idle (idle : r.isActive name = false) :
    r.enter name = (true, ⟨name :: r.active, r.path ++ [name]⟩) :=
  if_neg (by simp [idle])

theorem enter_fst : (r.enter name).1 = !r.isActive name := by
  cases known : r.isActive name with
  | true => rw [enter_of_active known, Bool.not_true]
  | false => rw [enter_of_idle known, Bool.not_false]

/-! ## The set and the path -/

/-- The set and the path hold the same names, each of them once. -/
structure Sound (r : Register) : Prop where
  distinct : r.active.Nodup
  once : r.path.Nodup
  mem_path_iff : ∀ name, name ∈ r.path ↔ r.isActive name = true

theorem sound_empty : empty.Sound := ⟨.nil, .nil, by simp [empty, isActive]⟩

/-- The latest entry of a name is its only one. -/
theorem Sound.leave_eq (sound : r.Sound) (name : String) :
    r.leave name = ⟨r.active.filter (· != name), r.path.filter (· != name)⟩ := by
  cases known : r.isActive name with
  | true =>
    have latest : (r.path.reverse.erase name).reverse = r.path.filter (· != name) := by
      rw [(List.nodup_reverse.2 sound.once).erase_eq_filter, List.filter_reverse,
        List.reverse_reverse]
    rw [leave, if_pos known, latest, sound.distinct.erase_eq_filter]
  | false =>
    -- A name that is not there is left out of nothing.
    have absent : name ∉ r.active := by simp [← isActive_iff, known]
    have absent' : name ∉ r.path := by simp [sound.mem_path_iff, known]
    have kept : ∀ names : List String, name ∉ names → names.filter (· != name) = names := by
      intro names missing
      refine List.filter_eq_self.2 fun other member => ?_
      rw [bne_iff_ne]
      exact fun same => missing (same ▸ member)
    rw [leave, if_neg (by simp [known]), kept _ absent, kept _ absent']

theorem isActive_enter : (r.enter name).2.isActive other = (other == name || r.isActive other) := by
  cases known : r.isActive name with
  | true =>
    rw [enter_of_active known]
    by_cases same : other = name
    · simp [same, known]
    · simp [same]
  | false =>
    rw [enter_of_idle known, isActive, List.contains_cons]
    rfl

theorem Sound.isActive_leave (sound : r.Sound) :
    (r.leave name).isActive other = (other != name && r.isActive other) := by
  rw [sound.leave_eq, Bool.eq_iff_iff, isActive_iff, List.mem_filter, Bool.and_eq_true,
    isActive_iff, and_comm]

theorem Sound.enter (sound : r.Sound) (name : String) : (r.enter name).2.Sound := by
  cases known : r.isActive name with
  | true =>
    rw [enter_of_active known]
    exact sound
  | false =>
    have absent : name ∉ r.active := by simp [← isActive_iff, known]
    have absent' : name ∉ r.path := by simp [sound.mem_path_iff, known]
    have members : ∀ other, other ∈ r.path ++ [name] ↔ (r.enter name).2.isActive other = true := by
      intro other
      rw [isActive_enter, Bool.or_eq_true, beq_iff_eq, ← sound.mem_path_iff, List.mem_append,
        List.mem_singleton, or_comm]
    rw [enter_of_idle known] at members ⊢
    exact ⟨List.nodup_cons.2 ⟨absent, sound.distinct⟩,
      List.nodup_append.2 ⟨sound.once, List.nodup_singleton name, by
        rintro a inside b last rfl
        exact absent' (List.mem_singleton.1 last ▸ inside)⟩,
      members⟩

theorem Sound.leave (sound : r.Sound) (name : String) : (r.leave name).Sound := by
  have members : ∀ other, other ∈ r.path.filter (· != name) ↔
      (r.leave name).isActive other = true := by
    intro other
    rw [sound.isActive_leave, Bool.and_eq_true, ← sound.mem_path_iff, List.mem_filter, and_comm]
  rw [sound.leave_eq] at members ⊢
  exact ⟨sound.distinct.filter _, sound.once.filter _, members⟩

theorem Sound.perform (sound : r.Sound) (step : Step) : (r.perform step).Sound := by
  cases step with
  | enter name => exact sound.enter name
  | leave name => exact sound.leave name

theorem sound_run (steps : List Step) : (empty.run steps).Sound := by
  induction steps using List.reverseRecOn with
  | nil => exact sound_empty
  | append_singleton steps step ih =>
    rw [run_concat]
    exact ih.perform step

/-- A name is in flight if the last that was done with it is that it entered. -/
theorem isActive_run_iff (steps : List Step) (name : String) :
    (empty.run steps).isActive name = true ↔
      (steps.filter (·.name = name)).getLast? = some (.enter name) := by
  induction steps using List.reverseRecOn with
  | nil => simp [run, empty, isActive]
  | append_singleton steps step ih =>
    rw [run_concat, List.filter_append]
    by_cases about : step.name = name
    · -- Whatever was done with the name before does not count any more.
      rw [List.filter_cons_of_pos (by simpa using about), List.filter_nil, List.getLast?_concat]
      cases step with
      | enter entered =>
        obtain rfl : entered = name := about
        simp [Register.perform, isActive_enter]
      | leave left =>
        obtain rfl : left = name := about
        simp [Register.perform, (sound_run steps).isActive_leave]
    · rw [List.filter_cons_of_neg (by simpa using about), List.filter_nil, List.append_nil, ← ih]
      cases step with
      | enter entered =>
        have other : ¬ name = entered := fun same => about same.symm
        simp [Register.perform, isActive_enter, other]
      | leave left =>
        have other : ¬ name = left := fun same => about same.symm
        simp [Register.perform, (sound_run steps).isActive_leave, other]

/-! ## The order of the path -/

/-- At a place of the steps a name enters that was not in flight. -/
def EntersAt (steps : List Step) (place : Nat) (name : String) : Prop :=
  steps[place]? = some (.enter name) ∧ ((empty.run (steps.take place)).enter name).1 = true

/-- The last place of the steps at which a name enters that was not in flight. -/
def LastEntersAt (steps : List Step) (place : Nat) (name : String) : Prop :=
  EntersAt steps place name ∧ ∀ later, EntersAt steps later name → later ≤ place

theorem EntersAt.lt (enters : EntersAt steps place name) : place < steps.length :=
  (List.getElem?_eq_some_iff.1 enters.1).1

theorem entersAt_concat : EntersAt (steps ++ [step]) place name ↔
    EntersAt steps place name ∨
      place = steps.length ∧ step = .enter name ∧ ((empty.run steps).enter name).1 = true := by
  unfold EntersAt
  rcases Nat.lt_trichotomy place steps.length with before | rfl | behind
  · rw [List.getElem?_append_left before, List.take_append_of_le_length (Nat.le_of_lt before)]
    simp [Nat.ne_of_lt before]
  · simp
  · have beyond : (steps ++ [step])[place]? = none := by
      rw [List.getElem?_eq_none_iff, List.length_append, List.length_singleton]
      exact behind
    have beyond' : steps[place]? = none := List.getElem?_eq_none_iff.2 (Nat.le_of_lt behind)
    simp [beyond, beyond', Nat.ne_of_gt behind]

/-- A further step at which a name does not enter leaves its last place alone. -/
theorem lastEntersAt_concat
    (none : ¬ (step = .enter name ∧ ((empty.run steps).enter name).1 = true)) :
    LastEntersAt (steps ++ [step]) place name ↔ LastEntersAt steps place name := by
  simp only [LastEntersAt, entersAt_concat, none, and_false, or_false]

/-- A name that enters now has entered last now. -/
theorem lastEntersAt_entered (could : ((empty.run steps).enter name).1 = true) :
    LastEntersAt (steps ++ [.enter name]) place name ↔ place = steps.length := by
  simp only [LastEntersAt, entersAt_concat, could, and_true]
  constructor
  · rintro ⟨enters, last⟩
    have here := last steps.length (.inr rfl)
    rcases enters with earlier | now
    · have := earlier.lt
      omega
    · exact now
  · rintro rfl
    refine ⟨.inr rfl, ?_⟩
    rintro later (earlier | now)
    · exact Nat.le_of_lt earlier.lt
    · exact Nat.le_of_eq now

/-- The names of a path stand in the order of the places at which they entered last. -/
structure InOrder (steps : List Step) (path : List String) : Prop where
  entered : ∀ name ∈ path, ∃ place, LastEntersAt steps place name
  sorted : path.Pairwise fun first second => ∀ i j,
    LastEntersAt steps i first → LastEntersAt steps j second → i < j

/-- A further step at which none of the names enters leaves their order alone. -/
theorem InOrder.onward {path : List String} (inOrder : InOrder steps path)
    (none : ∀ name ∈ path, ¬ (step = .enter name ∧ ((empty.run steps).enter name).1 = true)) :
    InOrder (steps ++ [step]) path where
  entered := by
    intro name member
    obtain ⟨place, last⟩ := inOrder.entered name member
    exact ⟨place, (lastEntersAt_concat (none name member)).2 last⟩
  sorted := by
    refine inOrder.sorted.imp_of_mem ?_
    intro first second member member' ordered i j last last'
    exact ordered i j ((lastEntersAt_concat (none first member)).1 last)
      ((lastEntersAt_concat (none second member')).1 last')

theorem InOrder.sublist {path shorter : List String} (inOrder : InOrder steps path)
    (part : shorter.Sublist path) : InOrder steps shorter :=
  ⟨fun name member => inOrder.entered name (part.subset member), inOrder.sorted.sublist part⟩

/-- A name that enters comes last. -/
theorem InOrder.enter {path : List String} (inOrder : InOrder steps path) (outside : name ∉ path)
    (could : ((empty.run steps).enter name).1 = true) :
    InOrder (steps ++ [.enter name]) (path ++ [name]) := by
  have others : ∀ other ∈ path, ¬ (Step.enter name = .enter other ∧
      ((empty.run steps).enter other).1 = true) := by
    rintro other member ⟨same, -⟩
    exact outside (Step.enter.inj same ▸ member)
  have onward := inOrder.onward others
  refine ⟨?_, List.pairwise_append.2 ⟨onward.sorted, List.pairwise_singleton _ _, ?_⟩⟩
  · intro other member
    rcases List.mem_append.1 member with member | last
    · exact onward.entered other member
    · obtain rfl := List.mem_singleton.1 last
      exact ⟨steps.length, (lastEntersAt_entered could).2 rfl⟩
  · intro first member second last i j enters enters'
    obtain rfl := List.mem_singleton.1 last
    rw [(lastEntersAt_entered could).1 enters']
    exact ((lastEntersAt_concat (others first member)).1 enters).1.lt

theorem inOrder_run (steps : List Step) : InOrder steps (empty.run steps).path := by
  induction steps using List.reverseRecOn with
  | nil => exact ⟨by simp [run, empty], .nil⟩
  | append_singleton steps step ih =>
    have sound := sound_run steps
    rw [run_concat]
    cases step with
    | enter name =>
      cases known : (empty.run steps).isActive name with
      | true =>
        rw [perform, enter_of_active known]
        refine ih.onward ?_
        rintro other - ⟨same, could⟩
        rw [← Step.enter.inj same, enter_fst, known] at could
        cases could
      | false =>
        have outside : name ∉ (empty.run steps).path := by simp [sound.mem_path_iff, known]
        rw [perform, enter_of_idle known]
        exact ih.enter outside (by rw [enter_fst, known]; rfl)
    | leave name =>
      rw [perform, sound.leave_eq]
      refine (ih.sublist List.filter_sublist).onward ?_
      rintro other - ⟨same, -⟩
      cases same

/-! ## The path alone -/

/-- For a resolution a register is its path: that tells which names are in flight, and changes as
the register does. -/
theorem Sound.isActive_flight (sound : r.Sound) (name : String) :
    r.flight.isActive name = r.isActive name := by
  rw [Bool.eq_iff_iff, ← sound.mem_path_iff, Flight.isActive, List.contains_iff_mem, flight]

theorem Sound.enter?_flight (sound : r.Sound) (name : String) :
    r.flight.enter? name = if (r.enter name).1 then some (r.enter name).2.flight else none := by
  rw [enter?, sound.isActive_flight]
  cases known : r.isActive name with
  | true => simp [enter_of_active known]
  | false => simp [enter_of_idle known, flight]

theorem Sound.leave_flight (sound : r.Sound) (name : String) :
    r.flight.leave name = (r.leave name).flight := by
  rw [sound.leave_eq, Flight.leave, flight, (List.nodup_reverse.2 sound.once).erase_eq_filter,
    List.filter_reverse, List.reverse_reverse, flight]

end Register

end Flight

/-! ## Resolutions -/

namespace Session

variable {kind : OutputKind} {visit : Visit} {room : Nat} {name : String} {s : Session}

/-- What fails below a template is reported with the directive that leads to it, so the template
itself is never what refers back. -/
theorem build_ne_recursive (kind : OutputKind) (visit : Visit) (name : String) (s : Session) :
    Ends (fun _ _ => True) (fun halt _ => ∀ c, halt ≠ .failed (.recursive c))
      (build kind visit name s) := by
  have loop : Loop kind visit name (fun _ _ _ => True)
      (fun halt _ => ∀ c, halt ≠ .failed (.recursive c)) :=
    { second := fun _ _ _ => nofun
      repeated := fun _ _ _ => trivial
      again := fun _ _ _ _ => trivial
      kept := fun _ _ _ _ _ _ => trivial
      visited := by
        intro sight rest d s _ _ _ _
        rcases visit sight.directive.name s with ⟨(cause | _) | node, t⟩
        · exact nofun
        · exact nofun
        · trivial }
  refine build_rule ?_ ?_
  · intro e unfit c same
    obtain rfl : e = .recursive c := Halt.failed.inj same
    rcases Source.error_of_body unfit with ⟨_, _, other⟩ | ⟨_, _, _, _, other⟩ | ⟨_, other⟩
    all_goals cases other
  · intro text _
    refine (follow_rule loop (Directive.met text) trivial).imp ?_ fun _ _ => id
    intro draft t _
    split
    · next e failed =>
      intro c same
      obtain rfl : e = .recursive c := Halt.failed.inj same
      rcases Draft.error_of_assemble failed with ⟨_, _, other⟩ | ⟨_, other⟩
      all_goals cases other
    · trivial

/-- That a template itself refers back is reported just if it is in flight. -/
theorem preprocess_recursive_iff :
    (∃ c, (preprocess kind (room + 1) name s).1 = .error (.failed (.recursive c))) ↔
      s.flight.isActive name = true := by
  constructor
  · rintro ⟨c, failed⟩
    by_contra idle
    rw [Bool.not_eq_true] at idle
    rw [preprocess_of_idle idle] at failed
    exact (build_ne_recursive kind _ name _).of_error failed c rfl
  · intro active
    exact ⟨name, by rw [preprocess_of_active active]⟩

end Session

open Session (preprocess)

/-- After any steps the path of a register holds each name that is in flight once, and no others,
in the order in which they entered last; in flight is what entered and was not taken out since.  A
name can enter just if it is not in flight, and if it cannot, nothing changes.

A resolution that begins there, whatever is read and kept meanwhile, knows of the register what it
needs, and leaves what is in flight as it was, whatever it comes to.  Only for a name in flight it
fails because that name itself refers back; then nothing else has changed either. -/
theorem Flight.Register.run_stack (steps : List Flight.Step) :
    let r := empty.run steps
    (r.path.Nodup ∧ (∀ name, name ∈ r.path ↔ r.isActive name = true)) ∧
    InOrder steps r.path ∧
    (∀ name, r.isActive name = true ↔
      (steps.filter (·.name = name)).getLast? = some (.enter name)) ∧
    (∀ name, ((r.enter name).1 = false ↔ r.isActive name = true) ∧
      (r.isActive name = true → (r.enter name).2 = r)) ∧
    (∀ name, r.flight.isActive name = r.isActive name ∧
      r.flight.enter? name = (if (r.enter name).1 then some (r.enter name).2.flight else none) ∧
      r.flight.leave name = (r.leave name).flight) ∧
    ∀ kind room name (s : Session), s.flight = r.flight →
      (preprocess kind room name s).2.flight = r.flight ∧
      ((∃ c, (preprocess kind (room + 1) name s).1 = .error (.failed (.recursive c))) ↔
        r.isActive name = true) ∧
      (r.isActive name = true →
        preprocess kind (room + 1) name s = (.error (.failed (.recursive name)), s)) := by
  intro r
  have sound : r.Sound := sound_run steps
  refine ⟨⟨sound.once, sound.mem_path_iff⟩, inOrder_run steps, isActive_run_iff steps, ?_, ?_, ?_⟩
  · intro name
    refine ⟨by rw [enter_fst, Bool.not_eq_false'], fun active => ?_⟩
    rw [enter_of_active active]
  · exact fun name =>
      ⟨sound.isActive_flight name, sound.enter?_flight name, sound.leave_flight name⟩
  · intro kind room name s same
    have active : s.flight.isActive name = r.isActive name := by
      rw [same, sound.isActive_flight]
    refine ⟨(Session.flight_preprocess kind room name s).trans same, ?_, fun inFlight => ?_⟩
    · rw [Session.preprocess_recursive_iff, active]
    · exact Session.preprocess_of_active (active.trans inFlight)

end Collage

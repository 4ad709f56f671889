import Collage.Proofs.Resolution.Loop
import Collage.Proofs.Source.Containment

/-! # The names that a source has texts for

`Source.names` lists the normal names that a source may have texts for; there are as many as its
capacity tells.  In a store these are its keys, and a reader tells them.  Below a root directory a
name is read from the place that its segments lead to, or from the index file there, so the place
tells the name (`Source.mem_names_of_text?`).
-/

namespace Collage

/-! ## Places of files -/

namespace Files

theorem step_of_plain {segment : String} (isPlain : Name.IsPlain segment.toList)
    (place : List String) : step place segment = place ++ [segment] := by
  have nonempty : segment ≠ "" := fun same => isPlain.nonempty (by rw [same]; rfl)
  have here : segment ≠ "." := fun same => isPlain.ne_here (by rw [same]; rfl)
  have up : segment ≠ ".." := fun same => isPlain.ne_up (by rw [same]; rfl)
  simp [step, nonempty, here, up]

theorem steps_slash (path : String) {segment : String} (slash : '/' ∉ segment.toList) :
    steps (path ++ "/" ++ segment) = steps path ++ [segment] := by
  rw [steps, Path.splitOn_slash, List.splitOn_eq_singleton slash, List.map_append, steps]
  simp

theorem origin_slash (path segment : String) :
    origin (path ++ "/" ++ segment) = origin (path ++ "/") := by
  rw [origin, origin, Path.isAbsolute_slash]

/-- What stands behind a slash leads one step further. -/
theorem placeOf_slash (path : String) {segment : String} (slash : '/' ∉ segment.toList) :
    placeOf (path ++ "/" ++ segment) = step (placeOf (path ++ "/")) segment := by
  have bare : steps (path ++ "/") = steps path ++ [""] := by
    simpa using steps_slash path (by simp : '/' ∉ ("" : String).toList)
  rw [placeOf, placeOf, steps_slash path slash, bare, origin_slash, List.foldl_append,
    List.foldl_append]
  simp [step]

/-- A slash at the end of a path leads nowhere else. -/
theorem placeOf_closed {path : String} (nonempty : path ≠ "") :
    placeOf (path ++ "/") = placeOf path := by
  have bare : steps (path ++ "/") = steps path ++ [""] := by
    simpa using steps_slash path (by simp : '/' ∉ ("" : String).toList)
  have origin : origin (path ++ "/") = origin path := by
    rw [Files.origin, Files.origin, Path.isAbsolute_closed nonempty]
  rw [placeOf, placeOf, bare, origin, List.foldl_append]
  simp [step]

theorem placeOf_push {path segment : String} (isPlain : Name.IsPlain segment.toList) :
    placeOf (Path.push path segment) = placeOf path ++ [segment] := by
  rw [← step_of_plain isPlain]
  rcases Path.push_cases isPlain path with ⟨rfl, pushed⟩ | ⟨front, pushed, rfl | ⟨rfl, nonempty⟩⟩
  · have alone : steps segment = [segment] := by
      rw [steps, List.splitOn_eq_singleton isPlain.slash]
      simp
    rw [pushed, placeOf, alone, origin, Path.isAbsolute_of_isPlain isPlain]
    rfl
  · rw [pushed, placeOf_slash front isPlain.slash]
  · rw [pushed, placeOf_slash path isPlain.slash, placeOf_closed nonempty]

theorem placeOf_foldl_push {path : String} {names : List String}
    (plains : ∀ segment ∈ names, Name.IsPlain segment.toList) :
    placeOf (names.foldl Path.push path) = placeOf path ++ names := by
  induction names generalizing path with
  | nil => simp
  | cons first rest ih =>
    obtain ⟨plain, plains⟩ := List.forall_mem_cons.1 plains
    rw [List.foldl_cons, ih plains, placeOf_push plain]
    simp

end Files

/-! ## Places of names -/

/-- A name that does not lead out of the root is found where its segments lead to from there. -/
theorem Path.placeOf_under? {root name path : String} (found : under? root name = some path) :
    Files.placeOf path = Files.placeOf root ++ Name.segments name := by
  obtain ⟨rfl, plains⟩ := of_under? found
  exact Files.placeOf_foldl_push plains

namespace Source

variable {source : Source} {name text : String}

/-- A name below a root is read from the place of its segments, or from the index file there. -/
theorem place_of_readBelow {disk : Disk} {root : String} {bytes : ByteArray}
    (given : readBelow disk.toFileSystem root name = .ok bytes) :
    Files.placeOf root ++ Name.segments name ∈ disk.places ∨
      Files.placeOf root ++ Name.segments name ++ [indexFile] ∈ disk.places := by
  rw [readBelow] at given
  cases found : pathFor disk.toFileSystem root name with
  | error e =>
    rw [found] at given
    cases given
  | ok path =>
    rw [found] at given
    have stored : Files.placeOf path ∈ disk.places := disk.place_of_read given
    rw [pathFor] at found
    cases below : Path.under? root name with
    | none =>
      rw [below] at found
      cases found
    | some path' =>
      rw [below] at found
      simp only at found
      split at found
      · cases found
        rw [Files.placeOf_push isPlain_indexFile, Path.placeOf_under? below] at stored
        exact .inr stored
      · cases found
        rw [Path.placeOf_under? below] at stored
        exact .inl stored

/-- The normal name that segments are those of. -/
def nameAt (segments : List String) : String :=
  String.ofList (Name.join (segments.map String.toList))

theorem nameAt_segments (normal : Name.normalize name = name) :
    nameAt (Name.segments name) = name := by
  have same : (Name.segments name).map String.toList = Name.segmentsOf name.toList := by
    simp [Name.segments, Function.comp_def]
  rw [nameAt, same]
  exact normal

/-- The normal names that may have a text. -/
def names : Source → List String
  | store templates => Sorted.keys templates
  | folder disk root =>
    disk.places.flatMap fun place =>
      let below := place.drop (Files.placeOf root).length
      [nameAt below, nameAt below.dropLast]
  | reader r => r.names

theorem length_names (source : Source) : source.names.length = source.capacity := by
  cases source with
  | store templates => simp [names, capacity, Sorted.keys]
  | folder disk root => simp [names, capacity, List.length_flatMap, Nat.mul_comm]
  | reader r => rfl

theorem lookup_of_text? {templates : List (String × ByteArray)}
    (given : (store templates).text? name = some text) :
    ∃ bytes, templates.lookup (Name.normalize name) = some bytes := by
  unfold text? read at given
  cases found : templates.lookup (Name.normalize name) with
  | some bytes => exact ⟨bytes, rfl⟩
  | none => simp [found] at given

/-- What has a text is stored under its normal name. -/
theorem mem_keys_of_text? {templates : List (String × ByteArray)}
    (given : (store templates).text? name = some text) :
    Name.normalize name ∈ Sorted.keys templates := by
  obtain ⟨bytes, found⟩ := lookup_of_text? given
  rw [List.lookup_eq_some_iff] at found
  obtain ⟨before, after, rfl, -⟩ := found
  simp [Sorted.keys]

/-- A normal name that has a text is one of the names. -/
theorem mem_names_of_text? (normal : Name.normalize name = name)
    (given : source.text? name = some text) : name ∈ source.names := by
  cases source with
  | store templates => exact normal ▸ mem_keys_of_text? given
  | folder disk root =>
    cases given' : readBelow disk.toFileSystem root name with
    | error e => simp [text?, read, given'] at given
    | ok bytes =>
      have same := nameAt_segments normal
      rw [names, List.mem_flatMap]
      cases place_of_readBelow given' with
      | inl stored => exact ⟨_, stored, by simp [same]⟩
      | inr stored => exact ⟨_, stored, by simp [same]⟩
  | reader r =>
    cases given' : r.read name with
    | error e => simp [text?, read, given'] at given
    | ok bytes => exact r.mem_names normal given'

end Source

end Collage

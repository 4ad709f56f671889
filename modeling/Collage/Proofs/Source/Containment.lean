import Collage.Proofs.Name.Normal
import Collage.Source

/-! # No name leaves the root

A file system reads a path as components (`Path.components`).  Below a root a template name adds the
segments of its normal form to the components of the root, each as a plain name, and a name whose
normal form begins with `..` is refused (`Path.under?_eq`).  Whether the segments are taken from the
name or read off as the components of its normal form makes no difference (`Path.under?_eq_along`).
So whatever file is read for a name, the root is a prefix of its path (`Source.pathFor_below`).
-/

namespace Collage

/-! ## Normal names that lead up -/

namespace Name

variable {name : String} {pieces : List (List Char)}

/-- Segments that lead up are at the front. -/
theorem IsNormal.up_mem_iff (normal : IsNormal pieces) :
    up ∈ pieces ↔ pieces.head? = some up := by
  obtain ⟨ups, plain, rfl, plains⟩ := normal
  cases ups with
  | zero =>
    have absent : up ∉ plain := fun member => (plains up member).ne_up rfl
    exact ⟨fun member => absurd member absent,
      fun head => absurd (List.mem_of_mem_head? head) absent⟩
  | succ ups => simp [List.replicate_succ]

theorem IsNormal.isPlain (normal : IsNormal pieces) (low : up ∉ pieces) :
    ∀ segment ∈ pieces, IsPlain segment := by
  obtain ⟨ups, plain, rfl, plains⟩ := normal
  obtain rfl : ups = 0 := by
    by_contra leads
    exact low (List.mem_append_left _ (List.mem_replicate.2 ⟨leads, rfl⟩))
  simpa using plains

/-- None of the segments is empty or a point. -/
theorem IsNormal.speaks (normal : IsNormal pieces) :
    ∀ segment ∈ pieces, Path.isIdle segment = false := by
  obtain ⟨ups, plain, rfl, plains⟩ := normal
  intro segment member
  rcases List.mem_append.1 member with leads | inside
  · rw [List.eq_of_mem_replicate leads]
    decide
  · simp [Path.isIdle, (plains segment inside).nonempty, (plains segment inside).ne_here]

theorem up_mem_segments_iff : ".." ∈ segments name ↔ up ∈ segmentsOf name.toList := by
  have same : ".." = String.ofList up := rfl
  simp [segments, same, String.ofList_inj]

theorem isPlain_of_mem_segments (low : ".." ∉ segments name) {segment : String}
    (member : segment ∈ segments name) : IsPlain segment.toList := by
  obtain ⟨chars, inside, rfl⟩ := List.mem_map.1 member
  rw [String.toList_ofList]
  exact (isNormal_segmentsOf name.toList).isPlain (mt up_mem_segments_iff.2 low) chars inside

/-- The normal form cut at its slashes again. -/
theorem steps_normalize (name : String) :
    Files.steps (normalize name) = if segments name = [] then ["."] else segments name := by
  rw [Files.steps, normalize, String.toList_ofList, join]
  by_cases none : segmentsOf name.toList = []
  · rw [if_pos none, if_pos (by rw [segments, none, List.map_nil])]
    decide
  · rw [if_neg none, if_neg (by simpa [segments] using none), List.splitOn_intercalate '/'
      (fun segment member => ((isNormal_segmentsOf name.toList).mem member).2.1) none]
    rfl

/-- The segments of a name are those that its normal form is written with; a lone point is none. -/
theorem filter_steps_normalize (name : String) :
    (Files.steps (normalize name)).filter (· ≠ ".") = segments name := by
  rw [steps_normalize]
  split
  · next none =>
    rw [none]
    decide
  · refine List.filter_eq_self.2 fun segment member => ?_
    obtain ⟨chars, inside, rfl⟩ := List.mem_map.1 member
    have here : "." = String.ofList ['.'] := rfl
    have speaks := (isNormal_segmentsOf name.toList).speaks chars inside
    rw [here, decide_eq_true_iff, ne_eq, String.ofList_inj]
    rintro rfl
    cases speaks

end Name

namespace Path

/-! ## Components -/

/-- What one part of a path says: the top of the file system, the point that a relative path begins
with, the directory above, or a name. -/
inductive Component where
  | root
  | here
  | up
  | name (segment : String)
  deriving DecidableEq, Repr

def Component.ofSegment (segment : List Char) : Component :=
  if segment = Name.up then up else name (String.ofList segment)

/-- The components of the segments between slashes.  Empty segments and points say nothing. -/
def named (segments : List (List Char)) : List Component :=
  (segments.filter fun segment => !isIdle segment).map Component.ofSegment

/-- The component that a path begins with where it does not begin with a name. -/
def beginning (path : String) : List Component :=
  if isAbsolute path then [.root]
  else if (path.toList.splitOn '/').head? = some ['.'] then [.here]
  else []

def components (path : String) : List Component :=
  beginning path ++ named (path.toList.splitOn '/')

/-- A path followed down through components: names lead down and a point stays.  The others lead
away from it, which gives none. -/
def descendAlong? (path : String) : List Component → Option String
  | [] => some path
  | .name segment :: rest => descendAlong? (push path segment) rest
  | .here :: rest => descendAlong? path rest
  | .root :: _ => none
  | .up :: _ => none

variable {root name path segment : String} {names : List String}

theorem named_append (front rest : List (List Char)) :
    named (front ++ rest) = named front ++ named rest := by
  simp [named]

theorem named_nil_segment : named [[]] = [] := rfl

theorem named_of_isPlain {segment : List Char} (plain : Name.IsPlain segment) :
    named [segment] = [.name (String.ofList segment)] := by
  simp [named, isIdle, Component.ofSegment, plain.nonempty, plain.ne_here, plain.ne_up]

/-! ## A plain name at the end of a path -/

theorem isAbsolute_of_isPlain (plain : Name.IsPlain segment.toList) :
    isAbsolute segment = false :=
  decide_eq_false fun head => plain.slash (List.mem_of_mem_head? head)

theorem components_of_isPlain (plain : Name.IsPlain segment.toList) :
    components segment = [.name segment] := by
  have alone : segment.toList.splitOn '/' = [segment.toList] :=
    List.splitOn_eq_singleton plain.slash
  have begins : beginning segment = [] := by
    simp [beginning, isAbsolute_of_isPlain plain, alone, plain.ne_here]
  rw [components, begins, alone, named_of_isPlain plain, String.ofList_toList, List.nil_append]

theorem splitOn_slash (path more : String) :
    (path ++ "/" ++ more).toList.splitOn '/' =
      path.toList.splitOn '/' ++ more.toList.splitOn '/' := by
  have text : (path ++ "/" ++ more).toList = path.toList ++ '/' :: more.toList := by simp
  rw [text, List.splitOn_append_cons_self]

theorem splitOn_closed (path : String) :
    (path ++ "/").toList.splitOn '/' = path.toList.splitOn '/' ++ [[]] := by
  simpa using splitOn_slash path ""

theorem isAbsolute_slash (path more : String) :
    isAbsolute (path ++ "/" ++ more) = isAbsolute (path ++ "/") := by
  have head : (path ++ "/" ++ more).toList.head? = (path ++ "/").toList.head? := by
    cases chars : path.toList <;> simp [chars]
  rw [isAbsolute, isAbsolute, head]

theorem isAbsolute_closed (nonempty : path ≠ "") : isAbsolute (path ++ "/") = isAbsolute path := by
  have head : (path ++ "/").toList.head? = path.toList.head? := by
    cases chars : path.toList with
    | nil => exact absurd (String.toList_eq_nil_iff.1 chars) nonempty
    | cons c rest => simp [chars]
  rw [isAbsolute, isAbsolute, head]

/-- What a path begins with does not depend on what stands behind a slash. -/
theorem beginning_slash (path more : String) :
    beginning (path ++ "/" ++ more) = beginning (path ++ "/") := by
  have pieces : path.toList.splitOn '/' ≠ [] := List.splitOn_ne_nil '/' path.toList
  rw [beginning, beginning, isAbsolute_slash, splitOn_slash, splitOn_closed,
    List.head?_append_of_ne_nil _ pieces, List.head?_append_of_ne_nil _ pieces]

theorem beginning_closed (nonempty : path ≠ "") : beginning (path ++ "/") = beginning path := by
  have pieces : path.toList.splitOn '/' ≠ [] := List.splitOn_ne_nil '/' path.toList
  rw [beginning, beginning, isAbsolute_closed nonempty, splitOn_closed,
    List.head?_append_of_ne_nil _ pieces]

theorem components_slash (path : String) (plain : Name.IsPlain segment.toList) :
    components (path ++ "/" ++ segment) = components (path ++ "/") ++ [.name segment] := by
  rw [components, components, beginning_slash, splitOn_slash, splitOn_closed,
    List.splitOn_eq_singleton plain.slash, named_append, named_append, named_of_isPlain plain,
    named_nil_segment, List.append_nil, String.ofList_toList, List.append_assoc]

/-- A slash at the end of a path says nothing. -/
theorem components_closed (nonempty : path ≠ "") : components (path ++ "/") = components path := by
  rw [components, components, beginning_closed nonempty, splitOn_closed, named_append,
    named_nil_segment, List.append_nil]

/-- A plain name that is pushed onto a path stands alone, or behind a slash that the path ends with
or that is put there. -/
theorem push_cases (plain : Name.IsPlain segment.toList) (path : String) :
    path = "" ∧ push path segment = segment ∨
      ∃ front, push path segment = front ++ "/" ++ segment ∧
        (path = front ++ "/" ∨ path = front ∧ path ≠ "") := by
  have relative := isAbsolute_of_isPlain plain
  by_cases closed : path.toList.getLast?.all (· = '/') = true
  · have pushed : push path segment = path ++ segment := by simp [push, relative, closed]
    rw [pushed]
    -- Such a path is empty or ends with a slash.
    obtain chars | ⟨before, last, chars⟩ := path.toList.eq_nil_or_concat'
    · obtain rfl := String.toList_eq_nil_iff.1 chars
      exact .inl ⟨rfl, String.empty_append⟩
    · have slash : last = '/' := by simpa [chars] using closed
      obtain rfl : path = String.ofList before ++ "/" :=
        String.toList_injective (by simp [chars, slash])
      exact .inr ⟨_, rfl, .inl rfl⟩
  · have nonempty : path ≠ "" := by
      rintro rfl
      exact closed rfl
    exact .inr ⟨path, by simp [push, relative, closed], .inr ⟨rfl, nonempty⟩⟩

/-- A plain name that is pushed onto a path is one more component. -/
theorem components_push (plain : Name.IsPlain segment.toList) :
    components (push path segment) = components path ++ [.name segment] := by
  rcases push_cases plain path with ⟨rfl, pushed⟩ | ⟨front, pushed, rfl | ⟨rfl, nonempty⟩⟩
  · rw [pushed, components_of_isPlain plain]
    rfl
  · rw [pushed, components_slash front plain]
  · rw [pushed, components_slash path plain, components_closed nonempty]

theorem components_foldl_push (plains : ∀ segment ∈ names, Name.IsPlain segment.toList) :
    components (names.foldl push path) = components path ++ names.map .name := by
  induction names generalizing path with
  | nil => simp
  | cons first rest ih =>
    obtain ⟨plain, plains⟩ := List.forall_mem_cons.1 plains
    rw [List.foldl_cons, ih plains, components_push plain]
    simp

/-! ## Names below a root -/

theorem descend?_eq (path : String) (segments : List String) :
    descend? path segments =
      if ".." ∈ segments then none else some (segments.foldl push path) := by
  induction segments generalizing path with
  | nil => rfl
  | cons segment rest ih =>
    rw [descend?, ih]
    by_cases leads : segment = ".."
    · simp [leads]
    · simp [leads, Ne.symm leads]

theorem up_mem_segments_iff_head? (name : String) : ".." ∈ Name.segments name ↔
    (Files.steps (Name.normalize name)).head? = some ".." := by
  rw [Name.up_mem_segments_iff, (Name.isNormal_segmentsOf name.toList).up_mem_iff,
    Name.steps_normalize, Name.segments]
  have same : ".." = String.ofList Name.up := rfl
  cases Name.segmentsOf name.toList with
  | nil => simp
  | cons segment rest => simp [same, String.ofList_inj]

/-- A name has a path below a root unless its normal form begins with `..`. -/
theorem under?_eq (root name : String) :
    under? root name =
      if (Files.steps (Name.normalize name)).head? = some ".." then none
      else some ((Name.segments name).foldl push root) := by
  rw [under?, descend?_eq]
  simp only [up_mem_segments_iff_head?]

example : under? "/srv" "\\a//./b/../c" = some "/srv/a/c" := by decide

theorem of_under? (below : under? root name = some path) :
    path = (Name.segments name).foldl push root ∧
      ∀ segment ∈ Name.segments name, Name.IsPlain segment.toList := by
  rw [under?, descend?_eq] at below
  split at below
  · cases below
  · next low =>
    exact ⟨(Option.some.inj below).symm, fun segment => Name.isPlain_of_mem_segments low⟩

theorem descendAlong?_map (path : String) (segments : List (List Char)) :
    descendAlong? path (segments.map Component.ofSegment) =
      descend? path (segments.map String.ofList) := by
  induction segments generalizing path with
  | nil => rfl
  | cons segment rest ih =>
    have same : ".." = String.ofList Name.up := rfl
    rw [List.map_cons, List.map_cons, descend?, Component.ofSegment]
    by_cases leads : segment = Name.up
    · rw [if_pos leads, if_pos (by rw [leads, same])]
      rfl
    · have other : String.ofList segment ≠ ".." := fun eq =>
        leads (String.ofList_injective (eq.trans same))
      rw [if_neg leads, if_neg other, ← ih]
      rfl

/-- The components of a normal form are the segments of the name, or a point if there are none. -/
theorem components_normalize (name : String) :
    components (Name.normalize name) =
      if Name.segmentsOf name.toList = [] then [.here]
      else (Name.segmentsOf name.toList).map Component.ofSegment := by
  have normal := Name.isNormal_segmentsOf name.toList
  rw [Name.normalize, Name.join]
  split
  · decide
  · next nonempty =>
    have cut : (['/'].intercalate (Name.segmentsOf name.toList)).splitOn '/' =
        Name.segmentsOf name.toList :=
      List.splitOn_intercalate '/' (fun segment member => (normal.mem member).2.1) nonempty
    have begins : beginning (String.ofList (['/'].intercalate (Name.segmentsOf name.toList))) =
        [] := by
      have here : (Name.segmentsOf name.toList).head? ≠ some ['.'] := fun head => by
        simpa [isIdle] using normal.speaks ['.'] (List.mem_of_mem_head? head)
      simp [beginning, isAbsolute, Name.head?_intercalate normal, cut, here]
    rw [components, begins, String.toList_ofList, cut, named, List.filter_eq_self.2]
    · rfl
    · intro segment member
      simp [normal.speaks segment member]

/-- To take the segments of a name down from the root is to take the components of its normal
form. -/
theorem under?_eq_along (root name : String) :
    under? root name = descendAlong? root (components (Name.normalize name)) := by
  rw [components_normalize, under?, Name.segments]
  split
  · next none =>
    rw [none]
    rfl
  · rw [descendAlong?_map]

end Path

/-! ## Files that are read -/

namespace Source

variable {root name path : String}

theorem isPlain_indexFile : Name.IsPlain indexFile.toList :=
  ⟨by decide, by decide, by decide, by decide, by decide⟩

theorem refused_of_under? (fs : FileSystem) (outside : Path.under? root name = none) :
    pathFor fs root name = .error (escapes root name) ∧
      readBelow fs root name = .error (escapes root name) := by
  have failed : pathFor fs root name = .error (escapes root name) := by rw [pathFor, outside]
  refine ⟨failed, ?_⟩
  rw [readBelow, failed]
  rfl

/-- What is read for a name that stays below the root is at its path, or is the index file there. -/
theorem placed_of_under? (fs : FileSystem) (below : Path.under? root name = some path) :
    ∃ file, pathFor fs root name = .ok file ∧ readBelow fs root name = fs.read file ∧
      (file = path ∨ file = Path.push path indexFile) := by
  have read_eq : ∀ file, pathFor fs root name = .ok file →
      readBelow fs root name = fs.read file := by
    intro file placed
    rw [readBelow, placed]
    rfl
  by_cases index : (name.toList.getLast? = some '/' || fs.isDirectory path) = true
  · have placed : pathFor fs root name = .ok (Path.push path indexFile) := by
      simp only [pathFor, below, if_pos index]
    exact ⟨_, placed, read_eq _ placed, .inr rfl⟩
  · have placed : pathFor fs root name = .ok path := by
      simp only [pathFor, below, if_neg index]
    exact ⟨_, placed, read_eq _ placed, .inl rfl⟩

/-- To take a name down from the root is to take the components of its normal form.  A name is
refused exactly if its normal form begins with `..`, and then permission is denied without asking
the file system.  Any other name adds the segments of its normal form to the root, each as a plain
name, and what is read for it is the file there or the index file of the directory there: so the
root is a prefix of the path that is read, and nothing behind the root leads up. -/
theorem pathFor_below (fs : FileSystem) (root name : String) :
    let pieces := Files.steps (Name.normalize name)
    let segments := pieces.filter (· ≠ ".")
    Path.under? root name = Path.descendAlong? root (Path.components (Name.normalize name)) ∧
    (Path.under? root name = none ↔ pieces.head? = some "..") ∧
    (Path.under? root name = none →
      pathFor fs root name = .error (escapes root name) ∧
        readBelow fs root name = .error (escapes root name)) ∧
    (∀ path, Path.under? root name = some path →
      path = segments.foldl Path.push root ∧ (∀ segment ∈ segments, Name.IsPlain segment.toList) ∧
      Path.components path = Path.components root ++ segments.map .name ∧
      ∃ file names, pathFor fs root name = .ok file ∧ readBelow fs root name = fs.read file ∧
        (file = path ∧ names = segments ∨
          file = Path.push path indexFile ∧ names = segments ++ [indexFile]) ∧
        Path.components file = Path.components root ++ names.map .name) ∧
    ∀ e, pathFor fs root name = .error e →
      e.kind = .permissionDenied ∧ Path.under? root name = none := by
  intro pieces segments
  have same : segments = Name.segments name := Name.filter_steps_normalize name
  have outside : Path.under? root name = none ↔ pieces.head? = some ".." := by
    simp only [Path.under?_eq, ite_eq_left_iff, reduceCtorEq, imp_false, not_not, pieces]
  refine ⟨Path.under?_eq_along root name, outside, refused_of_under? fs, ?_, ?_⟩
  · intro path below
    obtain ⟨path_eq, plains⟩ := Path.of_under? below
    rw [same]
    have parts : Path.components path = Path.components root ++ (Name.segments name).map .name := by
      rw [path_eq, Path.components_foldl_push plains]
    obtain ⟨file, placed, given, rfl | rfl⟩ := placed_of_under? fs below
    · exact ⟨path_eq, plains, parts, file, _, placed, given, .inl ⟨rfl, rfl⟩, parts⟩
    · refine ⟨path_eq, plains, parts, _, _, placed, given, .inr ⟨rfl, rfl⟩, ?_⟩
      rw [Path.components_push isPlain_indexFile, parts, List.map_append, List.append_assoc]
      rfl
  · intro e failed
    cases found : Path.under? root name with
    | none =>
      obtain rfl : e = escapes root name :=
        Except.error.inj (failed.symm.trans (refused_of_under? fs found).1)
      exact ⟨rfl, rfl⟩
    | some path =>
      obtain ⟨file, placed, -⟩ := placed_of_under? fs found
      rw [placed] at failed
      cases failed

end Source

end Collage

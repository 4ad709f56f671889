import Collage.Files

/-! # Disks

A disk is a file system on which finitely many places have a file that can be read.  The place of a
path is the one that its names lead to, whatever there is on the way.
-/

namespace Collage

structure Disk extends FileSystem where
  /-- The places of the files that can be read. -/
  places : List (List String)
  place_of_read : ∀ {path : String} {bytes : ByteArray}, read path = .ok bytes →
    Files.placeOf path ∈ places

namespace Files

variable {f : Files} {path : String} {place : List String} {bytes : ByteArray}

/-- A place that is found is the place that the path leads to. -/
theorem eq_of_follow {names last : List String} (found : f.follow place names = .ok last) :
    last = names.foldl step place := by
  induction names generalizing place with
  | nil =>
    cases found
    rfl
  | cons name rest ih =>
    rw [follow] at found
    split at found
    · split at found
      · cases found
      · simp only at found
        split at found
        · exact ih found
        · cases found
    · cases found

theorem placeOf_of_find (found : f.find path = .ok place) : place = placeOf path := by
  rw [find] at found
  split at found
  · cases found
  · split at found
    · cases found
    · split at found
      · cases found
      · exact eq_of_follow found

theorem place_of_read (given : f.read path = .ok bytes) : placeOf path ∈ f.files.map Prod.fst := by
  rw [read] at given
  cases found : f.find path with
  | error e =>
    rw [found] at given
    cases given
  | ok place =>
    rw [found] at given
    obtain rfl := placeOf_of_find found
    cases stored : f.bytes? (placeOf path) with
    | none => simp [bind, Except.bind, stored] at given
    | some other =>
      obtain ⟨before, after, eq, -⟩ := List.lookup_eq_some_iff.1 stored
      simp [eq]

def disk (f : Files) : Disk where
  toFileSystem := f.system
  places := f.files.map Prod.fst
  place_of_read given := Files.place_of_read given

end Files

end Collage

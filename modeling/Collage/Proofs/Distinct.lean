import Mathlib.Data.List.Induction
import Mathlib.Data.List.Nodup

/-! # First occurrences

`List.eraseDups` keeps of each item its first occurrence, so a list that grows at its end keeps the
items that it had and gains one at most.
-/

namespace Collage

variable {α : Type} [BEq α] [LawfulBEq α]

theorem eraseDups_concat_of_mem {items : List α} {item : α} (known : item ∈ items) :
    (items ++ [item]).eraseDups = items.eraseDups := by
  rw [List.eraseDups_append]
  simp [List.removeAll, known]

theorem eraseDups_concat_of_not_mem {items : List α} {item : α} (new : item ∉ items) :
    (items ++ [item]).eraseDups = items.eraseDups ++ [item] := by
  have alone : ([item] : List α).removeAll items = [item] := by simp [List.removeAll, new]
  rw [List.eraseDups_append, alone, List.eraseDups_cons]
  rfl

theorem nodup_eraseDups (items : List α) : items.eraseDups.Nodup := by
  induction items using List.reverseRecOn with
  | nil => simp
  | append_singleton items item ih =>
    by_cases known : item ∈ items
    · rwa [eraseDups_concat_of_mem known]
    · rw [eraseDups_concat_of_not_mem known]
      have fresh : item ∉ items.eraseDups := by simpa using known
      refine List.Nodup.append ih (List.nodup_singleton item) ?_
      simpa using fresh

end Collage

import Mathlib.Data.List.Induction

/-!
# First occurrences

`List.eraseDups` keeps of each entry of a list the first one. One more entry is kept exactly if it
is new (`List.eraseDups_concat`), so that the entries kept of a list stay where they are as it grows
(`List.eraseDups_prefix_append`).
-/

namespace List

variable {β : Type} [BEq β] [LawfulBEq β]

/-- An element that is added at the end is new, or changes nothing. -/
theorem eraseDups_concat (l : List β) (b : β) :
    (l ++ [b]).eraseDups = if b ∈ l then l.eraseDups else l.eraseDups ++ [b] := by
  rw [eraseDups_append]
  by_cases h : b ∈ l
  · rw [if_pos h, removeAll, filter_cons_of_neg (by simpa using h)]
    simp
  · rw [if_neg h, removeAll, filter_cons_of_pos (by simpa using h)]
    simp [eraseDups_cons]

/-- Nothing is kept twice. -/
theorem nodup_eraseDups (l : List β) : l.eraseDups.Nodup := by
  induction l using reverseRecOn with
  | nil => exact nodup_nil
  | append_singleton l b ih =>
    rw [eraseDups_concat]
    split
    · exact ih
    · next h =>
      rw [nodup_append]
      refine ⟨ih, List.nodup_cons.2 ⟨not_mem_nil, nodup_nil⟩, fun c hc d hd he => h ?_⟩
      rw [← mem_singleton.1 hd, ← he]
      exact mem_eraseDups.1 hc

/-- Elements that are added at the end do not change the first occurrences before them. -/
theorem eraseDups_prefix_append (l m : List β) : l.eraseDups <+: (l ++ m).eraseDups := by
  rw [eraseDups_append]
  exact prefix_append _ _

end List

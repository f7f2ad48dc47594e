import Mathlib.Data.List.TakeDrop

/-
Runs of characters. A loop over the characters that satisfy a test takes a word as a
whole if all of its characters satisfy the test and the next one does not.
-/

namespace ClusterOps.Text

section

variable {test : Char → Bool} {cs rest : List Char} (all : ∀ c ∈ cs, test c = true)
  (stops : ∀ c ∈ rest.head?, test c = false)

include all stops

theorem takeWhile_run : (cs ++ rest).takeWhile test = cs := by
  rw [List.takeWhile_append_of_pos all]
  cases rest with
  | nil => simp
  | cons c rest => rw [List.takeWhile_cons_of_neg (by simp [stops c (by simp)]), List.append_nil]

theorem dropWhile_run : (cs ++ rest).dropWhile test = rest := by
  rw [List.dropWhile_append_of_pos all]
  cases rest with
  | nil => rfl
  | cons c rest => rw [List.dropWhile_cons_of_neg (by simp [stops c (by simp)])]

theorem span_run : (cs ++ rest).span test = (cs, rest) := by
  rw [List.span_eq_takeWhile_dropWhile, takeWhile_run all stops, dropWhile_run all stops]

end

end ClusterOps.Text

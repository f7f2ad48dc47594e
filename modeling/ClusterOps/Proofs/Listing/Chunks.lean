import Mathlib.Algebra.Order.Floor.Div
import ClusterOps.Listing

/-
A list that is handed out in chunks. The token of a page stands for an index into
the list: a page holds a chunk from there on, and has the token of the index behind
it as long as items remain. A listing of such pages has the items of the list, each
once and in their order, however large the chunks are (`paginate_chunks`).
-/

namespace ClusterOps.Listing

variable {α σ : Type}

/-! ## How many pages -/

/-- How many pages so many items take: there always is a first page. -/
def pagesFor (items size : Nat) : Nat := max 1 (items ⌈/⌉ size)

variable {items size : Nat}

theorem one_le_pagesFor (items size : Nat) : 1 ≤ pagesFor items size := le_max_left ..

theorem pagesFor_le {pages : Nat} (positive : 0 < size) (some : 0 < pages)
    (h : items ≤ pages * size) : pagesFor items size ≤ pages :=
  max_le some ((ceilDiv_le_iff_le_mul positive).2 (by rwa [Nat.mul_comm]))

theorem pagesFor_of_le (positive : 0 < size) (h : items ≤ size) : pagesFor items size = 1 :=
  Nat.le_antisymm (pagesFor_le positive Nat.one_pos (by rwa [Nat.one_mul])) (one_le_pagesFor ..)

/-- What does not fit on one page takes one page more than what remains. -/
theorem pagesFor_of_lt (positive : 0 < size) (h : size < items) :
    pagesFor items size = pagesFor (items - size) size + 1 := by
  have more : items ⌈/⌉ size = (items - size) ⌈/⌉ size + 1 := by
    rw [Nat.ceilDiv_eq_add_pred_div, Nat.ceilDiv_eq_add_pred_div, ← Nat.add_div_right _ positive]
    congr 1
    omega
  have : 1 ≤ (items - size) ⌈/⌉ size := by
    rw [Nat.ceilDiv_eq_add_pred_div]
    exact (Nat.one_le_div_iff positive).2 (by omega)
  rw [pagesFor, pagesFor]
  omega

/-! ## What is on them -/

/-- The token with which the page from an index is asked for. -/
def cursor (token : Nat → Value) (start : Nat) : Value :=
  if start = 0 then firstToken else token start

/-- The page from an index. -/
def chunk (items : List α) (token : Nat → Value) (size start : Nat) : Page α :=
  ⟨(items.drop start).take size,
    if start + size < items.length then token (start + size) else .null⟩

/-- There is a page from an index: the first one, or one with items. -/
def Reaches (items : List α) (start : Nat) : Prop := start = 0 ∨ start < items.length

section Follow

variable {items : List α} {token : Nat → Value} {size : Nat}
  {ask : σ → Value → Outcome (Page α) × σ} {P : Nat → σ → Prop}
  (truthy : ∀ i, 0 < i → (token i).isTruthy = true) (positive : 0 < size)
  (asked : ∀ {j s}, P j s → Reaches items (j * size) → ∃ t,
    ask s (cursor token (j * size)) = (.done (chunk items token size (j * size)), t) ∧ P (j + 1) t)

include truthy positive asked

/-- After some pages, the items that remain are listed behind those that have come. `P` is what
holds of the state after so many pages. -/
theorem follow_chunks (left j : Nat) {s : σ} (reaches : Reaches items (j * size))
    (fits : pagesFor (items.length - j * size) size ≤ left) (pages : List (List α)) (h : P j s) :
    ∃ t, follow ask left (cursor token (j * size)) pages s
        = (.done (joined pages ++ items.drop (j * size)), t) ∧
      P (j + pagesFor (items.length - j * size) size) t := by
  induction left generalizing j pages s with
  | zero =>
    have := one_le_pagesFor (items.length - j * size) size
    omega
  | succ left ih =>
    obtain ⟨t, page, h'⟩ := asked h reaches
    have next : (j + 1) * size = j * size + size := Nat.succ_mul ..
    rw [follow, page]
    by_cases more : j * size + size < items.length
    case pos =>
      have count : pagesFor (items.length - j * size) size
          = pagesFor (items.length - (j + 1) * size) size + 1 := by
        rw [pagesFor_of_lt positive (by omega), next, Nat.sub_sub]
      obtain ⟨u, rest, h''⟩ := ih (j + 1) (.inr (by omega)) (by omega)
        ((items.drop (j * size)).take size :: pages) h'
      have ahead : cursor token ((j + 1) * size) = token (j * size + size) := by
        rw [cursor, next, if_neg (by omega)]
      rw [ahead] at rest
      simp only [chunk, if_pos more, truthy (j * size + size) (by omega), if_true, rest]
      refine ⟨u, ?_, by rwa [count, Nat.add_comm _ 1, ← Nat.add_assoc]⟩
      rw [joined_cons, List.append_assoc, next, ← List.drop_drop, List.take_append_drop]
    case neg =>
      have all : (items.drop (j * size)).take size = items.drop (j * size) :=
        List.take_of_length_le (by rw [List.length_drop]; omega)
      rw [pagesFor_of_le positive (by omega)]
      exact ⟨t, by simp [chunk, more, Value.isTruthy, all], h'⟩

variable (ask) in
/-- A listing has all the items, and takes the pages that they fill. -/
theorem paginate_chunks (fits : pagesFor items.length size ≤ limit) {s : σ} (h : P 0 s) :
    ∃ t, paginate ask s = (.done items, t) ∧ P (pagesFor items.length size) t := by
  have start : (0 : Nat) * size = 0 := Nat.zero_mul size
  obtain ⟨t, listed, h'⟩ := follow_chunks truthy positive asked limit 0 (.inl start)
    (by rwa [start]) [] h
  rw [start] at listed h'
  exact ⟨t, by simpa [paginate, joined, cursor] using listed, by simpa using h'⟩

end Follow

end ClusterOps.Listing

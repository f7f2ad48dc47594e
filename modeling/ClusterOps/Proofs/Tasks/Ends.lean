import ClusterOps.Tasks.Run
import Mathlib.Algebra.Order.Field.Rat
import Mathlib.Data.List.Forall2

/-
When a tree of tasks ends, and with which failure, told by a relation: one rule
for each way in which a leaf can end, one for groups whose children run one after
the other, and one for groups whose children run at once. The rules say nothing
of records, of cutting off, or of the order in which the ends of children are
looked at. They leave open only which of several children that fail at the same
time is blamed (`Ends.agree`).
-/

namespace ClusterOps.Tasks

variable {α : Type}

/-! ## Trees -/

/-- What holds of every leaf, and of a group if it holds of its children, holds of every tree. -/
theorem induct {P : Tasks α → Prop} (leaf : ∀ a, P (.leaf a))
    (group : ∀ p ts, (∀ t ∈ ts, P t) → P (.group p ts)) : ∀ t, P t
  | .leaf a => leaf a
  | .group p ts => group p ts fun t _ => induct leaf group t

theorem mem_leavesAll {a : α} {ts : List (Tasks α)} :
    a ∈ leavesAll ts ↔ ∃ t ∈ ts, a ∈ t.leaves := by
  induction ts with
  | nil => simp [leavesAll]
  | cons t ts ih => simp [leavesAll, ih]

theorem mem_leaves_group {a : α} {p : Bool} {ts : List (Tasks α)} :
    a ∈ (group p ts).leaves ↔ ∃ t ∈ ts, a ∈ t.leaves := by
  rw [leaves, mem_leavesAll]

/-- Every leaf ends by itself some time after its start, and it is not cancelled. -/
def Finishing (work : α → Rat → Activity) (t : Tasks α) : Prop :=
  ∀ a ∈ t.leaves, ∀ start, ∃ e, start ≤ e ∧ (work a start).stop = some e ∧
    (work a start).finish ≠ .cancelled

theorem Finishing.child {work : α → Rat → Activity} {p : Bool} {ts : List (Tasks α)}
    (h : Finishing work (.group p ts)) {t : Tasks α} (ht : t ∈ ts) : Finishing work t :=
  fun a ha => h a (mem_leaves_group.2 ⟨t, ht, ha⟩)

/-- A leaf that ends by itself does so no earlier than it starts. -/
def Forward (work : α → Rat → Activity) (t : Tasks α) : Prop :=
  ∀ a ∈ t.leaves, ∀ start e, (work a start).stop = some e → start ≤ e

theorem Forward.child {work : α → Rat → Activity} {p : Bool} {ts : List (Tasks α)}
    (h : Forward work (.group p ts)) {t : Tasks α} (ht : t ∈ ts) : Forward work t :=
  fun a ha => h a (mem_leaves_group.2 ⟨t, ht, ha⟩)

theorem forward_group {work : α → Rat → Activity} {p : Bool} {ts : List (Tasks α)}
    (h : ∀ t ∈ ts, Forward work t) : Forward work (.group p ts) := by
  intro a ha
  obtain ⟨t, ht, ha⟩ := mem_leaves_group.1 ha
  exact h t ht a ha

theorem Finishing.forward {work : α → Rat → Activity} {t : Tasks α} (h : Finishing work t) :
    Forward work t := by
  intro a ha start e stop
  obtain ⟨e', le, stop', -⟩ := h a ha start
  obtain rfl := Option.some.inj (stop.symm.trans stop')
  exact le

/-! ## Ends -/

/-- The failure of a leaf. -/
structure Fault (α : Type) where
  leaf : α
  cause : Cause

/-- The end of a task: when it comes, and the failure, if there is one. -/
structure Ending (α : Type) where
  time : Rat
  fault : Option (Fault α)

/-- The end of a group of children at once, from their ends. It comes with the last of them. It
fails if one of them fails, with the failure of a child that fails no later than any other. -/
structure Joins (start : Rat) (xs : List (Ending α)) (x : Ending α) : Prop where
  empty : xs = [] → x.time = start
  last : xs ≠ [] → ∃ y ∈ xs, y.time = x.time
  latest : ∀ y ∈ xs, y.time ≤ x.time
  clean : x.fault = none ↔ ∀ y ∈ xs, y.fault = none
  first : ∀ b, x.fault = some b → ∃ y ∈ xs, y.fault = some b ∧
    ∀ z ∈ xs, z.fault ≠ none → y.time ≤ z.time

mutual

/-- The end of a task that is started at a time. -/
inductive Ends (work : α → Rat → Activity) : Tasks α → Rat → Ending α → Prop
  | done {a start e} : (work a start).stop = some e → (work a start).finish = .done →
      Ends work (.leaf a) start ⟨e, none⟩
  | failed {a start e c} : (work a start).stop = some e → (work a start).finish = .failed c →
      Ends work (.leaf a) start ⟨e, some ⟨a, c⟩⟩
  | serial {ts start x} : EndsInTurn work ts start x → Ends work (.group false ts) start x
  | parallel {ts start xs x} : EndsEach work ts start xs → Joins start xs x →
      Ends work (.group true ts) start x

/-- The end of children one after the other: that of the first that fails, or of the last. -/
inductive EndsInTurn (work : α → Rat → Activity) : List (Tasks α) → Rat → Ending α → Prop
  | nil {start} : EndsInTurn work [] start ⟨start, none⟩
  | failed {t ts start e b} : Ends work t start ⟨e, some b⟩ →
      EndsInTurn work (t :: ts) start ⟨e, some b⟩
  | next {t ts start e x} : Ends work t start ⟨e, none⟩ → EndsInTurn work ts e x →
      EndsInTurn work (t :: ts) start x

/-- The ends of children that start together. -/
inductive EndsEach (work : α → Rat → Activity) :
    List (Tasks α) → Rat → List (Ending α) → Prop
  | nil {start} : EndsEach work [] start []
  | cons {t ts start x xs} : Ends work t start x → EndsEach work ts start xs →
      EndsEach work (t :: ts) start (x :: xs)

end

variable {work : α → Rat → Activity}

/-! ## One end -/

/-- Two ends that differ at most in which failure is blamed. -/
structure Ending.Agrees (x y : Ending α) : Prop where
  time : x.time = y.time
  clean : x.fault = none ↔ y.fault = none

theorem Ending.Agrees.symm {x y : Ending α} (h : x.Agrees y) : y.Agrees x :=
  ⟨h.time.symm, h.clean.symm⟩

theorem exists_related {β γ : Type} {R : β → γ → Prop} {xs : List β} {ys : List γ}
    (h : List.Forall₂ R xs ys) : ∀ x ∈ xs, ∃ y ∈ ys, R x y := by
  induction h with
  | nil => simp
  | cons hxy _ ih =>
    intro x hx
    rcases List.mem_cons.1 hx with rfl | hx
    · exact ⟨_, List.mem_cons_self, hxy⟩
    · obtain ⟨y, hy, h⟩ := ih x hx
      exact ⟨y, List.mem_cons_of_mem _ hy, h⟩

theorem Joins.time_le {start : Rat} {xs ys : List (Ending α)} {x y : Ending α}
    (hx : Joins start xs x) (hy : Joins start ys y) (h : List.Forall₂ Ending.Agrees xs ys) :
    x.time ≤ y.time := by
  by_cases empty : xs = []
  · subst empty
    obtain rfl := List.forall₂_nil_left_iff.1 h
    rw [hx.empty rfl, hy.empty rfl]
  · obtain ⟨a, ha, last⟩ := hx.last empty
    obtain ⟨b, hb, agrees⟩ := exists_related h a ha
    calc x.time = b.time := last.symm.trans agrees.time
      _ ≤ y.time := hy.latest b hb

theorem Joins.clean_of_clean {start : Rat} {xs ys : List (Ending α)} {x y : Ending α}
    (hx : Joins start xs x) (hy : Joins start ys y) (h : List.Forall₂ Ending.Agrees xs ys)
    (clean : y.fault = none) : x.fault = none := by
  refine hx.clean.2 fun a ha => ?_
  obtain ⟨b, hb, agrees⟩ := exists_related h a ha
  exact agrees.clean.2 (hy.clean.1 clean b hb)

theorem Joins.agree {start : Rat} {xs ys : List (Ending α)} {x y : Ending α}
    (hx : Joins start xs x) (hy : Joins start ys y) (h : List.Forall₂ Ending.Agrees xs ys) :
    x.Agrees y := by
  have h' : List.Forall₂ Ending.Agrees ys xs := .flip (h.imp fun _ _ => Ending.Agrees.symm)
  exact ⟨le_antisymm (hx.time_le hy h) (hy.time_le hx h'),
    hy.clean_of_clean hx h', hx.clean_of_clean hy h⟩

mutual

/-- A task that is started at a time ends at one time, and either fails or does not. -/
theorem Ends.agree {t : Tasks α} {start : Rat} {x y : Ending α} (hx : Ends work t start x)
    (hy : Ends work t start y) : x.Agrees y := by
  cases hx with
  | done stop finish =>
    cases hy with
    | done stop' _ => exact ⟨Option.some.inj (stop.symm.trans stop'), Iff.rfl⟩
    | failed _ finish' => cases finish.symm.trans finish'
  | failed stop finish =>
    cases hy with
    | done _ finish' => cases finish.symm.trans finish'
    | failed stop' _ => exact ⟨Option.some.inj (stop.symm.trans stop'), by simp⟩
  | serial hx =>
    cases hy with
    | serial hy => exact hx.agree hy
  | parallel hx joins =>
    cases hy with
    | parallel hy joins' => exact joins.agree joins' (hx.agree hy)

theorem EndsInTurn.agree {ts : List (Tasks α)} {start : Rat} {x y : Ending α}
    (hx : EndsInTurn work ts start x) (hy : EndsInTurn work ts start y) : x.Agrees y := by
  cases hx with
  | nil =>
    cases hy
    exact ⟨rfl, Iff.rfl⟩
  | failed hx =>
    cases hy with
    | failed hy => exact hx.agree hy
    | next hy => exact absurd ((hx.agree hy).clean.2 rfl) (by simp)
  | next hx rest =>
    cases hy with
    | failed hy => exact absurd ((hx.agree hy).clean.1 rfl) (by simp)
    | next hy rest' =>
      obtain rfl := (hx.agree hy).time
      exact rest.agree rest'

theorem EndsEach.agree {ts : List (Tasks α)} {start : Rat} {xs ys : List (Ending α)}
    (hx : EndsEach work ts start xs) (hy : EndsEach work ts start ys) :
    List.Forall₂ Ending.Agrees xs ys := by
  cases hx with
  | nil =>
    cases hy
    exact .nil
  | cons hx rest =>
    cases hy with
    | cons hy rest' => exact .cons (hx.agree hy) (rest.agree rest')

end

mutual

/-- A task ends no earlier than it is started. -/
theorem Ends.forward {t : Tasks α} {start : Rat} {x : Ending α} (h : Forward work t)
    (ends : Ends work t start x) : start ≤ x.time := by
  cases ends with
  | done stop _ => exact h _ (by simp [leaves]) _ _ stop
  | failed stop _ => exact h _ (by simp [leaves]) _ _ stop
  | serial ends => exact ends.forward fun t ht => h.child ht
  | @parallel ts _ xs _ ends joins =>
    by_cases empty : xs = []
    · exact (joins.empty empty).ge
    · obtain ⟨y, hy, last⟩ := joins.last empty
      exact (ends.forward (fun t ht => h.child ht) y hy).trans last.le

theorem EndsInTurn.forward {ts : List (Tasks α)} {start : Rat} {x : Ending α}
    (h : ∀ t ∈ ts, Forward work t) (ends : EndsInTurn work ts start x) : start ≤ x.time := by
  cases ends with
  | nil => exact le_rfl
  | failed ends => exact ends.forward (h _ List.mem_cons_self)
  | next ends rest =>
    have first := ends.forward (h _ List.mem_cons_self)
    exact first.trans (rest.forward fun t ht => h t (List.mem_cons_of_mem _ ht))

theorem EndsEach.forward {ts : List (Tasks α)} {start : Rat} {xs : List (Ending α)}
    (h : ∀ t ∈ ts, Forward work t) (ends : EndsEach work ts start xs) :
    ∀ x ∈ xs, start ≤ x.time := by
  cases ends with
  | nil => simp
  | cons ends rest =>
    intro y hy
    rcases List.mem_cons.1 hy with rfl | hy
    · exact ends.forward (h _ List.mem_cons_self)
    · exact rest.forward (fun t ht => h t (List.mem_cons_of_mem _ ht)) y hy

end

end ClusterOps.Tasks

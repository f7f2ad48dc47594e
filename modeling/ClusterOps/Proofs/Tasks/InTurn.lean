import ClusterOps.Tasks.Run

/-
Children one after the other. Their run is made up of the runs of the children as lists are made up
of their elements: a run, and another from the time at which it ends without a failure
(`Run.andThen`). A group among the children has reported its failure already, so the group around it
has nothing to add, and it does not matter whether the group is there or its own children in its
place (`run_opened`).
-/

namespace ClusterOps.Tasks

variable {α : Type}

/-- One run, and behind it the rest. -/
def Run.join (r rest : Run α) : Run α :=
  ⟨r.spans ++ rest.spans, r.notes ++ rest.notes, rest.stop, rest.finish⟩

/-- A run, and another one from the time at which it ends without a failure. -/
def Run.andThen (r : Run α) (next : Rat → Run α) : Run α :=
  match r.stop, r.finish with
  | some e, .done => r.join (next e)
  | _, _ => r

/-- The run of a child as a group tells it, which reports the failure of the child. -/
def Run.reported (name : α → String) (child : Tasks α) (r : Run α) : Run α :=
  match r.stop, r.finish with
  | some e, .failed c =>
    let (failure, notes) := report name child e false c
    ⟨r.spans, r.notes ++ notes, some e, .failed failure⟩
  | _, _ => r

/-- A failure at some time is one of a task. -/
def Run.Settled (r : Run α) : Prop :=
  ∀ e c, r.stop = some e → r.finish = .failed c → c.isTaskFailure = true

variable {name : α → String} {work : α → Rat → Activity} {limit : Option Rat}

/-! ## Runs in a row -/

theorem Run.empty_andThen (start : Rat) (next : Rat → Run α) :
    Run.andThen ⟨[], [], some start, .done⟩ next = next start := rfl

theorem Run.join_andThen (r rest : Run α) (next : Rat → Run α) :
    (r.join rest).andThen next = r.join (rest.andThen next) := by
  obtain ⟨spans, notes, stop, finish⟩ := rest
  cases stop <;> cases finish <;> simp [Run.andThen, Run.join]

theorem Run.andThen_assoc (r : Run α) (next last : Rat → Run α) :
    (r.andThen next).andThen last = r.andThen fun e => (next e).andThen last := by
  obtain ⟨spans, notes, stop, finish⟩ := r
  cases stop with
  | none => rfl
  | some e =>
    cases finish with
    | done => exact Run.join_andThen ..
    | failed | cancelled => rfl

/-! ## Children in a row -/

theorem runInTurn_cons (start : Rat) (t : Tasks α) (ts : List (Tasks α)) :
    runInTurn name work limit start (t :: ts)
      = ((run name work limit start t).reported name t).andThen
        fun e => runInTurn name work limit e ts := by
  rw [runInTurn, Run.reported]
  cases stop : (run name work limit start t).stop with
  | none => simp [Run.andThen, stop]
  | some e =>
    cases finish : (run name work limit start t).finish <;>
      simp [Run.andThen, Run.join, stop, finish]

/-- The run of two lists of children is the run of the first, and of the second behind it. -/
theorem runInTurn_append (start : Rat) (xs ys : List (Tasks α)) :
    runInTurn name work limit start (xs ++ ys)
      = (runInTurn name work limit start xs).andThen fun e => runInTurn name work limit e ys := by
  induction xs generalizing start with
  | nil => rw [runInTurn, Run.empty_andThen, List.nil_append]
  | cons x xs ih => simp only [List.cons_append, runInTurn_cons, Run.andThen_assoc, ih]

/-! ## Groups among them -/

theorem settled_reported (t : Tasks α) (r : Run α) : (r.reported name t).Settled := by
  intro e c stop finish
  rw [Run.reported] at stop finish
  split at finish
  case h_1 e' c' _ _ =>
    obtain rfl := Finish.failed.inj finish
    rw [report]
    split
    case isTrue failure => exact failure
    case isFalse => rfl
  case h_2 other => exact absurd finish (other e c (by simpa using stop))

theorem Run.Settled.andThen {r : Run α} {next : Rat → Run α} (h : r.Settled)
    (later : ∀ e, (next e).Settled) : (r.andThen next).Settled := by
  rw [Run.andThen]
  split
  case h_1 e _ _ => exact later e
  case h_2 => exact h

theorem settled_runInTurn (start : Rat) (ts : List (Tasks α)) :
    (runInTurn name work limit start ts).Settled := by
  induction ts generalizing start with
  | nil =>
    rw [runInTurn]
    intro e c _ finish
    cases finish
  | cons t ts ih =>
    rw [runInTurn_cons]
    exact (settled_reported t _).andThen ih

/-- There is nothing to report of a run whose failure is told. -/
theorem Run.Settled.reported {r : Run α} (h : r.Settled) (t : Tasks α) :
    r.reported name t = r := by
  obtain ⟨spans, notes, stop, finish⟩ := r
  cases stop with
  | none => rfl
  | some e =>
    cases finish with
    | done | cancelled => rfl
    | failed c => simp [Run.reported, report, h e c rfl rfl]

/-- A group in front of other children may as well be opened. -/
theorem runInTurn_group (start : Rat) (ys zs : List (Tasks α)) :
    runInTurn name work limit start (.group false ys :: zs)
      = runInTurn name work limit start (ys ++ zs) := by
  have inside : run name work limit start (.group false ys)
      = runInTurn name work limit start ys := by rw [run]
  rw [runInTurn_cons, inside, (settled_runInTurn start ys).reported, runInTurn_append]

variable (name work limit) in
/-- **Opening groups.** Of children one after the other, some that stand in a group of their own run
just as they do without it, with the same spans, the same records, and the same end, whatever fails,
hangs or is cancelled in them and whenever the whole is cut off; and so an empty group anywhere
among them changes nothing. -/
theorem run_opened (start : Rat) (xs ys zs : List (Tasks α)) :
    run name work limit start (.group false (xs ++ .group false ys :: zs))
      = run name work limit start (.group false (xs ++ ys ++ zs)) ∧
    ∀ parallel, run name work limit start (.group false (xs ++ .group parallel [] :: zs))
      = run name work limit start (.group false (xs ++ zs)) := by
  constructor
  · rw [run, run, List.append_assoc, runInTurn_append, runInTurn_append]
    simp only [runInTurn_group]
  · intro parallel
    rw [run, run, runInTurn_append, runInTurn_append]
    simp only [runInTurn_empty]

end ClusterOps.Tasks

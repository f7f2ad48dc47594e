import ClusterOps.Proofs.Tasks.Blame
import Mathlib.Data.List.Induction

/-
What the records of a run tell. Every leaf that fails has one record, written by the group that it
stands in: that it has failed, or, of children at once, that it has failed as well, when another had
failed before it. Of a group that fails, those around it say nothing more, unless they are children
at once and another has failed before it. There are no other records (`run_account`). Which of
several children that fail at the same time is the first is left open.
-/

namespace ClusterOps.Tasks

variable {α : Type}

/-! ## Failures and their records -/

/-- No leaf fails with a failure of a task. -/
def Plain (work : α → Rat → Activity) (t : Tasks α) : Prop :=
  ∀ a ∈ t.leaves, ∀ start c, (work a start).finish = .failed c → c.isTaskFailure = false

theorem Plain.child {work : α → Rat → Activity} {p : Bool} {ts : List (Tasks α)}
    (h : Plain work (.group p ts)) {t : Tasks α} (ht : t ∈ ts) : Plain work t :=
  fun a ha => h a (mem_leaves_group.2 ⟨t, ht, ha⟩)

/-- The task at a path is started, and fails at a time, as it does by itself. -/
def FailsAt (name : α → String) (work : α → Rat → Activity) (t : Tasks α) (start : Rat) (q : Path)
    (d : Tasks α) (e : Rat) (c : Cause) : Prop :=
  ∃ m, Begins work t start q d m ∧ (run name work none m d).stop = some e ∧
    (run name work none m d).finish = .failed c

/-- At every group of children at once in which one fails, the number of a child that fails no later
than any other. -/
def Leads (name : α → String) (work : α → Rat → Activity) (t : Tasks α) (start : Rat)
    (first : Path → Nat) : Prop :=
  ∀ p ts i d e c, t.at? p = some (.group true ts) → FailsAt name work t start (p ++ [i]) d e c →
    ∃ d' e' c', FailsAt name work t start (p ++ [first p]) d' e' c' ∧ e' ≤ e

/-- The record that a group writes about a child that fails: of a child at once with another that
has failed first, that there is one more failure; of any other that is a leaf, that it has failed;
and of a group nothing, which has told of the failure already. -/
def recordOf? (name : α → String) (parallel first : Bool) (d : Tasks α) (time : Rat) (c : Cause) :
    Option Record :=
  if parallel && !first then
    some ⟨time, .warning, .task, "Additional parallel task failure",
      [("task", .text (d.describe name)), ("error", .text c.message)], none⟩
  else
    match d with
    | .leaf a => some ⟨time, .error, .task, "Task failed",
        [("task", .text (name a)), ("error", .text c.message), ("error_type", .text c.kind)], none⟩
    | .group _ _ => none

/-- A record is that of the task at a path, written by the group around it. -/
def Noted (name : α → String) (work : α → Rat → Activity) (t : Tasks α) (start : Rat)
    (first : Path → Nat) (q : Path) (record : Record) : Prop :=
  ∃ p i b ts d e c, q = p ++ [i] ∧ t.at? p = some (.group b ts) ∧
    FailsAt name work t start q d e c ∧ recordOf? name b (i == first p) d e c = some record

/-- What is known of a run from its records: the leaves that were started and the records, each with
a path, and which child of a group at once has failed first. -/
structure Account (name : α → String) (work : α → Rat → Activity) (t : Tasks α) (start : Rat)
    (r : Run α) (leaves : List (Path × Span α)) (first : Path → Nat)
    (entries : List (Path × Record)) : Prop where
  spans : leaves.map Prod.snd = r.spans
  /-- No leaf is started twice. -/
  once : (leaves.map Prod.fst).Nodup
  /-- The leaves that fail are those whose spans say so. -/
  failed : ∀ q a e c, FailsAt name work t start q (.leaf a) e c ↔
    ∃ s, (q, s) ∈ leaves ∧ s.task = a ∧ s.stop = some e ∧ s.finish = .failed c
  earliest : Leads name work t start first
  records : (entries.map Prod.snd).Perm r.records
  /-- No task has two records. -/
  single : (entries.map Prod.fst).Nodup
  /-- The records are those that the groups write about the children that fail. -/
  noted : ∀ q record, (q, record) ∈ entries ↔ Noted name work t start first q record
  /-- A leaf that was started has a record if it has failed, and only then. -/
  told : ∀ q s, (q, s) ∈ leaves → ((∃ record, (q, record) ∈ entries) ↔ ∃ c, s.finish = .failed c)

variable {name : α → String} {work : α → Rat → Activity}

theorem at?_append (t : Tasks α) (p q : Path) : t.at? (p ++ q) = (t.at? p).bind (at? · q) := by
  induction p generalizing t with
  | nil => simp [Tasks.at?]
  | cons i p ih =>
    cases t with
    | leaf a => rfl
    | group b ts => simp [Tasks.at?, ih, Option.bind_assoc]

theorem Begins.at?_append {t u : Tasks α} {start m : Rat} {p : Path}
    (h : Begins work t start p u m) (q : Path) : t.at? (p ++ q) = u.at? q := by
  rw [Tasks.at?_append, h.at?, Option.bind_some]

theorem failsAt_nil {t d : Tasks α} {start e : Rat} {c : Cause} :
    FailsAt name work t start [] d e c ↔ d = t ∧ (run name work none start t).stop = some e ∧
      (run name work none start t).finish = .failed c := by
  constructor
  · intro h
    obtain ⟨m, begins, h⟩ := h
    cases begins
    exact ⟨rfl, h⟩
  · intro hk
    obtain ⟨rfl, h⟩ := hk
    exact ⟨start, .root, h⟩

/-- A task below a node fails as it does in the tree below that node. -/
theorem failsAt_append {t d : Tasks α} {start e : Rat} {p q : Path} {c : Cause} :
    FailsAt name work t start (p ++ q) d e c ↔
      ∃ u m, Begins work t start p u m ∧ FailsAt name work u m q d e c := by
  constructor
  · intro h
    obtain ⟨n, begins, h⟩ := h
    obtain ⟨u, m, hu, hd⟩ := begins_append.1 begins
    exact ⟨u, m, hu, n, hd, h⟩
  · intro hk
    obtain ⟨u, m, hu, n, hd, h⟩ := hk
    exact ⟨n, begins_append.2 ⟨u, m, hu, hd⟩, h⟩

theorem failsAt_child {t u d : Tasks α} {start m e : Rat} {p q : Path} {c : Cause}
    (h : Begins work t start p u m) :
    FailsAt name work t start (p ++ q) d e c ↔ FailsAt name work u m q d e c := by
  rw [failsAt_append]
  constructor
  · intro hk
    obtain ⟨u', m', h', hd⟩ := hk
    obtain ⟨rfl, rfl⟩ := h.unique h'
    exact hd
  · exact fun hd => ⟨u, m, h, hd⟩

/-- What is recorded in a group is recorded in its children, or by the group itself. -/
theorem noted_group {b : Bool} {ts : List (Tasks α)} {start : Rat} {first : Path → Nat} {q : Path}
    {record : Record} : Noted name work (.group b ts) start first q record ↔
      (∃ i c m, Begins work (.group b ts) start [i] c m ∧
        ∃ u, q = i :: u ∧ Noted name work c m (fun p => first (i :: p)) u record) ∨
      ∃ i d e c, q = [i] ∧ FailsAt name work (.group b ts) start [i] d e c ∧
        recordOf? name b (i == first []) d e c = some record := by
  constructor
  · intro h
    obtain ⟨p, i, b', us, d, e, c, rfl, group, fails, hr⟩ := h
    cases p with
    | nil =>
      obtain ⟨rfl, rfl⟩ : b = b' ∧ ts = us := by simpa [Tasks.at?] using group
      exact .inr ⟨i, d, e, c, rfl, fails, hr⟩
    | cons k p =>
      obtain ⟨u, m, begins, below⟩ := failsAt_append (p := [k]) (q := p ++ [i]).1 fails
      rw [← List.singleton_append, begins.at?_append] at group
      exact .inl ⟨k, u, m, begins, p ++ [i], rfl, p, i, b', us, d, e, c, rfl, group, below, hr⟩
  · intro hk
    rcases hk with ⟨k, u, m, begins, -, rfl, p, i, b', us, d, e, c, rfl, group, fails, hr⟩ |
      ⟨i, d, e, c, rfl, fails, hr⟩
    · exact ⟨k :: p, i, b', us, d, e, c, rfl, (begins.at?_append p).trans group,
        (failsAt_child begins).2 fails, hr⟩
    · exact ⟨[], i, b, ts, d, e, c, rfl, rfl, fails, hr⟩

/-! ## Failures of children -/

/-- When a run fails, and why. -/
def Run.failure? (r : Run α) : Option (Rat × Cause) :=
  match r.stop, r.finish with
  | some e, .failed c => some (e, c)
  | _, _ => none

theorem Run.failure?_eq_some {r : Run α} {e : Rat} {c : Cause} :
    r.failure? = some (e, c) ↔ r.stop = some e ∧ r.finish = .failed c := by
  rw [Run.failure?]
  cases r.stop <;> cases r.finish <;> simp

/-- The failures among children that begin, each with the number of the child. -/
def failing (name : α → String) (work : α → Rat → Activity) (children : List (Tasks α × Rat)) :
    List (Nat × Tasks α × Rat × Cause) :=
  children.zipIdx.filterMap fun ((d, m), i) =>
    (run name work none m d).failure?.map fun (e, c) => (i, d, e, c)

theorem mem_failing {children : List (Tasks α × Rat)} {i : Nat} {d : Tasks α} {e : Rat}
    {c : Cause} : (i, d, e, c) ∈ failing name work children ↔
      ∃ m, children[i]? = some (d, m) ∧ (run name work none m d).stop = some e ∧
        (run name work none m d).finish = .failed c := by
  rw [failing, List.mem_filterMap]
  constructor
  · intro h
    obtain ⟨⟨⟨d', m⟩, i'⟩, child, h⟩ := h
    obtain ⟨⟨e', c'⟩, failure, same⟩ := Option.map_eq_some_iff.1 h
    obtain ⟨rfl, rfl, rfl, rfl⟩ : i' = i ∧ d' = d ∧ e' = e ∧ c' = c := by simpa using same
    exact ⟨m, List.mem_zipIdx_iff_getElem?.1 child, Run.failure?_eq_some.1 failure⟩
  · intro h
    obtain ⟨m, child, h⟩ := h
    refine ⟨((d, m), i), List.mem_zipIdx_iff_getElem?.2 child, ?_⟩
    simp [Run.failure?_eq_some.2 h]

/-- The failures without the numbers. -/
theorem map_snd_failing (children : List (Tasks α × Rat)) :
    (failing name work children).map Prod.snd = children.filterMap fun (d, m) =>
      (run name work none m d).failure?.map fun (e, c) => (d, e, c) := by
  conv_rhs => rw [← List.zipIdx_map_fst 0 children, List.filterMap_map]
  rw [failing, List.map_filterMap]
  simp only [Option.map_map, Function.comp_def]

/-- A child fails only once. -/
theorem nodup_failing (children : List (Tasks α × Rat)) :
    ((failing name work children).map Prod.fst).Nodup := by
  have numbers : children.zipIdx.Pairwise fun x y => x.2 ≠ y.2 := by
    rw [← List.pairwise_map, List.zipIdx_map_snd]
    exact List.nodup_range'
  rw [failing, List.Nodup, List.pairwise_map, List.pairwise_filterMap]
  refine numbers.imp fun apart => ?_
  intro f hf g hg
  obtain ⟨-, -, rfl⟩ := Option.map_eq_some_iff.1 hf
  obtain ⟨-, -, rfl⟩ := Option.map_eq_some_iff.1 hg
  exact apart

/-- The records that a group writes about the failures of children, one for each. -/
def recordsOf (name : α → String) (parallel : Bool) (lead : Nat)
    (fs : List (Nat × Tasks α × Rat × Cause)) : List Record :=
  fs.filterMap fun (i, d, e, c) => recordOf? name parallel (i == lead) d e c

variable (name) in
theorem tabulates_recordsOf (b : Bool) (lead : Nat) {fs : List (Nat × Tasks α × Rat × Cause)}
    (once : (fs.map Prod.fst).Nodup) :
    Tabulates (fun q record => ∃ i d e c, q = [i] ∧ (i, d, e, c) ∈ fs ∧
      recordOf? name b (i == lead) d e c = some record) (recordsOf name b lead fs) := by
  refine ⟨fs.filterMap fun (i, d, e, c) =>
    (recordOf? name b (i == lead) d e c).map fun record => ([i], record), ?_, ?_, ?_⟩
  · simp [recordsOf, List.map_filterMap, Function.comp_def]
  · rw [List.Nodup, List.pairwise_map] at once ⊢
    rw [List.pairwise_filterMap]
    refine once.imp fun apart => ?_
    intro x hx y hy
    obtain ⟨-, -, rfl⟩ := Option.map_eq_some_iff.1 hx
    obtain ⟨-, -, rfl⟩ := Option.map_eq_some_iff.1 hy
    simpa using apart
  · intro q record
    simp only [List.mem_filterMap, Option.map_eq_some_iff, Prod.mk.injEq, Prod.exists]
    grind

/-! ## What a group reports -/

/-- A child that fails raises a failure of a task exactly if it is a group. -/
theorem isTaskFailure_of_failed {d : Tasks α} {m e : Rat} {c : Cause}
    (plain : Plain work d) (stop : (run name work none m d).stop = some e)
    (finish : (run name work none m d).finish = .failed c) :
    c.isTaskFailure = match d with
      | .leaf _ => false
      | .group _ _ => true := by
  cases d with
  | leaf a =>
    rw [run_leaf] at finish
    exact plain a (by simp [leaves]) m c finish
  | group p ts =>
    obtain ⟨b, -, failed, -⟩ := exists_blames stop finish
    obtain rfl := Finish.failed.inj (finish.symm.trans failed)
    exact isTaskFailure_reported b

/-- The failure that a group reports has one record if it is that of a leaf, and else none. -/
theorem records_report {d : Tasks α} {m e : Rat} {c : Cause}
    (plain : Plain work d) (stop : (run name work none m d).stop = some e)
    (finish : (run name work none m d).finish = .failed c) (late b first : Bool)
    (reported : (b && !first) = false) :
    (report name d e late c).2.map Note.record = (recordOf? name b first d e c).toList := by
  have own := isTaskFailure_of_failed plain stop finish
  cases d <;> simp [report, recordOf?, own, reported, describe]

/-! ## How a group is run -/

/-- The records of a run, in any order. -/
def Run.told (r : Run α) : List Record := r.notes.map Note.record

/-- How a group is run that ends by itself: the children that begin, with their times, the failures
among them as they come, and the number of the child that fails first. The group adds its own
records to those of the children. -/
structure Course (name : α → String) (work : α → Rat → Activity) (b : Bool) (ts : List (Tasks α))
    (start : Rat) (children : List (Tasks α × Rat)) (fs : List (Nat × Tasks α × Rat × Cause))
    (lead : Nat) : Prop where
  begun : ∀ i d m, children[i]? = some (d, m) ↔ Begins work (.group b ts) start [i] d m
  ends : ∀ d m, (d, m) ∈ children → ∃ x, Ends work d m x
  failed : fs.Perm (failing name work children)
  first : b = true → ∀ f ∈ fs, ∃ d e c, (lead, d, e, c) ∈ fs ∧ e ≤ f.2.2.1
  told : (run name work none start (.group b ts)).told
    = (children.flatMap fun (d, m) => (run name work none m d).told) ++ recordsOf name b lead fs

theorem begins_inTurn {ts : List (Tasks α)} {start m : Rat} {i : Nat} {d : Tasks α} :
    Begins work (.group false ts) start [i] d m ↔ ts[i]? = some d ∧ Passed work ts start i m := by
  constructor
  · intro h
    cases h with
    | serial child passed rest =>
      cases rest
      exact ⟨child, passed⟩
  · intro h
    exact .serial h.1 h.2 .root

theorem begins_atOnce {ts : List (Tasks α)} {start m : Rat} {i : Nat} {d : Tasks α} :
    Begins work (.group true ts) start [i] d m ↔ ts[i]? = some d ∧ m = start := by
  constructor
  · intro h
    cases h with
    | parallel child rest =>
      cases rest
      exact ⟨child, rfl⟩
  · intro h
    obtain ⟨child, rfl⟩ := h
    exact .parallel child .root

/-- Of children one after the other, the first begins at once. -/
theorem passed_first {t d : Tasks α} {ts : List (Tasks α)} {start m : Rat} :
    (t :: ts)[0]? = some d ∧ Passed work (t :: ts) start 0 m ↔ (t, start) = (d, m) := by
  rw [passed_zero]
  simp [eq_comm]

/-! ### One after the other -/

/-- The children of a group one after the other that begin, with their times. The group writes a
record about a child only if it is the last of them. -/
structure Row (name : α → String) (work : α → Rat → Activity) (ts : List (Tasks α)) (start : Rat)
    (children : List (Tasks α × Rat)) : Prop where
  begun : ∀ i d m, children[i]? = some (d, m) ↔ ts[i]? = some d ∧ Passed work ts start i m
  ends : ∀ d m, (d, m) ∈ children → ∃ x, Ends work d m x
  told : (runInTurn name work none start ts).told
    = (children.flatMap fun (d, m) => (run name work none m d).told) ++
      children.filterMap fun (d, m) => (run name work none m d).failure?.bind fun (e, c) =>
        recordOf? name false true d e c

/-- A child that fails is the last that begins. -/
theorem row_failed {t : Tasks α} {start e : Rat} {b : Fault α} (plain : Plain work t)
    (ends : Ends work t start ⟨e, some b⟩)
    (runs : RunsTo name work t start (run name work none start t) ⟨e, some b⟩)
    (ts : List (Tasks α)) : Row name work (t :: ts) start [(t, start)] := by
  have stop := runs.stop
  have finish := runs.failed b rfl
  refine ⟨fun i d m => ?begun, by simpa using ⟨_, ends⟩, ?told⟩
  case begun =>
    cases i with
    | zero => rw [passed_first]; simp
    | succ i => simp [passed_cons ends]
  case told =>
    have record := records_report plain stop finish false false true rfl
    have own : (run name work none start t).failure? = some (e, t.raised name b) :=
      Run.failure?_eq_some.2 ⟨stop, finish⟩
    rw [runInTurn_failed stop finish]
    simp only [Run.told, List.map_append, record, List.flatMap_singleton, List.filterMap_cons,
      own, Option.bind_some]
    cases recordOf? name false true t e (t.raised name b) <;> rfl

/-- After a child that does not fail, there is nothing to record about it. -/
theorem Row.next {t : Tasks α} {ts : List (Tasks α)} {start e : Rat}
    {children : List (Tasks α × Rat)} (h : Row name work ts e children)
    (ends : Ends work t start ⟨e, none⟩)
    (runs : RunsTo name work t start (run name work none start t) ⟨e, none⟩) :
    Row name work (t :: ts) start ((t, start) :: children) := by
  have stop := runs.stop
  have finish := runs.done rfl
  refine ⟨fun i d m => ?begun, fun d m hd => ?ends, ?told⟩
  case begun =>
    cases i with
    | zero => rw [passed_first]; simp
    | succ i => simp [passed_cons ends, h.begun]
  case ends =>
    rcases List.mem_cons.1 hd with same | hd
    · cases same
      exact ⟨_, ends⟩
    · exact h.ends d m hd
  case told =>
    have own : (run name work none start t).failure? = none := by
      simp [Run.failure?, stop, finish]
    have told := h.told
    rw [runInTurn_done stop finish]
    simp only [Run.told, List.map_append] at told ⊢
    simp only [told, List.flatMap_cons, List.filterMap_cons, own, Option.bind_none,
      List.append_assoc]

theorem exists_row {ts : List (Tasks α)} {start : Rat} {x : Ending α}
    (ends : EndsInTurn work ts start x)
    (each : ∀ d ∈ ts, ∀ m x, Ends work d m x →
      ∃ y, Ends work d m y ∧ RunsTo name work d m (run name work none m d) y)
    (plain : ∀ d ∈ ts, Plain work d) : ∃ children, Row name work ts start children := by
  induction ts generalizing start with
  | nil => exact ⟨[], by simp, by simp, by simp [runInTurn, Run.told]⟩
  | cons t ts ih =>
    obtain ⟨y, first⟩ : ∃ y, Ends work t start y := by
      cases ends with
      | failed first | next first _ => exact ⟨_, first⟩
    obtain ⟨⟨e, fault⟩, first, runs⟩ := each t List.mem_cons_self start y first
    cases fault with
    | some b => exact ⟨_, row_failed (plain t List.mem_cons_self) first runs ts⟩
    | none =>
      have rest : EndsInTurn work ts e x := by
        cases ends with
        | failed failed => exact absurd ((first.agree failed).clean.1 rfl) (by simp)
        | next first' rest =>
          obtain rfl := (first.agree first').time
          exact rest
      obtain ⟨children, row⟩ := ih rest (fun d hd => each d (List.mem_cons_of_mem _ hd))
        fun d hd => plain d (List.mem_cons_of_mem _ hd)
      exact ⟨_, row.next first runs⟩

/-- Of children one after the other none has failed before another. -/
theorem recordsOf_inTurn (lead : Nat) (children : List (Tasks α × Rat)) :
    recordsOf name false lead (failing name work children)
      = children.filterMap fun (d, m) => (run name work none m d).failure?.bind fun (e, c) =>
          recordOf? name false true d e c := by
  have numberless : recordsOf name false lead (failing name work children)
      = ((failing name work children).map Prod.snd).filterMap fun f =>
          recordOf? name false true f.1 f.2.1 f.2.2 := by
    rw [List.filterMap_map]
    rfl
  rw [numberless, map_snd_failing, List.filterMap_filterMap]
  simp only [Option.bind_map, Function.comp_def]

theorem exists_course_inTurn {ts : List (Tasks α)} {start : Rat} {x : Ending α}
    (ends : Ends work (.group false ts) start x)
    (each : ∀ d ∈ ts, ∀ m x, Ends work d m x →
      ∃ y, Ends work d m y ∧ RunsTo name work d m (run name work none m d) y)
    (plain : ∀ d ∈ ts, Plain work d) :
    ∃ children fs lead, Course name work false ts start children fs lead := by
  cases ends with
  | serial ends =>
    obtain ⟨children, row⟩ := exists_row ends each plain
    refine ⟨children, _, 0, fun i d m => ?_, row.ends, .refl _, by simp, ?_⟩
    · rw [begins_inTurn, row.begun]
    · rw [run_serial, row.told, recordsOf_inTurn]

/-! ### At once -/

/-- The failures of children at once are those of the children, the first failure first. -/
theorem failures_runEach (start : Rat) (ts : List (Tasks α)) :
    failures (runEach name work start ts)
      = (inOrder (fun f g => f.2.2.1 ≤ g.2.2.1)
          (failing name work (ts.map fun t => (t, start)))).map Prod.snd := by
  rw [← inOrder_map (fun a b : Tasks α × Rat × Cause => a.2.1 ≤ b.2.1) Prod.snd,
    map_snd_failing, List.filterMap_map, failures, runEach_eq_map, List.filterMap_map]
  refine congrArg _ (List.filterMap_congr fun t _ => ?_)
  simp only [Run.failure?, Function.comp_def]
  cases (run name work none start t).stop <;> cases (run name work none start t).finish <;> rfl

/-- The first failure has a record if it is that of a leaf, and every other one has one. -/
theorem recordsOf_atOnce {i : Nat} {d : Tasks α} {e : Rat} {c : Cause}
    {rest : List (Nat × Tasks α × Rat × Cause)}
    (once : (((i, d, e, c) :: rest).map Prod.fst).Nodup) :
    recordsOf name true i ((i, d, e, c) :: rest) = (recordOf? name true true d e c).toList ++
      rest.map fun (_, d, e, c) => (extraNote name d e c).record := by
  have others : ∀ f ∈ rest, (f.1 == i) = false := by
    intro f hf
    simp only [List.map_cons, List.nodup_cons] at once
    simpa using fun same : f.1 = i => once.1 (List.mem_map.2 ⟨f, hf, same⟩)
  have later : recordsOf name true i rest
      = rest.map fun (_, d, e, c) => (extraNote name d e c).record := by
    rw [recordsOf, ← List.filterMap_eq_map]
    exact List.filterMap_congr fun f hf => by simp [others f hf, recordOf?, extraNote]
  rw [← later, recordsOf, List.filterMap_cons]
  simp only [beq_self_eq_true]
  cases recordOf? name true true d e c <;> rfl

variable (name) in
/-- When all children at once have ended, the group writes its records about those that fail. -/
theorem exists_settled {ts : List (Tasks α)} (plain : ∀ d ∈ ts, Plain work d) (start : Rat) :
    ∃ fs lead, fs.Perm (failing name work (ts.map fun t => (t, start))) ∧
      (∀ f ∈ fs, ∃ d e c, (lead, d, e, c) ∈ fs ∧ e ≤ f.2.2.1) ∧
      (settle name (runEach name work start ts)).2.map Note.record
        = recordsOf name true lead fs := by
  rw [settle, failures_runEach]
  cases sorted : inOrder (fun f g : Nat × Tasks α × Rat × Cause => f.2.2.1 ≤ g.2.2.1)
      (failing name work (ts.map fun t => (t, start))) with
  | nil => exact ⟨[], 0, sorted ▸ inOrder_perm _, by simp, rfl⟩
  | cons f rest =>
    obtain ⟨i, d, e, c⟩ := f
    have failed := sorted ▸ inOrder_perm (failing name work (ts.map fun t => (t, start)))
    have once := (failed.map Prod.fst).nodup_iff.2 (nodup_failing _)
    have first : ∀ f ∈ (i, d, e, c) :: rest, e ≤ f.2.2.1 := by
      intro f hf
      have le := inOrder_first (by simp [le_total]) (by simpa using fun _ _ _ => le_trans) sorted f
        (failed.mem_iff.1 hf)
      simpa using le
    refine ⟨_, i, failed, fun f hf => ⟨d, e, c, List.mem_cons_self, first f hf⟩, ?_⟩
    obtain ⟨m, child, stop, finish⟩ := mem_failing.1 (failed.mem_iff.1 List.mem_cons_self)
    have mem : d ∈ ts := by
      obtain ⟨t, ht, same⟩ := List.mem_map.1 (List.mem_of_getElem? child)
      cases same
      exact ht
    have record := records_report (plain d mem) stop finish true true true rfl
    rw [recordsOf_atOnce once, ← record]
    simp [Function.comp_def]

theorem exists_course_atOnce {ts : List (Tasks α)} {start : Rat} {x : Ending α}
    (ends : Ends work (.group true ts) start x)
    (each : ∀ d ∈ ts, ∀ m x, Ends work d m x →
      ∃ y, Ends work d m y ∧ RunsTo name work d m (run name work none m d) y)
    (plain : ∀ d ∈ ts, Plain work d) :
    ∃ children fs lead, Course name work true ts start children fs lead := by
  have ended := ends.exists_child
  obtain ⟨xs, -, runs⟩ := ends_each name fun d hd => by
    obtain ⟨y, hy⟩ := ended d hd
    exact each d hd start y hy
  obtain ⟨e, stop, -⟩ := runs.last
  obtain ⟨fs, lead, failed, first, own⟩ := exists_settled name plain start
  refine ⟨_, fs, lead, fun i d m => ?begun, fun d m hd => ?ends, failed, fun _ => first, ?told⟩
  case begun =>
    rw [begins_atOnce, List.getElem?_map]
    simp [eq_comm]
  case ends =>
    obtain ⟨t, ht, same⟩ := List.mem_map.1 hd
    cases same
    exact ended d ht
  case told =>
    rw [run_parallel, runs.gather_eq stop, Run.told, List.map_append, List.map_flatMap, own,
      runEach_eq_map, List.flatMap_map, List.flatMap_map]
    rfl

/-! ## Any task -/

/-- The first children at the groups of a tree, from that at the root and those in the children. -/
def graft (lead : Nat) (f : Nat → Path → Nat) : Path → Nat
  | [] => lead
  | i :: p => f i p

/-- All records of a run of a task are accounted for. -/
def Recorded (name : α → String) (work : α → Rat → Activity) (t : Tasks α) (start : Rat)
    (first : Path → Nat) : Prop :=
  Leads name work t start first ∧
    Tabulates (Noted name work t start first) (run name work none start t).told

theorem Noted.ne_nil {t : Tasks α} {start : Rat} {first : Path → Nat} {record : Record} :
    ¬ Noted name work t start first [] record := by
  intro h
  obtain ⟨p, i, -, -, -, -, -, empty, -⟩ := h
  simp at empty

theorem recorded_leaf (a : α) (start : Rat) (first : Path → Nat) :
    Recorded name work (.leaf a) start first := by
  have none : ∀ p b ts, (Tasks.leaf a).at? p ≠ some (.group b ts) := by
    intro p b ts
    cases p <;> simp [Tasks.at?]
  refine ⟨fun p ts i d e c group => absurd group (none p true ts), ?_⟩
  rw [run_leaf]
  refine .nil fun q record noted => ?_
  obtain ⟨p, i, b, ts, -, -, -, -, group, -⟩ := noted
  exact none p b ts group

section Course

variable {b : Bool} {ts : List (Tasks α)} {start : Rat} {children : List (Tasks α × Rat)}
  {fs : List (Nat × Tasks α × Rat × Cause)} {lead : Nat}

theorem Course.mem_failed (h : Course name work b ts start children fs lead) {i : Nat}
    {d : Tasks α} {e : Rat} {c : Cause} :
    (i, d, e, c) ∈ fs ↔ FailsAt name work (.group b ts) start [i] d e c := by
  simp only [h.failed.mem_iff, mem_failing, h.begun, FailsAt]

/-- A group knows which of its children has failed first, and they know it of theirs. -/
theorem Course.leads (h : Course name work b ts start children fs lead) {f : Nat → Path → Nat}
    (each : ∀ i d m, children[i]? = some (d, m) → Leads name work d m (f i)) :
    Leads name work (.group b ts) start (graft lead f) := by
  intro p us i d e c group fails
  cases p with
  | nil =>
    obtain ⟨rfl, rfl⟩ : b = true ∧ ts = us := by simpa [Tasks.at?] using group
    obtain ⟨d', e', c', first, le⟩ := h.first rfl _ (h.mem_failed.2 fails)
    exact ⟨d', e', c', h.mem_failed.1 first, le⟩
  | cons k p =>
    obtain ⟨u, m, begins, below⟩ := failsAt_append (p := [k]) (q := p ++ [i]).1 fails
    rw [← List.singleton_append, begins.at?_append] at group
    obtain ⟨d', e', c', first, le⟩ :=
      each k u m ((h.begun k u m).2 begins) p us i d e c group below
    exact ⟨d', e', c', (failsAt_child begins).2 first, le⟩

/-- The records of a group are those of its children and its own. -/
theorem Course.tabulates (h : Course name work b ts start children fs lead) {f : Nat → Path → Nat}
    (each : ∀ i d m, children[i]? = some (d, m) →
      Tabulates (Noted name work d m (f i)) (run name work none m d).told) :
    Tabulates (Noted name work (.group b ts) start (graft lead f))
      (run name work none start (.group b ts)).told := by
  have inside := tabulates_flatMap children (fun i (d, m) => Noted name work d m (f i))
    (fun (d, m) => (run name work none m d).told) fun i (d, m) child => each i d m child
  have own := tabulates_recordsOf name b lead
    ((h.failed.map Prod.fst).nodup_iff.2 (nodup_failing children))
  rw [h.told]
  refine (inside.append own ?_).congr fun q record => ?_
  · intro q record record' inside own
    obtain ⟨i, x, -, u, rfl, noted⟩ := inside
    obtain ⟨j, d, e, c, same, -⟩ := own
    obtain rfl : u = [] := (List.cons.inj same).2
    exact noted.ne_nil
  · rw [noted_group]
    simp only [Prod.exists, h.begun, h.mem_failed]
    rfl

end Course

/-- The records of a task that ends by itself. -/
theorem exists_recorded {t : Tasks α} (forward : Forward work t) (prompt : Prompt work t)
    (plain : Plain work t) {start : Rat} {x : Ending α} (ends : Ends work t start x) :
    ∃ first, Recorded name work t start first := by
  induction t using induct generalizing start x with
  | leaf a => exact ⟨fun _ => 0, recorded_leaf a start _⟩
  | group b ts ih =>
    have plain' : ∀ d ∈ ts, Plain work d := fun d hd => plain.child hd
    have each : ∀ d ∈ ts, ∀ m x, Ends work d m x →
        ∃ y, Ends work d m y ∧ RunsTo name work d m (run name work none m d) y := by
      intro d hd m x ends
      exact (fate_run name (forward.child hd) (prompt.child hd) (by simp)).of_ends ends
    obtain ⟨children, fs, lead, course⟩ :
        ∃ children fs lead, Course name work b ts start children fs lead := by
      cases b with
      | false => exact exists_course_inTurn ends each plain'
      | true => exact exists_course_atOnce ends each plain'
    have firsts : ∀ i : Nat, ∃ first, ∀ d m, children[i]? = some (d, m) →
        Recorded name work d m first := by
      intro i
      cases child : children[i]? with
      | none => exact ⟨fun _ => 0, by simp⟩
      | some u =>
        obtain ⟨d, m⟩ := u
        have mem : d ∈ ts := by
          have node := ((course.begun i d m).1 child).at?
          obtain ⟨d', child', same⟩ := Option.bind_eq_some_iff.1 node
          obtain rfl : d' = d := Option.some.inj same
          exact List.mem_of_getElem? child'
        obtain ⟨x, ends⟩ := course.ends d m (List.mem_of_getElem? child)
        obtain ⟨first, recorded⟩ :=
          ih d mem (forward.child mem) (prompt.child mem) (plain.child mem) ends
        exact ⟨first, by simpa using recorded⟩
    choose f recorded using firsts
    refine ⟨graft lead f, course.leads (f := f) ?_, course.tabulates (f := f) ?_⟩
    · exact fun i d m child => (recorded i d m child).1
    · exact fun i d m child => (recorded i d m child).2

theorem Shows.tabulates {own : Path → Span α → Prop} {spans : List (Span α)}
    (h : Shows own none spans) : Tabulates own spans := by
  obtain ⟨at_, tabulates, sound, complete⟩ := h
  refine tabulates.congr fun q s => ⟨fun hs => ?_, fun hs => ?_⟩
  · obtain ⟨o, ho, -, seen⟩ := sound q s hs
    cases seen
    exact ho
  · obtain ⟨s', hs', seen⟩ := complete q s hs (by simp)
    cases seen
    exact hs'

/-- A leaf that fails is one whose span says so. -/
theorem failsAt_leaf {t : Tasks α} {start e : Rat} {q : Path} {a : α} {c : Cause} :
    FailsAt name work t start q (.leaf a) e c ↔
      ∃ s, Starts work t start q s ∧ s.task = a ∧ s.stop = some e ∧ s.finish = .failed c := by
  constructor
  · intro h
    obtain ⟨m, begins, stop, finish⟩ := h
    rw [run_leaf] at stop finish
    exact ⟨_, ⟨a, m, begins, rfl⟩, rfl, stop, finish⟩
  · intro h
    obtain ⟨s, ⟨a, m, begins, rfl⟩, rfl, stop, finish⟩ := h
    exact ⟨m, begins, by rw [run_leaf]; exact ⟨stop, finish⟩⟩

/-- A leaf in a group that fails has a record. -/
theorem exists_noted {b : Bool} {ts : List (Tasks α)} {start e : Rat} {q : Path} {a : α}
    {c : Cause} (fails : FailsAt name work (.group b ts) start q (.leaf a) e c)
    (first : Path → Nat) :
    ∃ record, Noted name work (.group b ts) start first q record := by
  cases q using List.reverseRecOn with
  | nil => cases (failsAt_nil.1 fails).1
  | append_singleton p i =>
    obtain ⟨g, m, begins, below⟩ := failsAt_append.1 fails
    obtain ⟨n, child, -⟩ := below
    have told : ∀ b first, ∃ record, recordOf? name b first (.leaf a) e c = some record := by
      intro b first
      rw [recordOf?]
      split <;> exact ⟨_, rfl⟩
    cases g with
    | leaf a => cases child
    | group b' us =>
      obtain ⟨record, hr⟩ := told b' (i == first p)
      exact ⟨record, p, i, b', us, .leaf a, e, c, rfl, begins.at?, fails, hr⟩

/-- Of the leaves in a group that have ended, those that have failed have records. -/
theorem exists_noted_iff {b : Bool} {ts : List (Tasks α)} {start e : Rat} {q : Path} {s : Span α}
    (starts : Starts work (.group b ts) start q s) (stop : s.stop = some e)
    (first : Path → Nat) :
    (∃ record, Noted name work (.group b ts) start first q record) ↔ ∃ c, s.finish = .failed c := by
  constructor
  · intro h
    obtain ⟨record, -, -, -, -, d, e, c, -, -, fails, -⟩ := h
    obtain ⟨a, m, begins, rfl⟩ := starts
    obtain ⟨m', begins', -, finish⟩ := fails
    obtain ⟨rfl, rfl⟩ := begins.unique begins'
    rw [run_leaf] at finish
    exact ⟨c, finish⟩
  · intro h
    obtain ⟨c, finish⟩ := h
    exact exists_noted (failsAt_leaf.2 ⟨s, starts, rfl, stop, finish⟩) first

variable (name) in
/-- **Records of failures.** If a tree of tasks, in which no leaf raises a failure of a task itself,
ends without being cancelled, its records account for its failures: every leaf that fails has
exactly one, as has every group that fails at once with another child that has failed before it, and
nothing else has one. -/
theorem run_account {b : Bool} {ts : List (Tasks α)} {limit : Option Rat} {start : Rat}
    (forward : Forward work (.group b ts)) (prompt : Prompt work (.group b ts))
    (started : ∀ l, limit = some l → start ≤ l)
    (plain : Plain work (.group b ts))
    (stop : (run name work limit start (.group b ts)).stop ≠ none)
    (kept : (run name work limit start (.group b ts)).finish ≠ .cancelled) :
    ∃ leaves first entries, Account name work (.group b ts) start
      (run name work limit start (.group b ts)) leaves first entries := by
  cases fate_run name forward prompt started with
  | cancelled _ _ _ finish _ => exact absurd finish kept
  | endless _ _ _ never _ => exact absurd never stop
  | ended ends _ same runs shows =>
    rw [same]
    obtain ⟨leaves, spans, once, mem⟩ := shows.tabulates
    obtain ⟨first, earliest, entries, told, single, noted⟩ :=
      exists_recorded forward prompt plain ends
    refine ⟨leaves, first, entries, spans, once, ?failed, earliest, ?records, single, noted, ?told⟩
    case failed =>
      intro q a e c
      simp only [failsAt_leaf, mem]
    case records =>
      rw [told]
      exact (inOrder_perm _).symm
    case told =>
      intro q s hs
      obtain ⟨-, e, stop, -⟩ := runs.within s (spans ▸ List.mem_map.2 ⟨(q, s), hs, rfl⟩)
      simp only [noted]
      exact exists_noted_iff ((mem q s).1 hs) stop first

/-- Of three children at once, a leaf fails first, then a group in which one of two leaves has
failed, and the other one as well, and between them a leaf fails that stands behind another. -/
theorem run_account_nested :
    let work : String × Rat × Bool → Rat → Activity := fun a start =>
      ⟨some (start + a.2.1), if a.2.2 then .failed (.provider a.1) else .done, false⟩
    let pair : Tasks (String × Rat × Bool) :=
      .group true [.leaf ("second", 4, true), .leaf ("first", 2, true)]
    let row : Tasks (String × Rat × Bool) :=
      .group false [.leaf ("before", 1, false), .leaf ("behind", 2, true)]
    let ts : List (Tasks (String × Rat × Bool)) := [pair, row, .leaf ("early", 1, true)]
    let r := run Prod.fst work (some 9) 0 (.group true ts)
    (Forward work (.group true ts) ∧ Prompt work (.group true ts) ∧
      (∀ l, some (9 : Rat) = some l → 0 ≤ l) ∧
      Plain work (.group true ts) ∧ r.stop ≠ none ∧ r.finish ≠ .cancelled) ∧
    r.records.map (fun record => (record.time, record.level, record.fields.lookup "task"))
      = [(1, .error, some (.text "early")), (2, .error, some (.text "first")),
        (3, .error, some (.text "behind")),
        (3, .warning, some (.text "2 sequential tasks: \x7b before, behind \x7d")),
        (4, .warning, some (.text "second")),
        (4, .warning, some (.text "2 parallel tasks: \x7b second, first \x7d"))] ∧
    ∃ leaves first entries, Account Prod.fst work (.group true ts) 0 r leaves first entries := by
  intro work pair row ts r
  have later : ∀ a ∈ (group true ts).leaves, 0 ≤ a.2.1 := by decide +kernel
  have forward : Forward work (.group true ts) := by
    intro a ha start e stop
    obtain rfl := Option.some.inj stop
    simpa using later a ha
  have prompt : Prompt work (.group true ts) := fun a _ start instant => by cases instant
  have started : ∀ l, some (9 : Rat) = some l → 0 ≤ l := by
    intro l hl
    obtain rfl := Option.some.inj hl
    decide +kernel
  have plain : Plain work (.group true ts) := by
    intro a _ start c hc
    simp only [work] at hc
    split at hc <;> cases hc
    rfl
  have stop : r.stop ≠ none := by decide +kernel
  have kept : r.finish ≠ .cancelled := by decide +kernel
  exact ⟨⟨forward, prompt, started, plain, stop, kept⟩, by decide +kernel,
    run_account Prod.fst forward prompt started plain stop kept⟩

end ClusterOps.Tasks

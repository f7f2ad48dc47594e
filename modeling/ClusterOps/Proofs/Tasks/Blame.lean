import ClusterOps.Proofs.Tasks.Fate

/-
Where a failure comes from. Whatever hangs or is cancelled elsewhere in a tree, and whether or not
there is a limit: a run that fails does so with the failure of a leaf that has run to its own end
(`exists_blames`). On its way up the failure is wrapped once, by the innermost group, and so the
cause of the leaf is found inside it (`unwrapped_raised`).
-/

namespace ClusterOps.Tasks

variable {α : Type} {name : α → String} {work : α → Rat → Activity}

/-- A run of a task fails with the failure of a leaf, which has run as it does by itself. -/
structure Blames (name : α → String) (work : α → Rat → Activity) (t : Tasks α) (r : Run α)
    (b : Fault α) : Prop where
  leaf : b.leaf ∈ t.leaves
  failed : r.finish = .failed (t.raised name b)
  ran : ∃ m, ownSpan work b.leaf m ∈ r.spans ∧ (work b.leaf m).finish = .failed b.cause

/-- What is inside the failure of a task is what is inside the failure of the leaf. -/
theorem unwrapped_raised (t : Tasks α) (b : Fault α) :
    (t.raised name b).unwrapped = b.cause.unwrapped := by
  cases t with
  | leaf a => rfl
  | group p ts =>
    rw [raised, Fault.reported]
    split
    case isTrue => rfl
    case isFalse plain =>
      cases cause : b.cause with
      | taskFailure task inner => simp [cause, Cause.isTaskFailure] at plain
      | _ => rfl

theorem blames_leaf {a : α} {limit : Option Rat} {start : Rat} {c : Cause}
    (finish : (run name work limit start (.leaf a)).finish = .failed c) :
    ∃ b, Blames name work (.leaf a) (run name work limit start (.leaf a)) b := by
  rw [run, runLeaf] at finish ⊢
  split at finish
  case h_1 => cases finish
  case h_2 =>
    exact ⟨⟨a, c⟩, by simp [leaves], finish, start, List.mem_singleton.2 rfl, finish⟩

/-- Children one after the other fail as the first of them that fails. -/
theorem blames_inTurn {ts : List (Tasks α)} {limit : Option Rat}
    (each : ∀ t ∈ ts, ∀ start e c, (run name work limit start t).stop = some e →
      (run name work limit start t).finish = .failed c →
      ∃ b, Blames name work t (run name work limit start t) b)
    {start e : Rat} {c : Cause} (stop : (runInTurn name work limit start ts).stop = some e)
    (finish : (runInTurn name work limit start ts).finish = .failed c) :
    ∃ b, Blames name work (.group false ts) (runInTurn name work limit start ts) b := by
  induction ts generalizing start with
  | nil =>
    rw [runInTurn] at finish
    cases finish
  | cons t ts ih =>
    have broken : (run name work limit start t).stop = none ∨
        (run name work limit start t).finish = .cancelled →
        runInTurn name work limit start (t :: ts) = run name work limit start t := by
      rw [← run_serial]
      exact runInTurn_broken ts
    cases stop' : (run name work limit start t).stop with
    | none =>
      rw [broken (.inl stop')] at stop
      cases stop'.symm.trans stop
    | some e' =>
      cases finish' : (run name work limit start t).finish with
      | cancelled =>
        rw [broken (.inr finish')] at finish
        cases finish'.symm.trans finish
      | failed c' =>
        obtain ⟨b, leaf, failed, ran⟩ := each t List.mem_cons_self start e' c' stop' finish'
        obtain rfl := Finish.failed.inj (finish'.symm.trans failed)
        rw [runInTurn_failed stop' finish']
        exact ⟨b, mem_leaves_group.2 ⟨t, List.mem_cons_self, leaf⟩,
          congrArg Finish.failed (report_raised leaf ..), ran⟩
      | done =>
        rw [runInTurn_done stop' finish'] at stop finish ⊢
        obtain ⟨b, leaf, failed, m, ran, own⟩ :=
          ih (fun u hu => each u (List.mem_cons_of_mem _ hu)) stop finish
        obtain ⟨u, hu, leaf⟩ := mem_leaves_group.1 leaf
        exact ⟨b, mem_leaves_group.2 ⟨u, List.mem_cons_of_mem _ hu, leaf⟩, failed, m,
          List.mem_append_right _ ran, own⟩

/-- Children at once fail as one of those that fail. -/
theorem blames_atOnce {ts : List (Tasks α)} {start : Rat} {limit : Option Rat} {c : Cause}
    (each : ∀ t ∈ ts, ∀ e c, (run name work none start t).stop = some e →
      (run name work none start t).finish = .failed c →
      ∃ b, Blames name work t (run name work none start t) b)
    (finish : (gather name limit start (runEach name work start ts)).finish = .failed c) :
    ∃ b, Blames name work (.group true ts)
      (gather name limit start (runEach name work start ts)) b := by
  cases cut : cutTime limit start (runEach name work start ts) with
  | some d =>
    rw [gather_cut cut] at finish
    cases finish
  | none =>
    rw [gather_whole cut] at finish ⊢
    cases failing : failures (runEach name work start ts) with
    | nil =>
      rw [together, settle, failing] at finish
      cases finish
    | cons f rest =>
      obtain ⟨t, e, c'⟩ := f
      obtain ⟨r, hr, stop', finish'⟩ := mem_failures.1 (failing ▸ List.mem_cons_self :
        (t, e, c') ∈ failures (runEach name work start ts))
      obtain ⟨ht, rfl⟩ := mem_runEach.1 hr
      obtain ⟨b, leaf, failed, m, ran, own⟩ := each t ht e c' stop' finish'
      obtain rfl := Finish.failed.inj (finish'.symm.trans failed)
      refine ⟨b, mem_leaves_group.2 ⟨t, ht, leaf⟩, ?_, m,
        List.mem_flatMap.2 ⟨_, hr, ran⟩, own⟩
      rw [together, settle, failing]
      exact congrArg Finish.failed (report_raised leaf ..)

/-- A task that fails at some time fails with the failure of a leaf. -/
theorem exists_blames {t : Tasks α} {limit : Option Rat} {start e : Rat} {c : Cause}
    (stop : (run name work limit start t).stop = some e)
    (finish : (run name work limit start t).finish = .failed c) :
    ∃ b, Blames name work t (run name work limit start t) b := by
  induction t using induct generalizing limit start e c with
  | leaf a => exact blames_leaf finish
  | group p ts ih =>
    cases p with
    | false =>
      rw [run_serial] at stop finish ⊢
      exact blames_inTurn (fun t ht _ _ _ => ih t ht) stop finish
    | true =>
      cases ts with
      | nil =>
        rw [run] at finish
        cases finish
      | cons t ts =>
        have gathers : run name work limit start (.group true (t :: ts))
            = gather name limit start (runEach name work start (t :: ts)) := by
          rw [run, runEach]
        rw [gathers] at finish ⊢
        exact blames_atOnce (fun t ht _ _ => ih t ht) finish

end ClusterOps.Tasks

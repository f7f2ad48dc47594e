import ClusterOps.Proofs.Wait.Verdict

/-
When a wait times out, and what becomes of the answers to its calls. An answer in time that
settles the wait is its end (`Course.of_answer`), so what a call raises is passed on. A wait
that no answer ends is ended by the timer, and on the exact clock the timer runs out at the
deadline (`Course.expired_or_answered`, by induction on the course of the wait).

A call can also end itself, and the wait takes that for a call that the timer has cut off.
So a wait that times out has used up its time, unless a call has ended itself or has raised
a timeout of its own (`run_timeout_due`).
-/

namespace ClusterOps.Wait

variable {σ : Type} {w : Wait} {clock : Clock}

/-- No status settles a wait as timed out. -/
theorem Settles.eq_raised {report : Report} {resource : String} {elapsed : Rat}
    (h : Settles w report (.failed (.operationTimeout resource elapsed))) :
    report = .raised (.operationTimeout resource elapsed) := by
  cases h
  rfl

/-- On the exact clock a wait ends at its deadline because its time is over, or with an answer to
one of its calls. -/
theorem Course.expired_or_answered {poll : σ → Rat → Call × σ} {start deadline now stop : Rat}
    {source last : σ} {asked : List Asked} {r : Result}
    (h : Course w .exact poll start deadline source now asked last stop r) (hi : 0 < w.interval)
    (hn : now ≤ deadline) :
    (stop = deadline ∧ r = w.expiry .exact start stop) ∨
      ∃ a ∈ asked, a.InTime .exact deadline stop ∧
        (a.call.report = .cancelled ∨ Settles w a.call.report r) := by
  induction h with
  | expired expires => exact .inl ⟨(expires_exact hn hi expires).1, rfl⟩
  | late => exact .inl ⟨cutoff_exact .., rfl⟩
  | withdrawn _ _ hit withdrawn => exact .inr ⟨_, List.mem_singleton_self _, hit, .inl withdrawn⟩
  | settled _ _ hit settles => exact .inr ⟨_, List.mem_singleton_self _, hit, .inr settles⟩
  | pending _ _ hit _ _ _ ih =>
    obtain ⟨_, -, -, inTime⟩ := inTime_exact.1 hit
    rcases ih inTime with expired | ⟨a, made, answered⟩
    · exact .inl expired
    · exact .inr ⟨a, List.mem_cons_of_mem _ made, answered⟩

namespace Script

variable {script : Script}

/-- The calls of a wait on a script are those of the script, in its order. -/
theorem call_of_course {start deadline now stop : Rat} {k last : Nat} {asked : List Asked}
    {r : Result} (h : Course w clock script.poll start deadline k now asked last stop r) {n : Nat}
    {a : Asked} (made : asked[n]? = some a) : a.call = script (k + n) := by
  induction h generalizing n with
  | expired => simp at made
  | late _ polled | withdrawn _ polled | settled _ polled =>
    obtain ⟨rfl, rfl⟩ := Prod.mk.inj polled
    cases n with
    | zero =>
      obtain rfl := Option.some.inj made
      rfl
    | succ n => simp at made
  | pending _ polled _ _ _ _ ih =>
    obtain ⟨rfl, rfl⟩ := Prod.mk.inj polled
    cases n with
    | zero =>
      obtain rfl := Option.some.inj made
      rfl
    | succ n =>
      rw [ih (by simpa using made), Nat.add_right_comm, Nat.add_assoc]

/-- A call that was made is answered at a time, no later than at the deadline. -/
def Answered (script : Script) (calls : List Rat) (deadline : Rat) (n : Nat) (t : Rat) : Prop :=
  ∃ time d, calls[n]? = some time ∧ (script n).delay = some d ∧ t = time + d ∧ t ≤ deadline

/-- The answers to the calls of a course are those of the script. -/
theorem answered_iff {start deadline now stop t : Rat} {last n : Nat} {asked : List Asked}
    {r : Result} (h : Course w .exact script.poll start deadline 0 now asked last stop r) :
    script.Answered (asked.map Asked.time) deadline n t ↔
      ∃ a, asked[n]? = some a ∧ a.call = script n ∧ a.InTime .exact deadline t := by
  constructor
  · intro answered
    obtain ⟨time, d, made, delay, rfl, inTime⟩ := answered
    rw [List.getElem?_map, Option.map_eq_some_iff] at made
    obtain ⟨a, made, rfl⟩ := made
    have call : a.call = script n := by simpa using call_of_course h made
    exact ⟨a, made, call, inTime_exact.2 ⟨d, call ▸ delay, rfl, inTime⟩⟩
  · intro answered
    obtain ⟨a, made, call, hit⟩ := answered
    obtain ⟨d, delay, rfl, inTime⟩ := inTime_exact.1 hit
    exact ⟨a.time, d, by simp [made], call ▸ delay, rfl, inTime⟩

end Script

/-- **When a wait times out, and that nothing raised is lost.** On the exact clock every wait on a
script ends. If a call raises something no later than at the deadline, the wait ends with just that
and at that time. If the wait times out, it does so at the deadline and with all of its time
elapsed, unless a call has ended itself or has raised the timeout. A call that ends itself before
the deadline makes the wait time out then. -/
theorem run_timeout_due (w : Wait) (script : Script) (now : Rat) (hi : 0 < w.interval)
    (hw : 0 < w.timeout) (ht : script.Timely) :
    let s := w.run .exact script.poll 0 now
    let deadline := now + w.timeout
    s.isOver = true ∧
      (∀ n t c, script.Answered s.calls deadline n t → (script n).report = .raised c →
        s.result? = some (.failed c) ∧ s.now = t) ∧
      (∀ resource elapsed, s.result? = some (.failed (.operationTimeout resource elapsed)) →
        s.now = deadline ∧ elapsed = w.timeout ∨
        ∃ n, script.Answered s.calls deadline n s.now ∧ ((script n).report = .cancelled ∨
          (script n).report = .raised (.operationTimeout resource elapsed))) ∧
      ∀ n t, script.Answered s.calls deadline n t → (script n).report = .cancelled →
        s.result? = some (.failed (.operationTimeout w.resource (t - now))) ∧ s.now = t := by
  intro s deadline
  have ended : s.isOver = true := isOver_run hi (fun k _ d hd => ht k d hd) 0 now
  obtain ⟨r, result⟩ := State.exists_result ended
  obtain ⟨asked, course, calls⟩ := course_of_run result
  rw [Clock.later_exact] at course
  have answers {n t} : script.Answered s.calls deadline n t ↔
      ∃ a, asked[n]? = some a ∧ a.call = script n ∧ a.InTime .exact deadline t := by
    rw [calls]
    exact Script.answered_iff course
  refine ⟨ended, ?_, ?_, ?_⟩
  · intro n t c answered raised
    obtain ⟨a, made, call, hit⟩ := answers.1 answered
    obtain ⟨rfl, stop⟩ := (course.of_answer (List.mem_of_getElem? made) hit).1 (.failed c)
      (by rw [call, raised]; exact .raised)
    exact ⟨result, stop⟩
  · intro resource elapsed timedOut
    obtain rfl := Option.some.inj (result.symm.trans timedOut)
    rcases course.expired_or_answered hi (by linarith) with ⟨stop, expired⟩ | ⟨a, made, hit, answer⟩
    · simp only [expiry, Result.failed.injEq, Cause.operationTimeout.injEq, Clock.span_exact,
        stop, add_sub_cancel_left] at expired
      exact .inl ⟨stop, expired.2⟩
    · obtain ⟨n, made⟩ := List.mem_iff_getElem?.1 made
      have call : a.call = script n := by simpa using Script.call_of_course course made
      refine .inr ⟨n, answers.2 ⟨a, made, call, hit⟩, ?_⟩
      rw [← call]
      exact answer.imp_right Settles.eq_raised
  · intro n t answered withdrawn
    obtain ⟨a, made, call, hit⟩ := answers.1 answered
    obtain ⟨rfl, stop⟩ := (course.of_answer (List.mem_of_getElem? made) hit).2 (call ▸ withdrawn)
    exact ⟨result, stop⟩

/-- What the second call raises together with the deadline is passed on. -/
theorem run_timeout_due_of_raised :
    let w : Wait := ⟨10, 25, .text "Successful", [.text "Failed"], "demo", .text "u-1", none⟩
    let script : Script := fun n =>
      if n = 0 then ⟨some 0, .status (.text "InProgress")⟩
      else ⟨some 5, .raised (.provider "no connection")⟩
    let s := w.run .exact script.poll 0 3
    (0 < w.interval ∧ 0 < w.timeout ∧ script.Timely ∧ script.Answered s.calls 28 1 28) ∧
      s.result? = some (.failed (.provider "no connection")) ∧ s.now = 28 := by
  intro w script s
  have hi : 0 < w.interval := by decide
  have hw : 0 < w.timeout := by decide
  have ht : script.Timely := by
    intro n d h
    simp only [script] at h
    split at h <;> simp only [Option.some.injEq] at h <;> subst h <;> decide
  have answered : script.Answered s.calls 28 1 28 :=
    ⟨23, 5, by decide +kernel, rfl, by decide +kernel, le_refl _⟩
  have deadline : (3 : Rat) + w.timeout = 28 := by decide +kernel
  exact ⟨⟨hi, hw, ht, answered⟩,
    (run_timeout_due w script 3 hi hw ht).2.1 1 28 _ (deadline ▸ answered) rfl⟩

/-- A call that ends itself makes a wait time out long before its deadline. -/
theorem run_timeout_premature :
    let w : Wait := ⟨10, 100, .text "Successful", [.text "Failed"], "demo", .text "u-1", none⟩
    let script : Script := fun _ => ⟨some 0, .cancelled⟩
    let s := w.run .exact script.poll 0 0
    (0 < w.interval ∧ 0 < w.timeout ∧ script.Timely) ∧
      s.result? = some (.failed (.operationTimeout "demo" 10)) ∧ s.now = 10 ∧
      s.now < 0 + w.timeout := by
  intro w script s
  refine ⟨⟨by decide, by decide, ?_⟩, by decide +kernel, by decide +kernel, by decide +kernel⟩
  intro n d h
  obtain rfl := Option.some.inj h
  exact le_refl _

end ClusterOps.Wait

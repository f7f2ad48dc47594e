import ClusterOps.Proofs.Clock.Steady
import ClusterOps.Proofs.Wait.Course

/-
Whether a wait comes to ask at all. Its first rest is cut short at the deadline,
and at the deadline nothing is asked any more, so an interval as long as the
timeout leaves no time for a call. A second between the two is enough on a fine
clock (`exists_calls`): a few times are computed up to the first call, and each of
them is moved by an eighth of a second at most. If the answer to that call comes
in time and settles the wait, it is the only one (`ended_run_of_settles`).
Without time for a call the wait ends with none (`ended_run_of_expires`).
-/

namespace ClusterOps.Wait

variable {σ : Type} {w : Wait} {clock : Clock} {poll : σ → Rat → Call × σ}

theorem exists_calls {limit now : Rat} (fine : clock.Fine limit) (positive : 0 ≤ w.interval)
    (room : w.interval + 1 ≤ w.timeout) (reach : |now| + w.timeout + 1 ≤ limit) :
    ∃ time, Calls w clock (clock.later now w.timeout) now time ∧
      time ≤ cutoff clock (clock.later now w.timeout) time := by
  obtain ⟨below, above⟩ := abs_le.1 (show |now| ≤ limit - w.timeout - 1 by linarith)
  set deadline := clock.later now w.timeout
  obtain ⟨le_deadline, deadline_le⟩ : now + w.timeout - 1 / 8 ≤ deadline ∧ _ :=
    fine.later _ _ (by linarith) (by linarith)
  obtain ⟨le_left, -⟩ := fine.span now deadline (by linarith) (by linarith)
  -- A quarter of a second is lost at most, so the rest is the whole interval.
  have woken : w.wake clock deadline now = clock.later now w.interval := by
    rw [wake, Clock.least, if_pos (by linarith)]
  obtain ⟨le_wake, wake_le⟩ := fine.later now w.interval (by linarith) (by linarith)
  rw [← woken] at le_wake wake_le
  set time := w.wake clock deadline now
  obtain ⟨le_left', left_le'⟩ := fine.span time deadline (by linarith) (by linarith)
  have le_cutoff : time + clock.span time deadline - 1 / 8 ≤ cutoff clock deadline time :=
    (fine.later _ _ (by linarith) (by linarith)).1
  exact ⟨time, ⟨by linarith, rfl, by linarith⟩, by linarith⟩

theorem ended_run_of_expires {source : σ} {now stop : Rat}
    (h : Expires w clock (clock.later now w.timeout) now stop) :
    Ended (w.run clock poll source now) [] source stop (w.expiry clock now stop) := by
  obtain ⟨s, hs, begins⟩ := begin_eq w clock source now
  obtain ⟨hstart, hdeadline, hcalls, rfl, rfl⟩ := hs
  have enough : w.bound = (w.bound - 1) + 1 := by
    unfold bound
    omega
  rw [← hdeadline] at h
  rw [run, begins, ← hstart, ← hcalls]
  cases h with
  | before late =>
    have ended := ended_rest (w := w) late
    rw [steps_over ended.isOver]
    exact ended
  | after early late =>
    have ended : Ended (w.step clock poll (w.rest clock s)) s.calls s.source _ _ :=
      ended_step_rest early late
    rw [enough, steps, if_neg (by simp [isOver_rest early]), steps_over ended.isOver]
    exact ended

/-- A first call that is answered in time and settles the wait is its only call. -/
theorem ended_run_of_settles {source next : σ} {now time t : Rat} {call : Call} {r : Result}
    (hc : Calls w clock (clock.later now w.timeout) now time)
    (hp : poll source time = (call, next))
    (hit : Asked.InTime clock (clock.later now w.timeout) ⟨time, call⟩ t)
    (hr : Settles w call.report r) :
    Ended (w.run clock poll source now) [time] next t r := by
  obtain ⟨s, hs, begins⟩ := begin_eq w clock source now
  obtain ⟨-, hdeadline, hcalls, rfl, rfl⟩ := hs
  rw [← hdeadline] at hc hit
  have asking := asking_step_rest hc hp
  obtain ⟨s', hs', step⟩ := asking.step_inTime w poll hit
  have ended : Ended (w.take clock call.report s') (s.calls ++ [time]) next t r :=
    ended_take_settles hs' hr
  have leads : Leads w clock poll (w.rest clock s) 2 (w.take clock call.report s') :=
    .step (isOver_rest hc.early) (.step asking.isOver (step ▸ .refl _))
  have enough : w.bound = (w.bound - 2) + 2 := by
    unfold bound
    omega
  rw [run, begins, enough, leads.steps, steps_over ended.isOver]
  simpa [hcalls] using ended

end ClusterOps.Wait

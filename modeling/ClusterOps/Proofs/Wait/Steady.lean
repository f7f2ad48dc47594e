import ClusterOps.Proofs.Clock.Steady
import ClusterOps.Proofs.Wait.Course

/-
Every wait ends on a clock that rounds, if the clock is steady up to the times that
come up. A round uses up half of an interval at least, as long as its rest is a
whole one (`progress`). A rest that is cut short leads to a time so near to the
deadline that the clock takes the one from the other exactly, and then there is
one more round at most, whose rest ends at the deadline itself (`not_calls_of_near`).
-/

namespace ClusterOps.Wait

variable {σ : Type} {w : Wait} {clock : Clock} {poll : σ → Rat → Call × σ}
  {limit within deadline now : Rat}

/-- A time of the clock, not far before the deadline. -/
structure Near (w : Wait) (clock : Clock) (deadline t : Rat) : Prop where
  own : clock.round t = t
  half : deadline ≤ 2 * t
  short : deadline - t ≤ w.interval

theorem not_calls_of_near (steady : clock.Steady limit) (own : clock.round deadline = deadline)
    (reach : deadline ≤ limit) (near : Near w clock deadline now) (time : Rat) :
    ¬ Calls w clock deadline now time := by
  intro h
  obtain ⟨early, rfl, left⟩ := h
  have before : now < deadline := by
    by_contra late
    exact absurd early (not_lt.2 (steady.nonpos _ (by linarith)))
  have exact : clock.span now deadline = deadline - now :=
    steady.near now deadline near.own own before.le near.half reach
  have rest : Clock.least w.interval (deadline - now) = deadline - now := by
    rw [Clock.least]
    split
    · exact le_antisymm ‹_› near.short
    · rfl
  have woken : w.wake clock deadline now = deadline := by
    rw [wake, exact, rest, Clock.later, add_sub_cancel, own]
  rw [woken, Clock.span, sub_self, steady.round_zero] at left
  exact lt_irrefl 0 left

/-- An answer is there at a time of the clock, an eighth of a second before it was asked for at the
earliest. -/
theorem arrival_of_inTime (steady : clock.Steady limit) {time t d : Rat} {call : Call}
    (own : clock.round time = time) (hit : Asked.InTime clock deadline ⟨time, call⟩ t)
    (delay : call.delay = some d) (soon : 0 ≤ time) (positive : 0 ≤ d)
    (reach : time + d ≤ limit) :
    clock.round t = t ∧ 0 ≤ t ∧ time - 1 / 8 ≤ t := by
  have arrives : (if d = 0 then time else clock.later time d) = t := by
    have arrival : Asked.arrival? clock ⟨time, call⟩ = some t := hit.1
    rw [Asked.arrival?, delay] at arrival
    exact Option.some.inj arrival
  split at arrives
  · subst arrives
    exact ⟨own, soon, by linarith⟩
  · subst arrives
    have close := steady.fine.later time d (by linarith) reach
    refine ⟨steady.again _ (abs_le.2 ⟨by linarith, reach⟩), steady.nonneg _ (by linarith), ?_⟩
    linarith [close.1]

theorem progress (steady : clock.Steady limit) (hi : 1 ≤ w.interval) (soon : 0 ≤ now)
    (some_time : 3 / 4 ≤ deadline) (reach : deadline + within + 1 ≤ limit) {time t d : Rat}
    {call : Call} (hc : Calls w clock deadline now time)
    (hit : Asked.InTime clock deadline ⟨time, call⟩ t) (delay : call.delay = some d)
    (positive : 0 ≤ d) (bounded : d ≤ within) :
    0 ≤ t ∧ (now + w.interval / 2 ≤ t ∨ Near w clock deadline t) := by
  obtain ⟨early, woken, left⟩ := hc
  have before : now < deadline := by
    by_contra late
    exact absurd early (not_lt.2 (steady.nonpos _ (by linarith)))
  obtain ⟨le_span, span_le⟩ := steady.fine.span now deadline (by linarith)
    (by linarith)
  rw [wake, Clock.least] at woken
  split at woken
  case isTrue whole =>
    obtain ⟨le_time, time_le⟩ : now + w.interval - 1 / 8 ≤ time ∧ time ≤ _ :=
      woken ▸ steady.fine.later _ _ (by linarith) (by linarith)
    have own : clock.round time = time :=
      woken ▸ steady.again _ (abs_le.2 ⟨by linarith, by linarith⟩)
    obtain ⟨-, positive', le_t⟩ := arrival_of_inTime steady own hit delay (by linarith) positive
      (by linarith)
    exact ⟨positive', .inl (by linarith)⟩
  case isFalse cut =>
    obtain ⟨le_time, time_le⟩ : now + clock.span now deadline - 1 / 8 ≤ time ∧ time ≤ _ :=
      woken ▸ steady.fine.later _ _ (by linarith) (by linarith)
    have own : clock.round time = time :=
      woken ▸ steady.again _ (abs_le.2 ⟨by linarith, by linarith⟩)
    obtain ⟨own', positive', le_t⟩ := arrival_of_inTime steady own hit delay (by linarith) positive
      (by linarith)
    exact ⟨positive', .inr ⟨own', by linarith, by linarith⟩⟩

theorem isOver_of_steps_steady (steady : clock.Steady limit) (hi : 1 ≤ w.interval)
    (hd : ∀ source t d, (poll source t).1.delay = some d → 0 ≤ d ∧ d ≤ within)
    (own : clock.round deadline = deadline) (some_time : 3 / 4 ≤ deadline) (hw : 0 ≤ within)
    (reach : deadline + within + 1 ≤ limit) :
    ∀ (n fuel : Nat) (s : State σ), s.deadline = deadline → 0 ≤ s.now →
      deadline - s.now ≤ n * (w.interval / 2) → 2 * n + 2 ≤ fuel →
      (w.steps clock poll fuel (w.rest clock s)).isOver = true := by
  intro n
  induction n with
  | zero =>
    intro fuel s hdeadline _ hs _
    have late : clock.span s.now s.deadline ≤ 0 :=
      steady.nonpos _ (by rw [hdeadline]; simpa using hs)
    have ended := ended_rest (w := w) late
    rw [steps_over ended.isOver]
    exact ended.isOver
  | succ n ih =>
    intro fuel s hdeadline soon hs hf
    rcases endsIn_or_goesOn w clock poll s with ends |
      ⟨s', time, call, next, t, leads, hc, hp, hit, -, -, rest⟩
    · exact ends.isOver (by omega)
    obtain ⟨fuel, rfl⟩ := Nat.exists_eq_add_of_le' (show 2 ≤ fuel by omega)
    rw [leads.steps]
    obtain ⟨d, delay, -⟩ := Option.map_eq_some_iff.1 hit.1
    obtain ⟨positive, bounded⟩ := hd s.source time d (by rw [hp]; exact delay)
    rw [hdeadline] at hc hit
    obtain ⟨soon', far | near⟩ :=
      progress steady hi soon some_time reach hc hit delay positive bounded
    · refine ih fuel s' (rest.deadline.trans hdeadline) (rest.now ▸ soon') ?_ (by omega)
      push_cast at hs
      rw [rest.now]
      linarith
    · rcases endsIn_or_goesOn w clock poll s' with ends | ⟨_, time', _, _, _, -, hc', -⟩
      · exact ends.isOver (by omega)
      · rw [rest.deadline, hdeadline, rest.now] at hc'
        exact absurd hc' (not_calls_of_near steady own (by linarith) near time')

/-- **Every wait ends.** The steps that a wait is given are enough on a steady clock too. -/
theorem isOver_run_of_steady (steady : clock.Steady limit) (hi : 1 ≤ w.interval)
    (ht : 1 ≤ w.timeout)
    (hd : ∀ source t d, (poll source t).1.delay = some d → 0 ≤ d ∧ d ≤ within) (hw : 0 ≤ within)
    (soon : 0 ≤ now) (reach : now + w.timeout + within + 2 ≤ limit) (source : σ) :
    (w.run clock poll source now).isOver = true := by
  obtain ⟨s, hs, begins⟩ := begin_eq w clock source now
  obtain ⟨le_deadline, deadline_le⟩ := steady.fine.later now w.timeout
    (by linarith) (by linarith)
  have own : clock.round (clock.later now w.timeout) = clock.later now w.timeout :=
    steady.again _ (abs_le.2 ⟨by linarith, by linarith⟩)
  rw [run, begins]
  refine isOver_of_steps_steady steady hi hd own (by linarith) hw (by linarith)
    (2 * (w.timeout / w.interval).ceil.toNat + 1) _ s hs.deadline (hs.now ▸ soon) ?_
    (by unfold bound; omega)
  have rounds : w.timeout / w.interval ≤ ((w.timeout / w.interval).ceil.toNat : Rat) := by
    refine Rat.le_ceil.trans ?_
    exact_mod_cast Int.self_le_toNat _
  rw [div_le_iff₀ (by linarith)] at rounds
  rw [hs.now]
  push_cast
  linarith

end ClusterOps.Wait

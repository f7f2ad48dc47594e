import ClusterOps.Proofs.Wait.Course

/-
The rounds of a wait on the exact clock: a call is made an interval after the
beginning of its round, a wait without time for another call ends at the
deadline, and an answer is in time up to the deadline itself. Each round that
does not end the wait uses up an interval, so every wait ends (`isOver_run`).
-/

namespace ClusterOps.Wait

variable {σ : Type} {w : Wait} {now deadline : Rat}

variable (w now deadline) in
/-- A rest lasts an interval, or to the deadline if that is nearer. -/
theorem wake_exact : w.wake .exact deadline now = now + w.interval ∧ now + w.interval ≤ deadline ∨
    w.wake .exact deadline now = deadline ∧ deadline < now + w.interval := by
  rw [wake, Clock.later_exact, Clock.span_exact, Clock.least]
  by_cases h : w.interval ≤ deadline - now
  · rw [if_pos h]
    exact .inl ⟨rfl, by linarith⟩
  · rw [if_neg h]
    exact .inr ⟨by linarith, by linarith⟩

/-- A round's call is made an interval after its beginning. -/
theorem calls_exact {time : Rat} (h : Calls w .exact deadline now time) :
    time = now + w.interval ∧ time < deadline := by
  obtain ⟨-, rfl, left⟩ := h
  rw [Clock.span_exact] at left
  rcases wake_exact w now deadline with ⟨hw, -⟩ | ⟨hw, -⟩
  · exact ⟨hw, by linarith⟩
  · exact absurd left (by linarith)

/-- A round without a call ends at the deadline, which leaves no time for one. -/
theorem expires_exact {stop : Rat} (hn : now ≤ deadline) (hi : 0 < w.interval)
    (h : Expires w .exact deadline now stop) :
    stop = deadline ∧ deadline ≤ now + w.interval := by
  cases h with
  | before h =>
    rw [Clock.span_exact] at h
    exact ⟨by linarith, by linarith⟩
  | after _ h =>
    rw [Clock.span_exact] at h
    rcases wake_exact w now deadline with ⟨hw, hle⟩ | ⟨hw, hlt⟩
    · exact ⟨by linarith, by linarith⟩
    · exact ⟨hw, by linarith⟩

theorem inTime_exact {time t : Rat} {call : Call} :
    Asked.InTime .exact deadline ⟨time, call⟩ t ↔
      ∃ d, call.delay = some d ∧ t = time + d ∧ t ≤ deadline := by
  have arrival : ∀ d, (if d = 0 then time else Clock.exact.later time d) = time + d := by
    intro d
    split <;> simp_all
  simp only [Asked.InTime, Asked.arrival?, Option.map_eq_some_iff, cutoff_exact, arrival]
  constructor
  · intro h
    obtain ⟨⟨d, hd, rfl⟩, hle⟩ := h
    exact ⟨d, hd, rfl, hle⟩
  · intro h
    obtain ⟨d, hd, rfl, hle⟩ := h
    exact ⟨⟨d, hd, rfl⟩, hle⟩

/-! ## The end -/

variable {poll : σ → Rat → Call × σ}

/-- What can be asked is answered at once or later, and can be asked again as long as nothing is
settled. -/
def Answers (w : Wait) (poll : σ → Rat → Call × σ) (P : σ → Prop) : Prop :=
  ∀ source t, P source → (∀ d, (poll source t).1.delay = some d → 0 ≤ d) ∧
    ((∀ q, ¬ Settles w (poll source t).1.report q) → P (poll source t).2)

/-- With time for so many rounds the wait is over after twice as many steps. -/
theorem isOver_of_steps {P : σ → Prop} (hd : Answers w poll P) :
    ∀ (n fuel : Nat) (s : State σ), P s.source → s.deadline - s.now ≤ n * w.interval →
      2 * n ≤ fuel → (w.steps .exact poll fuel (w.rest .exact s)).isOver = true := by
  intro n
  induction n with
  | zero =>
    intro fuel s _ hs _
    have late : Clock.exact.span s.now s.deadline ≤ 0 := by simpa using hs
    have ended := ended_rest (w := w) late
    rw [steps_over ended.isOver]
    exact ended.isOver
  | succ n ih =>
    intro fuel s hP hs hf
    rcases endsIn_or_goesOn w .exact poll s with
      ends | ⟨s', time, call, next, t, leads, hc, hp, hit, -, open_, rest⟩
    · exact ends.isOver (by omega)
    · obtain ⟨fuel, rfl⟩ := Nat.exists_eq_add_of_le' (show 2 ≤ fuel by omega)
      rw [leads.steps]
      obtain ⟨d, hdelay, rfl, -⟩ := inTime_exact.1 hit
      obtain ⟨delays, hP'⟩ := hd s.source time hP
      rw [hp] at delays hP'
      have := delays d hdelay
      have := (calls_exact hc).1
      push_cast at hs
      have left : s'.deadline - s'.now ≤ (n : Rat) * w.interval := by
        rw [rest.deadline, rest.now]
        linarith
      exact ih fuel s' (rest.source ▸ hP' open_) left (by omega)

/-- **Every wait ends.** The steps that a wait is given are enough on the exact clock. -/
theorem isOver_run_of_answers {P : σ → Prop} (hi : 0 < w.interval) (hd : Answers w poll P)
    {source : σ} (hP : P source) (now : Rat) :
    (w.run .exact poll source now).isOver = true := by
  obtain ⟨s, hs, begins⟩ := begin_eq w .exact source now
  rw [run, begins]
  refine isOver_of_steps hd (w.timeout / w.interval).ceil.toNat _ s (hs.source ▸ hP) ?_
    (by rw [bound]; omega)
  have rounds : w.timeout / w.interval ≤ ((w.timeout / w.interval).ceil.toNat : Rat) := by
    refine Rat.le_ceil.trans ?_
    exact_mod_cast Int.self_le_toNat _
  rw [hs.deadline, hs.now, Clock.later_exact, add_sub_cancel_left]
  rwa [div_le_iff₀ hi] at rounds

theorem isOver_run (hi : 0 < w.interval)
    (hd : ∀ source t d, (poll source t).1.delay = some d → 0 ≤ d) (source : σ) (now : Rat) :
    (w.run .exact poll source now).isOver = true :=
  isOver_run_of_answers (P := fun _ => True) hi
    (fun source t _ => ⟨hd source t, fun _ => trivial⟩) trivial now

end ClusterOps.Wait

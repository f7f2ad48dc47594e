import ClusterOps.Proofs.Wait.Exact

/-
What a wait comes to on the exact clock, said without the waiter: from the script
of its calls alone. Were there no deadline, a call would be made an interval after
the start and then an interval after each answer. Of these calls those count that
are made before the deadline and answered no later than at it, and the first of
them that settles anything settles the wait, when its answer arrives; if there is
none the wait ends at the deadline (`run_verdict`).

The rounds of a course are the calls of the script in their order, so the proof
goes by induction on the course, with the rest of the script (`Script.drop`) at
each round. That there is an end at all is a count of rounds: each uses up an
interval.
-/

namespace ClusterOps.Wait

/-- What comes of each call for the status, in the order of the calls. -/
abbrev Script := Nat → Call

namespace Script

/-- The calls of a script are answered in its order, whenever they are made. -/
def poll (script : Script) (n : Nat) (_ : Rat) : Call × Nat := (script n, n + 1)

/-- The script without its first calls. -/
def drop (script : Script) (k : Nat) : Script := fun n => script (k + n)

/-- The time from which on a call is waited for: the start, or the answer to the call before it. -/
def since? (w : Wait) (script : Script) (now : Rat) : Nat → Option Rat
  | 0 => some now
  | n + 1 => (since? w script now n).bind fun t =>
      (script n).delay.map fun d => t + w.interval + d

/-- The time of a call, if it is ever made. -/
def askedAt? (w : Wait) (script : Script) (now : Rat) (n : Nat) : Option Rat :=
  (script.since? w now n).map (· + w.interval)

/-- The time at which a call is answered, if it ever is. -/
def answeredAt? (w : Wait) (script : Script) (now : Rat) (n : Nat) : Option Rat :=
  script.since? w now (n + 1)

/-- A call counts that is made before the deadline and answered no later than at it. -/
structure Counts (w : Wait) (script : Script) (now deadline : Rat) (n : Nat) (t : Rat) : Prop where
  asked : ∃ s, script.askedAt? w now n = some s ∧ s < deadline
  answered : script.answeredAt? w now n = some t
  inTime : t ≤ deadline

/-- A call that counts settles the wait, at the time of its answer. -/
def Decides (w : Wait) (script : Script) (now deadline : Rat) (n : Nat) (t : Rat) (r : Result) :
    Prop :=
  script.Counts w now deadline n t ∧ Settles w (script n).report r

/-- No call before this one settles the wait. -/
def OpenUntil (w : Wait) (script : Script) (now deadline : Rat) (n : Nat) : Prop :=
  ∀ m < n, ∀ t r, ¬ script.Decides w now deadline m t r

/-- **What a wait has to come to, and when.** -/
inductive Verdict (w : Wait) (script : Script) (now : Rat) : Result → Rat → Prop
  | settled {n : Nat} {t : Rat} {r : Result} :
      script.OpenUntil w now (now + w.timeout) n →
      script.Decides w now (now + w.timeout) n t r →
      Verdict w script now r t
  | timedOut : (∀ n, script.OpenUntil w now (now + w.timeout) n) →
      Verdict w script now (.failed (.operationTimeout w.resource w.timeout)) (now + w.timeout)

/-- Every call takes some time, perhaps none, or never ends. -/
def Timely (script : Script) : Prop := ∀ n d, (script n).delay = some d → 0 ≤ d

/-- No call ends itself. -/
def Uncancelled (script : Script) : Prop := ∀ n, (script n).report ≠ .cancelled

/-! ## Times of calls -/

variable {w : Wait} {script : Script} {now deadline : Rat}

theorem drop_succ (script : Script) (k : Nat) : script.drop (k + 1) = (script.drop k).drop 1 :=
  funext fun n => congrArg script (Nat.add_assoc k 1 n)

theorem Timely.drop (h : script.Timely) (k : Nat) : (script.drop k).Timely := fun n => h (k + n)

theorem since?_one {d : Rat} (h : (script 0).delay = some d) :
    script.since? w now 1 = some (now + w.interval + d) := by
  simp [since?, h]

/-- The calls after the first are those of the rest of the script, waited for from its answer on. -/
theorem since?_succ {d : Rat} (h : (script 0).delay = some d) (n : Nat) :
    script.since? w now (n + 1) = Script.since? w (script.drop 1) (now + w.interval + d) n := by
  induction n with
  | zero => exact since?_one h
  | succ n ih =>
    rw [since?, ih, since?]
    simp only [Script.drop, Nat.add_comm 1 n]

theorem le_since? (ht : script.Timely) (hi : 0 < w.interval) {n : Nat} {t : Rat}
    (h : script.since? w now n = some t) : now ≤ t := by
  induction n generalizing t with
  | zero => simp [since?] at h; exact h.le
  | succ n ih =>
    simp only [since?, Option.bind_eq_some_iff, Option.map_eq_some_iff] at h
    obtain ⟨s, hs, d, hd, rfl⟩ := h
    have := ih hs
    have := ht n d hd
    linarith

/-- No call is made before the first answer but the first call. -/
theorem since?_one_le (ht : script.Timely) (hi : 0 < w.interval) {n : Nat} {t : Rat}
    (h : script.since? w now (n + 1) = some t) :
    ∃ d, (script 0).delay = some d ∧ now + w.interval + d ≤ t := by
  cases hd : (script 0).delay with
  | some d => exact ⟨d, rfl, le_since? (ht.drop 1) hi (since?_succ hd n ▸ h)⟩
  | none =>
    have never : ∀ m, script.since? w now (m + 1) = none := by
      intro m
      induction m with
      | zero => simp [since?, hd]
      | succ m ih => rw [since?, ih]; rfl
    simp [never n] at h

/-! ## Calls that settle a wait -/

theorem askedAt?_zero : script.askedAt? w now 0 = some (now + w.interval) := rfl

theorem askedAt?_succ {d : Rat} (h : (script 0).delay = some d) (n : Nat) :
    script.askedAt? w now (n + 1) = Script.askedAt? w (script.drop 1) (now + w.interval + d) n := by
  rw [askedAt?, askedAt?, since?_succ h]

/-- A call that is made is made an interval after the start at the earliest. -/
theorem le_askedAt? (ht : script.Timely) (hi : 0 < w.interval) {n : Nat} {t : Rat}
    (h : script.askedAt? w now n = some t) : now + w.interval ≤ t := by
  obtain ⟨s, hs, rfl⟩ := Option.map_eq_some_iff.1 h
  have := le_since? ht hi hs
  linarith

/-- A call after the first is made an interval after the first answer at the earliest. -/
theorem le_askedAt?_succ (ht : script.Timely) (hi : 0 < w.interval) {n : Nat} {t : Rat}
    (h : script.askedAt? w now (n + 1) = some t) :
    ∃ d, (script 0).delay = some d ∧ now + w.interval + d < t := by
  obtain ⟨s, hs, rfl⟩ := Option.map_eq_some_iff.1 h
  obtain ⟨d, hd, hle⟩ := since?_one_le ht hi hs
  exact ⟨d, hd, by linarith⟩

theorem counts_zero {t : Rat} : script.Counts w now deadline 0 t ↔
    now + w.interval < deadline ∧
      ∃ d, (script 0).delay = some d ∧ t = now + w.interval + d ∧ t ≤ deadline := by
  constructor
  · intro h
    obtain ⟨⟨s, hs, hlt⟩, ha, hle⟩ := h
    obtain rfl := Option.some.inj hs
    simp only [answeredAt?, since?, Option.bind_some, Option.map_eq_some_iff] at ha
    obtain ⟨d, hd, rfl⟩ := ha
    exact ⟨hlt, d, hd, rfl, hle⟩
  · intro h
    obtain ⟨hlt, d, hd, rfl, hle⟩ := h
    exact ⟨⟨_, rfl, hlt⟩, since?_one hd, hle⟩

theorem decides_succ {d : Rat} (h : (script 0).delay = some d) {n : Nat} {t : Rat} {r : Result} :
    script.Decides w now deadline (n + 1) t r ↔
      Script.Decides w (script.drop 1) (now + w.interval + d) deadline n t r := by
  have hn : script (n + 1) = script.drop 1 n := by rw [Script.drop, Nat.add_comm]
  constructor
  · intro hk
    obtain ⟨⟨asked, answered, inTime⟩, hr⟩ := hk
    rw [askedAt?_succ h] at asked
    rw [answeredAt?, since?_succ h] at answered
    exact ⟨⟨asked, answered, inTime⟩, hn ▸ hr⟩
  · intro hk
    obtain ⟨⟨asked, answered, inTime⟩, hr⟩ := hk
    rw [← askedAt?_succ h] at asked
    rw [answeredAt?, ← since?_succ h] at answered
    exact ⟨⟨asked, answered, inTime⟩, hn ▸ hr⟩

theorem openUntil_zero : script.OpenUntil w now deadline 0 := fun _ h => absurd h (by omega)

theorem openUntil_succ {d : Rat} (h : (script 0).delay = some d)
    (h0 : ∀ t r, ¬ script.Decides w now deadline 0 t r) {n : Nat} :
    script.OpenUntil w now deadline (n + 1) ↔
      Script.OpenUntil w (script.drop 1) (now + w.interval + d) deadline n := by
  constructor
  · intro ho m hm t r hd
    exact ho (m + 1) (by omega) t r ((decides_succ h).2 hd)
  · intro ho m hm t r hd
    cases m with
    | zero => exact h0 t r hd
    | succ m => exact ho m (by omega) t r ((decides_succ h).1 hd)

/-- With no call before the deadline nothing settles the wait. -/
theorem not_decides_of_le (ht : script.Timely) (hi : 0 < w.interval)
    (h : deadline ≤ now + w.interval) (n : Nat) (t : Rat) (r : Result) :
    ¬ script.Decides w now deadline n t r := by
  intro hk
  obtain ⟨⟨⟨s, hs, hlt⟩, -, -⟩, -⟩ := hk
  have := le_askedAt? ht hi hs
  linarith

/-! ## The end of a course -/

/-- The end of a wait from the beginning of a round on, as the rest of its script has it, and the
calls that it makes. -/
structure Reached (w : Wait) (script : Script) (now start deadline : Rat) (asked : List Asked)
    (stop : Rat) (r : Result) : Prop where
  outcome : (∃ n, script.OpenUntil w now deadline n ∧ script.Decides w now deadline n stop r) ∨
    (∀ n, script.OpenUntil w now deadline n) ∧ stop = deadline ∧ r = w.expiry .exact start deadline
  calls : ∀ n t, (asked.map Asked.time)[n]? = some t ↔
    script.askedAt? w now n = some t ∧ t < deadline ∧ script.OpenUntil w now deadline n

theorem Reached.of_expires {start stop : Rat} (ht : script.Timely) (hi : 0 < w.interval)
    (hn : now ≤ deadline) (h : Expires w .exact deadline now stop) :
    Reached w script now start deadline [] stop (w.expiry .exact start stop) := by
  obtain ⟨rfl, hle⟩ := expires_exact hn hi h
  refine ⟨.inr ⟨fun n m _ => not_decides_of_le ht hi hle m, rfl, rfl⟩, fun n t => ?_⟩
  constructor
  · simp
  · intro hk
    obtain ⟨hs, hlt, -⟩ := hk
    have := le_askedAt? ht hi hs
    linarith

/-- The one call of a last round: it is the first of the script, and none follows before the
deadline. -/
theorem calls_single {time : Rat} {call : Call} (hc : time = now + w.interval ∧ time < deadline)
    (last : ∀ n t, script.askedAt? w now (n + 1) = some t → t < deadline →
      ¬ script.OpenUntil w now deadline (n + 1)) (n : Nat) (t : Rat) :
    ([(⟨time, call⟩ : Asked)].map Asked.time)[n]? = some t ↔
      script.askedAt? w now n = some t ∧ t < deadline ∧ script.OpenUntil w now deadline n := by
  obtain ⟨rfl, hlt⟩ := hc
  cases n with
  | zero =>
    simp only [List.map_cons, List.map_nil, List.getElem?_cons_zero, askedAt?_zero]
    constructor
    · intro h
      obtain rfl := Option.some.inj h
      exact ⟨rfl, hlt, openUntil_zero⟩
    · exact fun h => h.1
  | succ n =>
    simp only [List.map_cons, List.map_nil, List.getElem?_cons_succ, List.getElem?_nil]
    exact ⟨fun h => absurd h (by simp), fun ⟨hs, ht, ho⟩ => absurd ho (last n t hs ht)⟩

/-- A first call that is not answered in time leaves nothing to settle the wait. -/
theorem Reached.of_late {start time : Rat} (ht : script.Timely) (hi : 0 < w.interval)
    (hc : time = now + w.interval ∧ time < deadline)
    (late : ∀ t, ¬ Asked.InTime .exact deadline ⟨time, script 0⟩ t) :
    Reached w script now start deadline [⟨time, script 0⟩] deadline
      (w.expiry .exact start deadline) := by
  have tardy : ∀ d, (script 0).delay = some d → deadline < now + w.interval + d := by
    intro d hd
    by_contra hle
    exact late _ (inTime_exact.2 ⟨d, hd, rfl, by rw [hc.1]; linarith⟩)
  have beyond : ∀ n t, script.askedAt? w now (n + 1) = some t → deadline < t := by
    intro n t hs
    obtain ⟨d, hd, hlt⟩ := le_askedAt?_succ ht hi hs
    have := tardy d hd
    linarith
  have none : ∀ n t r, ¬ script.Decides w now deadline n t r := by
    intro n t r h
    obtain ⟨hcount, -⟩ := h
    cases n with
    | zero =>
      obtain ⟨-, d, hd, rfl, hle⟩ := counts_zero.1 hcount
      have := tardy d hd
      linarith
    | succ n =>
      obtain ⟨s, hs, hlt⟩ := hcount.asked
      have := beyond n s hs
      linarith
  refine ⟨.inr ⟨fun n m _ => none m, rfl, rfl⟩, calls_single hc fun n t hs hlt _ => ?_⟩
  have := beyond n t hs
  linarith

/-- A first call whose answer settles something settles the wait. -/
theorem Reached.of_settles {start time t : Rat} {r : Result}
    (hc : time = now + w.interval ∧ time < deadline)
    (hit : Asked.InTime .exact deadline ⟨time, script 0⟩ t) (hr : Settles w (script 0).report r) :
    Reached w script now start deadline [⟨time, script 0⟩] t r := by
  obtain ⟨d, hd, rfl, hle⟩ := inTime_exact.1 hit
  have first : script.Decides w now deadline 0 (time + d) r :=
    ⟨counts_zero.2 ⟨hc.1 ▸ hc.2, d, hd, by rw [hc.1], hle⟩, hr⟩
  exact ⟨.inl ⟨0, openUntil_zero, first⟩,
    calls_single hc fun n _ _ _ ho => ho 0 (by omega) _ _ first⟩

/-- After a first call whose answer settles nothing the wait is one for the rest of the script. -/
theorem Reached.of_pending {start time t stop : Rat} {r : Result} {rest : List Asked}
    (hc : time = now + w.interval ∧ time < deadline)
    (hit : Asked.InTime .exact deadline ⟨time, script 0⟩ t)
    (open_ : ∀ q, ¬ Settles w (script 0).report q)
    (h : Reached w (script.drop 1) t start deadline rest stop r) :
    Reached w script now start deadline (⟨time, script 0⟩ :: rest) stop r := by
  obtain ⟨d, hd, rfl, hle⟩ := inTime_exact.1 hit
  obtain ⟨rfl, hlt⟩ := hc
  have h0 : ∀ t r, ¬ script.Decides w now deadline 0 t r := fun t r h => open_ r h.2
  have succ : ∀ {n}, script.OpenUntil w now deadline (n + 1) ↔
      (script.drop 1).OpenUntil w (now + w.interval + d) deadline n := openUntil_succ hd h0
  constructor
  · rcases h.outcome with ⟨n, ho, hdec⟩ | ⟨ho, rfl, rfl⟩
    · exact .inl ⟨n + 1, succ.2 ho, (decides_succ hd).2 hdec⟩
    · refine .inr ⟨fun n => ?_, rfl, rfl⟩
      cases n with
      | zero => exact openUntil_zero
      | succ n => exact succ.2 (ho n)
  · intro n t
    cases n with
    | zero =>
      simp only [List.map_cons, List.getElem?_cons_zero, askedAt?_zero]
      constructor
      · intro h
        obtain rfl := Option.some.inj h
        exact ⟨rfl, hlt, openUntil_zero⟩
      · exact fun h => h.1
    | succ n =>
      rw [List.map_cons, List.getElem?_cons_succ, h.calls, askedAt?_succ hd, succ]

/-- Every course of a wait on a script ends as the script has it. -/
theorem reached_of_course {start stop : Rat} {k last : Nat} {asked : List Asked} {r : Result}
    (ht : script.Timely) (hu : script.Uncancelled) (hi : 0 < w.interval) (hn : now ≤ deadline)
    (h : Course w .exact script.poll start deadline k now asked last stop r) :
    Reached w (script.drop k) now start deadline asked stop r := by
  have call_eq : ∀ {k next time call}, script.poll k time = (call, next) →
      call = script.drop k 0 ∧ next = k + 1 := by
    intro k next time call h
    simp only [poll, Prod.mk.injEq] at h
    exact ⟨h.1.symm, h.2.symm⟩
  induction h with
  | expired h => exact .of_expires (ht.drop _) hi hn h
  | late hc hp late =>
    obtain ⟨rfl, rfl⟩ := call_eq hp
    rw [cutoff_exact]
    exact .of_late (ht.drop _) hi (calls_exact hc) late
  | withdrawn hc hp hit withdrawn =>
    obtain ⟨rfl, rfl⟩ := call_eq hp
    exact absurd withdrawn (hu _)
  | settled hc hp hit hr =>
    obtain ⟨rfl, rfl⟩ := call_eq hp
    exact .of_settles (calls_exact hc) hit hr
  | pending hc hp hit _ open_ _ ih =>
    obtain ⟨rfl, rfl⟩ := call_eq hp
    obtain ⟨d, -, -, hle⟩ := inTime_exact.1 hit
    have rest := ih hle
    rw [drop_succ] at rest
    exact .of_pending (calls_exact hc) hit open_ rest

/-! ## The verdict -/

theorem Decides.unique {n : Nat} {t u : Rat} {r q : Result}
    (h : script.Decides w now deadline n t r) (k : script.Decides w now deadline n u q) :
    r = q ∧ t = u :=
  ⟨h.2.unique k.2, Option.some.inj (h.1.answered.symm.trans k.1.answered)⟩

/-- A script has one verdict at most. -/
theorem Verdict.unique {t u : Rat} {r q : Result} (h : script.Verdict w now r t)
    (k : script.Verdict w now q u) : r = q ∧ t = u := by
  cases h with
  | settled ho hd =>
    cases k with
    | settled ko kd =>
      rename_i n m
      -- The earlier of the two calls would leave the other one nothing to settle.
      rcases Nat.lt_trichotomy n m with hlt | rfl | hlt
      · exact absurd hd (ko n hlt _ _)
      · exact hd.unique kd
      · exact absurd kd (ho m hlt _ _)
    | timedOut ko => exact absurd hd (ko _ _ (Nat.lt_succ_self _) _ _)
  | timedOut ho =>
    cases k with
    | settled _ kd => exact absurd kd (ho _ _ (Nat.lt_succ_self _) _ _)
    | timedOut => exact ⟨rfl, rfl⟩

theorem Reached.verdict {asked : List Asked} {stop : Rat} {r : Result}
    (h : Reached w script now now (now + w.timeout) asked stop r) :
    script.Verdict w now r stop := by
  rcases h.outcome with ⟨n, ho, hd⟩ | ⟨ho, rfl, rfl⟩
  · exact .settled ho hd
  · rw [expiry, Clock.span_exact, add_sub_cancel_left]
    exact .timedOut ho

end Script

/-- **The outcome of a wait.** On the exact clock a wait on a script ends, with exactly the result
and at exactly the time that the script has it, and the calls that it makes are those of the script
that are due before the deadline and before anything is settled. -/
theorem run_verdict (w : Wait) (script : Script) (now : Rat) (hi : 0 < w.interval)
    (hw : 0 < w.timeout) (ht : script.Timely) (hu : script.Uncancelled) :
    let s := w.run .exact script.poll 0 now
    s.isOver = true ∧
      (∀ r t, (s.result? = some r ∧ s.now = t) ↔ script.Verdict w now r t) ∧
      ∀ n t, s.calls[n]? = some t ↔
        script.askedAt? w now n = some t ∧ t < now + w.timeout ∧
          script.OpenUntil w now (now + w.timeout) n := by
  intro s
  have ended : s.isOver = true := isOver_run hi (fun k _ d hd => ht k d hd) 0 now
  obtain ⟨q, hq⟩ : ∃ q, s.result? = some q := by
    simp only [State.isOver, State.result?] at ended ⊢
    split at ended <;> simp_all
  obtain ⟨asked, course, calls⟩ := course_of_run hq
  have reached := Script.reached_of_course ht hu hi (by rw [Clock.later_exact]; linarith) course
  rw [Clock.later_exact, show script.drop 0 = script from funext fun n => by
    rw [Script.drop, Nat.zero_add]] at reached
  have verdict := reached.verdict
  refine ⟨ended, fun r t => ⟨?_, fun h => ?_⟩, fun n t => ?_⟩
  · intro ends
    obtain ⟨hr, rfl⟩ := ends
    obtain rfl := Option.some.inj (hq.symm.trans hr)
    exact verdict
  · obtain ⟨rfl, rfl⟩ := verdict.unique h
    exact ⟨hq, rfl⟩
  · rw [calls]
    exact reached.calls n t

/-- A second answer that comes together with the deadline counts. -/
theorem run_verdict_tie :
    let w : Wait := ⟨10, 25, .text "Successful", [.text "Failed"], "demo", .text "u-1", none⟩
    let script : Script := fun n =>
      if n = 0 then ⟨some 0, .status (.text "InProgress")⟩
      else ⟨some 5, .status (.text "Successful")⟩
    (0 < w.interval ∧ 0 < w.timeout ∧ script.Timely ∧ script.Uncancelled) ∧
      (w.run .exact script.poll 0 3).result? = some (.reached (.text "Successful")) ∧
      (w.run .exact script.poll 0 3).now = 28 := by
  intro w script
  have hi : 0 < w.interval := by decide
  have hw : 0 < w.timeout := by decide
  have ht : script.Timely := by
    intro n d h
    simp only [script] at h
    split at h <;> simp only [Option.some.injEq] at h <;> subst h <;> decide
  have hu : script.Uncancelled := by
    intro n
    simp only [script]
    split <;> simp
  have first : script.OpenUntil w 3 (3 + w.timeout) 1 := by
    intro m hm t r hk
    obtain ⟨-, hr⟩ := hk
    obtain rfl : m = 0 := by omega
    cases hr with
    | success h => exact absurd h (by decide)
    | failure _ _ h => exact absurd h (by decide)
    | keyless _ h => exact absurd h (by decide)
  have second : script.Decides w 3 (3 + w.timeout) 1 28 (.reached (.text "Successful")) :=
    ⟨⟨⟨23, by decide +kernel, by decide +kernel⟩, by decide +kernel, by decide +kernel⟩,
      .success (by decide)⟩
  exact ⟨⟨hi, hw, ht, hu⟩,
    ((run_verdict w script 3 hi hw ht hu).2.1 _ _).2 (.settled first second)⟩

end ClusterOps.Wait

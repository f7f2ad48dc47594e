import ClusterOps.Wait
import Mathlib.Algebra.Order.Field.Rat
import Mathlib.Tactic.ByContra
import Mathlib.Tactic.Linarith

/-
The course of a wait, round by round, for any clock and any source of answers.
A round is a rest and, if there is still time after it, one call for the status;
the wait goes on with another round only after an answer in time that settles
nothing. Whatever a wait that is over has done, it has done in such a course
(`course_of_run`), so what holds of every course holds of every wait.
-/

namespace ClusterOps.Wait

variable {σ : Type}

/-! ## Calls and their answers -/

/-- A call for the status that was made, and when. -/
structure Asked where
  time : Rat
  call : Call

/-- The time at which the answer arrives, if it ever does. -/
def Asked.arrival? (clock : Clock) (a : Asked) : Option Rat :=
  a.call.delay.map fun d => if d = 0 then a.time else clock.later a.time d

/-- The time at which the timer for the deadline runs out that is set at some time. -/
def cutoff (clock : Clock) (deadline time : Rat) : Rat :=
  clock.later time (clock.span time deadline)

/-- With the exact clock the timer runs out at the deadline. -/
@[simp] theorem cutoff_exact (deadline time : Rat) : cutoff .exact deadline time = deadline := by
  rw [cutoff, Clock.later_exact, Clock.span_exact, add_sub_cancel]

/-- The answer arrives at a time at which the timer has not yet run out, or runs out only now. -/
def Asked.InTime (clock : Clock) (deadline : Rat) (a : Asked) (t : Rat) : Prop :=
  a.arrival? clock = some t ∧ t ≤ cutoff clock deadline a.time

/-- What an answer settles: success before failure; a status that is no key cannot be looked for
among the failures. -/
inductive Settles (w : Wait) : Report → Result → Prop
  | success {v : Value} : v.same w.success = true → Settles w (.status v) (.reached w.success)
  | failure {v : Value} : v.same w.success = false → v.isKey = true →
      w.failures.any v.same = true →
      Settles w (.status v) (.failed (.operationFailed w.resource v w.operation))
  | keyless {v : Value} : v.same w.success = false → v.isKey = false →
      Settles w (.status v)
        (.failed (.other "TypeError" ("unhashable type: '" ++ v.kindName ++ "'")))
  | raised {c : Cause} : Settles w (.raised c) (.failed c)

theorem Settles.unique {w : Wait} {report : Report} {r q : Result} (h : Settles w report r)
    (k : Settles w report q) : r = q := by
  cases h <;> cases k <;> simp_all

/-- The end of a wait whose time is over. -/
def expiry (w : Wait) (clock : Clock) (start now : Rat) : Result :=
  .failed (.operationTimeout w.resource (clock.span start now))

/-! ## Rounds -/

/-- The time at which a rest ends. -/
def wake (w : Wait) (clock : Clock) (deadline now : Rat) : Rat :=
  clock.later now (Clock.least w.interval (clock.span now deadline))

/-- A round that begins now leads to a call. -/
structure Calls (w : Wait) (clock : Clock) (deadline now time : Rat) : Prop where
  early : 0 < clock.span now deadline
  woken : time = w.wake clock deadline now
  left : 0 < clock.span time deadline

/-- A round that begins now leads to no call: the time is over before its rest or after it. -/
inductive Expires (w : Wait) (clock : Clock) (deadline now : Rat) : Rat → Prop
  | before : clock.span now deadline ≤ 0 → Expires w clock deadline now now
  | after : 0 < clock.span now deadline →
      clock.span (w.wake clock deadline now) deadline ≤ 0 →
      Expires w clock deadline now (w.wake clock deadline now)

/-- The course of a wait from the beginning of a round on: where it begins, the calls it makes,
where it ends, and its result. -/
inductive Course (w : Wait) (clock : Clock) (poll : σ → Rat → Call × σ) (start deadline : Rat) :
    σ → Rat → List Asked → σ → Rat → Result → Prop
  | expired {source now stop} : Expires w clock deadline now stop →
      Course w clock poll start deadline source now [] source stop (w.expiry clock start stop)
  | late {source now time call next} : Calls w clock deadline now time →
      poll source time = (call, next) →
      (∀ t, ¬ Asked.InTime clock deadline ⟨time, call⟩ t) →
      Course w clock poll start deadline source now [⟨time, call⟩] next
        (cutoff clock deadline time) (w.expiry clock start (cutoff clock deadline time))
  | withdrawn {source now time call next t} : Calls w clock deadline now time →
      poll source time = (call, next) → Asked.InTime clock deadline ⟨time, call⟩ t →
      call.report = .cancelled →
      Course w clock poll start deadline source now [⟨time, call⟩] next t (w.expiry clock start t)
  | settled {source now time call next t r} : Calls w clock deadline now time →
      poll source time = (call, next) → Asked.InTime clock deadline ⟨time, call⟩ t →
      Settles w call.report r →
      Course w clock poll start deadline source now [⟨time, call⟩] next t r
  | pending {source now time call next t rest last stop r} :
      Calls w clock deadline now time →
      poll source time = (call, next) → Asked.InTime clock deadline ⟨time, call⟩ t →
      call.report ≠ .cancelled → (∀ q, ¬ Settles w call.report q) →
      Course w clock poll start deadline next t rest last stop r →
      Course w clock poll start deadline source now (⟨time, call⟩ :: rest) last stop r

/-! ## Single steps -/

variable {w : Wait} {clock : Clock} {poll : σ → Rat → Call × σ}

/-- A state in which a wait is over. -/
structure Ended (s : State σ) (calls : List Rat) (source : σ) (stop : Rat) (r : Result) : Prop where
  phase : s.phase = .over r
  calls : s.calls = calls
  source : s.source = source
  now : s.now = stop

/-- A state in which a call has been made and its answer is not there yet. -/
structure Asking (clock : Clock) (s : State σ) (start deadline : Rat) (calls : List Rat) (a : Asked)
    (source : σ) : Prop where
  phase : ∃ span, s.phase
    = .asking span (cutoff clock deadline a.time) (a.arrival? clock) a.call.report
  start : s.start = start
  deadline : s.deadline = deadline
  calls : s.calls = calls
  source : s.source = source

/-- A state at the beginning of a round. -/
structure AtRest (s : State σ) (start deadline : Rat) (calls : List Rat) (source : σ) (now : Rat) :
    Prop where
  start : s.start = start
  deadline : s.deadline = deadline
  calls : s.calls = calls
  source : s.source = source
  now : s.now = now

theorem Ended.isOver {s : State σ} {calls source stop r} (h : Ended s calls source stop r) :
    s.isOver = true := by
  simp [State.isOver, h.phase]

theorem Ended.result? {s : State σ} {calls source stop r} (h : Ended s calls source stop r) :
    s.result? = some r := by
  simp [State.result?, h.phase]

/-- What is over has a result. -/
theorem State.exists_result {s : State σ} (h : s.isOver = true) : ∃ r, s.result? = some r := by
  simp only [isOver, result?] at h ⊢
  split at h <;> simp_all

theorem Asking.isOver {s : State σ} {start deadline calls a source}
    (h : Asking clock s start deadline calls a source) : s.isOver = false := by
  obtain ⟨span, hs⟩ := h.phase
  simp [State.isOver, hs]

theorem ended_timeOut (s : State σ) :
    Ended (w.timeOut clock s) s.calls s.source s.now (w.expiry clock s.start s.now) :=
  ⟨rfl, rfl, rfl, rfl⟩

theorem ended_rest {s : State σ} (h : clock.span s.now s.deadline ≤ 0) :
    Ended (w.rest clock s) s.calls s.source s.now (w.expiry clock s.start s.now) := by
  rw [rest, if_pos h]
  exact ended_timeOut s

theorem isOver_rest {s : State σ} (h : 0 < clock.span s.now s.deadline) :
    (w.rest clock s).isOver = false := by
  rw [rest, if_neg (not_le.2 h)]
  rfl

variable (poll) in
theorem step_rest {s : State σ} (h : 0 < clock.span s.now s.deadline) :
    ∃ phase spans, w.step clock poll (w.rest clock s) = w.ask clock poll
      { s with now := w.wake clock s.deadline s.now, phase := phase, spans := spans } := by
  rw [rest, if_neg (not_le.2 h)]
  exact ⟨_, _, rfl⟩

/-- A rest after which the time is over ends the wait. -/
theorem ended_step_rest {s : State σ} (h : 0 < clock.span s.now s.deadline)
    (left : clock.span (w.wake clock s.deadline s.now) s.deadline ≤ 0) :
    Ended (w.step clock poll (w.rest clock s)) s.calls s.source (w.wake clock s.deadline s.now)
      (w.expiry clock s.start (w.wake clock s.deadline s.now)) := by
  obtain ⟨phase, spans, hs⟩ := step_rest (w := w) poll h
  rw [hs, ask, if_pos left]
  exact ended_timeOut _

/-- Any other rest is followed by a call. -/
theorem asking_step_rest {s : State σ} {time : Rat} {call : Call} {next : σ}
    (h : Calls w clock s.deadline s.now time) (hp : poll s.source time = (call, next)) :
    Asking clock (w.step clock poll (w.rest clock s)) s.start s.deadline (s.calls ++ [time])
      ⟨time, call⟩ next := by
  obtain ⟨early, rfl, left⟩ := h
  obtain ⟨phase, spans, hs⟩ := step_rest (w := w) poll early
  rw [hs, ask, if_neg (not_le.2 left)]
  simp only [hp]
  exact ⟨⟨_, rfl⟩, rfl, rfl, rfl, rfl⟩

/-- Without an answer in time the timer ends the wait. -/
theorem Asking.ended_late {s : State σ} {start deadline calls a source}
    (h : Asking clock s start deadline calls a source) (late : ∀ t, ¬ a.InTime clock deadline t) :
    Ended (w.step clock poll s) calls source (cutoff clock deadline a.time)
      (w.expiry clock start (cutoff clock deadline a.time)) := by
  obtain ⟨⟨span, hs⟩, rfl, rfl, rfl, rfl⟩ := h
  cases ha : a.arrival? clock with
  | none =>
    simp only [step, hs, ha]
    exact ended_timeOut _
  | some t =>
    have ht : ¬ t ≤ cutoff clock s.deadline a.time := fun ht => late t ⟨ha, ht⟩
    simp only [step, hs, ha, if_neg ht]
    exact ended_timeOut _

variable (w poll) in
theorem Asking.step_inTime {s : State σ} {start deadline calls a source t}
    (h : Asking clock s start deadline calls a source) (ht : a.InTime clock deadline t) :
    ∃ s', AtRest s' start deadline calls source t ∧
      w.step clock poll s = w.take clock a.call.report s' := by
  obtain ⟨⟨span, hs⟩, rfl, rfl, rfl, rfl⟩ := h
  simp only [step, hs, ht.1, if_pos ht.2]
  refine ⟨_, ?_, rfl⟩
  exact ⟨rfl, rfl, rfl, rfl, rfl⟩

theorem ended_take_cancelled {s : State σ} {start deadline calls source now}
    (h : AtRest s start deadline calls source now) :
    Ended (w.take clock .cancelled s) calls source now (w.expiry clock start now) := by
  obtain ⟨rfl, rfl, rfl, rfl, rfl⟩ := h
  exact ended_timeOut s

theorem ended_take_settles {s : State σ} {start deadline calls source now report r}
    (h : AtRest s start deadline calls source now) (hr : Settles w report r) :
    Ended (w.take clock report s) calls source now r := by
  obtain ⟨rfl, rfl, rfl, rfl, rfl⟩ := h
  have hs : w.take clock report s = s.finish r := by
    cases hr with
    | success hv => simp [take, hv]
    | failure hv hk hf => simp only [take, hv, hk, hf]; simp
    | keyless hv hk => simp [take, hv, hk]
    | raised => rfl
  rw [hs]
  exact ⟨rfl, rfl, rfl, rfl⟩

/-- An answer that settles nothing is a status. -/
theorem status_of_not_settles {report : Report} (h : ∀ r, ¬ Settles w report r)
    (hc : report ≠ .cancelled) :
    ∃ v, report = .status v ∧ v.same w.success = false ∧ v.isKey = true ∧
      w.failures.any v.same = false := by
  cases report with
  | cancelled => exact absurd rfl hc
  | raised c => exact absurd .raised (h _)
  | status v =>
    have hv : v.same w.success = false := by
      by_contra hv
      exact h _ (.success (by simpa using hv))
    have hk : v.isKey = true := by
      by_contra hk
      exact h _ (.keyless hv (by simpa using hk))
    refine ⟨v, rfl, hv, hk, ?_⟩
    by_contra hf
    exact h _ (.failure hv hk (by simpa using hf))

theorem take_pending {s : State σ} {start deadline calls source now report}
    (h : AtRest s start deadline calls source now) (hr : ∀ r, ¬ Settles w report r)
    (hc : report ≠ .cancelled) :
    ∃ s', AtRest s' start deadline calls source now ∧
      w.take clock report s = w.rest clock s' := by
  obtain ⟨rfl, rfl, rfl, rfl, rfl⟩ := h
  obtain ⟨v, rfl, hv, hk, hf⟩ := status_of_not_settles hr hc
  refine ⟨s.log .debug "Operation not yet terminal" (w.about ++ [("status", v)]),
    ⟨rfl, rfl, rfl, rfl, rfl⟩, ?_⟩
  simp [take, hv, hk, hf]

/-! ## Runs -/

theorem steps_over {s : State σ} (h : s.isOver = true) :
    ∀ fuel, w.steps clock poll fuel s = s
  | 0 => rfl
  | fuel + 1 => by simp [steps, h]

/-- So many steps lead from one state to another, and the wait is not over before. -/
structure Leads (w : Wait) (clock : Clock) (poll : σ → Rat → Call × σ) (s : State σ) (k : Nat)
    (e : State σ) : Prop where
  steps : ∀ fuel, w.steps clock poll (fuel + k) s = w.steps clock poll fuel e
  busy : ∀ fuel r, (w.steps clock poll fuel s).result? = some r → k ≤ fuel

theorem Leads.refl (s : State σ) : Leads w clock poll s 0 s :=
  ⟨fun _ => rfl, fun _ _ _ => Nat.zero_le _⟩

theorem Leads.step {s e : State σ} {k : Nat} (h : s.isOver = false)
    (hk : Leads w clock poll (w.step clock poll s) k e) : Leads w clock poll s (k + 1) e where
  steps fuel := by
    rw [← Nat.add_assoc, Wait.steps, if_neg (by simp [h]), hk.steps]
  busy fuel r hr := by
    cases fuel with
    | zero =>
      simp only [Wait.steps, State.result?, State.isOver] at h hr
      split at h <;> simp_all
    | succ fuel =>
      rw [Wait.steps, if_neg (by simp [h])] at hr
      exact Nat.succ_le_succ (hk.busy fuel r hr)

/-- One more step behind so many. -/
theorem Leads.snoc {e : State σ} {k : Nat} (h : Leads w clock poll s k e)
    (busy : e.isOver = false) : Leads w clock poll s (k + 1) (w.step clock poll e) where
  steps fuel := by
    rw [show fuel + (k + 1) = fuel + 1 + k by omega, h.steps, Wait.steps, if_neg (by simp [busy])]
  busy fuel r result := by
    have le := h.busy fuel r result
    rcases Nat.lt_or_eq_of_le le with lt | rfl
    · exact lt
    · have there := h.steps 0
      rw [Nat.zero_add, Wait.steps] at there
      rw [there] at result
      simp only [State.isOver, State.result?] at busy result
      split at busy <;> simp_all

/-- A round ends the wait. -/
def EndsIn (w : Wait) (clock : Clock) (poll : σ → Rat → Call × σ) (s : State σ) : Prop :=
  ∃ k ≤ 2, ∃ e asked source stop r, Leads w clock poll (w.rest clock s) k e ∧
    Ended e (s.calls ++ asked.map Asked.time) source stop r ∧
    Course w clock poll s.start s.deadline s.source s.now asked source stop r

/-- Two steps are enough for a round that ends the wait. -/
theorem EndsIn.isOver {s : State σ} {fuel : Nat} (h : EndsIn w clock poll s) (enough : 2 ≤ fuel) :
    (w.steps clock poll fuel (w.rest clock s)).isOver = true := by
  obtain ⟨k, hk, e, asked, source, stop, q, leads, ended, -⟩ := h
  obtain ⟨fuel, rfl⟩ := Nat.exists_eq_add_of_le' (show k ≤ fuel by omega)
  rw [leads.steps, steps_over ended.isOver]
  exact ended.isOver

/-- A round leads to another round, through a call whose answer settles nothing. -/
def GoesOn (w : Wait) (clock : Clock) (poll : σ → Rat → Call × σ) (s : State σ) : Prop :=
  ∃ s' time call next t, Leads w clock poll (w.rest clock s) 2 (w.rest clock s') ∧
    Calls w clock s.deadline s.now time ∧ poll s.source time = (call, next) ∧
    Asked.InTime clock s.deadline ⟨time, call⟩ t ∧ call.report ≠ .cancelled ∧
    (∀ q, ¬ Settles w call.report q) ∧ AtRest s' s.start s.deadline (s.calls ++ [time]) next t

variable (w clock poll) in
theorem endsIn_or_goesOn (s : State σ) : EndsIn w clock poll s ∨ GoesOn w clock poll s := by
  by_cases early : 0 < clock.span s.now s.deadline
  case neg =>
    have early := not_lt.1 early
    exact .inl ⟨0, by omega, _, [], _, _, _, .refl _, by simpa using ended_rest early,
      .expired (.before early)⟩
  have resting := isOver_rest (w := w) early
  by_cases left : 0 < clock.span (w.wake clock s.deadline s.now) s.deadline
  case neg =>
    have left := not_lt.1 left
    exact .inl ⟨1, by omega, _, [], _, _, _, .step resting (.refl _),
      by simpa using ended_step_rest early left, .expired (.after early left)⟩
  -- A call is made; how its answer is taken decides whether there is another round.
  obtain ⟨time, hc⟩ : ∃ time, Calls w clock s.deadline s.now time := ⟨_, early, rfl, left⟩
  obtain ⟨call, next, hp⟩ : ∃ call next, poll s.source time = (call, next) := ⟨_, _, rfl⟩
  have asking := asking_step_rest hc hp
  have leads : ∀ {e}, w.step clock poll (w.step clock poll (w.rest clock s)) = e →
      Leads w clock poll (w.rest clock s) 2 e :=
    fun he => .step resting (.step asking.isOver (he ▸ .refl _))
  by_cases late : ∃ t, Asked.InTime clock s.deadline ⟨time, call⟩ t
  case neg =>
    have late := not_exists.1 late
    exact .inl ⟨2, by omega, _, [⟨time, call⟩], _, _, _, leads rfl, asking.ended_late late,
      .late hc hp late⟩
  obtain ⟨t, ht⟩ := late
  obtain ⟨s', hs', step⟩ := asking.step_inTime w poll ht
  by_cases settles : ∃ q, Settles w call.report q
  case pos =>
    obtain ⟨q, hq⟩ := settles
    exact .inl ⟨2, by omega, _, [⟨time, call⟩], _, _, _, leads step, ended_take_settles hs' hq,
      .settled hc hp ht hq⟩
  have settles := not_exists.1 settles
  by_cases withdrawn : call.report = .cancelled
  case pos =>
    rw [withdrawn] at step
    exact .inl ⟨2, by omega, _, [⟨time, call⟩], _, _, _, leads step, ended_take_cancelled hs',
      .withdrawn hc hp ht withdrawn⟩
  obtain ⟨s'', hs'', rest⟩ := take_pending hs' settles withdrawn
  exact .inr ⟨s'', time, call, next, t, leads (step.trans rest), hc, hp, ht, withdrawn, settles,
    hs''⟩

/-- What a run has done from a state at the beginning of a round to its end. -/
def Ran (w : Wait) (clock : Clock) (poll : σ → Rat → Call × σ) (s final : State σ) (r : Result) :
    Prop :=
  ∃ asked, Course w clock poll s.start s.deadline s.source s.now asked final.source final.now r ∧
    final.calls = s.calls ++ asked.map Asked.time

/-- Whatever a wait has done that is over, it has done in a course. -/
theorem ran_of_steps {r : Result} (fuel : Nat) (s : State σ)
    (h : (w.steps clock poll fuel (w.rest clock s)).result? = some r) :
    Ran w clock poll s (w.steps clock poll fuel (w.rest clock s)) r := by
  induction fuel using Nat.strong_induction_on generalizing s with
  | _ fuel ih =>
  rcases endsIn_or_goesOn w clock poll s with
    ⟨k, -, e, asked, source, stop, q, leads, ended, course⟩ |
    ⟨s', time, call, next, t, leads, hc, hp, ht, withdrawn, settles, rest⟩
  · obtain ⟨fuel, rfl⟩ := Nat.exists_eq_add_of_le' (leads.busy _ _ h)
    rw [leads.steps, steps_over ended.isOver] at h ⊢
    obtain rfl : q = r := by simpa [ended.result?] using h
    exact ⟨asked, by rw [ended.source, ended.now]; exact course, ended.calls⟩
  · obtain ⟨fuel, rfl⟩ := Nat.exists_eq_add_of_le' (leads.busy _ _ h)
    rw [leads.steps] at h ⊢
    obtain ⟨asked, course, calls⟩ := ih fuel (by omega) s' h
    rw [rest.start, rest.deadline, rest.source, rest.now] at course
    refine ⟨⟨time, call⟩ :: asked, .pending hc hp ht withdrawn settles course, ?_⟩
    rw [calls, rest.calls, List.append_assoc]
    rfl

variable (w clock) in
theorem begin_eq (source : σ) (now : Rat) :
    ∃ s, AtRest s now (clock.later now w.timeout) [] source now ∧
      w.begin clock source now = w.rest clock s := by
  refine ⟨_, ?_, rfl⟩
  split
  · exact ⟨rfl, rfl, rfl, rfl, rfl⟩
  · split <;> exact ⟨rfl, rfl, rfl, rfl, rfl⟩

/-- **The course of a wait.** A wait that is over has gone through a course from its start, and its
calls are those of the course. -/
theorem course_of_run {source : σ} {now : Rat} {r : Result}
    (h : (w.run clock poll source now).result? = some r) :
    ∃ asked, Course w clock poll now (clock.later now w.timeout) source now asked
        (w.run clock poll source now).source (w.run clock poll source now).now r ∧
      (w.run clock poll source now).calls = asked.map Asked.time := by
  obtain ⟨s, hs, begins⟩ := begin_eq w clock source now
  rw [run, begins] at h ⊢
  obtain ⟨asked, course, calls⟩ := ran_of_steps _ s h
  rw [hs.start, hs.deadline, hs.source, hs.now] at course
  exact ⟨asked, course, by rw [calls, hs.calls, List.nil_append]⟩

/-- An answer arrives once. -/
theorem Asked.InTime.unique {deadline t u : Rat} {a : Asked} (h : a.InTime clock deadline t)
    (k : a.InTime clock deadline u) : t = u :=
  Option.some.inj (h.1.symm.trans k.1)

/-- An answer in time that settles the wait, or that says that its call has ended itself, is the
end of the wait. -/
theorem Course.of_answer {start deadline now stop : Rat} {source last : σ} {asked : List Asked}
    {r : Result} (h : Course w clock poll start deadline source now asked last stop r) {a : Asked}
    {t : Rat} (made : a ∈ asked) (hit : a.InTime clock deadline t) :
    (∀ q, Settles w a.call.report q → r = q ∧ stop = t) ∧
      (a.call.report = .cancelled → r = w.expiry clock start t ∧ stop = t) := by
  induction h with
  | expired => exact absurd made List.not_mem_nil
  | late _ _ late =>
    obtain rfl := List.mem_singleton.1 made
    exact absurd hit (late t)
  | withdrawn _ _ hit' withdrawn =>
    obtain rfl := List.mem_singleton.1 made
    obtain rfl := hit'.unique hit
    refine ⟨fun q settles => ?_, fun _ => ⟨rfl, rfl⟩⟩
    rw [withdrawn] at settles
    cases settles
  | settled _ _ hit' settles' =>
    obtain rfl := List.mem_singleton.1 made
    obtain rfl := hit'.unique hit
    refine ⟨fun q settles => ⟨settles'.unique settles, rfl⟩, fun withdrawn => ?_⟩
    rw [withdrawn] at settles'
    cases settles'
  | pending _ _ _ kept open_ _ ih =>
    rcases List.mem_cons.1 made with rfl | made
    · exact ⟨fun q settles => absurd settles (open_ q), fun withdrawn => absurd withdrawn kept⟩
    · exact ih made

/-- A wait reaches its goal exactly if the status for success is the answer to one of its calls and
arrives in time. -/
theorem Course.reached_iff {start deadline now stop : Rat} {source last : σ} {asked : List Asked}
    {r : Result} (h : Course w clock poll start deadline source now asked last stop r) :
    (∃ v, r = .reached v) ↔ ∃ a ∈ asked, ∃ t v, a.InTime clock deadline t ∧
      a.call.report = .status v ∧ v.same w.success = true := by
  constructor
  · intro reached
    induction h with
    | expired | late | withdrawn =>
      obtain ⟨v, h⟩ := reached
      cases h
    | settled _ _ ht hr =>
      obtain ⟨v, rfl⟩ := reached
      generalize hcall : Call.report _ = report at hr
      cases hr with
      | success hv => exact ⟨_, List.mem_singleton.2 rfl, _, _, ht, hcall, hv⟩
    | pending _ _ _ _ _ _ ih =>
      obtain ⟨a, ha, found⟩ := ih reached
      exact ⟨a, List.mem_cons_of_mem _ ha, found⟩
  · intro found
    obtain ⟨a, ha, t, v, ht, hv, hs⟩ := found
    have settles : Settles w a.call.report (.reached w.success) := hv ▸ Settles.success hs
    exact ⟨_, ((h.of_answer ha ht).1 _ settles).1⟩

end ClusterOps.Wait

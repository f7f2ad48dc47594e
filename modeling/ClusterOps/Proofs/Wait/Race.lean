import ClusterOps.Proofs.Wait.Pace

/-
A wait with what goes on beside it, on the exact clock, in every state that it can come
to, cancelled or not. As long as it is not cancelled it stands where the wait stands
that only goes from one time to the next (`Race.Stands`), so that both end alike
(`Comes.run_eq`). It keeps its pace, and its steps are used up (`Race.Runs.kept`).
-/

namespace ClusterOps.Wait

variable {σ : Type} {w : Wait} {poll : σ → Rat → Call × σ}

/-! ## The other wait -/

/-- The wait that goes from one time to the next comes from one state to another. -/
def Comes (w : Wait) (poll : σ → Rat → Call × σ) (first c : State σ) : Prop :=
  ∃ k, Leads w .exact poll first k c

theorem Comes.step {first c : State σ} (h : Comes w poll first c) (busy : c.isOver = false) :
    Comes w poll first (w.step .exact poll c) := by
  obtain ⟨k, leads⟩ := h
  exact ⟨k + 1, leads.snoc busy⟩

/-- Where that wait is over, it has come to its end. -/
theorem Comes.run_eq {source : σ} {now : Rat} {c : State σ} {r : Result} (positive : 0 < w.interval)
    (delays : ∀ source t d, (poll source t).1.delay = some d → 0 ≤ d)
    (comes : Comes w poll (w.begin .exact source now) c) (result : c.result? = some r) :
    w.run .exact poll source now = c := by
  obtain ⟨k, leads⟩ := comes
  obtain ⟨q, ends⟩ := State.exists_result (isOver_run positive delays source now)
  rw [run] at ends ⊢
  obtain ⟨fuel, enough⟩ : ∃ fuel, w.bound = fuel + k :=
    Nat.exists_eq_add_of_le' (leads.busy _ q ends)
  rw [enough, leads.steps]
  refine steps_over ?_ fuel
  simp only [State.isOver, State.result?] at result ⊢
  split at result <;> simp_all

namespace Race

variable {start : Rat} {s : Race σ} {first : State σ}

/-! ## Where a wait stands -/

/-- A wait stands where the other one stands: at the beginning of a round that leads to a rest, with
a call that it has made, or at the end; unless it was cancelled. -/
inductive Stands (w : Wait) (poll : σ → Rat → Call × σ) (first : State σ) (s : Race σ) : Prop
  | resting {c base} : s.stage = .resting → Comes w poll first (w.rest .exact c) →
      AtRest c s.start s.deadline s.times s.source base → base < s.deadline →
      s.start + s.asked.length * w.interval ≤ base →
      (∀ a ∈ s.asked, ∃ t, a.ended = some t ∧ t ≤ base) →
      (s.live = [nap w s.deadline base] ∨
        s.live = [] ∧ s.now = w.wake .exact s.deadline base) → Stands w poll first s
  | asking {c a ring bell} : s.stage = .asking a.call.report → Comes w poll first c →
      Asking .exact c s.start s.deadline s.times a s.source → s.rounds ≤ s.asked.length →
      s.live = ring ++ bell →
      (ring = [ringing a] ∨ ring = [] ∧ a.arrival? .exact = some s.now) →
      (bell = [alarm s.deadline a.time] ∨ bell = [] ∧ s.now = s.deadline) →
      Stands w poll first s
  | closing {c a answer} : s.stage = .closing answer → Comes w poll first c →
      Asking .exact c s.start s.deadline s.times a s.source → s.rounds ≤ s.asked.length →
      (∀ b ∈ s.live, b.stopped = true) →
      (answer = some a.call.report ∧ a.InTime .exact s.deadline s.now ∨
        answer = none ∧ (∀ t, ¬ a.InTime .exact s.deadline t) ∧ s.now = s.deadline) →
      Stands w poll first s
  | leaving : s.stage = .leaving → (∀ b ∈ s.live, b.stopped = true) → Stands w poll first s
  | cancelled : s.stage = .ended none → s.live = [] → Stands w poll first s
  | ended {c r} : s.stage = .ended (some r) → Comes w poll first c →
      Ended c s.times s.source s.now r → s.live = [] → Stands w poll first s

/-- Time stands still while something can happen without. -/
theorem Passes.eq_now {t : Rat} (h : s.Passes t) (busy : ¬ s.Idle) : t = s.now := by
  rcases h.forward.lt_or_eq with lt | eq
  · exact absurd (h.idle lt) busy
  · exact eq.symm

/-- Time stands still once the call or its timer is over. -/
theorem Passes.eq_now_of_asking {t : Rat} {report : Report} (h : s.Passes t)
    (stage : s.stage = .asking report) (few : s.live.length < 2) : t = s.now := by
  rcases h.forward.lt_or_eq with lt | eq
  case inr => exact eq.symm
  obtain ⟨waits, -⟩ := h.idle lt
  simp only [Ready, stage, few, true_and, not_forall, not_lt] at waits
  obtain ⟨a, ha, u, hu, le⟩ := waits
  exact le_antisymm ((h.first a ha u hu).trans le) h.forward

/-- What was stopped comes to its end now. -/
theorem Passes.eq_now_of_stopped {t : Rat} {a : Activity} (h : s.Passes t) (ha : a ∈ s.live)
    (stopped : a.stopped = true) : t = s.now := by
  refine h.eq_now fun idle => ?_
  rw [idle.2 a ha] at stopped
  cases stopped

/-- No time passes beyond the deadline. -/
theorem Stands.passes_le (h : Stands w poll first s) (paced : Paced w start s)
    (going : ∀ r, s.stage ≠ .ended r) {t : Rat} (passes : s.Passes t) : t ≤ s.deadline := by
  have sleeping : ∀ a ∈ s.live, a.kind ≠ .call → t ≤ s.deadline := by
    intro a ha hk
    obtain ⟨u, hu, le⟩ := paced.sleeps a (List.mem_append_right _ ha) hk
    exact (passes.first a ha u hu).trans le
  have still : t = s.now → t ≤ s.deadline := fun eq => eq ▸ paced.inTime
  have closed : (s.live = [] → s.Ready) → (∀ b ∈ s.live, b.stopped = true) → t ≤ s.deadline := by
    intro ready stopped
    refine still ?_
    cases hl : s.live with
    | nil => exact passes.eq_now fun idle => idle.1 (ready hl)
    | cons b _ =>
      have hb : b ∈ s.live := hl ▸ List.mem_cons_self
      exact passes.eq_now_of_stopped hb (stopped b hb)
  cases h with
  | @resting _ base stage _ _ _ _ _ live =>
    rcases live with live | ⟨live, -⟩
    · exact sleeping (nap w s.deadline base) (by simp [live]) (by simp [nap, Activity.begun])
    · exact closed (by simp [Ready, stage]) (by simp [live])
  | @asking _ a _ _ stage _ _ _ live ring bell =>
    rcases bell with rfl | ⟨rfl, -⟩
    · exact sleeping (alarm s.deadline a.time) (by simp [live]) (by simp [alarm, Activity.begun])
    · refine still (passes.eq_now_of_asking stage ?_)
      rcases ring with rfl | ⟨rfl, -⟩ <;> simp [live]
  | closing stage _ _ _ stopped => exact closed (by simp [Ready, stage]) stopped
  | leaving stage stopped => exact closed (by simp [Ready, stage]) stopped
  | cancelled stage => exact absurd stage (going _)
  | ended stage => exact absurd stage (going _)

/-! ## Its steps -/

/-- What has been stopped comes to its end. -/
theorem Stands.settle (h : Stands w poll first s)
    (single : (s.live.filter Activity.isCall).length ≤ 1) {before after : List Activity}
    {a : Activity} (hl : s.live = before ++ a :: after) (stopped : a.stopped = true) :
    Stands w poll first (s.settle before a after) := by
  have mem : a ∈ s.live := by simp [hl]
  have fewer : ∀ b ∈ before ++ after, b ∈ s.live := by
    intro b hb
    rw [hl]
    exact (List.sublist_cons_self a after).append_left before |>.subset hb
  have unstopped : ∀ {P : Prop}, a.stopped = false → P := fun h => by simp [h] at stopped
  cases h with
  | resting stage _ _ _ _ _ live =>
    rcases live with live | ⟨live, -⟩ <;> rw [live] at mem
    · exact unstopped (List.mem_singleton.1 mem ▸ rfl)
    · exact absurd mem List.not_mem_nil
  | asking stage _ _ _ live ring bell =>
    rw [live] at mem
    rcases ring with rfl | ⟨rfl, -⟩ <;> rcases bell with rfl | ⟨rfl, -⟩ <;>
      simp only [List.append_nil, List.nil_append, List.cons_append, List.mem_cons,
        List.not_mem_nil, or_false] at mem
    · rcases mem with rfl | rfl <;> exact unstopped rfl
    · exact unstopped (mem ▸ rfl)
    · exact unstopped (mem ▸ rfl)
  | closing stage comes asking rounds stopped answer =>
    refine .closing stage comes ?_ ?_ (fun b hb => stopped b (fewer b hb)) answer
    · rw [times_settle single hl]
      exact asking
    · rw [length_asked_settle single hl]
      exact rounds
  | leaving stage stopped => exact .leaving stage fun b hb => stopped b (fewer b hb)
  | cancelled _ live => simp [live] at hl
  | ended _ _ _ live => simp [live] at hl

theorem eq_of_single {x a : Activity} {before after : List Activity}
    (h : [x] = before ++ a :: after) : before = [] ∧ a = x ∧ after = [] := by
  rcases before with - | ⟨b, before⟩ <;> simp_all

theorem eq_of_pair {x y a : Activity} {before after : List Activity}
    (h : [x, y] = before ++ a :: after) :
    before = [] ∧ a = x ∧ after = [y] ∨ before = [x] ∧ a = y ∧ after = [] := by
  rcases before with - | ⟨b, - | ⟨c, before⟩⟩ <;> simp_all

/-- Something ends by itself. -/
theorem Stands.elapse (h : Stands w poll first s) (paced : Paced w start s)
    {before after : List Activity} {a : Activity} {t : Rat} (hl : s.live = before ++ a :: after)
    (due : a.due = some t) (passes : s.Passes t) :
    Stands w poll first ({ s with now := t }.settle before a after) := by
  have mem : a ∈ s.live := by simp [hl]
  cases hs : a.stopped with
  | true =>
    obtain rfl := passes.eq_now_of_stopped mem hs
    exact h.settle paced.single hl hs
  | false =>
  have length := length_asked_settle (s := { s with now := t }) paced.single hl
  have times := times_settle (s := { s with now := t }) paced.single hl
  cases h with
  | @resting c base stage comes rest early pace done live =>
    rcases live with live | ⟨live, -⟩ <;> rw [live] at hl
    case inr => simp at hl
    obtain ⟨rfl, rfl, rfl⟩ := eq_of_single hl
    have same : ({ s with now := t }.settle [] (nap w s.deadline base) []).asked = s.asked := by
      simp [asked, Race.settle, live, nap, Activity.isCall, Activity.begun, Activity.endedAt]
    refine .resting stage comes (times ▸ rest) early (length ▸ pace) (same ▸ done) (.inr ⟨rfl, ?_⟩)
    exact (Option.some.inj due).symm
  | @asking c x ring bell stage comes coarse rounds live hring hbell =>
    have next : ∀ ring' bell', before ++ after = ring' ++ bell' →
        (ring' = [ringing x] ∨ ring' = [] ∧ x.arrival? .exact = some t) →
        (bell' = [alarm s.deadline x.time] ∨ bell' = [] ∧ t = s.deadline) →
        Stands w poll first ({ s with now := t }.settle before a after) := by
      intro ring' bell' live ring bell
      have coarse : Asking .exact c s.start s.deadline
          ({ s with now := t }.settle before a after).times x s.source := times.symm ▸ coarse
      exact .asking stage comes coarse (length.symm ▸ rounds) live ring bell
    have still : s.live.length < 2 → t = s.now := passes.eq_now_of_asking stage
    have expiry : (alarm s.deadline x.time).due = some s.deadline :=
      congrArg some (cutoff_exact s.deadline x.time)
    rw [live] at hl still
    rcases hring with rfl | ⟨rfl, arrived⟩ <;> rcases hbell with rfl | ⟨rfl, expired⟩
    · rcases eq_of_pair hl with ⟨rfl, rfl, rfl⟩ | ⟨rfl, rfl, rfl⟩
      · exact next [] _ rfl (.inr ⟨rfl, due⟩) (.inl rfl)
      · have : t = s.deadline := Option.some.inj (due.symm.trans expiry)
        exact next _ [] rfl (.inl rfl) (.inr ⟨rfl, this⟩)
    · obtain ⟨rfl, rfl, rfl⟩ := eq_of_single hl
      exact next [] [] rfl (.inr ⟨rfl, due⟩) (.inr ⟨rfl, (still (by simp)).trans expired⟩)
    · obtain ⟨rfl, rfl, rfl⟩ := eq_of_single hl
      have : t = s.deadline := Option.some.inj (due.symm.trans expiry)
      exact next [] [] rfl (.inr ⟨rfl, still (by simp) ▸ arrived⟩) (.inr ⟨rfl, this⟩)
    · simp at hl
  | closing _ _ _ _ stopped => rw [stopped a mem] at hs; cases hs
  | leaving _ stopped => rw [stopped a mem] at hs; cases hs
  | cancelled _ live => simp [live] at hl
  | ended _ _ _ live => simp [live] at hl

/-- A round begins where a round of the other wait begins. -/
theorem Stands.enterRound {c : State σ} (paced : Paced w start s) (idle : s.live = [])
    (comes : Comes w poll first (w.rest .exact c))
    (rest : AtRest c s.start s.deadline s.times s.source s.now) :
    Stands w poll first (enterRound w .exact s) := by
  rcases le_or_gt s.deadline s.now with left | left
  case inl =>
    rw [enterRound_of_le left]
    have late : Clock.exact.span c.now c.deadline ≤ 0 := by
      rw [rest.now, rest.deadline]
      exact sub_nonpos.2 left
    have ended := ended_rest (w := w) late
    rw [rest.calls, rest.source, rest.now, rest.start] at ended
    exact .ended rfl comes ended idle
  case inr =>
    rw [enterRound_of_lt idle left]
    set s' : Race σ := { s with
      rounds := s.rounds + 1, stage := .resting, live := [nap w s.deadline s.now] }
    have asked : s'.asked = s.asked := by
      simp [Race.asked, s', idle, nap, Activity.isCall, Activity.begun]
    have times : s'.times = s.times := congrArg (List.map Activity.since) asked
    refine .resting rfl comes (times ▸ rest) left ?_ ?_ (.inl rfl)
    · rw [asked, paced.begun]
      exact paced.pace
    · rw [asked, Race.asked, idle, List.append_nil]
      exact fun a ha => paced.past a (List.mem_filter.1 ha).1

/-- After its rest the wait makes a call if the other one does. -/
theorem Stands.ask {c : State σ} {base : Rat} (idle : s.live = [])
    (comes : Comes w poll first (w.rest .exact c))
    (rest : AtRest c s.start s.deadline s.times s.source base) (early : base < s.deadline)
    (rounds : s.rounds ≤ s.asked.length + 1) (woken : s.now = w.wake .exact s.deadline base) :
    Stands w poll first (ask w .exact poll s) := by
  obtain ⟨hstart, hdeadline, hcalls, hsource, hnow⟩ := rest
  have early : 0 < Clock.exact.span c.now c.deadline := by
    rw [hnow, hdeadline]
    exact sub_pos.2 early
  have comes := comes.step (isOver_rest early)
  have woken : s.now = w.wake .exact c.deadline c.now := by rw [hnow, hdeadline, woken]
  rcases le_or_gt s.deadline s.now with left | left
  case inl =>
    rw [ask_of_le left]
    have ended : Ended (w.step .exact poll (w.rest .exact c)) _ _ _ _ :=
      ended_step_rest early (by rw [← woken, hdeadline]; exact sub_nonpos.2 left)
    rw [← woken, hcalls, hsource, hstart] at ended
    exact .ended rfl comes ended idle
  case inr =>
    obtain ⟨call, next, answer⟩ : ∃ call next, poll s.source s.now = (call, next) := ⟨_, _, rfl⟩
    rw [ask_of_lt idle left answer]
    set s' : Race σ := { s with
      source := next, stage := .asking call.report,
      live := [ringing ⟨s.now, call⟩, alarm s.deadline s.now] }
    have asked : s'.asked = s.asked ++ [ringing ⟨s.now, call⟩] := by
      simp [Race.asked, s', idle, ringing, alarm, Activity.isCall, Activity.begun]
    have times : s'.times = s.times ++ [s.now] := by
      rw [Race.times, asked, List.map_append]
      rfl
    have answer : poll c.source s.now = (call, next) := hsource ▸ answer
    have asking := asking_step_rest (w := w) (s := c)
      ⟨early, woken, by rw [hdeadline]; exact sub_pos.2 left⟩ answer
    rw [hstart, hdeadline, hcalls, ← times] at asking
    refine .asking rfl comes asking ?_ rfl (.inl rfl) (.inl rfl)
    rw [asked, List.length_append]
    exact rounds

/-- An answer in time is taken as the other wait takes it. -/
theorem Stands.take {c : State σ} {a : Asked} (paced : Paced w start s) (idle : s.live = [])
    (comes : Comes w poll first c)
    (asking : Asking .exact c s.start s.deadline s.times a s.source)
    (inTime : a.InTime .exact s.deadline s.now) :
    Stands w poll first (take w .exact a.call.report s) := by
  have comes := comes.step asking.isOver
  obtain ⟨c', rest, step⟩ := asking.step_inTime w poll inTime
  rw [step] at comes
  by_cases withdrawn : a.call.report = .cancelled
  case pos =>
    rw [withdrawn] at comes ⊢
    exact .ended rfl comes (ended_take_cancelled rest) idle
  by_cases settles : ∃ r, Settles w a.call.report r
  case pos =>
    obtain ⟨r, hr⟩ := settles
    rw [take_of_settles hr]
    exact .ended rfl comes (ended_take_settles rest hr) idle
  · have settles := not_exists.1 settles
    obtain ⟨c'', rest, round⟩ := take_pending rest settles withdrawn
    rw [take_of_open settles withdrawn]
    exact .enterRound paced idle (round ▸ comes) rest

/-- One of the call and the timer is over, and the other is stopped. -/
theorem Stands.close {c : State σ} {a : Asked} {ring bell : List Activity}
    (paced : Paced w start s) (ready : s.Ready) (stage : s.stage = .asking a.call.report)
    (comes : Comes w poll first c)
    (asking : Asking .exact c s.start s.deadline s.times a s.source)
    (rounds : s.rounds ≤ s.asked.length) (live : s.live = ring ++ bell)
    (hring : ring = [ringing a] ∨ ring = [] ∧ a.arrival? .exact = some s.now)
    (hbell : bell = [alarm s.deadline a.time] ∨ bell = [] ∧ s.now = s.deadline) :
    Stands w poll first (s.close
      (.closing (if s.live.any Activity.isCall then none else some a.call.report))) := by
  refine .closing rfl comes (times_close s _ ▸ asking) ((length_asked_close s _).symm ▸ rounds)
    ?_ ?_
  · intro b hb
    obtain ⟨b, -, rfl⟩ := List.mem_map.1 hb
    rfl
  simp only [Ready, stage, live] at ready
  rcases hring with rfl | ⟨rfl, arrived⟩ <;> rcases hbell with rfl | ⟨rfl, expired⟩
  · exact absurd ready.1 (by simp)
  · -- The call goes on, so its answer can only come after the deadline.
    right
    refine ⟨by simp [live, ringing, Activity.isCall, Activity.begun], fun t inTime => ?_, expired⟩
    have later := ready.2 (ringing a) (by simp) t inTime.1
    have le := inTime.2
    rw [cutoff_exact] at le
    exact absurd (expired ▸ later) (not_lt.2 le)
  all_goals
    left
    refine ⟨by simp [live, alarm, Activity.isCall, Activity.begun], arrived, ?_⟩
    rw [cutoff_exact]
    exact paced.inTime

/-- The wait goes on. -/
theorem Stands.goOn (positive : 0 < w.interval)
    (delays : ∀ source t d, (poll source t).1.delay = some d → 0 ≤ d) (h : Stands w poll first s)
    (paced : Paced w start s) (ready : s.Ready) :
    Paced w start (goOn w .exact poll s) ∧ Stands w poll first (goOn w .exact poll s) := by
  cases h with
  | @resting c base stage comes rest early pace done live =>
    have idle : s.live = [] := by simpa [Ready, stage] using ready
    have woken : s.now = w.wake .exact s.deadline base := by simpa [idle] using live
    rw [Race.goOn, stage]
    refine ⟨paced.ask positive delays idle fun left => ?_, .ask idle comes rest early paced.rounds
      woken⟩
    rcases wake_exact w base s.deadline with ⟨eq, -⟩ | ⟨eq, -⟩
    case inr => exact absurd (woken.trans eq) left.ne
    have now : s.now = base + w.interval := woken.trans eq
    refine ⟨fun a ha => ?_, ?_⟩
    · obtain ⟨t, ended, le⟩ := done a ha
      exact ⟨t, ended, by linarith⟩
    · rw [paced.begun] at pace
      linarith
  | @asking c a ring bell stage comes asking rounds live hring hbell =>
    rw [Race.goOn, stage]
    exact ⟨paced.close _, .close paced ready stage comes asking rounds live hring hbell⟩
  | @closing c a answer stage comes asking rounds stopped hanswer =>
    have idle : s.live = [] := by simpa [Ready, stage] using ready
    rw [Race.goOn, stage]
    rcases hanswer with ⟨rfl, inTime⟩ | ⟨rfl, late, expired⟩
    · exact ⟨paced.take positive idle rounds _, .take paced idle comes asking inTime⟩
    · refine ⟨{ paced with }, .ended rfl (comes.step asking.isOver) ?_ idle⟩
      have ended : Ended (w.step .exact poll _) _ _ _ _ := asking.ended_late late
      rw [cutoff_exact, ← expired] at ended
      exact ended
  | leaving stage =>
    have idle : s.live = [] := by simpa [Ready, stage] using ready
    rw [Race.goOn, stage]
    exact ⟨{ paced with }, .cancelled rfl idle⟩
  | cancelled stage => simp [Ready, stage] at ready
  | ended stage => simp [Ready, stage] at ready

/-- **One step.** Whatever happens next, the wait keeps its pace and stands where the other one
does. -/
theorem Stands.step {s' : Race σ} (positive : 0 < w.interval)
    (delays : ∀ source t d, (poll source t).1.delay = some d → 0 ≤ d) (h : Stands w poll first s)
    (paced : Paced w start s) (step : Step w .exact poll s s') :
    Paced w start s' ∧ Stands w poll first s' := by
  cases step with
  | elapse hl due passes =>
    have going : ∀ r, s.stage ≠ .ended r := by
      intro r stage
      cases h <;> simp_all
    exact ⟨(paced.later passes (h.passes_le paced going passes)).settle hl,
      h.elapse paced hl due passes⟩
  | stop hl stopped => exact ⟨paced.settle hl, h.settle paced.single hl stopped⟩
  | goOn ready => exact h.goOn positive delays paced ready
  | cancel _ going passes =>
    refine ⟨(paced.later passes (h.passes_le paced going passes)).close _, .leaving rfl ?_⟩
    intro b hb
    obtain ⟨b, -, rfl⟩ := List.mem_map.1 hb
    rfl

/-! ## Its end -/

/-- How many steps are left in a round at most, with those of a cancellation. -/
def pending (s : Race σ) : Nat :=
  match s.stage with
  | .resting => s.live.length + 6
  | .asking _ => s.live.length + 3
  | .closing _ => s.live.length + 2
  | .leaving => s.live.length + 1
  | .ended _ => 0

theorem pending_enterRound (w : Wait) (s : Race σ) (idle : s.live = []) :
    (enterRound w .exact s).pending ≤ 7 ∧ (enterRound w .exact s).rounds = s.rounds + 1 := by
  rcases le_or_gt s.deadline s.now with left | left
  · rw [enterRound_of_le left]
    exact ⟨Nat.zero_le _, rfl⟩
  · rw [enterRound_of_lt idle left]
    exact ⟨le_rfl, rfl⟩

theorem pending_settle (t : Rat) {before after : List Activity} {a : Activity}
    (hl : s.live = before ++ a :: after) (going : ∀ r, s.stage ≠ .ended r) :
    ({ s with now := t }.settle before a after).pending + 1 = s.pending := by
  have length : s.live.length = (before ++ after).length + 1 := by
    rw [hl]
    simp
    omega
  cases hs : s.stage with
  | ended r => exact absurd hs (going r)
  | _ => simp only [pending, settle, hs, length]

theorem pending_goOn (ready : s.Ready) :
    (goOn w .exact poll s).pending + 1 + 6 * s.rounds ≤
      s.pending + 6 * (goOn w .exact poll s).rounds := by
  cases stage : s.stage with
  | resting =>
    have idle : s.live = [] := by simpa [Ready, stage] using ready
    rw [goOn, stage, show s.pending = 6 by simp [pending, stage, idle]]
    rcases le_or_gt s.deadline s.now with left | left
    · rw [ask_of_le left]
      simp [timeOut, finish, pending]
    · rw [ask_of_lt idle left rfl]
      simp only [pending, List.length_cons, List.length_nil]
      omega
  | asking report =>
    simp only [goOn, stage, close, pending, List.length_map]
    omega
  | closing answer =>
    have idle : s.live = [] := by simpa [Ready, stage] using ready
    rw [goOn, stage, show s.pending = 2 by simp [pending, stage, idle]]
    have finished : ∀ r, (s.finish r).pending + 1 + 6 * s.rounds ≤ 2 + 6 * (s.finish r).rounds := by
      intro r
      change 0 + 1 + 6 * s.rounds ≤ 2 + 6 * s.rounds
      omega
    cases answer with
    | none => exact finished _
    | some report =>
      by_cases withdrawn : report = .cancelled
      case pos =>
        subst withdrawn
        exact finished _
      by_cases settles : ∃ r, Settles w report r
      case pos =>
        obtain ⟨r, hr⟩ := settles
        simp only [take_of_settles hr]
        exact finished r
      · simp only [take_of_open (not_exists.1 settles) withdrawn]
        obtain ⟨few, rounds⟩ := pending_enterRound w s idle
        omega
  | leaving =>
    have idle : s.live = [] := by simpa [Ready, stage] using ready
    simp [goOn, stage, pending, idle]
  | ended r => simp [Ready, stage] at ready

/-- Each step uses up one of those that are left; a new round has six more. -/
theorem pending_step {s' : Race σ} (h : Stands w poll first s) (step : Step w .exact poll s s') :
    s'.pending + 1 + 6 * s.rounds ≤ s.pending + 6 * s'.rounds := by
  have going : ∀ {before after : List Activity} {a}, s.live = before ++ a :: after →
      ∀ r, s.stage ≠ .ended r := by
    intro before after a hl r stage
    cases h <;> simp_all
  cases step with
  | elapse hl due passes => exact Nat.add_le_add (pending_settle _ hl (going hl)).le le_rfl
  | stop hl stopped => exact Nat.add_le_add (pending_settle s.now hl (going hl)).le le_rfl
  | goOn ready => exact pending_goOn ready
  | cancel leaving going passes =>
    cases hs : s.stage with
    | leaving => exact absurd hs leaving
    | ended r => exact absurd hs (going r)
    | _ => simp [pending, close, hs]

/-- A wait that goes on is not cancelled by it. -/
theorem goOn_stage (going : s.stage ≠ .leaving) : (goOn w .exact poll s).stage ≠ .leaving := by
  have rounds : ∀ s : Race σ, (enterRound w .exact s).stage ≠ .leaving := by
    intro s
    rw [enterRound]
    split <;> simp [timeOut, finish]
  cases stage : s.stage with
  | resting =>
    rw [goOn, stage]
    simp only [ask]
    split <;> simp [timeOut, finish]
  | asking report => simp [goOn, stage, close]
  | closing answer =>
    rw [goOn, stage]
    rcases answer with - | report
    · simp [timeOut, finish]
    · simp only [take]
      split
      · simp [timeOut, finish]
      · simp [finish]
      · split_ifs <;> first | exact rounds s | simp [finish]
  | leaving => exact absurd stage going
  | ended r => simp [goOn, stage]

/-- **A wait that is not over can go on**, and does not have to be cancelled for it. -/
theorem Stands.progress (h : Stands w poll first s) (paced : Paced w start s)
    (going : ∀ r, s.stage ≠ .ended r) :
    ∃ s', Step w .exact poll s s' ∧ (s.stage ≠ .leaving → s'.stage ≠ .leaving) := by
  -- The first thing that is due ends, if the wait has to wait for one.
  have elapse : ∀ a ∈ s.live, ∀ t, a.due = some t → (∀ b ∈ s.live, ∀ u, b.due = some u → t ≤ u) →
      (s.now < t → s.Idle) →
      ∃ s', Step w .exact poll s s' ∧ (s.stage ≠ .leaving → s'.stage ≠ .leaving) := by
    intro a ha t due first idle
    obtain ⟨before, after, hl⟩ := List.append_of_mem ha
    exact ⟨_, .elapse hl due ⟨(paced.live a ha).2 t due, first, idle⟩, id⟩
  have closed : (s.live = [] → s.Ready) → (∀ b ∈ s.live, b.stopped = true) →
      ∃ s', Step w .exact poll s s' ∧ (s.stage ≠ .leaving → s'.stage ≠ .leaving) := by
    intro ready stopped
    cases hl : s.live with
    | nil => exact ⟨_, .goOn (ready hl), goOn_stage⟩
    | cons b rest =>
      have hl : s.live = [] ++ b :: rest := hl
      exact ⟨_, .stop hl (stopped b (by simp [hl])), id⟩
  cases h with
  | @resting c base stage _ _ _ _ _ live =>
    rcases live with live | ⟨live, -⟩
    case inr => exact closed (by simp [Ready, stage]) (by simp [live])
    refine elapse (nap w s.deadline base) (by simp [live]) _ rfl ?_ fun _ => ⟨?_, ?_⟩
    · intro b hb u hu
      obtain rfl : b = _ := by simpa [live] using hb
      exact (Option.some.inj hu).le
    · simp [Ready, stage, live]
    · simp [live, nap, Activity.begun]
  | @asking c a ring bell stage _ _ _ live hring hbell =>
    by_cases ready : s.Ready
    case pos => exact ⟨_, .goOn ready, goOn_stage⟩
    by_cases few : s.live.length < 2
    case pos =>
      have due := ready
      simp only [Ready, stage, few, true_and, not_forall, not_lt] at due
      obtain ⟨b, hb, u, hu, le⟩ := due
      obtain rfl := le_antisymm le ((paced.live b hb).2 u hu)
      exact elapse b hb _ hu (fun x hx => (paced.live x hx).2) fun lt => absurd lt (lt_irrefl _)
    have both : s.live = [ringing a, alarm s.deadline a.time] := by
      rw [live] at few ⊢
      rcases hring with rfl | ⟨rfl, -⟩ <;> rcases hbell with rfl | ⟨rfl, -⟩ <;> simp_all
    have idle : s.Idle := ⟨ready, by simp [both, ringing, alarm, Activity.begun]⟩
    have expiry : (alarm s.deadline a.time).due = some s.deadline :=
      congrArg some (cutoff_exact s.deadline a.time)
    have next : ∀ b ∈ s.live, b = ringing a ∨ b = alarm s.deadline a.time := by simp [both]
    by_cases early : ∃ u, a.arrival? .exact = some u ∧ u ≤ s.deadline
    case pos =>
      obtain ⟨u, arrival, le⟩ := early
      refine elapse (ringing a) (by simp [both]) u arrival (fun b hb v hv => ?_) fun _ => idle
      rcases next b hb with rfl | rfl
      · exact (Option.some.inj (arrival.symm.trans hv)).le
      · exact le.trans (Option.some.inj (expiry.symm.trans hv)).le
    · refine elapse (alarm s.deadline a.time) (by simp [both]) s.deadline expiry
        (fun b hb v hv => ?_) fun _ => idle
      rcases next b hb with rfl | rfl
      · exact (lt_of_not_ge fun le => early ⟨v, hv, le⟩).le
      · exact (Option.some.inj (expiry.symm.trans hv)).le
  | closing stage _ _ _ stopped => exact closed (by simp [Ready, stage]) stopped
  | leaving stage stopped => exact closed (by simp [Ready, stage]) stopped
  | cancelled stage => exact absurd stage (going _)
  | ended stage => exact absurd stage (going _)

/-! ## Every state -/

variable {source : σ} {now : Rat} {n : Nat}

/-- A wait begins where the other one begins. -/
theorem stands_begin (positive : 0 < w.interval) (left : 0 < w.timeout) (source : σ) (now : Rat) :
    Paced w now (begin w .exact source now) ∧
      Stands w poll (w.begin .exact source now) (begin w .exact source now) := by
  set s : Race σ := ⟨now, now, Clock.exact.later now w.timeout, source, .resting, 0, [], []⟩
  have paced : Paced w now s := by
    refine ⟨rfl, rfl, ?_, by simp [s], by simp [s], by simp [s], Nat.zero_le _, by simp [s, asked],
      List.Pairwise.nil, ?_, ?_, Nat.zero_le _⟩
    · exact le_add_of_nonneg_right left.le
    · simp [s, asked]
    · simpa [s, asked] using left
  obtain ⟨c, rest, begins⟩ := begin_eq w .exact source now
  exact ⟨paced.enterRound positive rfl le_rfl,
    .enterRound paced rfl ⟨0, begins ▸ .refl _⟩ rest⟩

/-- **Every state.** A wait keeps its pace and stands where the other one does, and of the steps of
its rounds some are left. -/
theorem Runs.kept (positive : 0 < w.interval) (left : 0 < w.timeout)
    (delays : ∀ source t d, (poll source t).1.delay = some d → 0 ≤ d)
    (h : Runs w .exact poll source now n s) :
    Paced w now s ∧ Stands w poll (w.begin .exact source now) s ∧
      n + s.pending ≤ 6 * s.rounds + 1 := by
  induction h with
  | begin =>
    obtain ⟨paced, stands⟩ : Paced w now _ ∧ Stands w poll _ _ :=
      stands_begin positive left source now
    refine ⟨paced, stands, ?_⟩
    obtain ⟨few, rounds⟩ := pending_enterRound w
      (⟨now, now, Clock.exact.later now w.timeout, source, .resting, 0, [], []⟩ : Race σ) rfl
    change 0 + (enterRound w .exact _).pending ≤ 6 * (enterRound w .exact _).rounds + 1
    rw [rounds]
    omega
  | step _ step ih =>
    obtain ⟨paced, stands, steps⟩ := ih
    have used := pending_step stands step
    obtain ⟨paced, stands⟩ := stands.step positive delays paced step
    exact ⟨paced, stands, by omega⟩

/-- What a wait keeps to: it asks less often than intervals begin before its deadline, and enters no
more rounds than that; each call begins an interval or more after the start and after the end of
each call before it; at most one goes on; nothing that sleeps goes on past the deadline; and when it
is over all that it began has ended. -/
structure Orderly (w : Wait) (start : Rat) (s : Race σ) : Prop where
  calls : (s.calls.length : Int) ≤ (w.timeout / w.interval).ceil - 1
  rounds : (s.rounds : Int) ≤ (w.timeout / w.interval).ceil
  first : ∀ c ∈ s.calls, start + w.interval ≤ c.1
  apart : s.calls.Pairwise fun c d => ∃ t, c.2 = some t ∧ t + w.interval ≤ d.1
  single : (s.live.filter Activity.isCall).length ≤ 1
  sleeps : ∀ a ∈ s.past ++ s.live, a.kind ≠ .call →
    ∃ t, a.due = some t ∧ t ≤ start + w.timeout
  closed : ∀ r, s.stage = .ended r →
    s.live = [] ∧ ∀ a ∈ s.past, ∃ t, a.ended = some t ∧ t ≤ s.now

/-- There is room for fewer calls than intervals begin. -/
theorem Paced.lt_ceil (h : Paced w start s) (positive : 0 < w.interval) :
    (s.asked.length : Int) < (w.timeout / w.interval).ceil := by
  have room : (s.asked.length : Rat) < w.timeout / w.interval :=
    (lt_div_iff₀ positive).2 h.room
  exact_mod_cast room.trans_le Rat.le_ceil

theorem Paced.orderly (h : Paced w start s) (positive : 0 < w.interval)
    (closed : ∀ r, s.stage = .ended r → s.live = []) : Orderly w start s where
  calls := by
    have := h.lt_ceil positive
    rw [calls_eq, List.length_map]
    omega
  rounds := by
    have := h.lt_ceil positive
    have := h.rounds
    omega
  first := by
    intro c hc
    obtain ⟨a, ha, rfl⟩ := List.mem_map.1 hc
    exact h.first a ha
  apart := by
    rw [calls_eq, List.pairwise_map]
    exact h.apart
  single := h.single
  sleeps := h.deadline ▸ h.sleeps
  closed r stage := ⟨closed r stage, h.past⟩

/-- **A wait neither spins nor overlaps nor leaves anything behind.** In every state that it can
come to on the exact clock, whatever answers its calls and whenever it is cancelled, it keeps to
what it has to; it is over, or something else than a cancellation can happen; and it gets there in
so many steps. If it ends without being cancelled, it ends as the wait does that only goes from one
time to the next. -/
theorem runs_orderly (positive : 0 < w.interval) (left : 0 < w.timeout)
    (delays : ∀ source t d, (poll source t).1.delay = some d → 0 ≤ d)
    (h : Runs w .exact poll source now n s) :
    Orderly w now s ∧
      ((∃ r, s.stage = .ended r) ∨
        ∃ s', Step w .exact poll s s' ∧ (s.stage ≠ .leaving → s'.stage ≠ .leaving)) ∧
      (n : Int) ≤ 6 * (w.timeout / w.interval).ceil + 1 ∧
      ∀ r, s.stage = .ended (some r) →
        (w.run .exact poll source now).result? = some r ∧
        (w.run .exact poll source now).now = s.now ∧
        (w.run .exact poll source now).calls = s.calls.map Prod.fst := by
  obtain ⟨paced, stands, steps⟩ := h.kept positive left delays
  have closed : ∀ r, s.stage = .ended r → s.live = [] := by
    intro r stage
    cases stands <;> simp_all
  have orderly := paced.orderly positive closed
  refine ⟨orderly, ?_, ?_, ?_⟩
  · by_cases ended : ∃ r, s.stage = .ended r
    · exact .inl ended
    · exact .inr (stands.progress paced (not_exists.1 ended))
  · have := orderly.rounds
    omega
  · intro r stage
    cases stands with
    | ended stage' comes ended live =>
      obtain rfl : _ = r := by simpa [stage] using stage'.symm
      rw [comes.run_eq positive delays ended.result?]
      refine ⟨ended.result?, ended.now, ?_⟩
      rw [ended.calls, calls_eq, List.map_map]
      rfl
    | _ => simp_all

/-- A wait that is cancelled while its call hangs leaves neither the call nor its timer. -/
theorem runs_orderly_of_cancelled :
    let w : Wait := ⟨10, 25, .text "Successful", [.text "Failed"], "demo", .text "u-1", none⟩
    let poll : Unit → Rat → Call × Unit := fun _ _ => (⟨none, .cancelled⟩, ())
    ∃ s, Runs w .exact poll () 0 6 s ∧ s.stage = .ended none ∧ s.calls = [(10, some 12)] ∧
      Orderly w 0 s := by
  intro w poll
  let nap : Activity := .begun .rest 0 (some 10)
  let call : Activity := .begun .call 10 none
  let alarm : Activity := .begun .timer 10 (some 25)
  let rested := [nap.endedAt 10]
  let resting : Race Unit := ⟨0, 0, 25, (), .resting, 1, [] ++ nap :: [], []⟩
  let awake : Race Unit := ⟨10, 0, 25, (), .resting, 1, [], rested⟩
  let hung : Race Unit := ⟨10, 0, 25, (), .asking .cancelled, 1, [call, alarm], rested⟩
  let left : Race Unit := ⟨12, 0, 25, (), .leaving, 1, [] ++ call.stop :: [alarm.stop], rested⟩
  let alone : Race Unit := ⟨12, 0, 25, (), .leaving, 1, [] ++ alarm.stop :: [],
    rested ++ [call.stop.endedAt 12]⟩
  have begins : begin w .exact () 0 = resting := by decide +kernel
  have asks : goOn w .exact poll awake = hung := by decide +kernel
  have run : Runs w .exact poll () 0 0 resting := begins ▸ .begin
  have run : Runs w .exact poll () 0 1 awake := by
    refine run.step (.elapse (s := resting) (t := 10) rfl rfl ⟨by decide +kernel, ?_, ?_⟩)
    · simp [resting, nap, Activity.begun]
    · simp [resting, nap, Idle, Ready, Activity.begun]
  have run : Runs w .exact poll () 0 2 hung := asks ▸ run.step (.goOn rfl)
  have run : Runs w .exact poll () 0 3 left := by
    refine run.step (.cancel (s := hung) (t := 12) (by simp [hung]) (by simp [hung])
      ⟨by decide +kernel, ?_, ?_⟩)
    · have early : (12 : Rat) ≤ 25 := by decide +kernel
      simp [hung, call, alarm, Activity.begun, early]
    · simp [hung, Idle, Ready, call, alarm, Activity.begun]
  have run : Runs w .exact poll () 0 4 alone := run.step (.stop rfl rfl)
  have run := (run.step (.stop (a := alarm.stop) rfl rfl)).step (.goOn rfl)
  refine ⟨_, run, rfl, rfl, (runs_orderly (by decide +kernel) (by decide +kernel) ?_ run).1⟩
  simp [poll]

end Race

end ClusterOps.Wait

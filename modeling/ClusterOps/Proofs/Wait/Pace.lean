import ClusterOps.Proofs.Wait.Exact
import ClusterOps.Wait.Race

/-
The pace of a wait on the exact clock, with what goes on beside it. Each call begins
an interval or more after the one before it has ended, so that there is room for
fewer calls than intervals begin before the deadline, and nothing that sleeps goes on
past it. Whatever comes to its end, is stopped or is begun, the pace is kept
(`Race.Paced`).
-/

namespace ClusterOps.Wait

variable {σ : Type}

namespace Race

/-- The calls made so far, in their order. -/
def asked (s : Race σ) : List Activity := (s.past ++ s.live).filter Activity.isCall

theorem calls_eq (s : Race σ) : s.calls = s.asked.map fun a => (a.since, a.ended) := rfl

/-- The times at which the calls were made. -/
def times (s : Race σ) : List Rat := s.asked.map Activity.since

/-- A call ends some time before another begins. -/
def Apart (gap : Rat) (a b : Activity) : Prop := ∃ t, a.ended = some t ∧ t + gap ≤ b.since

/-- The calls keep their distance, and nothing that sleeps goes on past the deadline. -/
structure Paced (w : Wait) (start : Rat) (s : Race σ) : Prop where
  begun : s.start = start
  deadline : s.deadline = start + w.timeout
  inTime : s.now ≤ s.deadline
  past : ∀ a ∈ s.past, ∃ t, a.ended = some t ∧ t ≤ s.now
  live : ∀ a ∈ s.live, a.ended = none ∧ ∀ t, a.due = some t → s.now ≤ t
  sleeps : ∀ a ∈ s.past ++ s.live, a.kind ≠ .call → ∃ t, a.due = some t ∧ t ≤ s.deadline
  single : (s.live.filter Activity.isCall).length ≤ 1
  first : ∀ a ∈ s.asked, start + w.interval ≤ a.since
  apart : s.asked.Pairwise (Apart w.interval)
  pace : start + s.asked.length * w.interval ≤ s.now
  room : s.asked.length * w.interval < w.timeout
  rounds : s.rounds ≤ s.asked.length + 1

variable {w : Wait} {poll : σ → Rat → Call × σ} {start : Rat} {s : Race σ}

/-! ## What is begun -/

/-- The rest of a round. -/
def nap (w : Wait) (deadline base : Rat) : Activity :=
  .begun .rest base (some (w.wake .exact deadline base))

/-- A call that goes on. -/
def ringing (a : Asked) : Activity := .begun .call a.time (a.arrival? .exact)

/-- The timer that is set with a call. -/
def alarm (deadline time : Rat) : Activity :=
  .begun .timer time (some (cutoff .exact deadline time))

theorem enterRound_of_le (left : s.deadline ≤ s.now) :
    enterRound w .exact s = timeOut w .exact { s with rounds := s.rounds + 1 } :=
  if_pos (sub_nonpos.2 left)

theorem enterRound_of_lt (idle : s.live = []) (left : s.now < s.deadline) :
    enterRound w .exact s =
      { s with
        rounds := s.rounds + 1
        stage := .resting
        live := [nap w s.deadline s.now] } := by
  have left : ¬ Clock.exact.span s.now s.deadline ≤ 0 := not_le.2 (sub_pos.2 left)
  rw [enterRound, if_neg left, idle]
  rfl

theorem ask_of_le (left : s.deadline ≤ s.now) : ask w .exact poll s = timeOut w .exact s :=
  if_pos (sub_nonpos.2 left)

theorem ask_of_lt {call : Call} {next : σ} (idle : s.live = []) (left : s.now < s.deadline)
    (answer : poll s.source s.now = (call, next)) :
    ask w .exact poll s =
      { s with
        source := next
        stage := .asking call.report
        live := [ringing ⟨s.now, call⟩, alarm s.deadline s.now] } := by
  have left : ¬ Clock.exact.span s.now s.deadline ≤ 0 := not_le.2 (sub_pos.2 left)
  rw [ask, if_neg left, idle, answer]
  rfl

/-! ## The calls -/

/-- What comes to its end is no call, or it is the last one made. -/
theorem asked_settle {before after : List Activity} {a : Activity}
    (single : (s.live.filter Activity.isCall).length ≤ 1) (hl : s.live = before ++ a :: after) :
    (s.settle before a after).asked = s.asked ∨
      ∃ rest, s.asked = rest ++ [a] ∧
        (s.settle before a after).asked = rest ++ [a.endedAt s.now] := by
  have ended : (a.endedAt s.now).isCall = a.isCall := rfl
  cases hc : a.isCall with
  | false =>
    left
    simp [asked, settle, hl, hc, ended]
  | true =>
    right
    simp only [hl, List.filter_append, List.filter_cons_of_pos hc, List.length_append,
      List.length_cons] at single
    have none : before.filter Activity.isCall = [] ∧ after.filter Activity.isCall = [] :=
      ⟨List.eq_nil_of_length_eq_zero (by omega), List.eq_nil_of_length_eq_zero (by omega)⟩
    refine ⟨s.past.filter Activity.isCall, ?_, ?_⟩ <;>
      simp [asked, settle, hl, hc, ended, none]

/-- That something comes to its end changes neither the number of the calls nor their times. -/
theorem times_settle {before after : List Activity} {a : Activity}
    (single : (s.live.filter Activity.isCall).length ≤ 1) (hl : s.live = before ++ a :: after) :
    (s.settle before a after).times = s.times := by
  rcases asked_settle single hl with same | ⟨rest, old, new⟩
  · simp only [times, same]
  · simp only [times, old, new, List.map_append]
    rfl

theorem length_asked_settle {before after : List Activity} {a : Activity}
    (single : (s.live.filter Activity.isCall).length ≤ 1) (hl : s.live = before ++ a :: after) :
    (s.settle before a after).asked.length = s.asked.length := by
  simpa only [times, List.length_map] using congrArg List.length (times_settle single hl)

/-- To stop what goes on makes no call. -/
theorem filter_isCall_stop (l : List Activity) :
    (l.map Activity.stop).filter Activity.isCall
      = (l.filter Activity.isCall).map Activity.stop := by
  rw [List.filter_map]
  rfl

theorem asked_close (s : Race σ) (stage : Stage) :
    (s.close stage).asked = s.past.filter Activity.isCall ++
      (s.live.filter Activity.isCall).map Activity.stop := by
  simp [asked, close, filter_isCall_stop]

theorem times_close (s : Race σ) (stage : Stage) : (s.close stage).times = s.times := by
  rw [times, asked_close, List.map_append, List.map_map, times, asked, List.filter_append,
    List.map_append]
  rfl

theorem length_asked_close (s : Race σ) (stage : Stage) :
    (s.close stage).asked.length = s.asked.length := by
  simpa only [times, List.length_map] using congrArg List.length (times_close s stage)

/-! ## The pace is kept -/

/-- Time passes. -/
theorem Paced.later (h : Paced w start s) {t : Rat} (passes : s.Passes t) (le : t ≤ s.deadline) :
    Paced w start { s with now := t } :=
  { h with
    inTime := le
    past := fun a ha => (h.past a ha).imp fun _ e => ⟨e.1, e.2.trans passes.forward⟩
    live := fun a ha => ⟨(h.live a ha).1, passes.first a ha⟩
    pace := h.pace.trans passes.forward }

/-- Something comes to its end. -/
theorem Paced.settle (h : Paced w start s) {before after : List Activity} {a : Activity}
    (hl : s.live = before ++ a :: after) : Paced w start (s.settle before a after) := by
  have length := length_asked_settle h.single hl
  have sub : before ++ after ⊆ s.live := by
    rw [hl]
    exact (List.sublist_cons_self a after).append_left before |>.subset
  have mem : a ∈ s.live := by simp [hl]
  refine { h with
    past := ?past, live := fun b hb => h.live b (sub hb), sleeps := ?sleeps, single := ?single,
    first := ?first, apart := ?apart, pace := ?pace, room := ?room, rounds := ?rounds }
  case past =>
    intro b hb
    rcases List.mem_append.1 hb with hb | hb
    · exact h.past b hb
    · obtain rfl := List.mem_singleton.1 hb
      exact ⟨s.now, rfl, le_rfl⟩
  case sleeps =>
    intro b hb hk
    simp only [Race.settle, List.mem_append, List.mem_singleton] at hb
    rcases hb with (hb | rfl) | hb
    · exact h.sleeps b (List.mem_append_left _ hb) hk
    · exact h.sleeps a (List.mem_append_right _ mem) hk
    · exact h.sleeps b (List.mem_append_right _ (sub (List.mem_append.2 hb))) hk
  case single =>
    refine le_trans (List.Sublist.length_le (List.Sublist.filter _ ?_)) h.single
    rw [hl]
    exact (List.sublist_cons_self a after).append_left before
  case first =>
    intro b hb
    rcases asked_settle h.single hl with same | ⟨rest, old, new⟩
    · exact h.first b (same ▸ hb)
    · rw [new] at hb
      rcases List.mem_append.1 hb with hb | hb
      · exact h.first b (old ▸ List.mem_append_left _ hb)
      · obtain rfl := List.mem_singleton.1 hb
        exact h.first a (old ▸ List.mem_append_right _ (List.mem_singleton.2 rfl))
  case apart =>
    have apart := h.apart
    rcases asked_settle h.single hl with same | ⟨rest, old, new⟩
    · rwa [same]
    · -- Only the last call changes, and before others it does not matter when that one ends.
      rw [old, List.pairwise_append] at apart
      rw [new, List.pairwise_append]
      refine ⟨apart.1, List.pairwise_singleton _ _, fun b hb c hc => ?_⟩
      obtain rfl := List.mem_singleton.1 hc
      exact apart.2.2 b hb a (List.mem_singleton.2 rfl)
  case pace => exact length ▸ h.pace
  case room => exact length ▸ h.room
  case rounds => exact length ▸ h.rounds

/-- All that goes on is stopped. -/
theorem Paced.close (h : Paced w start s) (stage : Stage) : Paced w start (s.close stage) := by
  have length := length_asked_close s stage
  have live : ∀ a ∈ (s.close stage).live, ∃ b ∈ s.live, b.stop = a := fun a ha =>
    List.mem_map.1 ha
  -- A call that is stopped differs in nothing that the distances are about.
  have same : ∀ f : Activity → Prop, (∀ a, f a.stop ↔ f a) → (∀ a ∈ s.asked, f a) →
      ∀ a ∈ (s.close stage).asked, f a := by
    intro f hf all a ha
    rw [asked_close] at ha
    rw [asked, List.filter_append] at all
    rcases List.mem_append.1 ha with ha | ha
    · exact all a (List.mem_append_left _ ha)
    · obtain ⟨b, hb, rfl⟩ := List.mem_map.1 ha
      exact (hf b).2 (all b (List.mem_append_right _ hb))
  refine { h with
    live := ?live, sleeps := ?sleeps, single := ?single, first := ?first, apart := ?apart,
    pace := ?pace, room := ?room, rounds := ?rounds }
  case live =>
    intro a ha
    obtain ⟨b, hb, rfl⟩ := live a ha
    exact h.live b hb
  case sleeps =>
    intro a ha hk
    rcases List.mem_append.1 ha with ha | ha
    · exact h.sleeps a (List.mem_append_left _ ha) hk
    · obtain ⟨b, hb, rfl⟩ := live a ha
      exact h.sleeps b (List.mem_append_right _ hb) hk
  case single =>
    rw [Race.close, filter_isCall_stop, List.length_map]
    exact h.single
  case first => exact same _ (fun _ => Iff.rfl) h.first
  case apart =>
    have apart := h.apart
    rw [asked, List.filter_append, List.pairwise_append] at apart
    rw [asked_close, List.pairwise_append, List.pairwise_map]
    refine ⟨apart.1, apart.2.1, fun a ha b hb => ?_⟩
    obtain ⟨c, hc, rfl⟩ := List.mem_map.1 hb
    exact apart.2.2 a ha c hc
  case pace => exact length ▸ h.pace
  case room => exact length ▸ h.room
  case rounds => exact length ▸ h.rounds

/-- A round begins. -/
theorem Paced.enterRound (h : Paced w start s) (positive : 0 < w.interval) (idle : s.live = [])
    (rounds : s.rounds ≤ s.asked.length) : Paced w start (enterRound w .exact s) := by
  have rounds : s.rounds + 1 ≤ s.asked.length + 1 := Nat.succ_le_succ rounds
  rcases le_or_gt s.deadline s.now with left | left
  case inl =>
    rw [enterRound_of_le left]
    exact { h with rounds := rounds }
  case inr =>
    rw [enterRound_of_lt idle left]
    set s' : Race σ := { s with
      rounds := s.rounds + 1, stage := .resting, live := [nap w s.deadline s.now] }
    have woken : s.now ≤ w.wake .exact s.deadline s.now ∧
        w.wake .exact s.deadline s.now ≤ s.deadline := by
      rcases wake_exact w s.now s.deadline with ⟨eq, le⟩ | ⟨eq, lt⟩ <;> rw [eq]
      · exact ⟨by linarith, le⟩
      · exact ⟨left.le, le_rfl⟩
    have asked : s'.asked = s.asked := by
      simp [Race.asked, s', idle, nap, Activity.isCall, Activity.begun]
    refine { h with live := ?live, sleeps := ?sleeps, single := Nat.zero_le 1,
                    first := asked ▸ h.first, apart := asked ▸ h.apart, pace := asked ▸ h.pace,
                    room := asked ▸ h.room, rounds := asked ▸ rounds }
    case live =>
      intro a ha
      obtain rfl := List.mem_singleton.1 ha
      exact ⟨rfl, fun t ht => Option.some.inj ht ▸ woken.1⟩
    case sleeps =>
      intro a ha hk
      rcases List.mem_append.1 ha with ha | ha
      · exact h.sleeps a (List.mem_append_left _ ha) hk
      · obtain rfl := List.mem_singleton.1 ha
        exact ⟨_, rfl, woken.2⟩

/-- An answer takes its time. -/
theorem le_arrival {a : Asked} (delays : ∀ d, a.call.delay = some d → 0 ≤ d) {t : Rat}
    (ht : a.arrival? .exact = some t) : a.time ≤ t := by
  obtain ⟨d, hd, rfl⟩ := Option.map_eq_some_iff.1 ht
  have := delays d hd
  split
  · exact le_rfl
  · rw [Clock.later_exact]
    linarith

/-- A call is made, if there is time left after a rest of an interval. -/
theorem Paced.ask (h : Paced w start s) (positive : 0 < w.interval)
    (delays : ∀ source t d, (poll source t).1.delay = some d → 0 ≤ d) (idle : s.live = [])
    (rested : s.now < s.deadline →
      (∀ a ∈ s.asked, ∃ t, a.ended = some t ∧ t + w.interval ≤ s.now) ∧
        start + (s.asked.length + 1) * w.interval ≤ s.now) :
    Paced w start (ask w .exact poll s) := by
  rcases le_or_gt s.deadline s.now with left | left
  case inl =>
    rw [ask_of_le left]
    exact { h with }
  case inr =>
    obtain ⟨apart, pace⟩ := rested left
    rw [ask_of_lt idle left rfl]
    set a : Asked := ⟨s.now, (poll s.source s.now).1⟩
    set s' : Race σ := { s with
      source := (poll s.source s.now).2, stage := .asking a.call.report,
      live := [ringing a, alarm s.deadline s.now] }
    have expiry : (alarm s.deadline s.now).due = some s.deadline :=
      congrArg some (cutoff_exact s.deadline s.now)
    have asked : s'.asked = s.asked ++ [ringing a] := by
      simp [Race.asked, s', idle, ringing, alarm, Activity.isCall, Activity.begun]
    have count : (s'.asked.length : Rat) = s.asked.length + 1 := by simp [asked]
    have both : ∀ b ∈ s'.live, b = ringing a ∨ b = alarm s.deadline s.now := by simp [s']
    refine { h with live := ?live, sleeps := ?sleeps, single := le_rfl, first := ?first,
                    apart := ?apart, pace := ?pace, room := ?room, rounds := ?rounds }
    case live =>
      intro b hb
      rcases both b hb with rfl | rfl
      · exact ⟨rfl, fun t => le_arrival (a := a) (delays _ _)⟩
      · exact ⟨rfl, fun t ht => Option.some.inj (expiry.symm.trans ht) ▸ h.inTime⟩
    case sleeps =>
      intro b hb hk
      rcases List.mem_append.1 hb with hb | hb
      · exact h.sleeps b (List.mem_append_left _ hb) hk
      · rcases both b hb with rfl | rfl
        · exact absurd rfl hk
        · exact ⟨_, expiry, le_rfl⟩
    case first =>
      intro b hb
      rw [asked] at hb
      rcases List.mem_append.1 hb with hb | hb
      · exact h.first b hb
      · obtain rfl := List.mem_singleton.1 hb
        have : (0 : Rat) ≤ s.asked.length * w.interval :=
          mul_nonneg (Nat.cast_nonneg _) positive.le
        change start + w.interval ≤ s.now
        linarith
    case apart =>
      rw [asked, List.pairwise_append]
      refine ⟨h.apart, List.pairwise_singleton _ _, fun b hb c hc => ?_⟩
      obtain rfl := List.mem_singleton.1 hc
      exact apart b hb
    case pace =>
      rw [count]
      exact pace
    case room =>
      rw [count]
      have := h.deadline
      linarith
    case rounds =>
      rw [asked, List.length_append]
      exact h.rounds.trans (Nat.le_succ _)

/-- An answer that settles the wait ends it. -/
theorem take_of_settles {clock : Clock} {report : Report} {r : Result} (h : Settles w report r) :
    take w clock report s = s.finish r := by
  cases h with
  | success hv => simp [take, hv]
  | failure hv hk hf => simp only [take, hv, hk, hf]; simp
  | keyless hv hk => simp [take, hv, hk]
  | raised => rfl

/-- After any other answer there is another round. -/
theorem take_of_open {clock : Clock} {report : Report} (h : ∀ r, ¬ Settles w report r)
    (hc : report ≠ .cancelled) : take w clock report s = enterRound w clock s := by
  obtain ⟨v, rfl, hv, hk, hf⟩ := status_of_not_settles h hc
  simp [take, hv, hk, hf]

/-- An answer is taken. -/
theorem Paced.take (h : Paced w start s) (positive : 0 < w.interval) (idle : s.live = [])
    (rounds : s.rounds ≤ s.asked.length) (report : Report) :
    Paced w start (take w .exact report s) := by
  by_cases withdrawn : report = .cancelled
  case pos =>
    subst withdrawn
    exact { h with }
  by_cases settles : ∃ r, Settles w report r
  case pos =>
    obtain ⟨r, hr⟩ := settles
    rw [take_of_settles hr]
    exact { h with }
  · rw [take_of_open (not_exists.1 settles) withdrawn]
    exact h.enterRound positive idle rounds

end Race

end ClusterOps.Wait

import ClusterOps.Proofs.Wait.Verdict
import ClusterOps.Wait.Family

/-
Waits that are started together do not interfere. Whichever goes on first where
something happens to several at once, each of them stands where it stands after as
many steps alone (`Stand`), and a step of the family is a step of one wait
(`Stand.step`). So the family comes to its end after so many steps at most, and then
every wait is where it is at its end alone (`waits_apart`).

What the waits share is the time. A wait goes on at the time at which something
happens to it first, and what it reads off the clock then is this time; on the exact
clock the time never goes back.
-/

namespace ClusterOps.Wait

variable {σ : Type} {w : Wait} {clock : Clock} {poll : σ → Rat → Call × σ} {s : State σ}

/-! ## One wait -/

theorem State.due?_eq_none_iff : s.due? = none ↔ s.isOver = true := by
  cases phase : s.phase <;> simp [State.due?, State.isOver, phase]

theorem State.isOver_of_due? {t : Rat} (due : s.due? = some t) : s.isOver = false := by
  rw [← Bool.not_eq_true, ← due?_eq_none_iff, due]
  nofun

theorem now_timeOut (s : State σ) : (w.timeOut clock s).now = s.now := rfl

theorem now_rest (s : State σ) : (w.rest clock s).now = s.now := by
  rw [rest]
  split <;> rfl

theorem now_ask (s : State σ) : (w.ask clock poll s).now = s.now := by
  rw [ask]
  split <;> rfl

theorem now_take (report : Report) (s : State σ) : (w.take clock report s).now = s.now := by
  unfold take
  split
  · rfl
  · rfl
  · split
    · rfl
    · split
      · rfl
      · split
        · rfl
        · exact now_rest _

theorem now_begin (source : σ) (now : Rat) : (w.begin clock source now).now = now := by
  obtain ⟨s, hs, begins⟩ := begin_eq w clock source now
  rw [begins, now_rest, hs.now]

theorem least_of_le {a b : Rat} (h : b ≤ a) : Clock.least a b = b := by
  rw [Clock.least]
  split
  case isTrue le => exact le_antisymm le h
  case isFalse => rfl

/-- What a wait reads off the clock when it goes on is the time at which something happens to it. -/
theorem now_step {t : Rat} (due : s.due? = some t) : (w.step clock poll s).now = t := by
  cases phase : s.phase with
  | «over» r => simp [State.due?, phase] at due
  | resting span wake =>
    obtain rfl : wake = t := by simpa [State.due?, phase] using due
    simp only [step, phase]
    exact now_ask _
  | asking span limit arrival report =>
    cases arrival with
    | none =>
      obtain rfl : limit = t := by simpa [State.due?, phase] using due
      simp only [step, phase]
      exact now_timeOut _
    | some u =>
      obtain rfl : Clock.least limit u = t := by simpa [State.due?, phase] using due
      simp only [step, phase]
      split
      case isTrue early =>
        rw [now_take, least_of_le early]
      case isFalse late =>
        rw [now_timeOut, Clock.least, if_pos (not_le.1 late).le]

/-! ## On the exact clock -/

section Exact

variable {t : Rat} (positive : 0 < w.interval)

theorem le_least {a b c : Rat} (ha : c ≤ a) (hb : c ≤ b) : c ≤ Clock.least a b := by
  rw [Clock.least]
  split <;> assumption

theorem le_due?_ask (delays : ∀ source t d, (poll source t).1.delay = some d → 0 ≤ d)
    (due : (w.ask .exact poll s).due? = some t) : s.now ≤ t := by
  rw [ask] at due
  split at due
  case isTrue => cases due
  case isFalse left =>
    rw [Clock.span_exact, not_le] at left
    have answered := delays s.source s.now
    cases called : (poll s.source s.now).1.delay with
    | none =>
      obtain rfl : s.now + (s.deadline - s.now) = t := by simpa [State.due?, called] using due
      linarith
    | some d =>
      have nonneg := answered d called
      obtain rfl : Clock.least (s.now + (s.deadline - s.now))
          (if d = 0 then s.now else s.now + d) = t := by
        simpa [State.due?, called] using due
      refine le_least (by linarith) ?_
      split <;> linarith

include positive

theorem le_due?_rest (due : (w.rest .exact s).due? = some t) : s.now ≤ t := by
  rw [rest] at due
  split at due
  case isTrue => cases due
  case isFalse left =>
    obtain rfl : s.now + Clock.least w.interval (s.deadline - s.now) = t := by
      simpa [State.due?] using due
    have := le_least positive.le (not_le.1 left).le
    rw [Clock.span_exact] at this
    linarith

theorem le_due?_take (report : Report) (due : (w.take .exact report s).due? = some t) :
    s.now ≤ t := by
  unfold take at due
  split at due
  · cases due
  · cases due
  · split at due
    · cases due
    · split at due
      · cases due
      · split at due
        · cases due
        · have later := le_due?_rest positive due
          exact later

/-- What happens to a wait next does not happen before what happened last. -/
theorem le_due?_step (delays : ∀ source t d, (poll source t).1.delay = some d → 0 ≤ d) {u : Rat}
    (due : s.due? = some t) (next : (w.step .exact poll s).due? = some u) : t ≤ u := by
  have now : (w.step .exact poll s).now = t := now_step due
  rw [← now]
  cases phase : s.phase with
  | «over» r => simp [State.due?, phase] at due
  | resting span wake =>
    simp only [step, phase] at next ⊢
    rw [now_ask]
    exact le_due?_ask delays next
  | asking span limit arrival report =>
    cases arrival with
    | none =>
      simp only [step, phase] at next
      cases next
    | some a =>
      simp only [step, phase] at next ⊢
      split at next
      case isTrue early =>
        rw [if_pos early, now_take]
        exact le_due?_take positive report next
      case isFalse => cases next

end Exact

/-! ## Many waits -/

/-- What a wait of a family comes to alone. -/
def alone (clock : Clock) (now : Rat) (job : Wait × Script) : State Nat :=
  job.1.run clock job.2.poll 0 now

namespace Family

/-- The waits at their common start. -/
def together (clock : Clock) (now : Rat) (jobs : List (Wait × Script)) : Family Nat :=
  jobs.map fun job => Member.begin clock job.1 job.2.poll 0 now

/-- The states to which a family can come, with the times at which its waits went on, the last one
first. -/
inductive Runs (clock : Clock) (f : Family σ) : List Rat → Family σ → Prop
  | start : Runs clock f [] f
  | step {ts g t g'} : Runs clock f ts g → g.dues.min? = some t → Step clock g g' →
    Runs clock f (t :: ts) g'

/-- A wait stands where it stands after so many steps alone. -/
structure At (clock : Clock) (now : Rat) (job : Wait × Script) (k : Nat) (m : Member Nat) :
    Prop where
  wait : m.wait = job.1
  poll : m.poll = job.2.poll
  leads : Leads job.1 clock job.2.poll (job.1.begin clock 0 now) k m.state

/-- Every wait of a family stands where it stands after some steps alone, so many in all. -/
inductive Stand (clock : Clock) (now : Rat) : List (Wait × Script) → Family Nat → Nat → Prop
  | nil : Stand clock now [] [] 0
  | cons {job jobs k m f n} : At clock now job k m → Stand clock now jobs f n →
    Stand clock now (job :: jobs) (m :: f) (k + n)

variable {now : Rat} {job : Wait × Script} {jobs : List (Wait × Script)} {k n : Nat}
  {m : Member Nat} {f : Family Nat}

theorem At.step (h : At clock now job k m) (busy : m.state.isOver = false) :
    At clock now job (k + 1) (m.step clock) := by
  obtain ⟨wait, poll, leads⟩ := h
  refine ⟨wait, poll, ?_⟩
  rw [Member.step, wait, poll]
  exact leads.snoc busy

/-- A wait that is over is where it is at its end alone. -/
theorem At.state_of_isOver (h : At clock now job k m) (ends : (alone clock now job).isOver = true)
    (isOver : m.state.isOver = true) : m.state = alone clock now job := by
  obtain ⟨r, result⟩ := State.exists_result ends
  obtain ⟨rest, bound⟩ := Nat.exists_eq_add_of_le' (h.leads.busy job.1.bound r result)
  rw [alone, Wait.run, bound, h.leads.steps, steps_over isOver]

/-- A wait that is not over has steps left. -/
theorem At.lt_bound (h : At clock now job k m) (ends : (alone clock now job).isOver = true)
    (busy : m.state.isOver = false) : k < job.1.bound := by
  obtain ⟨r, result⟩ := State.exists_result ends
  refine Nat.lt_of_le_of_ne (h.leads.busy job.1.bound r result) fun same => ?_
  have there := h.leads.steps 0
  rw [Nat.zero_add, same, Wait.steps] at there
  rw [alone, Wait.run, there, busy] at ends
  cases ends

theorem stand_together : Stand clock now jobs (together clock now jobs) 0 := by
  induction jobs with
  | nil => exact .nil
  | cons job jobs ih => exact .cons ⟨rfl, rfl, .refl _⟩ ih

/-- A step of one wait is a step of the family. -/
theorem Stand.step {before after : Family Nat} (h : Stand clock now jobs (before ++ m :: after) n)
    (busy : m.state.isOver = false) :
    Stand clock now jobs (before ++ m.step clock :: after) (n + 1) := by
  induction before generalizing jobs n with
  | nil =>
    cases h with
    | cons at_ rest =>
      rw [Nat.add_right_comm]
      exact .cons (at_.step busy) rest
  | cons l before ih =>
    cases h with
    | cons at_ rest =>
      rw [Nat.add_assoc]
      exact .cons at_ (ih rest)

/-- A family of which no wait is due is where its waits are at their ends alone. -/
theorem Stand.map_state (h : Stand clock now jobs f n)
    (ends : ∀ job ∈ jobs, (alone clock now job).isOver = true) (idle : f.dues = []) :
    f.map Member.state = jobs.map (alone clock now) := by
  induction h with
  | nil => rfl
  | @cons job jobs k m f n at_ rest ih =>
    rw [dues, List.filterMap_cons] at idle
    cases due : m.state.due? with
    | some t => simp [due] at idle
    | none =>
      rw [due] at idle
      rw [List.map_cons, List.map_cons, ih (fun j hj => ends j (by simp [hj])) idle,
        at_.state_of_isOver (ends job (by simp)) (State.due?_eq_none_iff.1 due)]

theorem At.le_bound (h : At clock now job k m) (ends : (alone clock now job).isOver = true) :
    k ≤ job.1.bound := by
  obtain ⟨r, result⟩ := State.exists_result ends
  exact h.leads.busy job.1.bound r result

/-- There are no more steps than the waits can take alone, and so long as a wait is due not all of
them are made. -/
theorem Stand.le_bound (h : Stand clock now jobs f n)
    (ends : ∀ job ∈ jobs, (alone clock now job).isOver = true) :
    n ≤ (jobs.map fun job => job.1.bound).sum ∧
      (f.dues ≠ [] → n < (jobs.map fun job => job.1.bound).sum) := by
  induction h with
  | nil => exact ⟨le_rfl, fun busy => absurd rfl busy⟩
  | @cons job jobs k m f n at_ rest ih =>
    obtain ⟨le, lt⟩ := ih fun j hj => ends j (by simp [hj])
    have own := at_.le_bound (ends job (by simp))
    rw [List.map_cons, List.sum_cons]
    refine ⟨Nat.add_le_add own le, fun busy => ?_⟩
    cases due : m.state.due? with
    | none =>
      rw [dues, List.filterMap_cons, due] at busy
      exact Nat.add_lt_add_of_le_of_lt own (lt busy)
    | some t =>
      have own := at_.lt_bound (ends job (by simp)) (State.isOver_of_due? due)
      exact Nat.add_lt_add_of_lt_of_le own le

variable (clock) in
theorem stepAt_eq {f : Family σ} {t : Rat} (due : t ∈ f.dues) : ∃ before m after,
    f = before ++ m :: after ∧ m.state.due? = some t ∧
      f.stepAt clock t = before ++ m.step clock :: after := by
  induction f with
  | nil => cases due
  | cons m f ih =>
    by_cases first : m.state.due? = some t
    · exact ⟨[], m, f, rfl, first, by rw [stepAt, if_pos first]; rfl⟩
    · have later : t ∈ dues f := by
        obtain ⟨l, mem, due⟩ := List.mem_filterMap.1 due
        rcases List.mem_cons.1 mem with rfl | mem
        · contradiction
        · exact List.mem_filterMap.2 ⟨l, mem, due⟩
      obtain ⟨before, l, after, rfl, due, eq⟩ := ih later
      exact ⟨m :: before, l, after, rfl, due, by rw [stepAt, if_neg first, eq]; rfl⟩

/-- The first wait that is due first can go on. -/
theorem step_stepAt {f : Family σ} {t : Rat} (due : f.dues.min? = some t) :
    Step clock f (f.stepAt clock t) := by
  obtain ⟨mem, first⟩ := List.min?_eq_some_iff.1 due
  obtain ⟨before, m, after, rfl, due, eq⟩ := stepAt_eq clock mem
  rw [eq]
  exact .of before m after t due first

/-- Whatever steps a family takes, its waits stand where they stand alone. -/
theorem Runs.stand {ts : List Rat} {g : Family Nat}
    (h : Runs clock (together clock now jobs) ts g) :
    Stand clock now jobs g ts.length := by
  induction h with
  | start => exact stand_together
  | step _ _ step ih =>
    cases step with
    | of before m after t due first => exact ih.step (State.isOver_of_due? due)

theorem steps_succ (fuel : Nat) (f : Family σ) : f.steps clock (fuel + 1)
    = f.dues.min?.elim f fun t => (f.stepAt clock t).steps clock fuel := by
  -- The equations of `steps` speak of another, equal, minimum of rationals.
  conv_lhs => whnf
  cases f.dues.min? <;> rfl

/-- Enough steps take a family to its end. -/
theorem map_state_steps (ends : ∀ job ∈ jobs, (alone clock now job).isOver = true) {fuel : Nat}
    (h : Stand clock now jobs f n) (enough : (jobs.map fun job => job.1.bound).sum ≤ n + fuel) :
    (f.steps clock fuel).map Member.state = jobs.map (alone clock now) := by
  induction fuel generalizing f n with
  | zero =>
    by_cases idle : f.dues = []
    · exact h.map_state ends idle
    · have := (h.le_bound ends).2 idle
      omega
  | succ fuel ih =>
    rw [steps_succ]
    cases first : f.dues.min? with
    | none => exact h.map_state ends (List.min?_eq_none_iff.1 first)
    | some t =>
      obtain ⟨before, m, after, rfl, due, eq⟩ :=
        stepAt_eq clock (List.min?_eq_some_iff.1 first).1
      rw [Option.elim_some, eq]
      exact ih (h.step (State.isOver_of_due? due)) (by omega)

/-! ## The time that they share -/

theorem Stand.exists_at (h : Stand clock now jobs f n) {m : Member Nat} (mem : m ∈ f) :
    ∃ job ∈ jobs, ∃ k, At clock now job k m := by
  induction h with
  | nil => cases mem
  | cons at_ rest ih =>
    rcases List.mem_cons.1 mem with rfl | mem
    · exact ⟨_, List.mem_cons_self, _, at_⟩
    · obtain ⟨job, known, at_⟩ := ih mem
      exact ⟨job, List.mem_cons_of_mem _ known, at_⟩

/-- A wait that goes on is due at the time at which the first of the family are. -/
theorem Step.due {g g' : Family σ} {t : Rat} (first : g.dues.min? = some t)
    (step : Step clock g g') : ∃ before m after, g = before ++ m :: after ∧
      m.state.due? = some t ∧ g' = before ++ m.step clock :: after := by
  obtain ⟨mem, least⟩ := List.min?_eq_some_iff.1 first
  cases step with
  | of before m after u due least' =>
    have own : u ∈ dues (before ++ m :: after) := List.mem_filterMap.2 ⟨m, by simp, due⟩
    obtain rfl : u = t := le_antisymm (least' t mem) (least u own)
    exact ⟨before, m, after, rfl, due, rfl⟩

/-- Each wait reads off the clock the time at which the family went on, or that of the start. -/
theorem Runs.now_mem {ts : List Rat} {g : Family Nat}
    (h : Runs clock (together clock now jobs) ts g) : ∀ m ∈ g, m.state.now ∈ ts ++ [now] := by
  induction h with
  | start =>
    intro m mem
    obtain ⟨job, -, rfl⟩ := List.mem_map.1 mem
    simp [Member.begin, now_begin]
  | @step ts g t g' _ first step ih =>
    obtain ⟨before, m, after, rfl, due, rfl⟩ := step.due first
    intro l mem
    rcases List.mem_append.1 mem with mem | mem
    · exact List.mem_cons_of_mem _ (ih l (by simp [mem]))
    · rcases List.mem_cons.1 mem with rfl | mem
      · rw [Member.step, now_step due]
        exact List.mem_cons_self
      · exact List.mem_cons_of_mem _ (ih l (by simp [mem]))

/-- On the exact clock nothing happens earlier than what has happened. -/
theorem Runs.le_dues {ts : List Rat} {g : Family Nat}
    (h : Runs .exact (together .exact now jobs) ts g)
    (positive : ∀ job ∈ jobs, 0 < job.1.interval) (timely : ∀ job ∈ jobs, job.2.Timely) :
    ts.Pairwise (· ≥ ·) ∧ ∀ u ∈ ts, ∀ d ∈ g.dues, u ≤ d := by
  induction h with
  | start => exact ⟨.nil, nofun⟩
  | @step ts g t g' runs first step ih =>
    obtain ⟨ordered, before_⟩ := ih
    have earlier : ∀ u ∈ ts, u ≤ t := fun u mem =>
      before_ u mem t (List.min?_eq_some_iff.1 first).1
    have least := (List.min?_eq_some_iff.1 first).2
    obtain ⟨before, m, after, rfl, due, rfl⟩ := step.due first
    have later : ∀ d ∈ dues (before ++ m.step .exact :: after), t ≤ d := by
      intro d mem
      obtain ⟨l, mem, next⟩ := List.mem_filterMap.1 mem
      have others : l ∈ before ++ m :: after → t ≤ d := fun known =>
        least d (List.mem_filterMap.2 ⟨l, known, next⟩)
      rcases List.mem_append.1 mem with mem | mem
      · exact others (by simp [mem])
      · rcases List.mem_cons.1 mem with rfl | mem
        · obtain ⟨job, known, k, wait, poll, -⟩ := runs.stand.exists_at (m := m) (by simp)
          refine le_due?_step (wait ▸ positive job known) ?_ due next
          rw [poll]
          exact fun source _ d answered => timely job known source d answered
        · exact others (by simp [mem])
    refine ⟨List.pairwise_cons.2 ⟨earlier, ordered⟩, fun u mem d next => ?_⟩
    rcases List.mem_cons.1 mem with rfl | mem
    · exact later d next
    · exact (earlier u mem).trans (later d next)

/-- **Waits that are started together do not interfere**, on the exact clock or wherever they end
alone. In whatever order they go on where something happens to several of them at the same time,
they take no more steps than alone; as long as one of them is not over, one can go on; and when none
can, each stands where it ends alone, with the same result, the same times of its calls and the same
time of its end. Each reads off the clock the times at which the family went on, and on the exact
clock these never go back. -/
theorem waits_apart (clock : Clock) (now : Rat) (jobs : List (Wait × Script))
    (positive : ∀ job ∈ jobs, 0 < job.1.interval) (timely : ∀ job ∈ jobs, job.2.Timely)
    (ends : clock = .exact ∨ ∀ job ∈ jobs, (alone clock now job).isOver = true) :
    (∀ ts g, Runs clock (together clock now jobs) ts g →
      ts.length ≤ (jobs.map fun job => job.1.bound).sum ∧
      ((∃ g', Step clock g g') ∨ g.map Member.state = jobs.map (alone clock now)) ∧
      (∀ m ∈ g, m.state.now ∈ ts ++ [now]) ∧
      (clock = .exact → ts.Pairwise (· ≥ ·))) ∧
    ((together clock now jobs).run clock).map Member.state = jobs.map (alone clock now) := by
  have ends : ∀ job ∈ jobs, (alone clock now job).isOver = true := by
    rcases ends with rfl | ends
    · exact fun job mem => isOver_run (positive job mem)
        (fun source _ d answered => timely job mem source d answered) 0 now
    · exact ends
  refine ⟨fun ts g runs => ⟨(runs.stand.le_bound ends).1, ?_, runs.now_mem, ?_⟩, ?_⟩
  · cases first : g.dues.min? with
    | some t => exact .inl ⟨_, step_stepAt first⟩
    | none => exact .inr (runs.stand.map_state ends (List.min?_eq_none_iff.1 first))
  · rintro rfl
    exact (runs.le_dues positive timely).1
  · refine map_state_steps ends stand_together ?_
    rw [together, List.foldl_map, List.sum_eq_foldl, List.foldl_map, Nat.zero_add]
    rfl

/-- Three waits of one waiter: two of them make their calls at the same time, and the one that is
answered late is answered at the deadline of the one that never is. -/
theorem waits_apart_of_three :
    let w : Wait := ⟨10, 25, .text "Successful", [.text "Failed"], "demo", .text "u-1", none⟩
    let late : Script := fun n =>
      if n = 0 then ⟨some 0, .status (.text "InProgress")⟩
      else ⟨some 5, .status (.text "Successful")⟩
    let jobs : List (Wait × Script) := [(w, late), (w, fun _ => ⟨none, .cancelled⟩),
      (w, fun _ => ⟨some 1, .status (.text "Failed")⟩)]
    ∀ ts g, Runs .exact (together .exact 3 jobs) ts g →
      (∃ g', Step .exact g g') ∨
        g.map (fun m => (m.state.result?, m.state.calls, m.state.now))
          = [(some (.reached (.text "Successful")), [13, 23], 28),
            (some (.failed (.operationTimeout "demo" 25)), [13], 28),
            (some (.failed (.operationFailed "demo" (.text "Failed") (.text "u-1"))), [13],
              14)] := by
  intro w late jobs ts g runs
  have timely : ∀ job ∈ jobs, job.2.Timely := by
    intro job mem n d
    simp only [jobs, List.mem_cons, List.not_mem_nil, or_false] at mem
    rcases mem with rfl | rfl | rfl
    · simp only [late]
      split <;> rintro ⟨⟩ <;> decide
    · nofun
    · rintro ⟨⟩
      decide
  have apart := ((waits_apart .exact 3 jobs (by decide) timely (.inl rfl)).1 ts g runs).2.1
  refine apart.imp_right fun same => ?_
  have states := congrArg (List.map fun s : State Nat => (s.result?, s.calls, s.now)) same
  rw [List.map_map] at states
  exact states.trans (by decide +kernel)

end Family

end ClusterOps.Wait

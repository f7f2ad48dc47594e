import ClusterOps.Fanout
import Mathlib.Data.List.Nodup

/-
The order in which workers get their turns. Between two turns every worker that
has something to do has exactly one turn before it, those that wait for a slot
stand in the queue once each, and the slots that are free and those that are held
make up the number of slots; as long as a worker waits no slot is free
(`Scheduled`). A turn takes a state like this to another one, whether the worker
waits in its page call, comes to its end, or has to queue. Where nothing is left
to happen every worker is at its end (`Scheduled.over`).
-/

namespace ClusterOps.Fanout

variable {σ ι α ρ : Type}

/-! ## Phases -/

namespace Phase

/-- A worker in the phase has a slot. -/
def holds : Phase α ρ → Bool
  | .granted | .listing _ _ _ => true
  | _ => false

/-- A worker in the phase waits for a turn. -/
def isDue : Phase α ρ → Bool
  | .fresh | .granted | .listing _ _ _ => true
  | _ => false

theorem isDue_of_holds {ph : Phase α ρ} (h : ph.holds = true) : ph.isDue = true := by
  cases ph <;> simp_all [holds, isDue]

end Phase

/-! ## Signals -/

theorem insertEvent_perm (e : Event) (events : List Event) :
    (insertEvent e events).Perm (e :: events) := by
  induction events with
  | nil => exact .refl _
  | cons f rest ih =>
    rw [insertEvent]
    split
    · exact (ih.cons f).trans (.swap e f rest)
    · exact .refl _

namespace State

/-- The signals that are put off. -/
def signals (s : State σ α ρ) : List Signal := s.events.map Event.signal

theorem signals_post (s : State σ α ρ) (due : Rat) (signal : Signal) :
    (s.post due signal).signals.Perm (signal :: s.signals) :=
  (insertEvent_perm _ _).map Event.signal

@[simp] theorem phases_post (s : State σ α ρ) (due : Rat) (signal : Signal) :
    (s.post due signal).phases = s.phases := rfl

theorem phases_enter (s : State σ α ρ) (k j : Nat) (ph : Phase α ρ) (h : k < s.phases.length) :
    (s.enter k ph).phases[j]? = if j = k then some ph else s.phases[j]? := by
  rw [enter, List.getElem?_set]
  split <;> simp_all [eq_comm]

/-- A phase that is changed twice is changed to the later one. -/
theorem enter_enter (s : State σ α ρ) (k : Nat) (ph ph' : Phase α ρ) :
    (s.enter k ph).enter k ph' = s.enter k ph' := by
  simp [enter]

end State

/-! ## Between two turns -/

/-- How many slots are held. -/
def State.held (s : State σ α ρ) : Nat := s.phases.countP Phase.holds

/-- The slots of a state: those that are free and those that are held make up the number of slots,
and none is free while a worker waits for one. -/
inductive Slots (s : State σ α ρ) : Option Nat → Prop
  | unbounded : s.free = none → s.queue = [] → Slots s none
  | bounded {m f} : s.free = some f → f + s.held = m → s.queue = [] ∨ f = 0 → Slots s (some m)

/-- A worker waits for a turn. -/
def State.Due (s : State σ α ρ) (k : Nat) : Prop := ∃ ph, s.phases[k]? = some ph ∧ ph.isDue = true

/-- How the workers stand between two turns. Where one of them has been given its turn, this one
has none before it. -/
structure Scheduled (width : Option Nat) (busy : Option Nat) (s : State σ α ρ) : Prop where
  turns : ∀ x ∈ s.signals, ∃ k, x = .turn k
  due : ∀ k, .turn k ∈ s.signals ↔ s.Due k ∧ busy ≠ some k
  once : s.signals.Nodup
  queued : ∀ k, k ∈ s.queue ↔ s.phases[k]? = some .queued
  queuedOnce : s.queue.Nodup
  slots : Slots s width
  goes : s.halted = false

variable {width : Option Nat} {s : State σ α ρ}

/-- Where a worker stands has nothing to do with the world. -/
theorem Scheduled.world {busy : Option Nat} (h : Scheduled width busy s) (world : σ) :
    Scheduled width busy { s with world := world } :=
  ⟨h.turns, h.due, h.once, h.queued, h.queuedOnce, by cases h.slots <;> constructor <;> assumption,
    h.goes⟩

theorem State.due_enter {k j : Nat} {ph ph' : Phase α ρ} (h : s.phases[k]? = some ph) :
    (s.enter k ph').Due j ↔ if j = k then ph'.isDue = true else s.Due j := by
  obtain ⟨lt, -⟩ := List.getElem?_eq_some_iff.1 h
  simp only [Due, phases_enter s k j ph' lt]
  split <;> simp

/-- Changing the phase of a worker changes how many slots are held by that worker's. -/
theorem State.held_enter {k : Nat} {ph : Phase α ρ} (h : s.phases[k]? = some ph)
    (ph' : Phase α ρ) :
    (s.enter k ph').held + ph.holds.toNat = s.held + ph'.holds.toNat := by
  obtain ⟨lt, rfl⟩ := List.getElem?_eq_some_iff.1 h
  have own : s.phases[k].holds.toNat ≤ s.phases.countP Phase.holds := by
    cases holds : s.phases[k].holds with
    | false => exact Nat.zero_le _
    | true => exact List.countP_pos_iff.2 ⟨_, List.getElem_mem lt, holds⟩
  have ite (b : Bool) : (if b = true then 1 else 0) = b.toNat := by cases b <;> rfl
  simp only [State.held, enter, List.countP_set lt, ite]
  omega

/-- The first turn that is put off is given to its worker. -/
theorem Scheduled.next (h : Scheduled width none s) {e : Event} {rest : List Event}
    (events : s.events = e :: rest) : ∃ k, e.signal = .turn k ∧ s.Due k ∧
      Scheduled width (some k) { s with now := e.due, events := rest } := by
  have signals : s.signals = e.signal :: rest.map Event.signal := by
    rw [State.signals, events, List.map_cons]
  obtain ⟨k, hk⟩ := h.turns e.signal (by simp [signals])
  have due := ((h.due k).1 (by simp [signals, hk])).1
  obtain ⟨fresh, once⟩ := List.nodup_cons.1 (signals ▸ h.once)
  refine ⟨k, hk, due, ?turns, ?due, once, h.queued, h.queuedOnce, ?slots, h.goes⟩
  case turns => exact fun x hx => h.turns x (signals ▸ List.mem_cons_of_mem _ hx)
  case slots => cases h.slots <;> constructor <;> assumption
  case due =>
    intro j
    have all := h.due j
    rw [signals, List.mem_cons, hk] at all
    by_cases same : j = k
    · subst same
      exact ⟨fun hj => absurd hj (hk ▸ fresh), fun hj => absurd rfl hj.2⟩
    · have apart : Signal.turn j ≠ .turn k := fun eq => same (Signal.turn.inj eq)
      simp only [apart, false_or] at all
      refine all.trans ⟨fun hj => ⟨hj.1, fun eq => same (Option.some.inj eq).symm⟩, fun hj => ?_⟩
      exact ⟨hj.1, by simp⟩

/-! ## A turn -/

section Turn

variable {k : Nat} {ph : Phase α ρ}

/-- A worker that finds no free slot waits in the queue. -/
theorem Scheduled.lineUp (h : Scheduled width (some k) s) (fresh : s.phases[k]? = some .fresh)
    (full : s.free = some 0) :
    Scheduled width none { s.enter k .queued with queue := s.queue ++ [k] } := by
  obtain ⟨lt, -⟩ := List.getElem?_eq_some_iff.1 fresh
  have unqueued : k ∉ s.queue := by
    rw [h.queued, fresh]
    simp
  refine ⟨h.turns, ?due, h.once, ?queued, ?queuedOnce, ?slots, h.goes⟩
  case due =>
    intro j
    show Signal.turn j ∈ s.signals ↔ (s.enter k .queued).Due j ∧ _
    rw [h.due, State.due_enter fresh]
    by_cases same : j = k
    · simp [same, Phase.isDue]
    · simp [same, Ne.symm same]
  case queued =>
    intro j
    show j ∈ s.queue ++ [k] ↔ (s.enter k .queued).phases[j]? = _
    rw [State.phases_enter s k j _ lt, List.mem_append, List.mem_singleton, h.queued]
    by_cases same : j = k <;> simp [same, fresh]
  case queuedOnce =>
    exact List.Nodup.append h.queuedOnce (by simp) (by simpa using unqueued)
  case slots =>
    have held : (s.enter k .queued).held = s.held := State.held_enter fresh _
    cases h.slots with
    | unbounded free => cases full.symm.trans free
    | bounded free all _ =>
      obtain rfl := Option.some.inj (full.symm.trans free)
      exact .bounded full ((congrArg (0 + ·) held).trans all) (.inr rfl)

/-- A worker that finds a free slot takes it. -/
theorem Scheduled.takeSlot (h : Scheduled width (some k) s)
    (fresh : s.phases[k]? = some .fresh) (free : s.free ≠ some 0) :
    Scheduled width (some k) ({ s with free := s.free.map (· - 1) }.enter k .granted) := by
  obtain ⟨lt, -⟩ := List.getElem?_eq_some_iff.1 fresh
  refine ⟨h.turns, ?due, h.once, ?queued, h.queuedOnce, ?slots, h.goes⟩
  case due =>
    intro j
    show Signal.turn j ∈ s.signals ↔ (s.enter k .granted).Due j ∧ _
    rw [h.due, State.due_enter fresh]
    by_cases same : j = k <;> simp [same]
  case queued =>
    intro j
    show j ∈ s.queue ↔ (s.enter k .granted).phases[j]? = _
    rw [State.phases_enter s k j _ lt, h.queued]
    by_cases same : j = k <;> simp [same, fresh]
  case slots =>
    have held : (s.enter k .granted).held = s.held + 1 := State.held_enter fresh _
    cases h.slots with
    | unbounded none empty => exact .unbounded (by simp [State.enter, none]) empty
    | @bounded m f some all served =>
      have positive : f ≠ 0 := fun none => free (none ▸ some)
      refine .bounded (f := f - 1) (by simp [State.enter, some]) ?_
        (.inl (served.resolve_right positive))
      show f - 1 + (s.enter k .granted).held = m
      omega

/-- The turn of a worker is over when its next one is put off. -/
theorem Scheduled.post (h : Scheduled width (some k) s) (isDue : s.Due k) (time : Rat) :
    Scheduled width none (s.post time (.turn k)) := by
  have perm := State.signals_post s time (.turn k)
  have absent : Signal.turn k ∉ s.signals := fun turn => ((h.due k).1 turn).2 rfl
  refine ⟨?turns, ?due, ?once, h.queued, h.queuedOnce, ?slots, h.goes⟩
  case turns =>
    intro x hx
    rcases List.mem_cons.1 (perm.mem_iff.1 hx) with rfl | hx
    · exact ⟨k, rfl⟩
    · exact h.turns x hx
  case due =>
    intro j
    rw [perm.mem_iff, List.mem_cons]
    show _ ∨ Signal.turn j ∈ s.signals ↔ s.Due j ∧ _
    rw [h.due]
    by_cases same : j = k
    · simp [same, isDue]
    · simp [same, Ne.symm same]
  case once => exact perm.nodup_iff.2 (List.nodup_cons.2 ⟨absent, h.once⟩)
  case slots => cases h.slots <;> constructor <;> assumption

/-- A worker that has a slot keeps it as long as it is not at its end. -/
theorem Scheduled.keepSlot (h : Scheduled width (some k) s) (at_ : s.phases[k]? = some ph)
    (holds : ph.holds = true) {ph' : Phase α ρ} (holds' : ph'.holds = true) :
    Scheduled width (some k) (s.enter k ph') := by
  obtain ⟨lt, -⟩ := List.getElem?_eq_some_iff.1 at_
  refine ⟨h.turns, ?due, h.once, ?queued, h.queuedOnce, ?slots, h.goes⟩
  case due =>
    intro j
    show Signal.turn j ∈ s.signals ↔ (s.enter k ph').Due j ∧ _
    rw [h.due, State.due_enter at_]
    by_cases same : j = k <;> simp [same]
  case queued =>
    intro j
    show j ∈ s.queue ↔ (s.enter k ph').phases[j]? = _
    rw [State.phases_enter s k j _ lt, h.queued]
    by_cases same : j = k
    · subst same
      cases ph <;> cases ph' <;> simp_all [Phase.holds]
    · simp [same]
  case slots =>
    have held := State.held_enter at_ ph'
    rw [holds, holds'] at held
    have same : (s.enter k ph').held = s.held := Nat.add_right_cancel held
    cases h.slots with
    | unbounded none empty => exact .unbounded none empty
    | bounded some all served => exact .bounded some ((congrArg _ same).trans all) served

/-- A worker that has a slot and is at its end hands the slot to the first in the queue. -/
theorem Scheduled.release (h : Scheduled width (some k) s) (at_ : s.phases[k]? = some ph)
    (holds : ph.holds = true) (o : Outcome (List α)) :
    Scheduled width none (s.enter k (.over o)).release := by
  obtain ⟨lt, -⟩ := List.getElem?_eq_some_iff.1 at_
  have held := State.held_enter at_ (.over o)
  rw [holds] at held
  have less : (s.enter k (.over o)).held + 1 = s.held := held
  have due : ∀ j, Signal.turn j ∈ s.signals ↔ (s.enter k (.over o)).Due j := by
    intro j
    rw [h.due, State.due_enter at_]
    by_cases same : j = k
    · simp [same, Phase.isDue]
    · simp [same, Ne.symm same]
  have queued : ∀ j, j ∈ s.queue ↔ (s.enter k (.over o)).phases[j]? = some .queued := by
    intro j
    rw [State.phases_enter s k j _ lt, h.queued]
    by_cases same : j = k
    · subst same
      cases ph <;> simp_all [Phase.holds]
    · simp [same]
  cases queue : s.queue with
  | nil =>
    have freed : (s.enter k (.over o)).release
        = { s.enter k (.over o) with free := s.free.map (· + 1) } := by
      simp [State.release, State.enter, queue]
    rw [freed]
    refine ⟨h.turns, fun j => (due j).trans (by simp [State.Due]), h.once, queued, h.queuedOnce, ?_,
      h.goes⟩
    cases h.slots with
    | unbounded none empty => exact .unbounded (by simp [none]) empty
    | @bounded m f some all served =>
      refine .bounded (f := f + 1) (by simp [some]) ?_ (.inl queue)
      show f + 1 + (s.enter k (.over o)).held = m
      omega
  | cons j rest =>
    let given : State σ α ρ := { s.enter k (.over o) with queue := rest }
    have handed : (s.enter k (.over o)).release
        = (given.enter j .granted).post s.now (.turn j) := by
      simp [State.release, State.enter, queue, given]
    have waited : given.phases[j]? = some .queued := (queued j).1 (by simp [queue])
    obtain ⟨lt', -⟩ := List.getElem?_eq_some_iff.1 waited
    obtain ⟨fresh, once⟩ := List.nodup_cons.1 (queue ▸ h.queuedOnce)
    have absent : ¬ (s.enter k (.over o)).Due j := by
      intro entry
      obtain ⟨ph', at', isDue⟩ := entry
      obtain rfl := Option.some.inj (waited.symm.trans at')
      cases isDue
    have given' : Scheduled width (some j) (given.enter j .granted) := by
      refine ⟨h.turns, ?due, h.once, ?queued, once, ?slots, h.goes⟩
      case due =>
        intro i
        show Signal.turn i ∈ s.signals ↔ (given.enter j .granted).Due i ∧ _
        rw [due, State.due_enter waited]
        by_cases same : i = j
        · simp [same, absent]
        · simp [same, State.Due, given, Ne.symm same]
      case queued =>
        intro i
        show i ∈ rest ↔ (given.enter j .granted).phases[i]? = _
        rw [State.phases_enter given j i _ lt']
        by_cases same : i = j
        · simp [same, fresh]
        · rw [if_neg same]
          exact (by simp [queue, same] : i ∈ rest ↔ _).trans (queued i)
      case slots =>
        have more : (given.enter j .granted).held = (s.enter k (.over o)).held + 1 :=
          State.held_enter waited _
        cases h.slots with
        | unbounded none empty => cases empty.symm.trans queue
        | @bounded m f some all served =>
          refine .bounded (f := f) some ?_ (.inr (served.resolve_left (by simp [queue])))
          show f + (given.enter j .granted).held = m
          omega
    rw [handed]
    exact given'.post ((State.due_enter waited).2 (by simp [Phase.isDue])) s.now

/-- Handing over a slot does nothing to another worker but give it the slot it waits for. -/
theorem Scheduled.phases_release (h : Scheduled width (some k) s) (at_ : s.phases[k]? = some ph)
    (holds : ph.holds = true) (o : Outcome (List α)) :
    (s.enter k (.over o)).release.phases[k]? = some (.over o) ∧
    ∀ j ≠ k, (s.enter k (.over o)).release.phases[j]? = s.phases[j]? ∨
      s.phases[j]? = some .queued ∧ (s.enter k (.over o)).release.phases[j]? = some .granted := by
  obtain ⟨lt, -⟩ := List.getElem?_eq_some_iff.1 at_
  have entered := fun j => State.phases_enter s k j (.over o) lt
  cases queue : s.queue with
  | nil =>
    have phases : (s.enter k (.over o)).release.phases = (s.enter k (.over o)).phases := by
      simp [State.release, State.enter, queue]
    rw [phases]
    exact ⟨by simp [entered], fun j hj => .inl (by simp [entered, hj])⟩
  | cons i rest =>
    have waited := (h.queued i).1 (by simp [queue])
    have other : i ≠ k := by
      intro same
      obtain rfl := Option.some.inj ((same ▸ at_).symm.trans waited)
      cases holds
    obtain ⟨lt', -⟩ := List.getElem?_eq_some_iff.1 waited
    have phases : (s.enter k (.over o)).release.phases
        = (s.enter k (.over o)).phases.set i .granted := by
      simp [State.release, State.enter, queue]
    have lt'' : i < (s.enter k (.over o)).phases.length := by simpa [State.enter] using lt'
    rw [phases]
    refine ⟨by simp [List.getElem?_set_ne other, entered], fun j hj => ?_⟩
    by_cases same : i = j
    · subst same
      exact .inr ⟨waited, List.getElem?_set_self lt''⟩
    · exact .inl (by simp [List.getElem?_set_ne same, entered, hj])

end Turn

/-- Where nothing is left to happen every worker is at its end, if there is a slot at all. -/
theorem Scheduled.over (h : Scheduled width none s) (wide : width ≠ some 0)
    (empty : s.events = []) {k : Nat} {ph : Phase α ρ} (hk : s.phases[k]? = some ph) :
    ∃ o, ph = .over o := by
  have idle : ∀ (k : Nat) (ph : Phase α ρ), s.phases[k]? = some ph → ph.isDue = false := by
    intro k ph hk
    by_contra due
    have turn := (h.due k).2 ⟨⟨ph, hk, by simpa using due⟩, by simp⟩
    rw [State.signals, empty] at turn
    cases turn
  have unheld : s.phases.countP Phase.holds = 0 := by
    refine List.countP_eq_zero.2 fun ph hph holds => ?_
    obtain ⟨k, hk⟩ := List.mem_iff_getElem?.1 hph
    exact absurd (Phase.isDue_of_holds holds) (by simp [idle k ph hk])
  have unqueued : s.queue = [] := by
    cases h.slots with
    | unbounded _ empty => exact empty
    | bounded _ all served =>
      refine served.resolve_right fun none => wide ?_
      rw [← all, none, State.held, unheld]
  cases ph with
  | fresh | granted | listing => exact absurd (idle k _ hk) (by simp [Phase.isDue])
  | queued =>
    have := (h.queued k).2 hk
    rw [unqueued] at this
    cases this
  | _ => exact ⟨_, rfl⟩

end ClusterOps.Fanout

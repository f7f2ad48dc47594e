import ClusterOps.Fanout.Order
import ClusterOps.Proofs.Fanout.Schedule
import Mathlib.Tactic.Linarith

/-
The line in which workers wait. Those that were given a slot come first, in the order
of their turns, then those in the queue, then those that have not begun; taken
together they are the workers from some number on (`Lined`). A worker leaves the line
at its head, when it makes its first page call. This needs two things of the order of
turns: no slot is handed over while a worker has not begun, and a turn that has to be
taken now comes behind those that have to be taken already.
-/

namespace ClusterOps.Fanout

variable {σ ι α ρ : Type}

/-! ## Events in their order -/

/-- The events are in the order of their times. -/
def Sorted (events : List Event) : Prop := events.Pairwise fun e f => e.due ≤ f.due

theorem Sorted.insertEvent {e : Event} {events : List Event} (h : Sorted events) :
    Sorted (insertEvent e events) := by
  induction events with
  | nil => exact List.pairwise_singleton _ _
  | cons f rest ih =>
    obtain ⟨first, sorted⟩ := List.pairwise_cons.1 h
    rw [Fanout.insertEvent]
    split
    case isTrue le =>
      refine List.pairwise_cons.2 ⟨fun g hg => ?_, ih sorted⟩
      rcases List.mem_cons.1 ((insertEvent_perm e rest).mem_iff.1 hg) with rfl | hg
      · exact le
      · exact first g hg
    case isFalse lt =>
      refine List.pairwise_cons.2 ⟨fun g hg => ?_, h⟩
      have lt := (not_le.1 lt).le
      rcases List.mem_cons.1 hg with rfl | hg
      · exact lt
      · exact lt.trans (first g hg)

/-- What is not looked for can be put anywhere. -/
theorem filterMap_insertEvent_none {f : Event → Option Nat} {e : Event} (h : f e = none)
    (events : List Event) : (insertEvent e events).filterMap f = events.filterMap f := by
  induction events with
  | nil => simp [insertEvent, h]
  | cons g rest ih =>
    rw [insertEvent]
    split
    · simp only [List.filterMap_cons, ih]
    · simp only [List.filterMap_cons, h]

/-- What is looked for and later than all such comes behind them. -/
theorem filterMap_insertEvent_some {f : Event → Option Nat} {e : Event} {k : Nat}
    (h : f e = some k) {events : List Event} (sorted : Sorted events)
    (last : ∀ g ∈ events, f g ≠ none → g.due ≤ e.due) :
    (insertEvent e events).filterMap f = events.filterMap f ++ [k] := by
  induction events with
  | nil => simp [insertEvent, h]
  | cons g rest ih =>
    obtain ⟨first, sorted⟩ := List.pairwise_cons.1 sorted
    rw [insertEvent]
    split
    case isTrue =>
      have ih := ih sorted fun x hx => last x (List.mem_cons_of_mem _ hx)
      cases hg : f g <;> simp [hg, ih]
    case isFalse lt =>
      have none : (g :: rest).filterMap f = [] := by
        refine List.filterMap_eq_nil_iff.2 fun x hx => ?_
        by_contra found
        refine lt (le_trans ?_ (last x hx found))
        rcases List.mem_cons.1 hx with rfl | hx
        · exact le_rfl
        · exact first x hx
      rw [List.filterMap_cons, h, none]
      rfl

/-! ## Turns -/

namespace Phase

/-- A worker in the phase has been given a slot and has not had its turn since. -/
def isGranted : Phase α ρ → Bool
  | .granted => true
  | _ => false

theorem isListing_of_isFresh (ph : Phase α ρ) (h : ph.isFresh = true) : ph.isListing = false := by
  cases ph <;> first | rfl | cases h

theorem isListing_of_isGranted (ph : Phase α ρ) (h : ph.isGranted = true) :
    ph.isListing = false := by
  cases ph <;> first | rfl | cases h

end Phase

namespace State

/-- The worker whose turn an event is, if it is in such a phase. -/
def worker? (s : State σ α ρ) (p : Phase α ρ → Bool) (e : Event) : Option Nat :=
  match e.signal with
  | .turn k => if s.phases[k]?.any p then some k else none
  | _ => none

/-- The workers in such a phase that wait for a turn, in the order of their turns. -/
def turnsOf (s : State σ α ρ) (p : Phase α ρ → Bool) : List Nat := s.events.filterMap (s.worker? p)

variable {s : State σ α ρ} {p q : Phase α ρ → Bool} {e : Event} {k : Nat}

theorem worker?_eq_some : s.worker? p e = some k ↔ e.signal = .turn k ∧ s.phases[k]?.any p := by
  rw [worker?]
  split
  case h_1 j signal =>
    rw [signal, Signal.turn.injEq]
    split
    case isTrue h =>
      rw [Option.some.injEq]
      exact ⟨fun same => ⟨same, same ▸ h⟩, And.left⟩
    case isFalse h => exact ⟨nofun, fun found => absurd (found.1 ▸ found.2) h⟩
  case h_2 other => exact ⟨nofun, fun found => absurd found.1 (other k)⟩

theorem worker?_eq_none (h : s.isTurn p e = false) : s.worker? p e = none := by
  by_contra found
  obtain ⟨k, found⟩ := Option.ne_none_iff_exists'.1 found
  obtain ⟨signal, found⟩ := worker?_eq_some.1 found
  simp [isTurn, signal, found] at h

theorem mem_turnsOf : k ∈ s.turnsOf p ↔ .turn k ∈ s.signals ∧ s.phases[k]?.any p := by
  simp only [turnsOf, signals, List.mem_filterMap, List.mem_map, worker?_eq_some]
  constructor
  · rintro ⟨e, he, signal, h⟩
    exact ⟨⟨e, he, signal⟩, h⟩
  · rintro ⟨⟨e, he, signal⟩, h⟩
    exact ⟨e, he, signal, h⟩

/-- What is looked for is no answer. -/
theorem isAnswer_of_worker? (unlike : ∀ ph, p ph = true → ph.isListing = false)
    (found : s.worker? p e ≠ none) : s.isAnswer e = false := by
  obtain ⟨k, found⟩ := Option.ne_none_iff_exists'.1 found
  obtain ⟨signal, h⟩ := worker?_eq_some.1 found
  simp only [isAnswer, isTurn, signal]
  cases at_ : s.phases[k]? with
  | none => rfl
  | some ph => exact unlike ph (by simpa [at_] using h)

/-- A worker without a turn can change its phase. -/
theorem turnsOf_enter {ph : Phase α ρ} (absent : .turn k ∉ s.signals) :
    (s.enter k ph).turnsOf p = s.turnsOf p := by
  refine List.filterMap_congr fun e he => ?_
  rw [worker?, worker?]
  split
  case h_1 j signal =>
    have other : k ≠ j := by
      rintro rfl
      exact absent (List.mem_map.2 ⟨e, he, signal⟩)
    simp [enter, List.getElem?_set_ne other]
  case h_2 => rfl

theorem isTurn_enter {ph : Phase α ρ} (absent : .turn k ∉ s.signals) (he : e ∈ s.events) :
    (s.enter k ph).isTurn p e = s.isTurn p e := by
  rw [isTurn, isTurn]
  split
  case h_1 j signal =>
    have other : k ≠ j := by
      rintro rfl
      exact absent (List.mem_map.2 ⟨e, he, signal⟩)
    simp [enter, List.getElem?_set_ne other]
  case h_2 => rfl

/-- A turn that is not of this kind. -/
theorem turnsOf_post_none {due : Rat} (h : s.phases[k]?.any p = false) :
    (s.post due (.turn k)).turnsOf p = s.turnsOf p :=
  filterMap_insertEvent_none (by simp [worker?, h]) _

/-- A turn of this kind that is put off till now. -/
theorem turnsOf_post_some (h : s.phases[k]?.any p) (sorted : Sorted s.events)
    (last : ∀ f ∈ s.events, (s.worker? p f) ≠ none → f.due ≤ s.now) :
    (s.post s.now (.turn k)).turnsOf p = s.turnsOf p ++ [k] :=
  filterMap_insertEvent_some (by simp [worker?, h]) sorted last

end State

/-! ## The line -/

/-- A worker that has its turn has no other one before it. -/
theorem Scheduled.absent {width : Option Nat} {k : Nat} {s : State σ α ρ}
    (h : Scheduled width (some k) s) : .turn k ∉ s.signals :=
  fun turn => ((h.due k).1 turn).2 rfl

/-- The slot of a worker at its end is free, or the head of the queue is given it and has its turn
put off till now. -/
theorem Scheduled.release_cases {width : Option Nat} {k : Nat} {s : State σ α ρ}
    (h : Scheduled width (some k) s) (o : Outcome (List α)) :
    s.queue = [] ∧ (s.enter k (.over o)).release
        = { s.enter k (.over o) with free := s.free.map (· + 1) } ∨
      ∃ i rest, s.queue = i :: rest ∧ .turn i ∉ s.signals ∧
        (s.enter k (.over o)).release.phases[i]? = some .granted ∧
        (s.enter k (.over o)).release
          = (({ s.enter k (.over o) with queue := rest }).enter i .granted).post s.now
              (.turn i) := by
  cases queue : s.queue with
  | nil => exact .inl ⟨rfl, by simp [State.release, State.enter, queue]⟩
  | cons i rest =>
    have waited : s.phases[i]? = some .queued := (h.queued i).1 (by simp [queue])
    obtain ⟨lt, -⟩ := List.getElem?_eq_some_iff.1 waited
    refine .inr ⟨i, rest, rfl, fun turn => ?_, by simp [State.release, State.enter, queue, lt],
      by simp [State.release, State.enter, queue]⟩
    obtain ⟨⟨ph, at_, isDue⟩, -⟩ := (h.due i).1 turn
    obtain rfl := Option.some.inj (waited.symm.trans at_)
    cases isDue

/-- The turns of the others are then what they were. -/
theorem Scheduled.isTurn_release {width : Option Nat} {k : Nat} {s : State σ α ρ}
    (h : Scheduled width (some k) s) (o : Outcome (List α)) (p : Phase α ρ → Bool) :
    ∀ e ∈ s.events, (s.enter k (.over o)).release.isTurn p e = s.isTurn p e := by
  intro e he
  rcases h.release_cases o with ⟨-, freed⟩ | ⟨i, rest, -, idle, -, handed⟩
  · rw [freed]
    exact State.isTurn_enter h.absent he
  · rw [handed]
    exact (State.isTurn_enter (s := { s.enter k (.over o) with queue := rest }) idle he).trans
      (State.isTurn_enter h.absent he)

/-- How the workers wait in line: those from `j` on, in their order. -/
structure Lined (m n : Nat) (busy : Option Nat) (j : Nat) (s : State σ α ρ) : Prop where
  scheduled : Scheduled (some m) busy s
  length : s.phases.length = n
  sorted : Sorted s.events
  past : ∀ e ∈ s.events, s.isAnswer e = false → e.due ≤ s.now
  apart : s.turnsOf Phase.isFresh = [] ∨ s.turnsOf Phase.isGranted = []
  line : s.turnsOf Phase.isGranted ++ s.queue ++ s.turnsOf Phase.isFresh = List.range' j (n - j)
  begun : j ≤ n

namespace Lined

variable {m n j k : Nat} {s : State σ α ρ} {ph : Phase α ρ}

theorem absent (h : Lined m n (some k) j s) : .turn k ∉ s.signals := h.scheduled.absent

/-- What changes neither the queue nor the turns makes no difference to the line. -/
theorem congr {busy busy' : Option Nat} {s' : State σ α ρ} (h : Lined m n busy j s)
    (scheduled : Scheduled (some m) busy' s') (length : s'.phases.length = s.phases.length)
    (events : s'.events = s.events) (now : s'.now = s.now) (queue : s'.queue = s.queue)
    (turns : ∀ p, s'.turnsOf p = s.turnsOf p)
    (answers : ∀ e ∈ s.events, s'.isAnswer e = s.isAnswer e) : Lined m n busy' j s' where
  scheduled := scheduled
  length := length.trans h.length
  sorted := events ▸ h.sorted
  past e he answer := now ▸ h.past e (events ▸ he) ((answers e (events ▸ he)).symm.trans answer)
  apart := by
    rw [turns, turns]
    exact h.apart
  line := by
    rw [turns, turns, queue]
    exact h.line
  begun := h.begun

/-- What a worker that has its turn comes to makes no difference to the line. -/
theorem enter (h : Lined m n (some k) j s)
    (scheduled : Scheduled (some m) (some k) (s.enter k ph)) :
    Lined m n (some k) j (s.enter k ph) :=
  h.congr scheduled (by simp [State.enter]) rfl rfl rfl (fun _ => State.turnsOf_enter h.absent)
    fun _ => State.isTurn_enter h.absent

/-- A worker waits in a page call. -/
theorem post (h : Lined m n (some k) j s) {left : Nat} {pages : List (List α)} {rest : ρ}
    (listing : s.phases[k]? = some (.listing left pages rest)) (due : Rat) :
    Lined m n none j (s.post due (.turn k)) := by
  have fresh : (s.post due (.turn k)).turnsOf Phase.isFresh = s.turnsOf Phase.isFresh :=
    State.turnsOf_post_none (by simp [listing, Phase.isFresh])
  have granted : (s.post due (.turn k)).turnsOf Phase.isGranted = s.turnsOf Phase.isGranted :=
    State.turnsOf_post_none (by simp [listing, Phase.isGranted])
  refine ⟨h.scheduled.post ⟨_, listing, rfl⟩ due, h.length, h.sorted.insertEvent, ?past, ?apart,
    ?line, h.begun⟩
  case past =>
    intro e he answer
    rcases List.mem_cons.1 ((insertEvent_perm _ _).mem_iff.1 he) with rfl | he
    · simp [State.isAnswer, State.isTurn, listing, Phase.isListing] at answer
    · exact h.past e he answer
  case apart => rw [fresh, granted]; exact h.apart
  case line => rw [fresh, granted]; exact h.line

/-- A slot is handed over to the head of the queue, or is free. -/
theorem release (h : Lined m n (some k) j s) (at_ : s.phases[k]? = some ph)
    (holds : ph.holds = true) (all : s.queue = [] ∨ s.turnsOf Phase.isFresh = [])
    (o : Outcome (List α)) : Lined m n none j (s.enter k (.over o)).release := by
  have scheduled := h.scheduled.release at_ holds o
  have same := fun p => h.scheduled.isTurn_release o p
  rcases h.scheduled.release_cases o with ⟨queue, freed⟩ | ⟨i, rest, queue, idle, at_i, handed⟩
  · rw [freed] at scheduled same ⊢
    exact h.congr scheduled (by simp [State.enter]) rfl rfl rfl
      (fun _ => State.turnsOf_enter h.absent) (same _)
  · rw [handed] at scheduled same at_i ⊢
    set given : State σ α ρ := { s.enter k (.over o) with queue := rest }
    have at_i : (given.enter i .granted).phases[i]? = some .granted := at_i
    have turns : ∀ p, (given.enter i .granted).turnsOf p = s.turnsOf p := fun p =>
      (State.turnsOf_enter (s := given) idle).trans (State.turnsOf_enter h.absent)
    have none : s.turnsOf Phase.isFresh = [] := all.resolve_left (by simp [queue])
    have fresh : ((given.enter i .granted).post s.now (.turn i)).turnsOf Phase.isFresh = [] :=
      (State.turnsOf_post_none (by simp [at_i, Phase.isFresh])).trans ((turns _).trans none)
    have granted : ((given.enter i .granted).post s.now (.turn i)).turnsOf Phase.isGranted
        = s.turnsOf Phase.isGranted ++ [i] := by
      rw [← turns]
      refine State.turnsOf_post_some (s := given.enter i .granted)
        (by simp [at_i, Phase.isGranted]) h.sorted fun e he found => h.past e he ?_
      exact (same _ e he).symm.trans
        (State.isAnswer_of_worker? Phase.isListing_of_isGranted found)
    refine ⟨scheduled, by simpa [given, State.enter] using h.length, h.sorted.insertEvent, ?past,
      .inl fresh, ?line, h.begun⟩
    case past =>
      intro e he answer
      rcases List.mem_cons.1 ((insertEvent_perm _ _).mem_iff.1 he) with rfl | he
      · exact le_rfl
      · exact h.past e he ((same _ e he).symm.trans answer)
    case line =>
      have line := h.line
      rw [queue, none, List.append_nil] at line
      rw [fresh, granted, List.append_nil]
      show _ ++ [i] ++ rest = _
      rw [List.append_assoc, ← line]
      rfl

/-! ## Taking a turn -/

end Lined

namespace State

/-- A state with some of its events left, at some time. -/
def left (s : State σ α ρ) (t : Rat) (events : List Event) : State σ α ρ :=
  { s with now := t, events := events }

@[simp] theorem phases_left (s : State σ α ρ) (t : Rat) (events : List Event) :
    (s.left t events).phases = s.phases := rfl

theorem turnsOf_left {s : State σ α ρ} {p : Phase α ρ → Bool} {before after : List Event}
    {e : Event} (events : s.events = before ++ e :: after)
    (first : ∀ f ∈ before, s.worker? p f = none) (t : Rat) :
    s.turnsOf p = (s.worker? p e).toList ++ (s.left t (before ++ after)).turnsOf p := by
  have none : before.filterMap (s.worker? p) = [] := List.filterMap_eq_nil_iff.2 first
  show s.events.filterMap (s.worker? p) = _ ++ (before ++ after).filterMap (s.worker? p)
  rw [events, List.filterMap_append, List.filterMap_append, none, List.filterMap_cons]
  cases s.worker? p e <;> rfl

/-- An answer can be taken from among the turns. -/
theorem turnsOf_left_none {s : State σ α ρ} {p : Phase α ρ → Bool} {before after : List Event}
    {e : Event} (events : s.events = before ++ e :: after) (h : s.worker? p e = none) (t : Rat) :
    (s.left t (before ++ after)).turnsOf p = s.turnsOf p := by
  show (before ++ after).filterMap (s.worker? p) = s.events.filterMap (s.worker? p)
  rw [events, List.filterMap_append, List.filterMap_append, List.filterMap_cons, h]

end State

/-- Whichever event comes next is the turn of a worker. -/
theorem Scheduled.take {width : Option Nat} {s : State σ α ρ} (h : Scheduled width none s)
    {before after : List Event} {e : Event} (events : s.events = before ++ e :: after) (t : Rat) :
    ∃ k, e.signal = .turn k ∧ s.Due k ∧
      Scheduled width (some k) (s.left t (before ++ after)) := by
  have perm : (s.bring t before e after).signals.Perm s.signals := by
    simp only [State.signals, State.bring, events, List.map_cons, List.map_append]
    exact (List.perm_middle (a := e.signal)).symm
  have brought : Scheduled width none (s.bring t before e after) :=
    ⟨fun x hx => h.turns x (perm.mem_iff.1 hx), fun k => perm.mem_iff.trans (h.due k),
      perm.nodup_iff.2 h.once, h.queued, h.queuedOnce,
      by cases h.slots <;> constructor <;> assumption, h.goes⟩
  exact brought.next rfl

theorem Scheduled.left {width : Option Nat} {s : State σ α ρ} (h : Scheduled width none s)
    {before after : List Event} {e : Event} (events : s.events = before ++ e :: after) {k : Nat}
    (signal : e.signal = .turn k) (t : Rat) :
    Scheduled width (some k) (s.left t (before ++ after)) := by
  obtain ⟨k', signal', -, scheduled⟩ := h.take events t
  obtain rfl := Signal.turn.inj (signal.symm.trans signal')
  exact scheduled

namespace Lined

variable {m n j k : Nat} {s : State σ α ρ} {before after : List Event} {e : Event} {t : Rat}

/-- The rest of the events. -/
theorem left (h : Lined m n none j s) (events : s.events = before ++ e :: after)
    (later : s.now ≤ t) : Sorted (before ++ after) ∧
      ∀ f ∈ before ++ after, s.isAnswer f = false → f.due ≤ t := by
  have sub : (before ++ after).Sublist s.events := by
    rw [events]
    exact (List.sublist_cons_self e after).append_left before
  exact ⟨h.sorted.sublist sub, fun f hf answer => (h.past f (sub.subset hf) answer).trans later⟩

/-- An answer comes. -/
theorem answer (h : Lined m n none j s) (events : s.events = before ++ e :: after)
    (answers : s.isAnswer e = true) (later : s.now ≤ t) :
    ∃ k left pages rest, e.signal = .turn k ∧ s.phases[k]? = some (.listing left pages rest) ∧
      Lined m n (some k) j (s.left t (before ++ after)) := by
  obtain ⟨k, signal, ⟨ph, at_, -⟩, scheduled⟩ := h.scheduled.take events t
  rw [State.isAnswer, State.isTurn, signal] at answers
  simp only [at_, Option.any_some] at answers
  cases ph with
  | listing left pages rest =>
    have same : ∀ p : Phase α ρ → Bool, p (.listing left pages rest) = false →
        (s.left t (before ++ after)).turnsOf p = s.turnsOf p := fun p hp =>
      State.turnsOf_left_none events (by simp [State.worker?, signal, at_, hp]) t
    obtain ⟨sorted, past⟩ := h.left events later
    refine ⟨k, left, pages, rest, signal, at_, scheduled, h.length, sorted, past, ?_, ?_, h.begun⟩
    · rw [same _ rfl, same _ rfl]
      exact h.apart
    · rw [same _ rfl, same _ rfl]
      exact h.line
  | _ => cases answers

/-- The turns before the first that is no answer. -/
theorem worker?_of_answers (first : ∀ f ∈ before, s.isAnswer f = true) {p : Phase α ρ → Bool}
    (unlike : ∀ ph, p ph = true → ph.isListing = false) :
    ∀ f ∈ before, s.worker? p f = none := by
  intro f hf
  by_contra found
  have := State.isAnswer_of_worker? unlike found
  rw [first f hf] at this
  cases this

/-- The head of the line. -/
theorem range'_eq_cons {rest : List Nat} (le : j ≤ n) (h : k :: rest = List.range' j (n - j)) :
    k = j ∧ k < n ∧ rest = List.range' (k + 1) (n - (k + 1)) := by
  cases more : n - j with
  | zero => simp [more] at h
  | succ l =>
    rw [more, List.range'_succ, List.cons.injEq] at h
    obtain ⟨rfl, rfl⟩ := h
    exact ⟨rfl, by omega, by rw [show n - (k + 1) = l by omega]⟩

section Turn

variable (h : Lined m n none j s) (events : s.events = before ++ e :: after)
  (first : ∀ f ∈ before, s.isAnswer f = true) (signal : e.signal = .turn k)
include h events first signal

/-- A worker that begins has been at the head of those that have not. -/
theorem fresh_left (t : Rat) (fresh : s.phases[k]? = some .fresh) :
    s.turnsOf Phase.isFresh = k :: (s.left t (before ++ after)).turnsOf Phase.isFresh ∧
      (s.left t (before ++ after)).turnsOf Phase.isGranted = [] := by
  have begins := State.turnsOf_left events (worker?_of_answers first Phase.isListing_of_isFresh) t
  have same := State.turnsOf_left events (worker?_of_answers first Phase.isListing_of_isGranted) t
  rw [State.worker?_eq_some.2 ⟨signal, by simp [fresh, Phase.isFresh]⟩] at begins
  refine ⟨begins, ?_⟩
  have none := h.apart.resolve_left (by simp [begins])
  rw [none] at same
  exact (List.append_eq_nil_iff.1 same.symm).2

variable (later : s.now ≤ t)
include later

/-- A worker that begins and finds no free slot goes to the end of the queue. -/
theorem lineUp (fresh : s.phases[k]? = some .fresh) (full : s.free = some 0) :
    Lined m n none j { (s.left t (before ++ after)).enter k .queued with
      queue := s.queue ++ [k] } := by
  have scheduled := h.scheduled.left events signal t
  have absent := scheduled.absent
  obtain ⟨sorted, past⟩ := h.left events later
  obtain ⟨begins, granted⟩ := h.fresh_left events first signal t fresh
  have turns : ∀ p, State.turnsOf ({ (s.left t (before ++ after)).enter k .queued with
      queue := s.queue ++ [k] } : State σ α ρ) p = (s.left t (before ++ after)).turnsOf p :=
    fun p => State.turnsOf_enter absent
  refine ⟨scheduled.lineUp fresh full, by simpa [State.enter] using h.length, sorted, ?past,
    .inr ((turns _).trans granted), ?line, h.begun⟩
  case past =>
    intro f hf answer
    exact past f hf ((State.isTurn_enter absent hf).symm.trans answer)
  case line =>
    have line := h.line
    rw [begins] at line
    rw [turns, turns, granted, ← line]
    have none : s.turnsOf Phase.isGranted = [] := h.apart.resolve_left (by simp [begins])
    simp [none]

/-- A worker that begins and finds a free slot takes it, and is the head of the line. -/
theorem takeSlot (fresh : s.phases[k]? = some .fresh) (free : s.free ≠ some 0) :
    k = j ∧ k < n ∧ s.queue = [] ∧ Lined m n (some k) (k + 1)
      ({ s.left t (before ++ after) with free := s.free.map (· - 1) }.enter k .granted) := by
  have scheduled := h.scheduled.left events signal t
  have absent := scheduled.absent
  obtain ⟨sorted, past⟩ := h.left events later
  obtain ⟨begins, granted⟩ := h.fresh_left events first signal t fresh
  have queue : s.queue = [] := by
    cases h.scheduled.slots with
    | bounded some _ served => exact served.resolve_right fun none => free (none ▸ some)
  have none : s.turnsOf Phase.isGranted = [] := h.apart.resolve_left (by simp [begins])
  have line := h.line
  rw [begins, none, queue] at line
  obtain ⟨rfl, lt, rest⟩ := range'_eq_cons h.begun line
  refine ⟨rfl, lt, queue, scheduled.takeSlot fresh free, by simpa [State.enter] using h.length,
    sorted, fun f hf answer => ?past, .inr ?apart, ?line, lt⟩
  case past => exact past f hf ((State.isTurn_enter absent hf).symm.trans answer)
  case apart => exact (State.turnsOf_enter absent).trans granted
  case line =>
    have turns : ∀ p, State.turnsOf
        ({ s.left t (before ++ after) with free := s.free.map (· - 1) }.enter k .granted) p
          = (s.left t (before ++ after)).turnsOf p := fun p => State.turnsOf_enter absent
    rw [turns, turns, granted, ← rest]
    show [] ++ s.queue ++ _ = _
    rw [queue]
    rfl

/-- A worker that was given a slot is the head of the line. -/
theorem haveSlot (granted : s.phases[k]? = some .granted) :
    k = j ∧ k < n ∧ (s.left t (before ++ after)).turnsOf Phase.isFresh = [] ∧
      Lined m n (some k) (k + 1) ((s.left t (before ++ after)).enter k .granted) := by
  have scheduled := h.scheduled.left events signal t
  have absent := scheduled.absent
  obtain ⟨sorted, past⟩ := h.left events later
  have given := State.turnsOf_left events (worker?_of_answers first Phase.isListing_of_isGranted) t
  have same := State.turnsOf_left events (worker?_of_answers first Phase.isListing_of_isFresh) t
  rw [State.worker?_eq_some.2 ⟨signal, by simp [granted, Phase.isGranted]⟩] at given
  have none := h.apart.resolve_right (by simp [given])
  rw [none] at same
  have none' := (List.append_eq_nil_iff.1 same.symm).2
  have line := h.line
  rw [given, none, List.append_nil] at line
  obtain ⟨rfl, lt, rest⟩ := range'_eq_cons h.begun line
  have turns : ∀ p, ((s.left t (before ++ after)).enter k .granted).turnsOf p
      = (s.left t (before ++ after)).turnsOf p := fun p => State.turnsOf_enter absent
  refine ⟨rfl, lt, none', scheduled.keepSlot granted rfl rfl, by simpa [State.enter] using h.length,
    sorted, fun f hf answer => ?past, .inl ((turns _).trans none'), ?line, lt⟩
  case past => exact past f hf ((State.isTurn_enter absent hf).symm.trans answer)
  case line =>
    rw [turns, turns, none', ← rest, List.append_nil]
    rfl

end Turn

end Lined

end ClusterOps.Fanout

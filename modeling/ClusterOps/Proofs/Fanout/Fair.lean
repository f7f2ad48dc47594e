import ClusterOps.Proofs.Fanout.Line
import ClusterOps.Proofs.Fanout.Independence

/-
Listings in many partitions are bounded and fair, in whatever order the answers to
their page calls come. No more partitions are listed at once than there are slots, each
makes its first page call when all before it have made theirs, a slot is free again at
the end of a listing, also of one that fails, and none is free while a partition waits
for it (`Fair`). Each turn leaves fewer (`Kept.step`), so that at last each partition
has been listed, once.
-/

namespace ClusterOps.Fanout

open Listing

variable {σ ι α ρ : Type}

/-! ## Page calls that are answered -/

/-- A reply leads to an answer, after at most so many waits, where `size` says how many waits the
rest of a call has left. -/
def Prompt (size : ρ → Nat) : Nat → Reply α ρ → Prop
  | _, .page _ | _, .failed _ => True
  | b, .after (some d) rest => 0 ≤ d ∧ size rest < b
  | _, _ => False

/-- Every page call is answered, with a page or a failure, after waits of any length. -/
structure Answering (calls : Calls σ ι α ρ) (size : ρ → Nat) : Prop where
  ask : ∀ world now k p token, Prompt size calls.waits (calls.ask world now k p token).1
  resume : ∀ world now k p rest, Prompt size (size rest) (calls.resume world now k p rest).1

/-! ## Turns that are left -/

/-- How many turns a worker in the phase has before it at most. -/
def Phase.turns (waits : Nat) (size : ρ → Nat) : Phase α ρ → Nat
  | .fresh => limit * waits + 2
  | .queued | .granted => limit * waits + 1
  | .listing left _ rest => left * waits + size rest + 1
  | .over _ => 0

/-- How many turns all workers have before them at most. -/
def State.turns (waits : Nat) (size : ρ → Nat) (s : State σ α ρ) : Nat :=
  (s.phases.map (Phase.turns waits size)).sum

section Turns

variable {waits : Nat} {size : ρ → Nat} {s : State σ α ρ} {k : Nat} {ph : Phase α ρ}

theorem sum_set (l : List Nat) (k a b : Nat) (h : l[k]? = some a) :
    (l.set k b).sum + a = l.sum + b := by
  induction l generalizing k with
  | nil => cases h
  | cons x rest ih =>
    cases k with
    | zero =>
      obtain rfl : x = a := by simpa using h
      simp only [List.set_cons_zero, List.sum_cons]
      omega
    | succ k =>
      have := ih k h
      simp only [List.set_cons_succ, List.sum_cons]
      omega

theorem State.turns_enter (waits : Nat) (size : ρ → Nat) (h : s.phases[k]? = some ph)
    (ph' : Phase α ρ) :
    (s.enter k ph').turns waits size + ph.turns waits size =
      s.turns waits size + ph'.turns waits size := by
  rw [State.turns, State.enter, List.map_set]
  exact sum_set _ _ _ _ (by simp [h])

/-- A slot that is handed over saves no turn. -/
theorem State.turns_release (h : ∀ i ∈ s.queue, s.phases[i]? = some .queued) :
    s.release.turns waits size = s.turns waits size := by
  rw [State.release]
  split
  case h_1 i rest queue =>
    have entered := State.turns_enter waits size (h i (by simp [queue])) .granted
    exact Nat.add_right_cancel entered
  case h_2 => rfl

end Turns

/-! ## What has been asked for -/

/-- The workers that made a first page call, in the order of these calls. -/
def firsts (log : List (Query ι)) : List Nat := (log.filter Query.isFirst).map Query.worker

/-- The first so many workers have made their first page calls, in their order, and all calls were
made for their own partitions. -/
structure Told (partitions : List ι) (j : Nat) (log : List (Query ι)) : Prop where
  firsts : firsts log = List.range j
  own : ∀ q ∈ log, partitions[q.worker]? = some q.partition

section Told

variable {partitions : List ι} {j k : Nat} {p : ι} {log : List (Query ι)}

theorem Told.own_append (h : Told partitions j log) (at_ : partitions[k]? = some p)
    (token : Value) :
    ∀ q ∈ log ++ [⟨k, p, token⟩], partitions[q.worker]? = some q.partition := by
  intro q hq
  rcases List.mem_append.1 hq with hq | hq
  · exact h.own q hq
  · obtain rfl := List.mem_singleton.1 hq
    exact at_

/-- A worker makes its first page call. -/
theorem Told.first (h : Told partitions k log) (at_ : partitions[k]? = some p) :
    Told partitions (k + 1) (log ++ [⟨k, p, firstToken⟩]) where
  firsts := by
    have is_first : (⟨k, p, firstToken⟩ : Query ι).isFirst = true := by simp [Query.isFirst]
    rw [Fanout.firsts, List.filter_append, List.map_append, List.filter_cons_of_pos is_first,
      List.range_succ]
    exact congrArg (· ++ [k]) h.firsts
  own := h.own_append at_ _

/-- A worker asks for a later page. -/
theorem Told.next (h : Told partitions j log) (at_ : partitions[k]? = some p) {token : Value}
    (truthy : token.isTruthy = true) : Told partitions j (log ++ [⟨k, p, token⟩]) where
  firsts := by
    have later : ¬ (⟨k, p, token⟩ : Query ι).isFirst = true := by
      intro first
      obtain rfl : token = firstToken := by simpa [Query.isFirst] using first
      cases truthy
    rw [Fanout.firsts, List.filter_append, List.filter_cons_of_neg later, List.filter_nil,
      List.append_nil]
    exact h.firsts
  own := h.own_append at_ _

end Told

/-! ## A turn -/

/-- What a turn of a worker does: the others stay in line, the calls are noted, fewer turns are
left, and at most one turn is put off, now or to later, which is not that of a worker that
begins. -/
structure Went (m : Nat) (partitions : List ι) (waits : Nat) (size : ρ → Nat) (j k b : Nat)
    (s s' : State (σ × List (Query ι)) α ρ) : Prop where
  lined : Lined m partitions.length none j s'
  told : Told partitions j s'.world.2
  turns : ∀ ph, s.phases[k]? = some ph →
    s'.turns waits size + ph.turns waits size ≤ s.turns waits size + b
  now : s'.now = s.now
  events : s'.events = s.events ∨
    ∃ e, s'.events = insertEvent e s.events ∧ s.now ≤ e.due ∧ s'.isBeginning e = false
  others : ∀ e ∈ s.events, s'.isBeginning e = s.isBeginning e

section Turn

variable {calls : Calls σ ι α ρ} {size : ρ → Nat} (answering : Answering calls size)
  {m j k : Nat} {partitions : List ι} {p : ι} (at_ : partitions[k]? = some p)
  {s : State (σ × List (Query ι)) α ρ}

/-- A worker that has a slot comes to its end. -/
theorem finish_went {waits b : Nat} (h : Lined m partitions.length (some k) j (s.enter k .granted))
    (lt : k < s.phases.length) (all : s.queue = [] ∨ s.turnsOf Phase.isFresh = [])
    (told : Told partitions j s.world.2) {o : Outcome (List α)} (ends : o ≠ .cancelled) :
    Went m partitions waits size j k b s (s.finish k o) := by
  have finish : s.finish k o = ((s.enter k .granted).enter k (.over o)).release := by
    rw [State.enter_enter]
    cases o <;> first | rfl | exact absurd rfl ends
  have absent : .turn k ∉ s.signals := h.absent
  have granted : (s.enter k .granted).phases[k]? = some .granted := by
    simp [State.phases_enter s k k _ lt]
  have queued : ∀ i ∈ (s.enter k (.over o)).queue,
      (s.enter k (.over o)).phases[i]? = some .queued := by
    intro i hi
    have waits := (h.scheduled.queued i).1 hi
    rw [State.phases_enter s k i _ lt] at waits ⊢
    split at waits <;> simp_all
  have same : ∀ e ∈ s.events, (s.finish k o).isBeginning e = s.isBeginning e := by
    intro e he
    rw [finish]
    exact (h.scheduled.isTurn_release o _ e he).trans (State.isTurn_enter absent he)
  refine ⟨?lined, by rwa [State.world_finish], ?turns, ?now, ?events, same⟩
  case lined =>
    rw [finish]
    refine h.release granted rfl ?_ o
    rw [State.turnsOf_enter absent]
    exact all
  case turns =>
    intro ph hk
    have entered := State.turns_enter waits size hk (.over o)
    rw [finish, State.enter_enter, State.turns_release queued]
    simp only [Phase.turns] at entered ⊢
    omega
  case now =>
    rw [finish]
    rcases h.scheduled.release_cases o with ⟨-, freed⟩ | ⟨i, rest, -, -, -, handed⟩
    · rw [freed]; rfl
    · rw [handed]; rfl
  case events =>
    rw [finish]
    rcases h.scheduled.release_cases o with ⟨-, freed⟩ | ⟨i, rest, -, -, at_i, handed⟩
    · rw [freed]
      exact .inl rfl
    · refine .inr ⟨⟨s.now, .turn i⟩, by rw [handed]; rfl, le_rfl, ?_⟩
      simp [State.isBeginning, State.isTurn, at_i, Phase.isFresh]

include answering at_

/-- A worker that has a slot and the reply to a call waits again or comes to its end. -/
theorem proceed_went (left : Nat) (pages : List (List α)) (reply : Reply α ρ) {b : Nat}
    (h : Lined m partitions.length (some k) j (s.enter k .granted)) (lt : k < s.phases.length)
    (all : s.queue = [] ∨ s.turnsOf Phase.isFresh = []) (told : Told partitions j s.world.2)
    (prompt : Prompt size b reply) :
    Went m partitions calls.waits size j k (left * calls.waits + b) s
      (proceed calls.noted .exact k p left pages reply s) := by
  fun_induction proceed calls.noted .exact k p left pages reply s generalizing b with
  | case1 left pages rest s entered =>
    obtain ⟨nonneg, fewer⟩ := prompt
    have absent : .turn k ∉ s.signals := h.absent
    have granted : (s.enter k .granted).phases[k]? = some .granted := by
      simp [State.phases_enter s k k _ lt]
    have listing : entered.phases[k]? = some (.listing left pages rest) := by
      simp [entered, State.phases_enter s k k _ lt]
    have kept : Lined m partitions.length (some k) j entered := by
      have kept := h.enter (h.scheduled.keepSlot granted rfl
        (show (Phase.listing left pages rest).holds = true from rfl))
      rwa [State.enter_enter] at kept
    refine ⟨kept.post listing _, told, fun ph hk => ?turns, rfl, .inr ⟨_, rfl, ?later, ?turn⟩,
      fun e he => State.isTurn_enter absent he⟩
    case turns =>
      have entered := State.turns_enter calls.waits size hk
        (.listing left pages rest)
      refine entered.le.trans (Nat.add_le_add_left ?_ _)
      rw [Phase.turns]
      omega
    case later =>
      show s.now ≤ if _ = 0 then s.now else Clock.exact.later s.now _
      split
      · exact le_rfl
      · rw [Clock.later_exact]
        linarith
    case turn =>
      show Option.any Phase.isFresh entered.phases[k]? = false
      simp [listing, Phase.isFresh]
  | case2 => exact prompt.elim
  | case3 left pages c s => exact finish_went h lt all told (by simp)
  | case4 => exact prompt.elim
  | case5 pages page s =>
    refine finish_went h lt all told ?_
    split <;> simp
  | case6 left pages page s truthy reply world asks ih =>
    -- The next page is asked for in the same turn, and its waits are counted anew.
    have asked := answering.ask s.world.1 s.now k p page.next
    obtain ⟨rfl, rfl⟩ : (calls.ask s.world.1 s.now k p page.next).1 = reply ∧
        ((calls.ask s.world.1 s.now k p page.next).2,
          s.world.2 ++ [(⟨k, p, page.next⟩ : Query ι)]) = world := by
      cases asks
      exact ⟨rfl, rfl⟩
    have scheduled := h.scheduled.world ((calls.ask s.world.1 s.now k p page.next).2,
      s.world.2 ++ [(⟨k, p, page.next⟩ : Query ι)])
    have went := ih { h with scheduled := scheduled } lt all (told.next at_ truthy) asked
    refine { went with turns := fun ph hk => (went.turns ph hk).trans (Nat.add_le_add_left ?_ _) }
    rw [Nat.succ_mul]
    exact Nat.le_add_right _ b
  | case7 left pages page s last => exact finish_went h lt all told (by simp)

/-- A worker that has a slot makes its first page call. -/
theorem begin_went (h : Lined m partitions.length (some k) (k + 1) (s.enter k .granted))
    (lt : k < s.phases.length) (all : s.queue = [] ∨ s.turnsOf Phase.isFresh = [])
    (told : Told partitions k s.world.2) :
    Went m partitions calls.waits size (k + 1) k (limit * calls.waits) s
      (begin calls.noted .exact k p s) := by
  have scheduled := h.scheduled.world ((calls.ask s.world.1 s.now k p firstToken).2,
    s.world.2 ++ [(⟨k, p, firstToken⟩ : Query ι)])
  have went := proceed_went (s := { s with world := _ }) answering at_ (limit - 1) [] _
    { h with scheduled := scheduled } lt all (told.first at_)
    (answering.ask s.world.1 s.now k p firstToken)
  refine { went with turns := fun ph hk => (went.turns ph hk).trans (Nat.add_le_add_left ?_ _) }
  rw [← Nat.succ_mul]
  exact le_rfl

end Turn

/-! ## One step -/

/-- What holds between two turns. -/
def Kept (m : Nat) (partitions : List ι) (s : State (σ × List (Query ι)) α ρ) : Prop :=
  ∃ j, Lined m partitions.length none j s ∧ Told partitions j s.world.2

/-- The turn of a worker is what happens next. -/
theorem step_bring (calls : Calls σ ι α ρ) (clock : Clock) {partitions : List ι}
    {s : State σ α ρ} {before after : List Event} {e : Event} {t : Rat} {k : Nat} {p : ι}
    (signal : e.signal = .turn k) (at_ : partitions[k]? = some p) :
    step calls clock partitions (s.bring t before e after)
      = turn calls clock k p (s.left t (before ++ after)) := by
  simp only [step, State.bring, signal, at_]
  rfl

/-- A worker has a partition. -/
theorem Lined.partition {m j k : Nat} {busy : Option Nat} {partitions : List ι}
    {s : State σ α ρ} (h : Lined m partitions.length busy j s) {ph : Phase α ρ}
    (hk : s.phases[k]? = some ph) : k < s.phases.length ∧ ∃ p, partitions[k]? = some p := by
  obtain ⟨lt, -⟩ := List.getElem?_eq_some_iff.1 hk
  exact ⟨lt, _, List.getElem?_eq_getElem (h.length ▸ lt)⟩

section Step

variable {calls : Calls σ ι α ρ} {size : ρ → Nat} (answering : Answering calls size) {m j : Nat}
  {partitions : List ι} {s : State (σ × List (Query ι)) α ρ} {before after : List Event} {e : Event}
  {t : Rat}

include answering

/-- A worker takes an answer, when all workers have begun. -/
theorem Lined.answer_went (h : Lined m partitions.length none j s)
    (told : Told partitions j s.world.2) (events : s.events = before ++ e :: after)
    (later : s.now ≤ t) (answers : s.isAnswer e = true)
    (begun : ∀ f ∈ s.events, s.isBeginning f = false) :
    ∃ j' k b ph, s.phases[k]? = some ph ∧ b < ph.turns calls.waits size ∧
      Went m partitions calls.waits size j' k b (s.left t (before ++ after))
        (step calls.noted .exact partitions (s.bring t before e after)) := by
  obtain ⟨k, left, pages, rest, signal, listing, lined⟩ := h.answer events answers later
  obtain ⟨lt, p, at_⟩ := h.partition listing
  have none : (s.left t (before ++ after)).turnsOf Phase.isFresh = [] := by
    refine List.filterMap_eq_nil_iff.2 fun f hf => State.worker?_eq_none (begun f ?_)
    rw [events]
    exact (List.sublist_cons_self e after).append_left before |>.subset hf
  have holding : Lined m partitions.length (some k) j
      ((s.left t (before ++ after)).enter k .granted) :=
    lined.enter (lined.scheduled.keepSlot listing rfl rfl)
  have scheduled := holding.scheduled.world ((calls.resume s.world.1 t k p rest).2, s.world.2)
  have went := proceed_went (s := { s.left t (before ++ after) with world := _ }) answering at_
    left pages _ { holding with scheduled := scheduled } lt (.inr none) told
    (answering.resume s.world.1 t k p rest)
  have resumed : turn calls.noted .exact k p (s.left t (before ++ after)) =
      proceed calls.noted .exact k p left pages (calls.resume s.world.1 t k p rest).1
        { s.left t (before ++ after) with
          world := ((calls.resume s.world.1 t k p rest).2, s.world.2) } := by
    rw [turn, State.phases_left, listing]
    rfl
  rw [step_bring _ _ signal at_, resumed]
  exact ⟨j, k, _, _, listing, Nat.lt_succ_self _, { went with }⟩

/-- A worker takes its turn, when all that stands before it are answers. -/
theorem Lined.turn_went (h : Lined m partitions.length none j s)
    (told : Told partitions j s.world.2) (events : s.events = before ++ e :: after)
    (later : s.now ≤ t) (turns : s.isAnswer e = false)
    (first : ∀ f ∈ before, s.isAnswer f = true) :
    ∃ j' k b ph, s.phases[k]? = some ph ∧ b < ph.turns calls.waits size ∧
      Went m partitions calls.waits size j' k b (s.left t (before ++ after))
        (step calls.noted .exact partitions (s.bring t before e after)) := by
  obtain ⟨k, signal, ⟨ph, hk, isDue⟩, scheduled⟩ := h.scheduled.take events t
  obtain ⟨lt, p, at_⟩ := h.partition hk
  rw [step_bring _ _ signal at_]
  cases ph with
  | listing => simp [State.isAnswer, State.isTurn, signal, hk, Phase.isListing] at turns
  | granted =>
    obtain ⟨rfl, -, none, lined⟩ := h.haveSlot events first signal later hk
    have begins : turn calls.noted .exact k p (s.left t (before ++ after)) =
        begin calls.noted .exact k p (s.left t (before ++ after)) := by
      rw [turn, State.phases_left, hk]
    rw [begins]
    exact ⟨k + 1, k, _, _, hk, Nat.lt_succ_self _,
      begin_went answering at_ lined lt (.inr none) told⟩
  | fresh =>
    by_cases full : s.free = some 0
    case pos =>
      have queues : turn calls.noted .exact k p (s.left t (before ++ after)) =
          { (s.left t (before ++ after)).enter k .queued with queue := s.queue ++ [k] } := by
        simp [turn, hk, State.left, full]
      rw [queues]
      refine ⟨j, k, limit * calls.waits + 1, _, hk, Nat.lt_succ_self _,
        h.lineUp events first signal later hk full, told, fun ph hk => ?_, rfl, .inl rfl,
        fun f hf => State.isTurn_enter scheduled.absent hf⟩
      exact (State.turns_enter calls.waits size hk .queued).le
    case neg =>
      obtain ⟨rfl, -, queue, lined⟩ := h.takeSlot events first signal later hk full
      have begins : turn calls.noted .exact k p (s.left t (before ++ after)) =
          begin calls.noted .exact k p
            { s.left t (before ++ after) with free := s.free.map (· - 1) } := by
        simp [turn, hk, State.left]
      rw [begins]
      exact ⟨k + 1, k, _, _, hk, Nat.lt_of_lt_of_le (Nat.lt_succ_self _) (Nat.le_succ _),
        { begin_went answering at_ lined lt (.inl queue) told with }⟩
  | _ => cases isDue

/-- Whatever happens next, a worker does it. -/
theorem Lined.went (h : Lined m partitions.length none j s) (told : Told partitions j s.world.2)
    (events : s.events = before ++ e :: after) (later : s.now ≤ t)
    (order : s.isAnswer e = false ∧ (∀ f ∈ before, s.isAnswer f = true) ∨
      s.isAnswer e = true ∧ ∀ f ∈ s.events, s.isBeginning f = false) :
    ∃ j' k b ph, s.phases[k]? = some ph ∧ b < ph.turns calls.waits size ∧
      Went m partitions calls.waits size j' k b (s.left t (before ++ after))
        (step calls.noted .exact partitions (s.bring t before e after)) := by
  rcases order with ⟨turns, first⟩ | ⟨answers, begun⟩
  · exact h.turn_went answering told events later turns first
  · exact h.answer_went answering told events later answers begun

/-- **One step.** Whatever happens next, the workers stay in line, and fewer turns are left. -/
theorem Kept.step {s' : State (σ × List (Query ι)) α ρ} (h : Kept m partitions s)
    (step : Step calls.noted .exact partitions s s') :
    Kept m partitions s' ∧ s'.turns calls.waits size < s.turns calls.waits size := by
  obtain ⟨j, lined, told⟩ := h
  have next : ∀ {before e after t}, s.events = before ++ e :: after → s.now ≤ t →
      (s.isAnswer e = false ∧ (∀ f ∈ before, s.isAnswer f = true) ∨
        s.isAnswer e = true ∧ ∀ f ∈ s.events, s.isBeginning f = false) →
      Kept m partitions (Fanout.step calls.noted .exact partitions (s.bring t before e after)) ∧
        (Fanout.step calls.noted .exact partitions (s.bring t before e after)).turns
          calls.waits size < s.turns calls.waits size := by
    intro before e after t events later order
    obtain ⟨j', k, b, ph, hk, fewer, went⟩ := lined.went answering told events later order
    have le : _ ≤ s.turns calls.waits size + b := went.turns ph hk
    exact ⟨⟨j', went.lined, went.told⟩, by omega⟩
  cases step with
  | turn events turns first later => exact next events later (.inl ⟨turns, first⟩)
  | answer events answers begun later => exact next events later (.inr ⟨answers, begun⟩)

end Step

/-- What comes from an answer is no beginning. -/
theorem State.isBeginning_of_isAnswer {s : State σ α ρ} {e : Event} (h : s.isAnswer e = true) :
    s.isBeginning e = false := by
  cases signal : e.signal with
  | turn k =>
    simp only [isAnswer, isBeginning, isTurn, signal] at h ⊢
    cases at_ : s.phases[k]? with
    | none => rfl
    | some ph =>
      rw [at_] at h
      cases ph <;> first | rfl | cases h
  | notice | halt => simp [isBeginning, isTurn, signal]

/-- Something can happen as long as anything is left to happen. -/
theorem exists_step (calls : Calls σ ι α ρ) (clock : Clock) (partitions : List ι)
    {s : State σ α ρ} (busy : s.events ≠ []) : ∃ s', Step calls clock partitions s s' := by
  cases found : s.events.find? (fun e => !s.isAnswer e) with
  | none =>
    have answers : ∀ e ∈ s.events, s.isAnswer e = true := by
      simpa [List.find?_eq_none] using found
    obtain ⟨e, rest, events⟩ := List.exists_cons_of_ne_nil busy
    have events : s.events = [] ++ e :: rest := events
    exact ⟨_, .answer events (answers e (by simp [events]))
      (fun f hf => State.isBeginning_of_isAnswer (answers f hf)) le_rfl⟩
  | some e =>
    obtain ⟨turns, before, after, events, first⟩ := List.find?_eq_some_iff_append.1 found
    exact ⟨_, .turn events (by simpa using turns) (fun f hf => by simpa using first f hf) le_rfl⟩

/-- At the start all workers stand in line. -/
theorem start_kept (m : Nat) (partitions : List ι) (world : σ) (now : Rat) :
    Kept m partitions (start (some m) partitions (world, []) now :
      State (σ × List (Query ι)) α ρ) := by
  set s : State (σ × List (Query ι)) α ρ := start (some m) partitions (world, []) now
  have turns : ∀ p : Phase α ρ → Bool, s.turnsOf p =
      (List.range partitions.length).filter fun _ => p .fresh := by
    intro p
    have worker : ∀ k ∈ List.range partitions.length,
        s.worker? p ⟨now, .turn k⟩ = if p .fresh then some k else none := by
      intro k hk
      have phase : s.phases[k]? = some .fresh := by
        simp [s, start, List.mem_range.1 hk]
      simp [State.worker?, phase]
    show ((List.range partitions.length).map fun k => (⟨now, .turn k⟩ : Event)).filterMap _ = _
    rw [List.filterMap_map, ← List.filterMap_eq_filter]
    refine List.filterMap_congr fun k hk => ?_
    rw [Function.comp, worker k hk]
    cases p .fresh <;> simp
  have fresh : s.turnsOf Phase.isFresh = List.range partitions.length :=
    (turns _).trans (List.filter_true _)
  have granted : s.turnsOf Phase.isGranted = [] := (turns _).trans (List.filter_false _)
  refine ⟨0, ⟨start_scheduled .., by simp [s, start], ?sorted, ?past, .inr granted, ?line,
    Nat.zero_le _⟩, rfl, fun q hq => absurd hq List.not_mem_nil⟩
  case sorted =>
    show ((List.range partitions.length).map fun k => (⟨now, .turn k⟩ : Event)).Pairwise _
    rw [List.pairwise_map]
    exact List.pairwise_of_forall fun _ _ => le_rfl
  case past =>
    intro e he _
    obtain ⟨k, -, rfl⟩ := List.mem_map.1 he
    exact le_rfl
  case line =>
    rw [fresh, granted, List.range_eq_range']
    rfl

/-! ## The run itself -/

/-- The events as a run leaves them: none is overdue, and the workers that begin come first. -/
structure Prepared (s : State σ α ρ) : Prop where
  ahead : ∀ e ∈ s.events, s.now ≤ e.due
  first : ∃ beginning others, s.events = beginning ++ others ∧
    (∀ e ∈ beginning, s.isBeginning e = true) ∧ ∀ e ∈ others, s.isBeginning e = false

theorem insertEvent_append {e : Event} {events : List Event} (h : ∀ f ∈ events, f.due ≤ e.due)
    (rest : List Event) : insertEvent e (events ++ rest) = events ++ insertEvent e rest := by
  induction events with
  | nil => rfl
  | cons f events ih =>
    rw [List.cons_append, insertEvent, if_pos (h f (by simp)),
      ih fun g hg => h g (List.mem_cons_of_mem _ hg)]
    rfl

theorem start_prepared (width : Option Nat) (partitions : List ι) (world : σ) (now : Rat) :
    Prepared (start width partitions world now : State σ α ρ) := by
  set s : State σ α ρ := start width partitions world now
  have turn : ∀ e ∈ s.events, ∃ k < partitions.length, (⟨now, .turn k⟩ : Event) = e := by
    intro e he
    obtain ⟨k, hk, rfl⟩ := List.mem_map.1 he
    exact ⟨k, List.mem_range.1 hk, rfl⟩
  refine ⟨fun e he => ?_, s.events, [], (List.append_nil _).symm, fun e he => ?_, nofun⟩
  · obtain ⟨k, -, rfl⟩ := turn e he
    exact le_rfl
  · obtain ⟨k, lt, rfl⟩ := turn e he
    simp [State.isBeginning, State.isTurn, s, start, lt, Phase.isFresh]

section Run

variable {calls : Calls σ ι α ρ} {size : ρ → Nat} (answering : Answering calls size) {m : Nat}
  {partitions : List ι} {s : State (σ × List (Query ι)) α ρ} {world : σ} {now : Rat} {n : Nat}

/-- What comes first can come next: if it is an answer, all workers have begun. -/
theorem Prepared.order {e : Event} {rest : List Event} (h : Prepared s)
    (events : s.events = e :: rest) :
    s.isAnswer e = false ∨ s.isAnswer e = true ∧ ∀ f ∈ s.events, s.isBeginning f = false := by
  obtain ⟨beginning, others, split, begin_, go⟩ := h.first
  cases answers : s.isAnswer e with
  | false => exact .inl rfl
  | true =>
    right
    cases beginning with
    | nil => exact ⟨rfl, fun f hf => go f (by simpa [split] using hf)⟩
    | cons f beginning =>
      obtain rfl : e = f := by simpa [events] using congrArg List.head? split
      have first := begin_ e List.mem_cons_self
      rw [State.isBeginning_of_isAnswer answers] at first
      cases first

/-- The workers that begin come first behind the first event too. -/
theorem Prepared.rest {e : Event} {rest : List Event} (h : Prepared s)
    (events : s.events = e :: rest) : ∃ beginning others, rest = beginning ++ others ∧
      (∀ f ∈ beginning, s.isBeginning f = true) ∧ ∀ f ∈ others, s.isBeginning f = false := by
  obtain ⟨beginning, others, split, begin_, go⟩ := h.first
  rw [events] at split
  cases beginning with
  | nil =>
    obtain rfl : others = e :: rest := by simpa using split.symm
    exact ⟨[], rest, rfl, nofun, fun f hf => go f (List.mem_cons_of_mem _ hf)⟩
  | cons f beginning =>
    obtain ⟨-, split⟩ := List.cons.inj split
    exact ⟨beginning, others, split, fun f hf => begin_ f (List.mem_cons_of_mem _ hf), go⟩

/-- What the run does next is one of the things that can happen. -/
theorem Prepared.step {e : Event} {rest : List Event} (h : Prepared s)
    (events : s.events = e :: rest) :
    Step calls.noted .exact partitions s (step calls.noted .exact partitions s) := by
  have ahead := h.ahead e (by simp [events])
  have next : s.events = [] ++ e :: rest := events
  have order := h.order events
  have step : Step calls.noted .exact partitions s
      (Fanout.step calls.noted .exact partitions (s.bring e.due [] e rest)) := by
    rcases order with turns | ⟨answers, begun⟩
    · exact .turn next turns nofun ahead
    · exact .answer next answers begun ahead
  rwa [State.bring_first events] at step

include answering

/-- What the run does next leaves the events as it found them. -/
theorem Prepared.next {e : Event} {rest : List Event} (h : Prepared s)
    (kept : Kept m partitions s) (events : s.events = e :: rest) :
    Prepared (Fanout.step calls.noted .exact partitions s) := by
  obtain ⟨j, lined, told⟩ := kept
  have ahead := h.ahead e (by simp [events])
  have next : s.events = [] ++ e :: rest := events
  obtain ⟨j', k, b, ph, -, -, went⟩ := lined.went answering told next ahead
    ((h.order events).imp_left fun turns => ⟨turns, nofun⟩)
  rw [State.bring_first events] at went
  have sorted := lined.sorted
  rw [events] at sorted
  have late := (List.pairwise_cons.1 sorted).1
  have same : ∀ f ∈ rest, _ = s.isBeginning f := went.others
  have at_ : _ = e.due := went.now
  obtain ⟨beginning, others, rfl, begin_, go⟩ := h.rest events
  have early : ∀ f ∈ beginning, f.due ≤ s.now := by
    intro f hf
    refine lined.past f (by simp [events, hf]) ?_
    by_contra answers
    have := State.isBeginning_of_isAnswer (by simpa using answers)
    rw [begin_ f hf] at this
    cases this
  have begin_ : ∀ f ∈ beginning, _ = true := fun f hf =>
    (same f (List.mem_append_left _ hf)).trans (begin_ f hf)
  have go : ∀ f ∈ others, _ = false := fun f hf =>
    (same f (List.mem_append_right _ hf)).trans (go f hf)
  rcases went.events with left | ⟨x, put, due, turn⟩
  · have left : _ = beginning ++ others := left
    refine ⟨fun f hf => ?_, beginning, others, left, begin_, go⟩
    rw [at_]
    exact late f (left ▸ hf)
  · have put : _ = insertEvent x (beginning ++ others) := put
    have due : e.due ≤ x.due := due
    have split := insertEvent_append
      (fun f hf => ((early f hf).trans ahead).trans due) others
    refine ⟨fun f hf => ?_, beginning, insertEvent x others, put.trans split, begin_,
      fun f hf => ?_⟩
    · rw [at_]
      rw [put] at hf
      rcases List.mem_cons.1 ((insertEvent_perm _ _).mem_iff.1 hf) with rfl | hf
      · exact due
      · exact late f hf
    · rcases List.mem_cons.1 ((insertEvent_perm _ _).mem_iff.1 hf) with rfl | hf
      · exact turn
      · exact go f hf

/-- The run comes to no other states, and to its end if it has enough steps. -/
theorem steps_reached (fuel : Nat)
    (reaches : Reaches calls.noted .exact (some m) partitions (world, []) now n s)
    (kept : Kept m partitions s) (prepared : Prepared s) :
    (∃ n', Reaches calls.noted .exact (some m) partitions (world, []) now n'
      (steps calls.noted .exact partitions fuel s)) ∧
    (s.turns calls.waits size ≤ fuel →
      (steps calls.noted .exact partitions fuel s).events = []) := by
  induction fuel generalizing n s with
  | zero =>
    refine ⟨⟨n, reaches⟩, fun enough => ?_⟩
    by_contra busy
    obtain ⟨s', step⟩ := exists_step calls.noted .exact partitions busy
    have := (kept.step answering step).2
    omega
  | succ fuel ih =>
    rw [steps]
    cases events : s.events with
    | nil => exact ⟨⟨n, by simpa using reaches⟩, fun _ => by simp [events]⟩
    | cons e rest =>
      have step : Step calls.noted .exact partitions s _ := prepared.step events
      obtain ⟨kept', fewer⟩ := kept.step answering step
      obtain ⟨reached, ends⟩ := ih (reaches.step step) kept' (prepared.next answering kept events)
      exact ⟨reached, fun enough => ends (by omega)⟩

/-- Every state keeps the line, and of the turns some are left. -/
theorem Reaches.kept (h : Reaches calls.noted .exact (some m) partitions (world, []) now n s) :
    Kept m partitions s ∧
      n + s.turns calls.waits size ≤ partitions.length * (limit * calls.waits + 2) := by
  induction h with
  | start =>
    refine ⟨start_kept m partitions world now, ?_⟩
    simp [State.turns, Fanout.start, Phase.turns]
  | step _ step ih =>
    obtain ⟨kept, steps⟩ := ih
    obtain ⟨kept, fewer⟩ := kept.step answering step
    exact ⟨kept, by omega⟩

end Run

/-! ## Bounded and fair -/

/-- How many partitions are being listed: their first page calls have been made, and their listings
are not at their ends. -/
def State.active (s : State σ α ρ) : Nat := s.phases.countP Phase.isListing

/-- Whether the listing of a worker in the phase has begun. -/
def Phase.hasBegun : Phase α ρ → Bool
  | .listing _ _ _ | .over _ => true
  | _ => false

/-- What a listing in many partitions with so many slots keeps to. The slots are free or held, by
workers that list or are about to begin, and no others. The workers whose listings have begun are
those up to some number, which have made their first page calls in their order, once each. Where
nothing has to be done but to wait for answers, and a slot is free, none waits for one. Where
nothing is left to happen all are at their ends. -/
structure Fair (m : Nat) (partitions : List ι) (s : State (σ × List (Query ι)) α ρ) : Prop where
  active : s.active ≤ m
  slots : ∃ f, s.free = some f ∧ f + s.held = m
  inOrder : ∃ j ≤ partitions.length, firsts s.world.2 = List.range j ∧
    ∀ k ph, s.phases[k]? = some ph → (ph.hasBegun = true ↔ k < j)
  own : ∀ q ∈ s.world.2, partitions[q.worker]? = some q.partition
  quiet : (∀ e ∈ s.events, s.isAnswer e = true) → s.active < m →
    ∀ ph ∈ s.phases, ph.hasBegun = true
  atEnd : s.events = [] → firsts s.world.2 = List.range partitions.length ∧
    ∀ ph ∈ s.phases, ∃ o, ph = .over o

namespace Lined

variable {m n j k : Nat} {s : State σ α ρ} {ph : Phase α ρ}

/-- A worker stands in line if its listing has not begun. -/
theorem hasBegun_iff (h : Lined m n none j s) (hk : s.phases[k]? = some ph) :
    ph.hasBegun = true ↔ k < j := by
  obtain ⟨lt, -⟩ := List.getElem?_eq_some_iff.1 hk
  have due : ph.isDue = true → .turn k ∈ s.signals := fun isDue =>
    (h.scheduled.due k).2 ⟨⟨ph, hk, isDue⟩, nofun⟩
  have inLine : k ∈ s.turnsOf Phase.isGranted ++ s.queue ++ s.turnsOf Phase.isFresh ↔
      ph.hasBegun = false := by
    simp only [List.mem_append, State.mem_turnsOf, h.scheduled.queued, hk, Option.any_some,
      Option.some.injEq]
    cases ph <;> simp_all [Phase.hasBegun, Phase.isGranted, Phase.isFresh, Phase.isDue]
  rw [h.line, List.mem_range'_1] at inLine
  have := h.length
  cases begun : ph.hasBegun with
  | true =>
    have : ¬ (j ≤ k ∧ k < j + (n - j)) := by simp [inLine, begun]
    simp only [true_iff]
    omega
  | false =>
    have := inLine.2 begun
    simp only [Bool.false_eq_true, false_iff]
    omega

/-- The slots. -/
theorem slots (h : Lined m n none j s) :
    ∃ f, s.free = some f ∧ f + s.held = m ∧ (s.queue = [] ∨ f = 0) := by
  cases h.scheduled.slots with
  | bounded free all served => exact ⟨_, free, all, served⟩

theorem active_le (s : State σ α ρ) : s.active ≤ s.held :=
  List.countP_mono_left fun ph _ h => by cases ph <;> first | rfl | cases h

/-- Where nothing has to be done but to wait for answers, no worker is about to begin. -/
theorem quiet (h : Lined m n none j s) (answers : ∀ e ∈ s.events, s.isAnswer e = true)
    (room : s.active < m) : ∀ ph ∈ s.phases, ph.hasBegun = true := by
  have listing : ∀ {k : Nat} {ph : Phase α ρ}, s.phases[k]? = some ph → ph.isDue = true →
      ph.isListing = true := by
    intro k ph hk isDue
    obtain ⟨e, he, signal⟩ := List.mem_map.1 ((h.scheduled.due k).2 ⟨⟨ph, hk, isDue⟩, nofun⟩)
    simpa [State.isAnswer, State.isTurn, signal, hk] using answers e he
  have held : s.held = s.active := by
    refine List.countP_congr fun ph hph => ?_
    obtain ⟨k, hk⟩ := List.mem_iff_getElem?.1 hph
    have := listing hk
    cases ph <;> simp_all [Phase.holds, Phase.isListing, Phase.isDue]
  obtain ⟨f, -, all, served⟩ := h.slots
  have queue : s.queue = [] := served.resolve_right (by omega)
  intro ph hph
  obtain ⟨k, hk⟩ := List.mem_iff_getElem?.1 hph
  have := listing hk
  have := h.scheduled.queued k
  cases ph <;> simp_all [Phase.hasBegun, Phase.isListing, Phase.isDue]

end Lined

theorem Kept.fair {m : Nat} {partitions : List ι} {s : State (σ × List (Query ι)) α ρ}
    (h : Kept m partitions s) (wide : 1 ≤ m) : Fair m partitions s := by
  obtain ⟨j, lined, told⟩ := h
  obtain ⟨f, free, all, -⟩ := lined.slots
  refine ⟨(Lined.active_le s).trans (by omega), ⟨f, free, all⟩,
    ⟨j, lined.begun, told.firsts, fun k ph hk => lined.hasBegun_iff hk⟩, told.own, lined.quiet,
    fun empty => ?_⟩
  have ended : ∀ ph ∈ s.phases, ∃ o, ph = .over o := by
    intro ph hph
    obtain ⟨k, hk⟩ := List.mem_iff_getElem?.1 hph
    exact lined.scheduled.over (by simp; omega) empty hk
  refine ⟨?_, ended⟩
  rcases lined.begun.lt_or_eq with lt | rfl
  case inr => exact told.firsts
  have hk := List.getElem?_eq_getElem (lined.length ▸ lt : j < s.phases.length)
  obtain ⟨o, at_⟩ := ended _ (List.getElem_mem _)
  have begun := (lined.hasBegun_iff hk).1 (by rw [at_]; rfl)
  omega

/-- Without the notes the calls are what they are. -/
theorem noted_sees (calls : Calls σ ι α ρ) : Sees Prod.fst calls.noted calls where
  ask _ _ _ _ _ := rfl
  resume _ _ _ _ _ := rfl

/-- **Listings in many partitions are bounded and fair.** Whatever the page calls answer, however
long they take and in whatever order their answers come, every state that a listing can come to
keeps to this; there are only so many steps to it, and something can happen next as long as anything
is left to happen. The run goes through such states to its end, and what it notes makes no
difference to it. -/
theorem reaches_fair {calls : Calls σ ι α ρ} {size : ρ → Nat} (answering : Answering calls size)
    {m : Nat} (wide : 1 ≤ m) (partitions : List ι) (world : σ) (now : Rat) :
    refusal? (some (m : Int)) = none ∧
    (∀ n s, Reaches calls.noted .exact (some m) partitions (world, []) now n s →
      Fair m partitions s ∧ n ≤ partitions.length * (limit * calls.waits + 2) ∧
      (s.events ≠ [] → ∃ s', Step calls.noted .exact partitions s s')) ∧
    (∀ fuel, ∃ n, Reaches calls.noted .exact (some m) partitions (world, []) now n
      (steps calls.noted .exact partitions fuel
        (start (some m) partitions (world, []) now))) ∧
    (∀ fuel, (steps calls.noted .exact partitions fuel
        (start (some m) partitions (world, []) now)).seen Prod.fst
      = steps calls .exact partitions fuel (start (some m) partitions world now)) ∧
    ∃ n, Reaches calls.noted .exact (some m) partitions (world, []) now n
        (run calls.noted .exact (some m) partitions (world, []) now) ∧
      (run calls.noted .exact (some m) partitions (world, []) now).events = [] := by
  have reached := fun fuel => steps_reached answering fuel
    (.start : Reaches calls.noted .exact (some m) partitions (world, []) now 0 _)
    (start_kept m partitions world now) (start_prepared ..)
  have enough : (start (some m) partitions (world, []) now :
      State (σ × List (Query ι)) α ρ).turns calls.waits size ≤ bound calls.noted partitions := by
    have turns := (Reaches.kept answering
      (.start : Reaches calls.noted .exact (some m) partitions (world, []) now 0 _)).2
    refine (Nat.le_add_left _ 0).trans (turns.trans ?_)
    rw [bound, Nat.mul_comm limit]
    have more : calls.waits * limit + 2 ≤ calls.noted.waits * limit + 4 :=
      Nat.add_le_add_left (by decide) _
    exact (Nat.mul_le_mul_left _ more).trans (Nat.le_succ _)
  refine ⟨?accepted, fun n s h => ?_, fun fuel => (reached fuel).1,
    fun fuel => steps_seen (noted_sees calls) .exact _ partitions fuel, ?ends⟩
  case accepted =>
    have accepted : ¬ (m : Int) < 1 := by omega
    simp [refusal?, accepted]
  case ends =>
    obtain ⟨n, h⟩ := (reached (bound calls.noted partitions)).1
    exact ⟨n, h, (reached _).2 enough⟩
  · obtain ⟨kept, steps⟩ := h.kept answering
    exact ⟨kept.fair wide, (Nat.le_add_right _ _).trans steps,
      exists_step calls.noted .exact partitions⟩

/-- Three partitions share a slot, and the second of them fails. -/
theorem reaches_fair_one_slot :
    let calls : Calls Unit String Nat (Option Nat) :=
      { ask := fun _ _ k p _ => (.after (some k) (if p = "north" then none else some k), ())
        resume := fun _ _ _ _ rest =>
          (match rest with
            | some item => .page ⟨[item], .text ""⟩
            | none => .failed (.provider "no connection"), ())
        waits := 1 }
    let s := run calls.noted .exact (some 1) ["east", "north", "south"] ((), []) 0
    Answering calls (fun _ => 0) ∧ (∃ n, Reaches calls.noted .exact (some 1)
        ["east", "north", "south"] ((), []) 0 n s) ∧ s.events = [] ∧
      Fair 1 ["east", "north", "south"] s ∧ firsts s.world.2 = [0, 1, 2] := by
  intro calls s
  have answering : Answering calls fun _ => 0 := by
    refine ⟨fun _ _ k _ _ => ⟨Nat.cast_nonneg k, Nat.zero_lt_one⟩, fun _ _ _ _ rest => ?_⟩
    cases rest <;> exact trivial
  obtain ⟨-, all, -, -, n, reached, ends⟩ :=
    reaches_fair answering le_rfl ["east", "north", "south"] () 0
  have all_listed : ∀ s : State (Unit × List (Query String)) Nat (Option Nat),
      Fair 1 ["east", "north", "south"] s → s.events = [] → firsts s.world.2 = [0, 1, 2] :=
    fun s fair ends => (fair.atEnd ends).1
  have fair := (all n _ reached).1
  exact ⟨answering, ⟨n, reached⟩, ends, fair, all_listed _ fair ends⟩

end ClusterOps.Fanout

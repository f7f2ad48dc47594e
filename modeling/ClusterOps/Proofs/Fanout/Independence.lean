import ClusterOps.Proofs.Fanout.Worker
import Mathlib.Algebra.Order.BigOperators.Group.Finset

/-
A listing in many partitions does not depend on the order in which its page calls
come back. Every worker is on its way to the listing of its partition and the
number of turns that are left goes down with each (`Underway.step`), so that a
run ends with every worker at the listing of its partition (`run_phases`).
Whatever the waits of the calls, the clock and the number of slots, the result is
that of the partitions one by one (`run_independent`).
-/

namespace ClusterOps.Fanout

open Listing

variable {σ ι α ρ : Type} {answer : ι → List Value → Except Cause (Page α)}

/-! ## All workers -/

/-- Every worker is on its way to the listing of its partition, with at most so many turns before
it. -/
structure Underway (width : Option Nat) (waits : Nat)
    (answer : ι → List Value → Except Cause (Page α)) (view : View σ α ρ) (partitions : List ι)
    (s : State σ α ρ) (turns : Nat → Nat) : Prop where
  scheduled : Scheduled width none s
  length : s.phases.length = partitions.length
  workers : ∀ k p, partitions[k]? = some p →
    ∃ ph b, s.phases[k]? = some ph ∧ OnCourse waits answer view s.world k p ph b ∧ b ≤ turns k

variable {view : View σ α ρ} {calls : Calls σ ι α ρ} {width : Option Nat} {partitions : List ι}
  {s : State σ α ρ} {turns : Nat → Nat}

open Finset in
/-- What happens next leaves fewer turns. -/
theorem Underway.step (follows : Follows calls answer view) (clock : Clock)
    (h : Underway width calls.waits answer view partitions s turns) (busy : s.events ≠ []) :
    ∃ turns', Underway width calls.waits answer view partitions (step calls clock partitions s)
        turns' ∧
      ∑ k ∈ range partitions.length, turns' k < ∑ k ∈ range partitions.length, turns k := by
  obtain ⟨e, rest, events⟩ := List.exists_cons_of_ne_nil busy
  obtain ⟨k, signal, ⟨ph, at_, isDue⟩, scheduled⟩ := h.scheduled.next events
  obtain ⟨lt, -⟩ := List.getElem?_eq_some_iff.1 at_
  have inRange : k < partitions.length := h.length ▸ lt
  obtain ⟨ph', b, at', on, le⟩ := h.workers k _ (List.getElem?_eq_getElem inRange)
  obtain rfl := Option.some.inj (at_.symm.trans at')
  obtain ⟨b', less, turned⟩ := turn_turned follows clock scheduled at_ isDue on
  have stepped : Fanout.step calls clock partitions s
      = turn calls clock k partitions[k] { s with now := e.due, events := rest } := by
    simp only [Fanout.step, events, signal, List.getElem?_eq_getElem inRange]
  rw [stepped]
  refine ⟨Function.update turns k b', ⟨turned.scheduled, turned.length.trans h.length, ?_⟩, ?_⟩
  · intro j p hp
    by_cases same : j = k
    · subst same
      obtain rfl := Option.some.inj ((List.getElem?_eq_getElem inRange).symm.trans hp)
      simpa using turned.own
    · obtain ⟨phj, bj, atj, onj, lej⟩ := h.workers j p hp
      rw [Function.update_of_ne same]
      rcases turned.others j same with unchanged | ⟨waited, granted⟩
      · exact ⟨phj, bj, unchanged.trans atj, onj.keep (turned.worlds j same), lej⟩
      · obtain rfl := Option.some.inj (atj.symm.trans waited)
        cases onj with
        | queued none =>
          exact ⟨_, _, granted, (OnCourse.granted none).keep (turned.worlds j same), lej⟩
  · refine sum_lt_sum (fun j _ => ?_) ⟨k, mem_range.2 inRange, ?_⟩
    · by_cases same : j = k
      · subst same
        simpa using (less.trans_le le).le
      · rw [Function.update_of_ne same]
    · simpa using less.trans_le le

open Finset in
/-- Enough steps take a run to where nothing is left to happen. -/
theorem Underway.steps (follows : Follows calls answer view) (clock : Clock) {fuel : Nat}
    (h : Underway width calls.waits answer view partitions s turns)
    (enough : ∑ k ∈ range partitions.length, turns k ≤ fuel) :
    ∃ turns', Underway width calls.waits answer view partitions
        (steps calls clock partitions fuel s) turns' ∧
      (steps calls clock partitions fuel s).events = [] := by
  induction fuel generalizing s turns with
  | zero =>
    refine ⟨turns, h, ?_⟩
    by_contra busy
    obtain ⟨_, _, less⟩ := h.step follows clock busy
    omega
  | succ fuel ih =>
    by_cases idle : s.events = []
    · have stays : Fanout.steps calls clock partitions (fuel + 1) s = s := by
        simp [Fanout.steps, idle]
      rw [stays]
      exact ⟨turns, h, idle⟩
    · have goes : Fanout.steps calls clock partitions (fuel + 1) s
          = Fanout.steps calls clock partitions fuel (Fanout.step calls clock partitions s) := by
        simp [Fanout.steps, idle]
      obtain ⟨turns', h', less⟩ := h.step follows clock idle
      rw [goes]
      exact ih h' (by omega)

/-- At the start every worker has a turn before it. -/
theorem start_scheduled (width : Option Nat) (partitions : List ι) (world : σ) (now : Rat) :
    Scheduled width none (start width partitions world now : State σ α ρ) := by
  have signals : (start width partitions world now : State σ α ρ).signals
      = (List.range partitions.length).map .turn := by
    simp [State.signals, start]
  have phases : ∀ k, (start width partitions world now : State σ α ρ).phases[k]?
      = if k < partitions.length then some .fresh else none := by
    intro k
    simp only [start, List.getElem?_map]
    split <;> simp_all
  refine ⟨?turns, ?due, ?once, ?queued, List.nodup_nil, ?slots, rfl⟩
  case turns =>
    intro x hx
    rw [signals, List.mem_map] at hx
    obtain ⟨k, -, rfl⟩ := hx
    exact ⟨k, rfl⟩
  case due =>
    intro k
    rw [signals, State.Due, phases]
    split <;> simp_all [Phase.isDue]
  case once =>
    rw [signals]
    exact List.nodup_range.map fun _ _ => Signal.turn.inj
  case queued =>
    intro k
    rw [phases]
    split <;> simp [start]
  case slots =>
    have held : (start width partitions world now : State σ α ρ).held = 0 := by
      simp [State.held, start, List.countP_eq_zero, Phase.holds]
    cases width with
    | none => exact .unbounded rfl rfl
    | some m => exact .bounded (f := m) rfl (by rw [held, Nat.add_zero]) (.inl rfl)

/-- A run ends, and then every worker is at the listing of its partition. -/
theorem run_phases (follows : Follows calls answer view) (clock : Clock) (wide : width ≠ some 0)
    (partitions : List ι) {world : σ} (fresh : ∀ k, view.asked world k = []) (now : Rat) :
    (run calls clock width partitions world now).phases
        = partitions.map (fun p => .over (listing answer p)) ∧
      (run calls clock width partitions world now).halted = false := by
  have begun : Underway width calls.waits answer view partitions (start width partitions world now)
      fun _ => limit * calls.waits + 2 := by
    refine ⟨start_scheduled .., by simp [start], fun k p hp => ?_⟩
    have at_ : (start width partitions world now : State σ α ρ).phases[k]? = some .fresh := by
      rw [start, List.getElem?_map, hp, Option.map_some]
    exact ⟨.fresh, _, at_, .fresh (fresh k), Nat.le_refl _⟩
  have enough : ∑ k ∈ Finset.range partitions.length, (limit * calls.waits + 2)
      ≤ bound calls partitions := by
    rw [Finset.sum_const_nat fun _ _ => rfl, Finset.card_range, bound, Nat.mul_comm limit]
    exact (Nat.mul_le_mul_left _ (by omega)).trans (Nat.le_succ _)
  obtain ⟨turns, h, idle⟩ := begun.steps follows clock enough
  refine ⟨List.ext_getElem? fun k => ?_, h.scheduled.goes⟩
  rw [List.getElem?_map]
  cases hp : partitions[k]? with
  | none =>
    rw [List.getElem?_eq_none_iff, ← h.length] at hp
    exact List.getElem?_eq_none hp
  | some p =>
    obtain ⟨ph, b, at_, on, -⟩ := h.workers k p hp
    obtain ⟨o, rfl⟩ := h.scheduled.over wide idle at_
    cases on with
    | ended => exact at_

/-! ## What comes of it -/

/-- The result of partitions that are listed one by one. -/
def listed (answer : ι → List Value → Except Cause (Page α)) (partitions : List ι) : Result ι α :=
  .ofOutcomes (partitions.map fun p => (p, listing answer p))

/-- Whether a partition can be listed. -/
def canList (answer : ι → List Value → Except Cause (Page α)) (p : ι) : Bool :=
  (listing answer p).value?.isSome

theorem listed_done {p : ι} {items : List α} (h : listing answer p = .done items)
    (rest : List ι) : listed answer (p :: rest) =
      ⟨items ++ (listed answer rest).items, p :: (listed answer rest).succeeded,
        (listed answer rest).failures⟩ := by
  simp [listed, Result.ofOutcomes, h, Outcome.value?, Outcome.failure?]

theorem listed_failed {p : ι} {c : Cause} (h : listing answer p = .failed c) (rest : List ι) :
    listed answer (p :: rest) =
      ⟨(listed answer rest).items, (listed answer rest).succeeded,
        (p, c) :: (listed answer rest).failures⟩ := by
  simp [listed, Result.ofOutcomes, h, Outcome.value?, Outcome.failure?]

theorem listed_succeeded (partitions : List ι) :
    (listed answer partitions).succeeded = partitions.filter (canList answer) := by
  induction partitions with
  | nil => rfl
  | cons p rest ih =>
    rcases listing_ends answer p with ⟨items, h⟩ | ⟨c, h⟩
    · rw [listed_done h, List.filter_cons_of_pos (by simp [canList, h, Outcome.value?]), ih]
    · rw [listed_failed h, List.filter_cons_of_neg (by simp [canList, h, Outcome.value?]), ih]

theorem listed_items (partitions : List ι) :
    (listed answer partitions).items = (listed answer partitions).succeeded.flatMap
      fun p => (listing answer p).value?.getD [] := by
  induction partitions with
  | nil => rfl
  | cons p rest ih =>
    rcases listing_ends answer p with ⟨items, h⟩ | ⟨c, h⟩
    · rw [listed_done h, List.flatMap_cons, ← ih, h]
      rfl
    · rw [listed_failed h, ih]

theorem listed_failures (partitions : List ι) :
    (listed answer partitions).failures
      = partitions.filterMap fun p => (listing answer p).failure?.map (p, ·) :=
  List.filterMap_map ..

theorem listed_failures_fst (partitions : List ι) :
    (listed answer partitions).failures.map Prod.fst
      = partitions.filter fun p => !canList answer p := by
  induction partitions with
  | nil => rfl
  | cons p rest ih =>
    rcases listing_ends answer p with ⟨items, h⟩ | ⟨c, h⟩
    · rw [listed_done h, List.filter_cons_of_neg (by simp [canList, h, Outcome.value?]), ih]
    · rw [listed_failed h, List.filter_cons_of_pos (by simp [canList, h, Outcome.value?]),
        List.map_cons, ih]

/-- A run gives what the partitions give one by one. -/
theorem run_result (follows : Follows calls answer view) (clock : Clock) (wide : width ≠ some 0)
    (partitions : List ι) {world : σ} (fresh : ∀ k, view.asked world k = []) (now : Rat) :
    (run calls clock width partitions world now).result partitions
      = .done (listed answer partitions) := by
  obtain ⟨phases, goes⟩ := run_phases follows clock wide partitions fresh now
  have outcomes : (partitions.map fun p => Phase.over (listing answer p)).map
      (Phase.outcome (ρ := ρ)) = partitions.map (listing answer) := by
    rw [List.map_map]
    rfl
  have zipped : partitions.zip (partitions.map (listing answer))
      = partitions.map fun p => (p, listing answer p) := by
    simpa using List.zip_map' (f := id) (g := listing answer) (l := partitions)
  rw [State.result, phases, outcomes, zipped, goes, if_neg Bool.false_ne_true]
  refine if_neg (Bool.eq_false_iff.1 (List.any_eq_false.2 fun o ho => ?_))
  obtain ⟨p, -, rfl⟩ := List.mem_map.1 ho
  rcases listing_ends answer p with ⟨items, done⟩ | ⟨c, failed⟩
  · simp [done]
  · simp [failed]

/-- The number of slots that is asked for is accepted, and there is a slot. -/
theorem refusal?_none {width : Option Int} (wide : ∀ n, width = some n → 1 ≤ n) :
    refusal? width = none ∧ width.map Int.toNat ≠ some 0 := by
  cases width with
  | none => exact ⟨rfl, nofun⟩
  | some n =>
    have := wide n rfl
    have accepted : ¬ n < 1 := by omega
    have positive : n.toNat ≠ 0 := by omega
    simp [refusal?, accepted, positive]

/-- A listing in many partitions never raises. It depends on nothing but the answers of the
partitions: whatever their page calls have to wait, however these come in turn and whatever the
number of slots, the partitions whose listing succeeds and those whose listing fails are told apart
in the order in which they were asked for, each failure is that of its partition alone, and the
items are those of the complete listings, none of them from a partition that fails. -/
theorem run_independent {σ' ρ' : Type} {calls' : Calls σ' ι α ρ'} {view' : View σ' α ρ'}
    (follows : Follows calls answer view) (follows' : Follows calls' answer view')
    {width width' : Option Int} (wide : ∀ n, width = some n → 1 ≤ n)
    (wide' : ∀ n, width' = some n → 1 ≤ n) (partitions : List ι) {world : σ} {world' : σ'}
    (fresh : ∀ k, view.asked world k = []) (fresh' : ∀ k, view'.asked world' k = [])
    (clock clock' : Clock) (now now' : Rat) :
    refusal? width = none ∧ refusal? width' = none ∧ ∃ r : Result ι α,
      (run calls clock (width.map Int.toNat) partitions world now).result partitions = .done r ∧
      (run calls' clock' (width'.map Int.toNat) partitions world' now').result partitions
        = .done r ∧
      r.succeeded = partitions.filter (canList answer) ∧
      r.failures.map Prod.fst = partitions.filter (fun p => !canList answer p) ∧
      r.failures = partitions.filterMap (fun p => (listing answer p).failure?.map (p, ·)) ∧
      r.items = r.succeeded.flatMap (fun p => (listing answer p).value?.getD []) := by
  obtain ⟨accepted, slot⟩ := refusal?_none wide
  obtain ⟨accepted', slot'⟩ := refusal?_none wide'
  refine ⟨accepted, accepted', listed answer partitions, ?_, ?_, ?_, ?_, ?_, ?_⟩
  · exact run_result follows clock slot partitions fresh now
  · exact run_result follows' clock' slot' partitions fresh' now'
  · exact listed_succeeded partitions
  · exact listed_failures_fst partitions
  · exact listed_failures partitions
  · exact listed_items partitions

/-! ## Calls that wait -/

/-- A reply that waits for some times and then answers. -/
def later : List Rat → Except Cause (Page α) → Reply α (List Rat × Except Cause (Page α))
  | [], .ok page => .page page
  | [], .error c => .failed c
  | d :: delays, a => .after (some d) (delays, a)

/-- Page calls with the given answers that wait for any times, at most `waits` of them. The world
is what each worker has asked for. -/
def delayed (answer : ι → List Value → Except Cause (Page α)) (waits : Nat)
    (delays : (Nat → List Value) → Rat → Nat → ι → Value → List Rat) :
    Calls (Nat → List Value) ι α (List Rat × Except Cause (Page α)) where
  ask asked now k p token :=
    (later ((delays asked now k p token).take waits) (answer p (token :: asked k)),
      Function.update asked k (token :: asked k))
  resume asked _ _ _ rest := (later rest.1 rest.2, asked)
  waits := waits

/-- How the world of such calls is read. -/
def delayedView (α : Type) : View (Nat → List Value) α (List Rat × Except Cause (Page α)) where
  asked asked k := asked k
  owes _ _ rest m a := rest.1.length ≤ m ∧ rest.2 = a

theorem later_leadsTo {asked : Nat → List Value} {k m : Nat} {delays : List Rat}
    {a : Except Cause (Page α)} (h : delays.length ≤ m) :
    (delayedView α).LeadsTo asked k a m (later delays a) := by
  cases delays with
  | nil => cases a <;> cases m <;> rfl
  | cons d delays =>
    cases m with
    | zero => cases h
    | succ m => exact ⟨Nat.le_of_succ_le_succ h, rfl⟩

/-- Page calls may wait as they like. -/
theorem delayed_follows (answer : ι → List Value → Except Cause (Page α)) (waits : Nat)
    (delays : (Nat → List Value) → Rat → Nat → ι → Value → List Rat) :
    Follows (delayed answer waits delays) answer (delayedView α) where
  ask := by
    intro asked now k p token reply world' h
    cases h
    refine ⟨Function.update_self .., later_leadsTo (List.length_take_le ..), fun j hj => ?_⟩
    exact ⟨Function.update_of_ne hj .., fun _ _ _ owes => owes⟩
  resume := by
    intro asked now k p rest m a reply world' owes h
    cases h
    obtain ⟨few, rfl⟩ := owes
    exact ⟨rfl, later_leadsTo few, fun j _ => .refl ..⟩

/-- A partition that fails at its second page, and one that is asked for twice: one slot and
waits of unlike lengths give what calls without waits give. -/
theorem run_independent_twice :
    let answer (p : String) (asked : List Value) : Except Cause (Page Nat) :=
      if p = "east" then .ok ⟨[1, 2], .text ""⟩
      else if asked.length = 1 then .ok ⟨[3], .text "more"⟩
      else .error (.other "RuntimeError" "gone")
    let calls := delayed answer 2 fun _ _ k _ _ => [k, 1 / 2]
    let calls' := delayed answer 0 fun _ _ _ _ _ => []
    ∃ r : Result String Nat,
      (run calls .exact (some 1) ["east", "north", "east"] (fun _ => []) 0).result
        ["east", "north", "east"] = .done r ∧
      (run calls' .exact none ["east", "north", "east"] (fun _ => []) 7).result
        ["east", "north", "east"] = .done r ∧
      r.succeeded = ["east", "east"] ∧ r.failures.map Prod.fst = ["north"] ∧
      r.items = [1, 2, 1, 2] := by
  intro answer calls calls'
  obtain ⟨-, -, r, first, second, succeeded, failed, -, items⟩ :=
    run_independent (delayed_follows answer 2 fun _ _ k _ _ => [k, 1 / 2])
      (delayed_follows answer 0 fun _ _ _ _ _ => [])
      (show ∀ n : Int, some 1 = some n → 1 ≤ n by simp)
      (show ∀ n : Int, none = some n → 1 ≤ n from nofun)
      ["east", "north", "east"] (fun _ => rfl) (fun _ => rfl) .exact .exact 0 7
  have succeeded : r.succeeded = ["east", "east"] := succeeded.trans (by decide +kernel)
  refine ⟨r, first, second, succeeded, failed.trans (by decide +kernel), ?_⟩
  rw [items, succeeded]
  decide +kernel

end ClusterOps.Fanout

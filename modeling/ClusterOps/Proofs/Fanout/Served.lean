import ClusterOps.Proofs.Fanout.Independence

/-
Page calls whose answers depend on the token alone, as long as the world is ready
for them and only tokens are asked for that come from the calls themselves
(`Serves`). The run is told apart from nothing by noting beside the world what each
worker has asked for, and by answering in place of the calls where nothing is known
of them: no run comes there. Calls noted like this follow their answers, so a run
gives what the partitions give one by one (`run_served`).
-/

namespace ClusterOps.Fanout

open Listing

variable {σ ι α ρ : Type}

/-- A reply comes to an answer after at most so many waits, where `owes` says it of a rest. -/
def Leads (owes : ρ → Nat → Except Cause (Page α) → Prop) (a : Except Cause (Page α)) :
    Nat → Reply α ρ → Prop
  | _, .page page => a = .ok page
  | _, .failed c => a = .error c
  | m + 1, .after (some _) rest => owes rest m a
  | _, _ => False

/-- What is known of the page calls in a partition: the tokens that are asked for, the answer to
each, and what the rest of a call comes to. -/
structure Service (ι α ρ : Type) where
  asks : ι → Value → Prop
  answer : ι → Value → Except Cause (Page α)
  owes : ι → ρ → Nat → Except Cause (Page α) → Prop

/-- A rest comes to the answer to a token that is asked for. -/
def Service.Expects (service : Service ι α ρ) (p : ι) (rest : ρ) : Prop :=
  ∃ m token, service.asks p token ∧ service.owes p rest m (service.answer p token)

namespace Leads

variable {owes : ρ → Nat → Except Cause (Page α) → Prop} {a : Except Cause (Page α)} {m : Nat}

theorem of_page {page : Page α} (h : Leads owes a m (.page page)) : a = .ok page := by
  cases m <;> exact h

theorem of_after {delay : Option Rat} {rest : ρ} (h : Leads owes a m (.after delay rest)) :
    delay ≠ none ∧ ∃ m', m = m' + 1 ∧ owes rest m' a := by
  cases delay with
  | none => cases m <;> cases h
  | some d =>
    cases m with
    | zero => cases h
    | succ m => exact ⟨nofun, m, rfl, h⟩

theorem not_cancelled (h : Leads owes a m .cancelled) : False := by
  cases m <;> cases h

end Leads

/-- In a world that is ready the page calls of the partitions have these answers, and the world
stays ready. -/
structure Serves (calls : Calls σ ι α ρ) (partitions : List ι) (ready : σ → Prop)
    (service : Service ι α ρ) : Prop where
  first : ∀ p ∈ partitions, service.asks p firstToken
  next : ∀ {p token page}, p ∈ partitions → service.asks p token →
    service.answer p token = .ok page → page.next.isTruthy = true → service.asks p page.next
  ask : ∀ {world p token}, ready world → ∀ now k, p ∈ partitions → service.asks p token →
    ready (calls.ask world now k p token).2 ∧
      Leads (service.owes p) (service.answer p token) calls.waits
        (calls.ask world now k p token).1
  resume : ∀ {world p rest}, ready world → ∀ now k, p ∈ partitions → service.Expects p rest →
    ready (calls.resume world now k p rest).2 ∧ ∀ m a, service.owes p rest m a →
      Leads (service.owes p) a m (calls.resume world now k p rest).1

/-! ## Noting what is asked for -/

/-- A world that is ready, and what each worker has asked for, the last token first. -/
structure Noted (ready : σ → Prop) where
  world : σ
  isReady : ready world
  asked : Nat → List Value

/-- The reply that is an answer. -/
def Reply.ofAnswer : Except Cause (Page α) → Reply α ρ
  | .ok p => .page p
  | .error c => .failed c

variable {calls : Calls σ ι α ρ} {partitions : List ι} {ready : σ → Prop}
  {service : Service ι α ρ}

open Classical in
/-- The page calls with what is asked for noted. Where nothing is known of the calls, the answers
stand in for them. -/
noncomputable def Serves.noted (serves : Serves calls partitions ready service) :
    Calls (Noted ready) ι α ρ where
  ask w now k p token :=
    let asked := Function.update w.asked k (token :: w.asked k)
    if h : partitions[k]? = some p ∧ service.asks p token then
      let reply := calls.ask w.world now k p token
      (reply.1, ⟨reply.2, (serves.ask w.isReady now k (List.mem_of_getElem? h.1) h.2).1, asked⟩)
    else (.ofAnswer (service.answer p token), { w with asked := asked })
  resume w now k p rest :=
    let own := (partitions[k]?).getD p
    if h : own ∈ partitions ∧ service.Expects own rest then
      let reply := calls.resume w.world now k own rest
      (reply.1, ⟨reply.2, (serves.resume w.isReady now k h.1 h.2).1, w.asked⟩)
    else (.cancelled, w)
  waits := calls.waits

/-- How the noted world is read. -/
def Service.view (service : Service ι α ρ) (partitions : List ι) (ready : σ → Prop) :
    View (Noted ready) α ρ where
  asked w k := w.asked k
  owes _ k rest m a := ∃ p token, partitions[k]? = some p ∧ service.asks p token ∧
    a = service.answer p token ∧ service.owes p rest m a

/-- The answer to the token that was asked for last. -/
def Service.latest (service : Service ι α ρ) (p : ι) (asked : List Value) :
    Except Cause (Page α) :=
  service.answer p (asked.headD firstToken)

theorem leadsTo_ofAnswer {view : View σ α ρ} {world : σ} {k m : Nat} (a : Except Cause (Page α)) :
    view.LeadsTo world k a m (.ofAnswer a) := by
  cases a <;> cases m <;> rfl

theorem leadsTo_of_leads {w : Noted ready} {k m : Nat} {p : ι} {token : Value} {reply : Reply α ρ}
    (at_ : partitions[k]? = some p) (asks : service.asks p token)
    (h : Leads (service.owes p) (service.answer p token) m reply) :
    (service.view partitions ready).LeadsTo w k (service.answer p token) m reply := by
  cases reply with
  | page | failed => cases m <;> exact h
  | cancelled => cases m <;> cases h
  | after delay rest =>
    cases delay with
    | none => cases m <;> cases h
    | some d =>
      cases m with
      | zero => cases h
      | succ m => exact ⟨p, token, at_, asks, rfl, h⟩

/-- The noted calls have the answers. -/
theorem Serves.follows (serves : Serves calls partitions ready service) :
    Follows serves.noted service.latest (service.view partitions ready) where
  ask := by
    intro w now k p token reply w' h
    have others : ∀ j ≠ k, Function.update w.asked k (token :: w.asked k) j = w.asked j :=
      fun j hj => Function.update_of_ne hj ..
    simp only [noted] at h
    split at h
    case isTrue known =>
      cases h
      refine ⟨Function.update_self .., ?_, fun j hj => ⟨others j hj, fun _ _ _ owes => owes⟩⟩
      exact leadsTo_of_leads known.1 known.2
        (serves.ask w.isReady now k (List.mem_of_getElem? known.1) known.2).2
    case isFalse =>
      cases h
      exact ⟨Function.update_self .., leadsTo_ofAnswer _,
        fun j hj => ⟨others j hj, fun _ _ _ owes => owes⟩⟩
  resume := by
    intro w now k p rest m a reply w' owes h
    obtain ⟨own, token, at_, asks, rfl, owes⟩ := owes
    have known : own ∈ partitions ∧ service.Expects own rest :=
      ⟨List.mem_of_getElem? at_, m, token, asks, owes⟩
    simp only [noted, at_, Option.getD_some, known, and_self, dif_pos] at h
    cases h
    refine ⟨rfl, ?_, fun j _ => ⟨rfl, fun _ _ _ owes => owes⟩⟩
    exact leadsTo_of_leads at_ asks ((serves.resume w.isReady now k known.1 known.2).2 _ _ owes)

/-! ## Forgetting the notes -/

/-- The state without the notes. -/
def State.forget (s : State (Noted ready) α ρ) : State σ α ρ :=
  ⟨s.now, s.world.world, s.free, s.queue, s.phases, s.events, s.halted⟩

theorem State.forget_finish (s : State (Noted ready) α ρ) (k : Nat) (o : Outcome (List α)) :
    (s.finish k o).forget = s.forget.finish k o := by
  rcases s with ⟨now, world, free, queue, phases, events, halted⟩
  cases queue <;> cases o <;> rfl

/-- A worker that waits in a page call waits for the answer to a token that is asked for. -/
def Expecting (service : Service ι α ρ) (partitions : List ι) (phases : List (Phase α ρ)) : Prop :=
  ∀ (k : Nat) p left pages rest, partitions[k]? = some p →
    phases[k]? = some (Phase.listing left pages rest) → service.Expects p rest

theorem Expecting.set {phases : List (Phase α ρ)} (h : Expecting service partitions phases)
    {k : Nat} {ph : Phase α ρ} (expects : ∀ p left pages rest, partitions[k]? = some p →
      ph = Phase.listing left pages rest → service.Expects p rest) :
    Expecting service partitions (phases.set k ph) := by
  intro j p left pages rest at_ listing
  rw [List.getElem?_set] at listing
  split at listing
  case isTrue same =>
    subst same
    split at listing
    case isTrue => exact expects _ _ _ _ at_ (Option.some.inj listing)
    case isFalse => cases listing
  case isFalse => exact h _ _ _ _ _ at_ listing

theorem Expecting.finish {s : State σ α ρ} (h : Expecting service partitions s.phases) (k : Nat)
    (o : Outcome (List α)) : Expecting service partitions (s.finish k o).phases := by
  have entered : Expecting service partitions (s.enter k (.over o)).phases := h.set (by simp)
  have released : Expecting service partitions (s.enter k (.over o)).release.phases := by
    rw [State.release]
    split
    · exact entered.set (by simp)
    · exact entered
  cases o <;> exact released

/-- A run of the noted calls stands where the run of the calls themselves stands. -/
structure Forgets (service : Service ι α ρ) (partitions : List ι) (noted : State (Noted ready) α ρ)
    (s : State σ α ρ) : Prop where
  forget : noted.forget = s
  expecting : Expecting service partitions noted.phases

section Run

variable (serves : Serves calls partitions ready service) (clock : Clock) {k : Nat} {p : ι}
  {n : State (Noted ready) α ρ} {s : State σ α ρ}

include serves

theorem proceed_forgets (at_ : partitions[k]? = some p) (left : Nat) (pages : List (List α))
    (reply : Reply α ρ) {m : Nat} {token : Value} (asks : service.asks p token)
    (leads : Leads (service.owes p) (service.answer p token) m reply)
    (h : Forgets service partitions n s) :
    Forgets service partitions (proceed serves.noted clock k p left pages reply n)
      (proceed calls clock k p left pages reply s) := by
  obtain ⟨rfl, expecting⟩ := h
  fun_induction proceed serves.noted clock k p left pages reply n generalizing m token with
  | case1 left pages rest n entered =>
    obtain ⟨-, m', rfl, owes⟩ := leads.of_after
    have expects : Expecting service partitions entered.phases := by
      refine expecting.set fun q _ _ _ at_' listing => ?_
      obtain rfl := Option.some.inj (at_.symm.trans at_')
      cases listing
      exact ⟨m', token, asks, owes⟩
    rw [proceed]
    exact ⟨rfl, expects⟩
  | case2 => exact absurd rfl leads.of_after.1
  | case3 left pages c n =>
    rw [proceed]
    exact ⟨n.forget_finish .., expecting.finish k _⟩
  | case4 => exact leads.not_cancelled.elim
  | case5 pages page n =>
    rw [proceed]
    exact ⟨n.forget_finish .., expecting.finish k _⟩
  | case6 left pages page n truthy reply world asked ih =>
    have p_mem := List.mem_of_getElem? at_
    have asks' := serves.next p_mem asks leads.of_page truthy
    have known := serves.ask n.world.isReady n.now k p_mem asks'
    simp only [Serves.noted, at_, asks', and_self, dif_pos] at asked
    cases asked
    rw [proceed, if_pos truthy]
    exact ih asks' known.2 expecting
  | case7 left pages page n last =>
    rw [proceed, if_neg last]
    exact ⟨n.forget_finish .., expecting.finish k _⟩

theorem begin_forgets (at_ : partitions[k]? = some p) (h : Forgets service partitions n s) :
    Forgets service partitions (begin serves.noted clock k p n) (begin calls clock k p s) := by
  obtain ⟨rfl, expecting⟩ := h
  have p_mem := List.mem_of_getElem? at_
  have asks := serves.first p p_mem
  have known := serves.ask n.world.isReady n.now k p_mem asks
  have asked : serves.noted.ask n.world n.now k p firstToken
      = ((calls.ask n.world.world n.now k p firstToken).1, ⟨_, known.1,
          Function.update n.world.asked k (firstToken :: n.world.asked k)⟩) := by
    simp [Serves.noted, at_, asks]
  rw [begin, begin, asked]
  exact proceed_forgets serves clock at_ _ _ _ asks known.2 ⟨rfl, expecting⟩

theorem turn_forgets (at_ : partitions[k]? = some p) (h : Forgets service partitions n s) :
    Forgets service partitions (turn serves.noted clock k p n) (turn calls clock k p s) := by
  have begun := h
  obtain ⟨rfl, expecting⟩ := h
  have phase : n.forget.phases[k]? = n.phases[k]? := rfl
  rw [turn, turn, phase]
  split
  case h_1 =>
    have free : n.forget.free = n.free := rfl
    rw [free]
    split
    case h_1 => exact ⟨rfl, expecting.set (by simp)⟩
    case h_2 => exact begin_forgets serves clock at_ ⟨rfl, expecting⟩
  case h_2 => exact begin_forgets serves clock at_ begun
  case h_3 left pages rest listing =>
    have p_mem := List.mem_of_getElem? at_
    have expects := expecting k p left pages rest at_ listing
    have known := serves.resume n.world.isReady n.now k p_mem expects
    have resumed : serves.noted.resume n.world n.now k p rest
        = ((calls.resume n.world.world n.now k p rest).1, ⟨_, known.1, n.world.asked⟩) := by
      simp [Serves.noted, at_, p_mem, expects]
    obtain ⟨m, token, asks, owes⟩ := expects
    rw [resumed]
    exact proceed_forgets serves clock at_ left pages _ asks (known.2 m _ owes) ⟨rfl, expecting⟩
  case h_4 => exact begun

theorem step_forgets (h : Forgets service partitions n s) :
    Forgets service partitions (step serves.noted clock partitions n)
      (step calls clock partitions s) := by
  have begun := h
  obtain ⟨rfl, expecting⟩ := h
  have events : n.forget.events = n.events := rfl
  rw [step, step, events]
  split
  case h_1 => exact begun
  case h_2 e rest _ =>
    cases signal : e.signal with
    | turn k =>
      cases at_ : partitions[k]? with
      | none =>
        simp only [at_]
        exact ⟨rfl, expecting⟩
      | some p =>
        simp only [at_]
        exact turn_forgets serves clock at_ ⟨rfl, expecting⟩
    | notice | halt => exact ⟨rfl, expecting⟩

theorem steps_forgets (fuel : Nat) (h : Forgets service partitions n s) :
    Forgets service partitions (steps serves.noted clock partitions fuel n)
      (steps calls clock partitions fuel s) := by
  induction fuel generalizing n s with
  | zero => exact h
  | succ fuel ih =>
    have events : s.events = n.events := h.forget ▸ rfl
    rw [steps, steps, events]
    split
    · exact h
    · exact ih (step_forgets serves clock h)

/-- Whatever the page calls have to wait and whatever the number of slots, a run in a world that is
ready gives what the partitions give one by one. -/
theorem run_served {width : Option Nat} (wide : width ≠ some 0) {world : σ} (isReady : ready world)
    (now : Rat) : (run calls clock width partitions world now).result partitions
      = .done (listed service.latest partitions) := by
  let begun : Noted ready := ⟨world, isReady, fun _ => []⟩
  have fresh : Expecting service partitions
      (start width partitions begun now : State (Noted ready) α ρ).phases := by
    intro k p left pages rest _ listing
    obtain ⟨_, -, fresh⟩ := List.mem_map.1 (List.mem_of_getElem? listing)
    cases fresh
  have forgets := steps_forgets serves clock (bound calls partitions)
    (n := start width partitions begun now) (s := start width partitions world now) ⟨rfl, fresh⟩
  have noted : (run serves.noted clock width partitions begun now).result partitions
      = .done (listed service.latest partitions) :=
    run_result serves.follows clock wide partitions (fun _ => rfl) now
  rw [← noted, run, ← forgets.forget]
  rfl

end Run

/-- Where every partition can be listed, the result has the items of each in turn. -/
theorem listed_of_done {answer : ι → List Value → Except Cause (Page α)} {items : ι → List α}
    (h : ∀ p ∈ partitions, listing answer p = .done (items p)) :
    listed answer partitions = ⟨partitions.flatMap items, partitions, []⟩ := by
  induction partitions with
  | nil => rfl
  | cons p rest ih =>
    rw [listed_done (h p (by simp)), ih fun q hq => h q (by simp [hq]), List.flatMap_cons]

end ClusterOps.Fanout

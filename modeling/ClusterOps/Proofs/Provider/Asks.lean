import ClusterOps.Proofs.Provider.Calls

/-
What operations ask, told of every call that they make. An operation `Asks` no
other calls than those with a property if all that it adds to the account have
it, however it ends, and whether or not the cloud answers: also one that is
cancelled or hangs has made calls. Operations made of such operations are such
themselves (`Asks.bind`), and a wait is because each of its polls is (`run_keeps`).
-/

namespace ClusterOps

variable {σ : Type} {P : Call → Prop}

/-! ## Accounts -/

namespace Account

variable {a b c : Account σ}

/-- What was asked from one account to a later one are calls with a property. -/
def Adds (P : Call → Prop) (a b : Account σ) : Prop :=
  ∃ made, b.calls = a.calls ++ made ∧ ∀ c ∈ made, P c

theorem Adds.of_calls_eq (h : b.calls = a.calls) : Adds P a b := ⟨[], by simp [h], by simp⟩

theorem Adds.refl (a : Account σ) : Adds P a a := .of_calls_eq rfl

theorem Adds.trans (h : Adds P a b) (h' : Adds P b c) : Adds P a c := by
  obtain ⟨first, calls, all⟩ := h
  obtain ⟨second, calls', all'⟩ := h'
  refine ⟨first ++ second, by rw [calls', calls, List.append_assoc], fun x hx => ?_⟩
  rcases List.mem_append.1 hx with hx | hx
  · exact all x hx
  · exact all' x hx

theorem Adds.calls_eq (h : Adds (fun _ => False) a b) : b.calls = a.calls := by
  obtain ⟨made, calls, all⟩ := h
  rw [calls, List.eq_nil_iff_forall_not_mem.2 all, List.append_nil]

theorem adds_send (a : Account σ) (cloud : Cloud σ) (now : Rat) {region : String} {r : Request}
    (h : ∀ c : Call, c.region = region → c.request = r → P c) :
    Adds P a (a.send cloud now region r).2 := by
  refine ⟨_, calls_send .., fun c hc => ?_⟩
  obtain rfl := List.mem_singleton.1 hc
  exact h _ rfl rfl

theorem adds_connect (a : Account σ) (cloud : Cloud σ) (region : String) :
    Adds P a (a.connect cloud region).2 := .of_calls_eq (calls_connect ..)

end Account

/-! ## Operations -/

namespace Op

variable {α β : Type}

/-- Whatever the cloud answers, the operation asks no other calls than those with a property. -/
def Asks (P : Call → Prop) (x : Op (Account σ) α) : Prop :=
  ∀ s : Session (Account σ), Account.Adds P s.world (x s).2.world

theorem asks_ends (o : Outcome α) : Asks P (ends o : Op (Account σ) α) := fun _ => .refl _

theorem asks_pure (a : α) : Asks P (pure a : Op (Account σ) α) := asks_ends (.done a)

theorem asks_ofExcept (e : Except Cause α) : Asks P (ofExcept e : Op (Account σ) α) := asks_ends _

theorem asks_record (level : Level) (source : Source) (message : String)
    (fields : List (String × Value)) :
    Asks P (record level source message fields : Op (Account σ) Unit) := fun _ => .refl _

theorem Asks.bind {x : Op (Account σ) α} {f : α → Op (Account σ) β} (hx : Asks P x)
    (hf : ∀ a, Asks P (f a)) : Asks P (x >>= f) := by
  intro s
  have first := hx s
  rcases bind_cases x f s with ⟨a, t, ran, next⟩ | ⟨same, -⟩
  · rw [ran] at first
    rw [next]
    exact first.trans (hf a t)
  · rw [same]
    exact first

/-- An operation that asks nothing leaves all calls to what follows it, if anything follows. -/
theorem Asks.calls_bind {x : Op (Account σ) α} (quiet : x.Asks fun _ => False)
    (f : α → Op (Account σ) β) (s : Session (Account σ)) :
    (((x >>= f) s).2.world.calls = s.world.calls ∧ ∀ b, ((x >>= f) s).1 ≠ .done b) ∨
      ∃ a t, x s = (.done a, t) ∧ t.world.calls = s.world.calls ∧ (x >>= f) s = f a t := by
  have idle : (x s).2.world.calls = s.world.calls := (quiet s).calls_eq
  rcases bind_cases x f s with ⟨a, t, ran, next⟩ | ⟨same, undone⟩
  · rw [ran] at idle
    exact .inr ⟨a, t, ran, idle, next⟩
  · rw [same]
    exact .inl ⟨idle, undone⟩

/-- Catching failures changes how an operation ends, and nothing else. -/
theorem caught_snd {W : Type} (x : Op W α) (isCaught : Cause → Bool) (s : Session W) :
    (x.caught isCaught s).2 = (x s).2 := by
  rw [caught]
  rcases x s with ⟨o, t⟩
  cases o with
  | failed c =>
    dsimp only
    split <;> rfl
  | _ => rfl

theorem done_of_caught {W : Type} {x : Op W α} {isCaught : Cause → Bool} {s t : Session W} {a : α}
    (h : x.caught isCaught s = (.done (.ok a), t)) : x s = (.done a, t) := by
  rw [caught] at h
  rcases ran : x s with ⟨o, u⟩
  rw [ran] at h
  cases o with
  | done b =>
    obtain ⟨same, rfl⟩ := Prod.mk.inj h
    rw [Except.ok.inj (Outcome.done.inj same)]
  | failed c =>
    dsimp only at h
    split at h
    · cases Outcome.done.inj (Prod.mk.inj h).1
    · cases (Prod.mk.inj h).1
  | cancelled | hung => cases (Prod.mk.inj h).1

theorem Asks.caught {x : Op (Account σ) α} (h : Asks P x) (isCaught : Cause → Bool) :
    Asks P (x.caught isCaught) := by
  intro s
  rw [caught_snd]
  exact h s

end Op

/-! ## Waiting -/

namespace Wait

variable {W : Type} {w : Wait} {clock : Clock} {poll : W → Rat → Call × W}

@[simp] theorem source_rest (s : State W) : (w.rest clock s).source = s.source := by
  rw [rest]
  dsimp only
  split <;> rfl

@[simp] theorem source_take (report : Report) (s : State W) :
    (w.take clock report s).source = s.source := by
  cases report with
  | cancelled | raised => rfl
  | status v =>
    rw [take]
    split
    · rfl
    · split
      · rfl
      · split
        · rfl
        · exact source_rest _

variable {Q : W → Prop} (kept : ∀ source time, Q source → Q (poll source time).2)

include kept

theorem ask_keeps {s : State W} (h : Q s.source) : Q (w.ask clock poll s).source := by
  rw [ask]
  dsimp only
  split
  · exact h
  · exact kept _ _ h

/-- A step polls once at most. -/
theorem step_keeps {s : State W} (h : Q s.source) : Q (w.step clock poll s).source := by
  rw [step]
  split
  case h_1 => exact h
  case h_2 => exact ask_keeps kept h
  case h_3 =>
    split
    · split
      · rw [source_take]
        exact h
      · exact h
    · exact h

theorem steps_keeps (fuel : Nat) {s : State W} (h : Q s.source) :
    Q (w.steps clock poll fuel s).source := by
  induction fuel generalizing s with
  | zero => exact h
  | succ fuel ih =>
    rw [steps]
    split
    · exact h
    · exact ih (step_keeps kept h)

/-- What every poll keeps, a wait keeps. -/
theorem run_keeps {source : W} (now : Rat) (h : Q source) :
    Q (w.run clock poll source now).source := by
  refine steps_keeps kept _ ?_
  rw [begin, source_rest]
  split
  · exact h
  · split <;> exact h

end Wait

/-! ## Providers -/

namespace Provider

variable (p : Provider σ)

theorem asks_connect (purpose : Option String) (region : String) :
    Op.Asks P (p.connect purpose region) := fun s => s.world.adds_connect p.cloud region

theorem asks_create (cloud : Cloud σ) (clock : Clock) (t : Settings) :
    Op.Asks P (create cloud clock t) := (asks_connect _ _ _).bind fun _ => Op.asks_pure _

theorem eq_of_create {cloud : Cloud σ} {clock : Clock} {t : Settings} {p : Provider σ}
    {s u : Session (Account σ)} (h : create cloud clock t s = (.done p, u)) :
    p = ⟨cloud, clock, t⟩ := by
  obtain ⟨_, v, -, made⟩ := Op.done_of_bind h
  exact (Outcome.done.inj (Prod.mk.inj made).1).symm

theorem asks_ask (purpose : String) {r : Request}
    (h : ∀ c : Call, c.region = p.region → c.request = r → P c) : Op.Asks P (p.ask purpose r) := by
  refine fun s => ⟨_, p.ask_calls purpose r s, fun c hc => ?_⟩
  obtain rfl := List.mem_singleton.1 hc
  exact h _ rfl rfl

/-- A wait for an update asks for its status only. -/
theorem asks_wait (name : String) (h : Handle)
    (all : ∀ c : Call, c.region = p.region → c.request = .describeUpdate name h.id → P c) :
    (p.waitForUpdate name h).Asks P := by
  intro s
  refine Wait.run_keeps (Q := Account.Adds P s.world) ?_ s.now (.refl _)
  exact fun account time added => added.trans (account.adds_send p.cloud time all)

end Provider

/-! ## One cluster in one region -/

/-- The call is about a cluster, and goes to its region. -/
def Call.Concerns (region name : String) (c : Call) : Prop :=
  c.region = region ∧ c.request.cluster? = some name

namespace Provider

variable (p : Provider σ) (name : String)

theorem concerns_of_request {name : String} {r : Request} (h : r.cluster? = some name) (c : Call)
    (region : c.region = p.region) (request : c.request = r) : c.Concerns p.region name :=
  ⟨region, request ▸ h⟩

theorem asks_describe : (p.describe name).Asks (Call.Concerns p.region name) :=
  (p.asks_ask _ (p.concerns_of_request rfl)).bind fun _ => Op.asks_ofExcept _

theorem asks_currentLogging : (p.currentLogging name).Asks (Call.Concerns p.region name) :=
  ((p.asks_describe name).bind fun _ => Op.asks_ofExcept _).bind fun _ => Op.asks_ofExcept _

theorem asks_updateLogging (enabled disabled : List String) :
    (p.updateLogging name enabled disabled).Asks (Call.Concerns p.region name) :=
  (p.asks_ask _ (p.concerns_of_request rfl)).bind fun _ => Op.asks_ofExcept _

theorem asks_waitForUpdate (h : Handle) :
    (p.waitForUpdate name h).Asks (Call.Concerns p.region name) :=
  p.asks_wait name h (p.concerns_of_request rfl)

end Provider

end ClusterOps

import ClusterOps.Proofs.Wait.Course
import ClusterOps.Provider

/-
What a provider asks of the cloud, operation by operation: which calls it makes,
and which answers to them its value rests on. The account keeps every call with
its answer, so both can be read off the account afterwards.
-/

namespace ClusterOps

variable {σ : Type}

namespace Call

/-- The call is answered with data that arrives at a time. -/
def AnsweredAt (clock : Clock) (c : Call) (body : Value) (t : Rat) : Prop :=
  c.reply.outcome = .done body ∧
    c.reply.delay.map (fun d => if d = 0 then c.time else clock.later c.time d) = some t

theorem AnsweredAt.unique {clock : Clock} {c : Call} {a b : Value} {t u : Rat}
    (h : c.AnsweredAt clock a t) (k : c.AnsweredAt clock b u) : a = b ∧ t = u := by
  constructor
  · simpa using h.1.symm.trans k.1
  · exact Option.some.inj (h.2.symm.trans k.2)

end Call

namespace Op

variable {W α β : Type}

/-- An operation that has a value goes on with it. -/
theorem bind_of_done {x : Op W α} {s t : Session W} {a : α} (h : x s = (.done a, t))
    (f : α → Op W β) : (x >>= f) s = f a t := by
  show andThen x f s = _
  simp [andThen, h]

/-- An operation that fails leaves the rest undone. -/
theorem bind_of_failed {x : Op W α} {s t : Session W} {c : Cause} (h : x s = (.failed c, t))
    (f : α → Op W β) : (x >>= f) s = (.failed c, t) := by
  show andThen x f s = _
  simp [andThen, h]

/-- Any other end of an operation is the end of all that would follow. -/
theorem bind_of_not_done {x : Op W α} {s : Session W} (h : ∀ a, (x s).1 ≠ .done a)
    (f : α → Op W β) :
    ((x >>= f) s).2 = (x s).2 ∧ ∀ b, ((x >>= f) s).1 ≠ .done b := by
  show (andThen x f s).2 = _ ∧ ∀ b, (andThen x f s).1 ≠ _
  rcases hx : x s with ⟨o, t⟩
  cases o with
  | done a => exact absurd (by rw [hx]) (h a)
  | _ => simp [andThen, hx]

/-- An operation goes on with its value, or it ends all that would follow. -/
theorem bind_cases (x : Op W α) (f : α → Op W β) (s : Session W) :
    (∃ a t, x s = (.done a, t) ∧ (x >>= f) s = f a t) ∨
      ((x >>= f) s).2 = (x s).2 ∧ ∀ b, ((x >>= f) s).1 ≠ .done b := by
  by_cases done : ∃ a, (x s).1 = .done a
  · obtain ⟨a, ha⟩ := done
    have ran : x s = (.done a, (x s).2) := Prod.ext ha rfl
    exact .inl ⟨a, _, ran, bind_of_done ran f⟩
  · exact .inr (bind_of_not_done (not_exists.1 done) f)

/-- What has a value in the end had one at every operation before. -/
theorem done_of_bind {x : Op W α} {f : α → Op W β} {s t : Session W} {b : β}
    (h : (x >>= f) s = (.done b, t)) : ∃ a u, x s = (.done a, u) ∧ f a u = (.done b, t) := by
  rcases bind_cases x f s with ⟨a, u, ran, next⟩ | ⟨-, ends⟩
  · exact ⟨a, u, ran, next.symm.trans h⟩
  · exact absurd (congrArg Prod.fst h) (ends b)

/-- Changing the value of an operation leaves all else as it is. -/
theorem bind_pure_eq (x : Op W α) (f : α → β) (s : Session W) :
    (x >>= fun a => pure (f a)) s = ((x s).1.map f, (x s).2) := by
  show andThen x _ s = _
  rcases h : x s with ⟨o, t⟩
  cases o <;> simp only [andThen, h] <;> rfl

theorem bind_assoc {γ : Type} (x : Op W α) (f : α → Op W β) (g : β → Op W γ) :
    (x >>= f >>= g) = x >>= fun a => f a >>= g := by
  funext s
  show andThen (andThen x f) g s = andThen x (fun a => andThen (f a) g) s
  rcases h : x s with ⟨o, t⟩
  cases o <;> simp only [andThen, h]

theorem ok_of_ofExcept {e : Except Cause α} {s t : Session W} {a : α}
    (h : ofExcept e s = (.done a, t)) : e = .ok a := by
  cases e with
  | ok b => rw [Outcome.done.inj (Prod.mk.inj h).1]
  | error c => cases (Prod.mk.inj h).1

/-- Two calculations after an operation are one. -/
theorem bind_ofExcept_bind {γ : Type} (x : Op W α) (f : α → Except Cause β)
    (g : β → Except Cause γ) :
    ((x >>= fun a => ofExcept (f a)) >>= fun b => ofExcept (g b))
      = x >>= fun a => ofExcept (f a >>= g) := by
  rw [bind_assoc]
  congr 1
  funext a
  cases f a <;> rfl

/-- A calculation after an operation takes no time and does nothing. -/
@[simp] theorem bind_ofExcept_snd (x : Op W α) (f : α → Except Cause β) (s : Session W) :
    ((x >>= fun a => ofExcept (f a)) s).2 = (x s).2 := by
  show (andThen x _ s).2 = _
  rcases h : x s with ⟨o, t⟩
  cases o <;> simp [andThen, h, ofExcept, ends]

/-- It has a value where the operation has one and the calculation accepts it. -/
theorem bind_ofExcept_done {x : Op W α} {f : α → Except Cause β} {s : Session W} {b : β} :
    ((x >>= fun a => ofExcept (f a)) s).1 = .done b ↔ ∃ a, (x s).1 = .done a ∧ f a = .ok b := by
  show (andThen x _ s).1 = _ ↔ _
  rcases h : x s with ⟨o, t⟩
  cases o with
  | done a => cases hf : f a <;> simp [andThen, h, ofExcept, ends, Outcome.ofExcept, hf]
  | failed c => simp [andThen, h]
  | cancelled => simp [andThen, h]
  | hung => simp [andThen, h]

end Op

namespace Provider

/-- The call that a provider makes for a request. -/
def made (p : Provider σ) (r : Request) (s : Session (Account σ)) : Call :=
  ⟨s.now, p.region, r, (s.world.send p.cloud s.now p.region r).1⟩

theorem wordedOutcome_done {α : Type} {purpose : String} {o : Outcome α} {a : α} :
    wordedOutcome purpose o = .done a ↔ o = .done a := by
  cases o <;> simp [wordedOutcome]

theorem ask_eq (p : Provider σ) (purpose : String) (r : Request) (s : Session (Account σ)) :
    p.ask purpose r s =
      let s' : Session (Account σ) := { s with world := (s.world.send p.cloud s.now p.region r).2 }
      match (p.made r s).reply.delay with
      | none => (.hung, s')
      | some d => (wordedOutcome purpose (p.made r s).reply.outcome,
          { s' with now := if d = 0 then s.now else p.clock.later s.now d }) := by
  show Op.andThen (Op.rest p.clock (p.made r s).reply.delay) _ _ = _
  cases (p.made r s).reply.delay <;> rfl

theorem ask_calls (p : Provider σ) (purpose : String) (r : Request) (s : Session (Account σ)) :
    (p.ask purpose r s).2.world.calls = s.world.calls ++ [p.made r s] := by
  rw [ask_eq]
  cases (p.made r s).reply.delay <;> simp [made]

/-- A call has its value when its answer arrives. -/
theorem ask_done {p : Provider σ} {purpose : String} {r : Request} {s : Session (Account σ)}
    {v : Value} {t : Rat} :
    ((p.ask purpose r s).1 = .done v ∧ (p.ask purpose r s).2.now = t) ↔
      (p.made r s).AnsweredAt p.clock v t := by
  rw [ask_eq, Call.AnsweredAt]
  cases (p.made r s).reply.delay with
  | none => simp
  | some d => simp [wordedOutcome_done, made]

end Provider

/-! ## Describing -/

/-- The answer to a call tells of an active cluster, and of the facilities that are on and off. -/
def Call.ShowsActive (c : Call) (o : Facility.Observed) : Prop :=
  ∃ body snapshot, c.reply.outcome = .done body ∧
    (Payload.required body "cluster" >>= Snapshot.ofPayload) = .ok snapshot ∧
    snapshot.status = .text "ACTIVE" ∧ snapshot.observed = .ok o

namespace Provider

theorem describeActive_calls (p : Provider σ) (name : String) (s : Session (Account σ)) :
    (p.describeActive name s).2.world.calls
      = s.world.calls ++ [p.made (.describeCluster name) s] := by
  rw [describeActive, Op.bind_ofExcept_snd, describe, Op.bind_ofExcept_snd, ask_calls]

theorem describeActive_done {p : Provider σ} {name : String} {s : Session (Account σ)}
    {snapshot : Snapshot} (h : (p.describeActive name s).1 = .done snapshot) :
    ∃ body, (p.made (.describeCluster name) s).reply.outcome = .done body ∧
      (Payload.required body "cluster" >>= Snapshot.ofPayload) = .ok snapshot ∧
      snapshot.status = .text "ACTIVE" := by
  rw [describeActive, Op.bind_ofExcept_done] at h
  obtain ⟨described, h, required⟩ := h
  rw [describe, Op.bind_ofExcept_done] at h
  obtain ⟨body, h, read⟩ := h
  obtain ⟨rfl, status⟩ := status_of_requireActive required
  exact ⟨body, (ask_done.1 ⟨h, rfl⟩).1, read, Value.same_text_iff.1 status⟩

theorem currentLogging_calls (p : Provider σ) (name : String) (s : Session (Account σ)) :
    (p.currentLogging name s).2.world.calls
      = s.world.calls ++ [p.made (.describeCluster name) s] := by
  rw [currentLogging, Op.bind_ofExcept_snd, describeActive_calls]

theorem currentLogging_done {p : Provider σ} {name : String} {s : Session (Account σ)}
    {o : Facility.Observed} (h : (p.currentLogging name s).1 = .done o) :
    (p.made (.describeCluster name) s).ShowsActive o := by
  rw [currentLogging, Op.bind_ofExcept_done] at h
  obtain ⟨snapshot, h, observed⟩ := h
  obtain ⟨body, answered, read, status⟩ := describeActive_done h
  exact ⟨body, snapshot, answered, read, status, observed⟩

/-! ## Requesting -/

/-- What is read of an answer is there when the answer arrives. -/
theorem ask_ofExcept_done {α : Type} {p : Provider σ} {purpose : String} {r : Request}
    {read : Value → Except Cause α} {s : Session (Account σ)} {a : α} {t : Rat} :
    (((p.ask purpose r >>= fun v => Op.ofExcept (read v)) s).1 = .done a ∧
      ((p.ask purpose r >>= fun v => Op.ofExcept (read v)) s).2.now = t) ↔
    ∃ body, (p.made r s).AnsweredAt p.clock body t ∧ read body = .ok a := by
  rw [Op.bind_ofExcept_snd, Op.bind_ofExcept_done]
  constructor
  · intro hk
    obtain ⟨⟨body, hb, ha⟩, ht⟩ := hk
    exact ⟨body, ask_done.1 ⟨hb, ht⟩, ha⟩
  · intro hk
    obtain ⟨body, hb, ha⟩ := hk
    obtain ⟨hb, ht⟩ := ask_done.2 hb
    exact ⟨⟨body, hb, ha⟩, ht⟩

theorem updateLogging_calls (p : Provider σ) (name : String) (enable disable : List String)
    (s : Session (Account σ)) :
    (p.updateLogging name enable disable s).2.world.calls
      = s.world.calls ++ [p.made (.updateLogging name enable disable) s] := by
  rw [updateLogging, Op.bind_ofExcept_snd, ask_calls]

/-- A request has its handle when its answer arrives. -/
theorem updateLogging_done {p : Provider σ} {name : String} {enable disable : List String}
    {s : Session (Account σ)} {h : Handle} {t : Rat} :
    ((p.updateLogging name enable disable s).1 = .done h ∧
      (p.updateLogging name enable disable s).2.now = t) ↔
    ∃ body, (p.made (.updateLogging name enable disable) s).AnsweredAt p.clock body t ∧
      Handle.ofPayload body = .ok h := ask_ofExcept_done

theorem updateVersion_calls (p : Provider σ) (name version : String) (s : Session (Account σ)) :
    (p.updateVersion name version s).2.world.calls
      = s.world.calls ++ [p.made (.updateVersion name version) s] := by
  rw [updateVersion, Op.bind_ofExcept_snd, ask_calls]

theorem updateVersion_done {p : Provider σ} {name version : String} {s : Session (Account σ)}
    {h : Handle} {t : Rat} :
    ((p.updateVersion name version s).1 = .done h ∧
      (p.updateVersion name version s).2.now = t) ↔
    ∃ body, (p.made (.updateVersion name version) s).AnsweredAt p.clock body t ∧
      Handle.ofPayload body = .ok h := ask_ofExcept_done

end Provider

/-! ## Waiting -/

/-- The answer to a call confirms an update: it says that the update is successful, and it arrives
before the timer for the deadline has run out or together with it. -/
def Call.Confirms (c : Call) (clock : Clock) (name : String) (update : Value) (deadline : Rat) :
    Prop :=
  c.request = .describeUpdate name update ∧ ∃ body t, c.AnsweredAt clock body t ∧
    t ≤ Wait.cutoff clock deadline c.time ∧
    Provider.updateStatus update body = .ok (.text "Successful")

/-- With the exact clock the answer arrives no later than the deadline. -/
theorem Call.confirms_exact {c : Call} {name : String} {update : Value} {deadline : Rat} :
    c.Confirms .exact name update deadline ↔
      c.request = .describeUpdate name update ∧ ∃ body t, c.AnsweredAt .exact body t ∧
        t ≤ deadline ∧ Provider.updateStatus update body = .ok (.text "Successful") := by
  simp [Call.Confirms]

namespace Provider

/-- What a wait sees of the answer to a call for the status of an update. -/
def seen (name : String) (update : Value) (c : Call) : Wait.Asked :=
  ⟨c.time, match c.reply.outcome with
    | .hung => none
    | _ => c.reply.delay, report name update c.reply.outcome⟩

theorem report_status {name : String} {update : Value} {o : Outcome Value} {v : Value} :
    report name update o = .status v ↔
      ∃ body, o = .done body ∧ updateStatus update body = .ok v := by
  cases o with
  | done body => cases h : updateStatus update body <;> simp [report, h]
  | _ => simp [report]

/-- What counts for a wait is what confirms the update. -/
theorem confirms_iff {clock : Clock} {name : String} {update : Value} {deadline : Rat} {c : Call}
    (h : c.request = .describeUpdate name update) :
    c.Confirms clock name update deadline ↔ ∃ t v, (seen name update c).InTime clock deadline t ∧
      (seen name update c).call.report = .status v ∧ v.same (.text "Successful") = true := by
  simp only [Call.Confirms, h, true_and, Call.AnsweredAt, Wait.Asked.InTime, Value.same_text_iff,
    seen, report_status, Wait.Asked.arrival?]
  constructor
  · intro hk
    obtain ⟨body, t, ⟨hb, ht⟩, hle, hs⟩ := hk
    exact ⟨t, _, ⟨by simpa [hb] using ht, hle⟩, ⟨body, hb, hs⟩, rfl⟩
  · intro hk
    obtain ⟨t, v, ⟨ht, hle⟩, ⟨body, hb, hs⟩, rfl⟩ := hk
    exact ⟨body, t, ⟨hb, by simpa [hb] using ht⟩, hle, hs⟩

/-- A poll is one call for the status, and its answer is seen. -/
theorem poll_call {p : Provider σ} {name : String} {update : Value} {account next : Account σ}
    {time : Rat} {call : Wait.Call} (h : p.poll name update account time = (call, next)) :
    ∃ c : Call, c.request = .describeUpdate name update ∧ ⟨time, call⟩ = seen name update c ∧
      next.calls = account.calls ++ [c] := by
  obtain ⟨rfl, rfl⟩ := Prod.mk.inj h
  exact ⟨_, rfl, rfl, Account.calls_send ..⟩

/-- The calls of a wait are calls for the status of its update, and it sees their answers. -/
theorem course_calls {p : Provider σ} {w : Wait} {name : String} {update : Value}
    {start deadline now stop : Rat} {account last : Account σ} {asked : List Wait.Asked}
    {r : Wait.Result}
    (h : Wait.Course w p.clock (p.poll name update) start deadline account now asked last stop r) :
    ∃ polls : List Call, (∀ c ∈ polls, c.request = .describeUpdate name update) ∧
      asked = polls.map (seen name update) ∧ last.calls = account.calls ++ polls := by
  induction h with
  | expired => exact ⟨[], by simp, rfl, by simp⟩
  | late _ poll | withdrawn _ poll | settled _ poll =>
    obtain ⟨c, request, hc, calls⟩ := poll_call poll
    exact ⟨[c], by simpa using request, by simpa using hc, calls⟩
  | pending _ poll _ _ _ _ ih =>
    obtain ⟨c, request, hc, calls⟩ := poll_call poll
    obtain ⟨polls, requests, hpolls, rest⟩ := ih
    refine ⟨c :: polls, by simpa using ⟨request, requests⟩, by simp [hc, hpolls], ?_⟩
    rw [rest, calls, List.append_assoc]
    rfl

/-- What a wait for an update does, if it ends: it asks for the status of the update and for nothing
else, and it succeeds exactly if an answer confirms the update. -/
theorem waitForUpdate_calls {p : Provider σ} {name : String} {h : Handle} {s : Session (Account σ)}
    (ends : (p.waitForUpdate name h s).1 ≠ .hung) :
    ∃ polls : List Call, (∀ c ∈ polls, c.request = .describeUpdate name h.id) ∧
      (p.waitForUpdate name h s).2.world.calls = s.world.calls ++ polls ∧
      ((p.waitForUpdate name h s).1 = .done () ↔ ∃ c ∈ polls,
        c.Confirms p.clock name h.id (p.clock.later s.now p.settings.waitTimeout)) := by
  cases result : ((p.waitFor name h).run p.clock (p.poll name h.id) s.world s.now).result? with
  | none => exact absurd (by simp [waitForUpdate, result, waited]) ends
  | some r =>
    obtain ⟨asked, course, -⟩ := Wait.course_of_run result
    obtain ⟨polls, requests, rfl, calls⟩ := course_calls course
    refine ⟨polls, requests, calls, ?_⟩
    have reached : waited (some r) = .done () ↔ ∃ v, r = .reached v := by
      cases r <;> simp [waited]
    simp only [waitForUpdate, result]
    rw [reached, course.reached_iff]
    simp only [List.mem_map, exists_exists_and_eq_and]
    exact exists_congr fun c => and_congr_right fun hc => (confirms_iff (requests c hc)).symm

end Provider

end ClusterOps

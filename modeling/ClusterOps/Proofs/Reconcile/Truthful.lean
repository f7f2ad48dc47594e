import ClusterOps.Cloud.Simulated
import ClusterOps.Proofs.Provider.Asks
import ClusterOps.Reconcile.Cluster

/-
Reconciling tells the truth about what it did. The calls that a run adds to the
account are the evidence: an update is requested at most once, and only where
the cluster was seen to differ from a declaration that makes sense; it is told
as applied exactly if an answer in time confirmed it; and a run that neither
failed nor applied anything has requested nothing.
-/

namespace ClusterOps

variable {σ : Type}

/-- The call requests an update of the configuration. -/
def Call.IsRequest (c : Call) : Prop := c.request.operation = "UpdateClusterConfig"

instance (c : Call) : Decidable c.IsRequest := inferInstanceAs (Decidable (_ = _))

/-- The update that a call requests is confirmed by the answer to another call: one about the update
with the id that the call was answered with, before the wait that began with this answer is over. -/
def Call.ConfirmedBy (p : Provider σ) (name : String) (u c : Call) : Prop :=
  ∃ body t h, u.AnsweredAt p.clock body t ∧ Handle.ofPayload body = .ok h ∧
    c.Confirms p.clock name h.id (p.clock.later t p.settings.waitTimeout)

/-- Among some calls of which only the second has a property, this is the only place of one. -/
theorem Call.eq_of_only_second {R : Call → Prop} {q u v : Call} {polls before after : List Call}
    (hq : ¬ R q) (hp : ∀ c ∈ polls, ¬ R c) (split : q :: u :: polls = before ++ v :: after)
    (hv : R v) : before = [q] ∧ v = u := by
  match before with
  | [] =>
    obtain ⟨rfl, -⟩ := List.cons.inj split
    exact absurd hv hq
  | [w] =>
    obtain ⟨first, split⟩ := List.cons.inj split
    obtain ⟨second, -⟩ := List.cons.inj split
    exact ⟨by rw [first], second.symm⟩
  | w :: x :: before =>
    obtain ⟨-, split⟩ := List.cons.inj split
    obtain ⟨-, split⟩ := List.cons.inj split
    exact absurd hv (hp v (by simp [split]))

/-- What a request for an update and the wait for it do: the update is requested, it is asked for
its status, and success is that it is confirmed, unless the wait for it never ends. -/
theorem Provider.request_calls {p : Provider σ} {x : Op (Account σ) Handle} {u : Call}
    {s : Session (Account σ)} (name : String)
    (calls : (x s).2.world.calls = s.world.calls ++ [u])
    (requested : ∀ {h t}, ((x s).1 = .done h ∧ (x s).2.now = t) ↔
      ∃ body, u.AnsweredAt p.clock body t ∧ Handle.ofPayload body = .ok h) :
    ∃ polls : List Call, (∀ c ∈ polls, ∃ id, c.request = .describeUpdate name id) ∧
      ((x >>= p.waitForUpdate name) s).2.world.calls = s.world.calls ++ u :: polls ∧
      ((((x >>= p.waitForUpdate name) s).1 = .hung →
          ∀ h t, (p.waitForUpdate name h t).1 ≠ .hung) →
        (((x >>= p.waitForUpdate name) s).1 = .done () ↔
          ∃ c ∈ polls, u.ConfirmedBy p name c)) := by
  rcases Op.bind_cases x (p.waitForUpdate name) s with ⟨h, t, ran, next⟩ | ⟨same, undone⟩
  case inr =>
    refine ⟨[], by simp, by rw [same, calls], fun _ => ?_⟩
    simp [undone ()]
  have done := congrArg Prod.fst ran
  have world := congrArg Prod.snd ran
  rw [world] at calls
  rw [next]
  by_cases hangs : (p.waitForUpdate name h t).1 = .hung
  case pos =>
    obtain ⟨polls, waits, asks⟩ :=
      p.asks_wait (P := fun c => c.request = .describeUpdate name h.id) name h
        (fun _ _ request => request) t
    refine ⟨polls, fun c hc => ⟨h.id, asks c hc⟩, ?_, fun ends => absurd hangs (ends hangs h t)⟩
    rw [waits, calls, List.append_assoc]
    rfl
  case neg =>
    obtain ⟨polls, asks, waits, confirmed⟩ := waitForUpdate_calls hangs
    obtain ⟨body, answered, accepted⟩ := requested.1 ⟨done, congrArg (·.now) world⟩
    refine ⟨polls, fun c hc => ⟨h.id, asks c hc⟩, ?_, fun _ => ?_⟩
    · rw [waits, calls, List.append_assoc]
      rfl
    · rw [confirmed]
      refine exists_congr fun c => and_congr_right fun _ => ?_
      constructor
      · exact fun hc => ⟨body, t.now, h, answered, accepted, hc⟩
      · intro hk
        obtain ⟨body', t', h', answered', accepted', hc⟩ := hk
        obtain ⟨rfl, rfl⟩ := answered.unique answered'
        obtain rfl := Except.ok.inj (accepted.symm.trans accepted')
        exact hc

namespace Reconcile

/-- There is reason to update a cluster: the change is not only planned, the declaration makes
sense, and the cluster was seen active, with other facilities enabled than those declared. -/
def Warranted (name : String) (plan : Bool) (declared : List String) (before : List Call) : Prop :=
  plan = false ∧ ∃ desired, Facility.expand declared Facility.supported = .ok desired ∧
    ∃ q ∈ before, q.request = .describeCluster name ∧
      ∃ o, q.ShowsActive o ∧ ¬ ∀ n, n ∈ o.enabled ↔ n ∈ desired

/-- What is told of a run, whether an update was applied and what failed, is borne out by the calls
that it made, in their order. -/
structure Truthful (p : Provider σ) (name : String) (plan : Bool) (declared : List String)
    (made : List Call) (applied : Bool) (error : Option Cause) : Prop where
  once : (made.filter (·.IsRequest)).length ≤ 1
  warranted : ∀ before u after, made = before ++ u :: after → u.IsRequest →
    Warranted name plan declared before
  applied_iff : applied = true ↔ ∃ u ∈ made, u.IsRequest ∧ ∃ c ∈ made, u.ConfirmedBy p name c
  quiet : error = none → applied = false → ∀ u ∈ made, ¬ u.IsRequest

variable {p : Provider σ} {name : String} {plan : Bool} {declared : List String}

/-- A run that requests nothing and applies nothing tells the truth. -/
theorem Truthful.idle {made : List Call} {error : Option Cause}
    (h : ∀ u ∈ made, ¬ u.IsRequest) : Truthful p name plan declared made false error where
  once := by
    have none : made.filter (·.IsRequest) = [] :=
      List.filter_eq_nil_iff.2 fun u hu => by simpa using h u hu
    simp [none]
  warranted before u after hm hr := absurd hr (h u (by simp [hm]))
  applied_iff := by
    constructor
    · intro h
      cases h
    · intro hk
      obtain ⟨u, hu, hr, -⟩ := hk
      exact absurd hr (h u hu)
  quiet _ _ := h

theorem not_isRequest_describeCluster {c : Call} (h : c.request = .describeCluster name) :
    ¬ c.IsRequest := by
  simp [Call.IsRequest, h, Request.operation]

theorem not_isRequest_describeUpdate {c : Call} {id : Value}
    (h : c.request = .describeUpdate name id) : ¬ c.IsRequest := by
  simp [Call.IsRequest, h, Request.operation]

/-- A run that requests an update for a reason, asks for its status and then tells whether it was
confirmed tells the truth. -/
theorem Truthful.updated {q u : Call} {polls : List Call} {applied : Bool} {error : Option Cause}
    (hq : q.request = .describeCluster name) (hu : u.IsRequest)
    (hp : ∀ c ∈ polls, ∃ id, c.request = .describeUpdate name id)
    (reason : Warranted name plan declared [q])
    (confirmed : applied = true ↔ ∃ c ∈ polls, u.ConfirmedBy p name c)
    (told : applied = true ∨ error ≠ none) :
    Truthful p name plan declared (q :: u :: polls) applied error := by
  have reads : ¬ q.IsRequest := not_isRequest_describeCluster hq
  have asks : ∀ c ∈ polls, ¬ c.IsRequest := by
    intro c hc
    obtain ⟨id, hid⟩ := hp c hc
    exact not_isRequest_describeUpdate hid
  refine ⟨?once, ?warranted, ?applied, ?quiet⟩
  case once =>
    have none : polls.filter (·.IsRequest) = [] :=
      List.filter_eq_nil_iff.2 fun c hc => by simpa using asks c hc
    simp [reads, hu, none]
  case warranted =>
    intro before v after hm hr
    obtain ⟨rfl, -⟩ := Call.eq_of_only_second reads asks hm hr
    exact reason
  case applied =>
    rw [confirmed]
    constructor
    · intro hk
      obtain ⟨c, hc, h⟩ := hk
      exact ⟨u, by simp, hu, c, by simp [hc], h⟩
    · intro hk
      obtain ⟨v, hv, hr, c, hc, h⟩ := hk
      obtain ⟨before, after, split⟩ := List.append_of_mem hv
      obtain ⟨-, rfl⟩ := Call.eq_of_only_second reads asks split hr
      obtain ⟨id, asks⟩ : ∃ id, c.request = .describeUpdate name id := by
        obtain ⟨_, _, h, _, _, asks, _⟩ := h
        exact ⟨h.id, asks⟩
      rcases List.mem_cons.1 hc with rfl | hc
      · cases hq.symm.trans asks
      · rcases List.mem_cons.1 hc with rfl | hc
        · exact absurd hu (not_isRequest_describeUpdate asks)
        · exact ⟨c, hc, h⟩
  case quiet =>
    intro he ha
    rcases told with told | told
    · cases ha.symm.trans told
    · exact absurd he told

/-! ## The update as a task -/

/-- What a request for an update and the wait for it do, if they end: the update is requested, it is
asked for its status, and success is that it is confirmed. -/
theorem requestUpdate_calls {enable disable : List String} {s : Session (Account σ)}
    (ends : (requestUpdate p name enable disable s).1 ≠ .hung) :
    ∃ polls : List Call, (∀ c ∈ polls, ∃ id, c.request = .describeUpdate name id) ∧
      (requestUpdate p name enable disable s).2.world.calls
        = s.world.calls ++ p.made (.updateLogging name enable disable) s :: polls ∧
      ((requestUpdate p name enable disable s).1 = .done () ↔
        ∃ c ∈ polls, (p.made (.updateLogging name enable disable) s).ConfirmedBy p name c) := by
  obtain ⟨polls, asks, calls, done⟩ := Provider.request_calls (p := p) name
    (p.updateLogging_calls name enable disable s) Provider.updateLogging_done
  exact ⟨polls, asks, calls, done fun hung => absurd hung ends⟩

/-- An operation that is run as the only task of a tree changes the world as it does alone, also if
it never ends. -/
theorem world_perform_alone {W : Type} (op : Op W Unit) (task : String) (s : Session W) :
    (perform (fun start => courseOf op { s with now := start }) (alone task) s).2.2.world
      = (op s).2.world := by
  rcases h : op s with ⟨o, t⟩
  -- The session at the end of the operation is its one change, and it comes with the end.
  cases o <;> simp [perform, alone, Tasks.run, Tasks.runInTurn, Tasks.runLeaf, courseOf, h,
    changesOf, finishOf, Tasks.inOrder, Tasks.insertBefore]

/-- An operation that is run as the only task of a tree ends as it does alone. -/
theorem perform_alone {W : Type} (op : Op W Unit) (task : String) (s : Session W)
    (ends : (perform (fun start => courseOf op { s with now := start }) (alone task) s).1 ≠ .hung) :
    (op s).1 ≠ .hung ∧
    ((perform (fun start => courseOf op { s with now := start }) (alone task) s).1 = .done () ↔
      (op s).1 = .done ()) := by
  rcases h : op s with ⟨o, t⟩
  cases o with
  | hung =>
    simp [perform, alone, Tasks.run, Tasks.runInTurn, Tasks.runLeaf, courseOf, h] at ends
  | _ =>
    simp [perform, alone, Tasks.run, Tasks.runInTurn, Tasks.runLeaf, courseOf, h, finishOf]

/-! ## Runs -/

/-- Whether an outcome tells of an applied update. -/
def tellsApplied : Outcome ChangeSet → Bool
  | .done c => c.applied
  | _ => false

/-- An update that ends, and is not cancelled, is either applied or has failed. -/
theorem tellsApplied_or_failed {o : Outcome Unit} {c : ChangeSet} (hc : c.applied = true)
    (ends : o ≠ .hung) (kept : o ≠ .cancelled) :
    tellsApplied (o.map fun _ => c) = true ∨ (o.map fun _ => c).failure? ≠ none := by
  cases o <;> simp_all [tellsApplied, Outcome.map, Outcome.failure?]

theorem tellsApplied_iff {o : Outcome Unit} {c : ChangeSet} (hc : c.applied = true) :
    tellsApplied (o.map fun _ => c) = true ↔ o = .done () := by
  cases o <;> simp [tellsApplied, Outcome.map, hc]

/-- What a run that ends, and is not cancelled, tells is borne out by the calls that it has made. -/
def BorneOut (p : Provider σ) (name : String) (plan : Bool) (declared : List String)
    (before : List Call) (ran : Report × Session (Account σ)) : Prop :=
  ran.1.outcome ≠ .hung → ran.1.outcome ≠ .cancelled →
    ∃ made, ran.2.world.calls = before ++ made ∧
      Truthful p name plan declared made (tellsApplied ran.1.outcome) ran.1.outcome.failure?

/-- Moving what a call has shown to a declaration that makes sense tells the truth. -/
theorem borneOut_move {desired : List String} {observed : Facility.Observed} {q : Call}
    {before : List Call} {s : Session (Account σ)}
    (expanded : Facility.expand declared Facility.supported = .ok desired)
    (hq : q.request = .describeCluster name) (seen : q.ShowsActive observed)
    (hs : s.world.calls = before ++ [q]) :
    BorneOut p name plan declared before
      (move (partiesOf p name) Facility.supported desired plan observed s) := by
  rw [move]
  split
  case isTrue =>
    exact fun _ _ => ⟨[q], hs, .idle (by simpa using not_isRequest_describeCluster hq)⟩
  case isFalse changed =>
    simp only [Bool.or_eq_true, Bool.not_eq_true', not_or, Bool.not_eq_false,
      Bool.not_eq_true] at changed
    obtain ⟨changed, planned⟩ := changed
    intro ends kept
    -- Building the tree writes a record; the update begins where the cluster was described.
    let t := (buildTree s).2
    let d := Facility.diff observed desired Facility.supported
    let op := requestUpdate p name d.toEnable d.toDisable
    obtain ⟨ends', done⟩ := perform_alone op Provider.loggingTask t fun hung =>
      ends (congrArg (Outcome.map _) hung)
    have world := world_perform_alone op Provider.loggingTask t
    obtain ⟨polls, asks, calls, confirmed⟩ := requestUpdate_calls ends'
    refine ⟨q :: p.made (.updateLogging name d.toEnable d.toDisable) t :: polls, ?_,
      .updated hq rfl asks ?_ ?_ ?_⟩
    case refine_1 =>
      refine (congrArg Account.calls world).trans (calls.trans ?_)
      show s.world.calls ++ _ = _
      rw [hs, List.append_assoc]
      rfl
    case refine_2 =>
      exact ⟨planned, desired, expanded, q, by simp, hq, observed, seen,
        Facility.changed_diff_iff.1 changed⟩
    case refine_3 =>
      rw [← confirmed, ← done]
      exact tellsApplied_iff rfl
    case refine_4 =>
      exact tellsApplied_or_failed rfl (fun hung => ends (congrArg (Outcome.map _) hung))
        fun cancelled => kept (congrArg (Outcome.map _) cancelled)

variable (p name plan declared) in
/-- Reconciling a declaration through a provider tells the truth. -/
theorem borneOut_run (s : Session (Account σ)) :
    BorneOut p name plan declared s.world.calls
      (run (partiesOf p name) Facility.supported plan declared s) := by
  have calls := p.currentLogging_calls name s
  have asks : (p.made (.describeCluster name) s).request = .describeCluster name := rfl
  have fetch : (partiesOf p name).fetch = p.currentLogging name := rfl
  rw [run, fetch]
  split
  case h_1 => exact fun _ _ => ⟨[], by simp, .idle (by simp)⟩
  case h_2 desired expanded =>
    split
    case h_1 observed t fetched =>
      rw [fetched] at calls
      exact borneOut_move expanded asks (Provider.currentLogging_done (by rw [fetched])) calls
    case h_2 c t fetched =>
      rw [fetched] at calls
      exact fun _ _ => ⟨_, calls, .idle (by simpa using not_isRequest_describeCluster asks)⟩
    case h_3 => exact fun _ kept => absurd rfl kept
    case h_4 => exact fun ends _ => absurd rfl ends

/-- Ending a run writes records and does nothing else. -/
theorem world_conclude {W : Type} (plan : Bool) (i : Identity) (start : Rat)
    (ending : Except Cause ChangeSet) (s : Session W) :
    (conclude plan i start ending s).2.world = s.world := by
  cases ending with
  | ok c =>
    simp only [conclude, noteChange]
    split
    · split <;> rfl
    · rfl
  | error c => cases c <;> rfl

theorem world_cluster {W : Type} (p : Parties W) (plan : Bool) (d : ClusterDocument)
    (s : Session W) :
    (cluster p plan d s).2.2.world = (run p Facility.supported plan d.declared s).2.world := by
  rw [cluster]
  dsimp only
  split
  case h_1 | h_2 =>
    dsimp only
    rw [world_conclude]
  case h_3 | h_4 => rfl

/-- **Truthful reconciliation.** Whatever the cloud answers, and however long it takes, a run that
returns a result has made calls that bear it out. -/
theorem document_truthful (p : Provider σ) (plan : Bool) (d : ClusterDocument)
    (s : Session (Account σ)) {r : Reconciliation} (h : (document p plan d s).1 = .done r) :
    ∃ made, (document p plan d s).2.2.world.calls = s.world.calls ++ made ∧
      Truthful p d.identity.name plan d.declared made r.applied r.error := by
  have told := borneOut_run p d.identity.name plan d.declared s
  rw [BorneOut] at told
  rw [document, cluster] at h ⊢
  generalize run (partiesOf p d.identity.name) Facility.supported plan d.declared s = ran at *
  obtain ⟨⟨outcome, declared, spans⟩, t⟩ := ran
  cases outcome with
  | done c =>
    obtain ⟨made, calls, truthful⟩ := told (by simp) (by simp)
    obtain rfl := Outcome.done.inj h
    have world := world_conclude plan d.identity s.now (.ok c) t
    exact ⟨made, (congrArg Account.calls world).trans calls, truthful⟩
  | failed c =>
    obtain ⟨made, calls, truthful⟩ := told (by simp) (by simp)
    obtain rfl := Outcome.done.inj h
    have world := world_conclude plan d.identity s.now (.error c) t
    exact ⟨made, (congrArg Account.calls world).trans calls, truthful⟩
  | cancelled => cases h
  | hung => cases h

/-- A cluster with other facilities than those declared is updated, and this is confirmed. -/
theorem document_truthful_applied :
    let demo : Simulated.Cluster :=
      ⟨"demo", "eu-west-1", .text "ACTIVE", .text "1.29", ["api"], .null⟩
    let p : Provider Simulated.State := ⟨Simulated.cloud, .exact, .forRegion "eu-west-1"⟩
    let d : ClusterDocument := ⟨"v1", "Cluster", ⟨"demo", "eu-west-1", none, []⟩, some ["audit"]⟩
    let s : Session (Account Simulated.State) :=
      ⟨0, .new ⟨[demo], [], 2, .text "Successful", [], [], []⟩, []⟩
    ∃ r, (document p false d s).1 = .done r ∧ r.applied = true ∧
      ∃ made, (document p false d s).2.2.world.calls = [] ++ made ∧
        Truthful p "demo" false ["audit"] made r.applied r.error := by
  intro demo p d s
  have applied : (document p false d s).1.value?.any (·.applied) = true := by decide +kernel
  obtain ⟨r, hr, applied⟩ := (Option.any_eq_true _ _).1 applied
  have returns : (document p false d s).1 = .done r := by
    cases h : (document p false d s).1 <;> simp_all [Outcome.value?]
  exact ⟨r, returns, applied, document_truthful p false d s returns⟩

end Reconcile

end ClusterOps

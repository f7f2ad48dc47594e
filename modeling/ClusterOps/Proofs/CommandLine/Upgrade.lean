import ClusterOps.Proofs.CommandLine.Whereabouts
import ClusterOps.Proofs.Reconcile.Truthful

/-
An upgrade tells the truth about what it did. It requests another version at most
once, and only where the cluster was seen active with another version than the one
in the words and the change is not only planned; and it prints that the cluster was
upgraded exactly if an answer in time confirmed the update that it requested. There
are three other ways to end with code 0 or with a message, and none of them prints
anything (`Truthful.idle`).
-/

namespace ClusterOps

variable {σ : Type}

/-- The call requests another version. -/
def Call.IsUpgrade (c : Call) : Prop := c.request.operation = "UpdateClusterVersion"

instance (c : Call) : Decidable c.IsUpgrade := inferInstanceAs (Decidable (_ = _))

/-- The answer to a call tells of an active cluster, and of its version. -/
def Call.ShowsVersion (c : Call) (version : Value) : Prop :=
  ∃ body snapshot, c.reply.outcome = .done body ∧
    (Payload.required body "cluster" >>= Snapshot.ofPayload) = .ok snapshot ∧
    snapshot.status = .text "ACTIVE" ∧ snapshot.version = version

/-- No answer comes before its call. -/
def Cloud.Timely (cloud : Cloud σ) : Prop :=
  ∀ state now region r d, (cloud.call state now region r).1.delay = some d → 0 ≤ d

/-! ## Upgrades by a provider -/

/-- A record after an operation changes neither how it ends nor the world. -/
theorem Op.bind_record {W : Type} (x : Op W Unit) (level : Level) (source : Source)
    (message : String) (fields : List (String × Value)) (s : Session W) :
    ((x >>= fun _ => record level source message fields) s).1 = (x s).1 ∧
      ((x >>= fun _ => record level source message fields) s).2.world = (x s).2.world := by
  show (andThen x _ s).1 = _ ∧ (andThen x _ s).2.world = _
  rcases h : x s with ⟨o, t⟩
  cases o <;> simp [andThen, h, record]

namespace Provider

/-- On the exact clock every wait for an update ends. -/
theorem waitForUpdate_ne_hung {p : Provider σ} (exact : p.clock = .exact)
    (timely : p.cloud.Timely) (checked : p.settings.Checked) (name : String) (h : Handle)
    (s : Session (Account σ)) : (p.waitForUpdate name h s).1 ≠ .hung := by
  have positive : 0 < (p.waitFor name h).interval := by
    show (0 : Rat) < (p.settings.pollInterval : Rat)
    have := checked.times.1
    exact_mod_cast (by omega : (0 : Int) < p.settings.pollInterval)
  have delays : ∀ account t d, (p.poll name h.id account t).1.delay = some d → 0 ≤ d := by
    intro account t d delay
    simp only [poll] at delay
    split at delay
    · cases delay
    · exact timely _ _ _ _ _ delay
  have ended := Wait.isOver_run positive delays s.world s.now
  obtain ⟨r, result⟩ := Wait.State.exists_result ended
  simp only [waitForUpdate, exact, result]
  cases r <;> simp [waited]

theorem upgrade_calls (p : Provider σ) (name version : String) (s : Session (Account σ)) :
    ∃ polls : List Call, (∀ c ∈ polls, ∃ id, c.request = .describeUpdate name id) ∧
      (p.upgrade name version s).2.world.calls
        = s.world.calls ++ p.made (.updateVersion name version) s :: polls ∧
      (((p.upgrade name version s).1 = .hung → ∀ h t, (p.waitForUpdate name h t).1 ≠ .hung) →
        ((p.upgrade name version s).1 = .done () ↔
          ∃ c ∈ polls, (p.made (.updateVersion name version) s).ConfirmedBy p name c)) := by
  obtain ⟨ends, world⟩ := Op.bind_record (p.updateVersion name version >>= p.waitForUpdate name)
    .info .provider "Control plane version updated"
    [("cluster", .text name), ("region", .text p.region), ("version", .text version)] s
  rw [Op.bind_assoc] at ends world
  obtain ⟨polls, asks, calls, done⟩ := request_calls (p := p) name
    (p.updateVersion_calls name version s) updateVersion_done
  refine ⟨polls, asks, (congrArg Account.calls world).trans calls, ?_⟩
  rw [upgrade, ends]
  exact done

end Provider

/-! ## Upgrades on a command line -/

namespace CommandLine

/-- Work that hangs ends nothing of what would follow. -/
theorem Work.run_bind_of_hung {α β : Type} {isRefusal : Cause → Bool} {x : Op (Account σ) α}
    {f : α → Work σ β} {s : Session (Account σ)} (h : (x s).1 = .hung) :
    ((refusing isRefusal x >>= f).run s).1 = .hung := by
  rcases ran : x s with ⟨o, t⟩
  rw [ran] at h
  obtain rfl : o = .hung := h
  rw [ExceptT.run_bind, refusing]
  simp only [bind, Op.andThen, Op.caught, ran, ExceptT.run_mk]

/-- Where a command has no value, nothing is printed as output. -/
theorem Ending.output_of_undone {place : Place} {o : Outcome (Except Refusal Printout)} {e : Ending}
    (undone : ∀ b, o ≠ .done (.ok b)) (ends : Ending.ofOutcome place o = some e) :
    e.output = "" := by
  cases o with
  | done result =>
    cases result with
    | ok r => exact absurd rfl (undone r)
    | error r =>
      obtain rfl := Option.some.inj ends
      cases r <;> rfl
  | failed | cancelled =>
    obtain rfl := Option.some.inj ends
    rfl
  | hung => cases ends

namespace UpgradeOrder

/-- Of a text that begins with no control sequence something is printed. -/
theorem printed_ne_empty {text : String} {c : Char} {cs : List Char}
    (begins : text.toList = c :: cs) (plain : c ≠ '\x1b') : Text.printed text ≠ "" := by
  have length : text.length = cs.length + 1 := by rw [← String.length_toList, begins]; rfl
  have first : Text.dropSequences (cs.length + 1) (c :: cs)
      = c :: Text.dropSequences cs.length cs := by
    rw [Text.dropSequences]
    exact fun _ esc _ => absurd esc plain
  intro empty
  rw [Text.printed, length, begins, first] at empty
  simpa using congrArg String.toList empty

theorem success_ne_empty (o : UpgradeOrder) : o.success ≠ "" :=
  printed_ne_empty (by simp only [String.toList_append, List.append_assoc]; rfl)
    (by decide : 'c' ≠ '\x1b')

/-- What an upgrade gives the settings. -/
def overrides (o : UpgradeOrder) : Settings.Overrides :=
  { clusterName := some o.name, region := o.region, plan := planOf o.approve }

/-- There is reason to request the version of an order: the change is not only planned, and the
cluster was seen active, with another version. -/
def Warranted (w : Surroundings σ) (o : UpgradeOrder) (before : List Call) : Prop :=
  (∃ t, w.settings o.overrides = .ok t ∧ t.plan = false) ∧
    ∃ q ∈ before, q.request = .describeCluster o.name ∧
      ∃ version, q.ShowsVersion version ∧ version ≠ .text o.version

/-- Another version was requested, and an answer in time confirmed it. -/
def Confirmed (w : Surroundings σ) (o : UpgradeOrder) (made : List Call) : Prop :=
  ∃ t, w.settings o.overrides = .ok t ∧ ∃ u ∈ made, u.IsUpgrade ∧
    ∃ c ∈ made, u.ConfirmedBy ⟨w.cloud, w.clock, t⟩ o.name c

/-- The ending prints that the cluster was upgraded, with code 0. -/
def Announces (o : UpgradeOrder) (ending : Option Ending) : Prop :=
  ∃ e, ending = some e ∧ e.code = 0 ∧ e.output = o.success

/-- What an upgrade prints is borne out by the calls that it made, in their order. Where the clock
rounds, this is said of upgrades that end. -/
structure Truthful (w : Surroundings σ) (o : UpgradeOrder) (made : List Call)
    (ending : Option Ending) : Prop where
  once : (made.filter (·.IsUpgrade)).length ≤ 1
  warranted : ∀ before u after, made = before ++ u :: after → u.IsUpgrade →
    u.request = .updateVersion o.name o.version ∧ Warranted w o before
  silent : ∀ e, ending = some e → e.output = o.success ∨ e.output = ""
  told : (ending = none → w.clock = .exact ∧ w.cloud.Timely) →
    (o.Announces ending ↔ Confirmed w o made)

variable {w : Surroundings σ} {o : UpgradeOrder}

/-- An upgrade that requests nothing and prints nothing tells the truth. -/
theorem Truthful.idle {made : List Call} {ending : Option Ending}
    (unrequested : ∀ c ∈ made, ¬ c.IsUpgrade) (unprinted : ∀ e, ending = some e → e.output = "") :
    Truthful w o made ending where
  once := by
    have none : made.filter (·.IsUpgrade) = [] :=
      List.filter_eq_nil_iff.2 fun c hc => by simpa using unrequested c hc
    simp [none]
  warranted before u after split asks := absurd asks (unrequested u (by simp [split]))
  silent e ends := .inr (unprinted e ends)
  told _ := by
    constructor
    · intro announced
      obtain ⟨e, ends, -, output⟩ := announced
      exact absurd (output.symm.trans (unprinted e ends)) o.success_ne_empty
    · intro confirmed
      obtain ⟨t, -, u, hu, asks, -⟩ := confirmed
      exact absurd asks (unrequested u hu)

theorem not_isUpgrade_describeCluster {c : Call} {name : String}
    (h : c.request = .describeCluster name) : ¬ c.IsUpgrade := by
  simp [Call.IsUpgrade, h, Request.operation]

theorem not_isUpgrade_describeUpdate {c : Call} {name : String} {id : Value}
    (h : c.request = .describeUpdate name id) : ¬ c.IsUpgrade := by
  simp [Call.IsUpgrade, h, Request.operation]

/-- Calls of which only the second requests a version are confirmed exactly if a later one confirms
that request. -/
theorem confirmed_iff {t : Settings} {q u : Call} {polls : List Call}
    (read : w.settings o.overrides = .ok t) (reads : q.request = .describeCluster o.name)
    (requests : u.request = .updateVersion o.name o.version)
    (asks : ∀ c ∈ polls, ¬ c.IsUpgrade) :
    Confirmed w o (q :: u :: polls) ↔
      ∃ c ∈ polls, u.ConfirmedBy ⟨w.cloud, w.clock, t⟩ o.name c := by
  have upgrades : u.IsUpgrade := by simp [Call.IsUpgrade, requests, Request.operation]
  constructor
  · intro confirmed
    obtain ⟨t', read', v, hv, hr, c, hc, h⟩ := confirmed
    obtain rfl := Except.ok.inj (read'.symm.trans read)
    obtain ⟨before, after, split⟩ := List.append_of_mem hv
    obtain ⟨-, rfl⟩ :=
      Call.eq_of_only_second (not_isUpgrade_describeCluster reads) asks split hr
    have describes : ∃ id, c.request = .describeUpdate o.name id := by
      obtain ⟨_, _, handle, _, _, describes, _⟩ := h
      exact ⟨handle.id, describes⟩
    obtain ⟨id, describes⟩ := describes
    rcases List.mem_cons.1 hc with rfl | hc
    · cases reads.symm.trans describes
    · rcases List.mem_cons.1 hc with rfl | hc
      · cases requests.symm.trans describes
      · exact ⟨c, hc, h⟩
  · intro hk
    obtain ⟨c, hc, h⟩ := hk
    exact ⟨t, read, u, by simp, upgrades, c, by simp [hc], h⟩

/-- An upgrade that requests the version for a reason, asks for the status of the update, and prints
its success exactly if this was confirmed tells the truth. -/
theorem Truthful.requested {t : Settings} {q u : Call} {polls : List Call} {ending : Option Ending}
    (read : w.settings o.overrides = .ok t) (reads : q.request = .describeCluster o.name)
    (requests : u.request = .updateVersion o.name o.version)
    (describes : ∀ c ∈ polls, ∃ id, c.request = .describeUpdate o.name id)
    (reason : Warranted w o [q])
    (silent : ∀ e, ending = some e → e.output = o.success ∨ e.output = "")
    (told : (ending = none → w.clock = .exact ∧ w.cloud.Timely) →
      (o.Announces ending ↔ ∃ c ∈ polls, u.ConfirmedBy ⟨w.cloud, w.clock, t⟩ o.name c)) :
    Truthful w o (q :: u :: polls) ending := by
  have describing : ¬ q.IsUpgrade := not_isUpgrade_describeCluster reads
  have upgrades : u.IsUpgrade := by simp [Call.IsUpgrade, requests, Request.operation]
  have asks : ∀ c ∈ polls, ¬ c.IsUpgrade := by
    intro c hc
    obtain ⟨id, hid⟩ := describes c hc
    exact not_isUpgrade_describeUpdate hid
  refine ⟨?once, ?warranted, silent, ?told⟩
  case once =>
    have none : polls.filter (·.IsUpgrade) = [] :=
      List.filter_eq_nil_iff.2 fun c hc => by simpa using asks c hc
    simp [describing, upgrades, none]
  case warranted =>
    intro before v after split hv
    obtain ⟨rfl, rfl⟩ := Call.eq_of_only_second describing asks split hv
    exact ⟨requests, reason⟩
  case told =>
    intro ends
    rw [told ends, confirmed_iff read reads requests asks]

/-- The calls and the ending of some work tell the truth of an upgrade. -/
def BorneOut (w : Surroundings σ) (o : UpgradeOrder) (place : Place) (before : List Call)
    (ran : Outcome (Except Refusal Printout) × Session (Account σ)) : Prop :=
  ∃ made, ran.2.world.calls = before ++ made ∧
    Truthful w o made (Ending.ofOutcome place ran.1)

variable {place : Place} {before : List Call} {s : Session (Account σ)} {t : Settings}

/-- Work without a value that requests nothing tells the truth. -/
theorem borneOut_undone {ran : Outcome (Except Refusal Printout) × Session (Account σ)}
    {made : List Call} (calls : ran.2.world.calls = before ++ made)
    (unrequested : ∀ c ∈ made, ¬ c.IsUpgrade) (undone : ∀ b, ran.1 ≠ .done (.ok b)) :
    BorneOut w o place before ran :=
  ⟨made, calls, .idle unrequested fun _ ends => Ending.output_of_undone undone ends⟩

/-- Once the cluster is described, the version is requested and waited for. -/
theorem borneOut_request {q : Call} (read : w.settings o.overrides = .ok t)
    (reads : q.request = .describeCluster o.name) (reason : Warranted w o [q])
    (calls : s.world.calls = before ++ [q]) :
    BorneOut w o place before
      ((Work.onCloud (Provider.upgrade ⟨w.cloud, w.clock, t⟩ o.name o.version) >>= fun _ =>
        (pure ⟨0, o.success, []⟩ : Work σ Printout)).run s) := by
  let p : Provider σ := ⟨w.cloud, w.clock, t⟩
  obtain ⟨polls, describes, asked, done⟩ := p.upgrade_calls o.name o.version s
  have checked : p.settings.Checked := Surroundings.checked_of_settings read
  have asked : (p.upgrade o.name o.version s).2.world.calls
      = before ++ q :: p.made (.updateVersion o.name o.version) s :: polls := by
    rw [asked, calls, List.append_assoc]
    rfl
  rcases Work.bind_cases (Work.onCloud (p.upgrade o.name o.version))
    (fun _ => (pure ⟨0, o.success, []⟩ : Work σ Printout)) s with ⟨a, v, ran, next⟩ | ⟨same, undone⟩
  case inl =>
    have upgraded : p.upgrade o.name o.version s = (.done (), v) := Work.done_of_refusing ran
    rw [next]
    rw [upgraded] at asked done
    refine ⟨q :: p.made (.updateVersion o.name o.version) s :: polls, asked,
      .requested read reads rfl describes reason ?_ fun _ => ?_⟩
    · intro e ends
      obtain rfl := Option.some.inj ends
      exact .inl rfl
    · rw [← done (fun hung => by cases hung)]
      exact ⟨fun _ => rfl, fun _ => ⟨_, rfl, rfl, rfl⟩⟩
  case inr =>
    have failed : (p.upgrade o.name o.version s).1 ≠ .done () := by
      intro upgraded
      have ran := Work.run_onCloud_of_done (Prod.ext upgraded rfl)
      exact undone _ (congrArg Prod.fst (Work.run_bind_of_ok ran _))
    have silent : ∀ e, Ending.ofOutcome place _ = some e → e.output = "" :=
      fun e ends => Ending.output_of_undone undone ends
    refine ⟨q :: p.made (.updateVersion o.name o.version) s :: polls, ?_,
      .requested read reads rfl describes reason (fun e ends => .inr (silent e ends))
        fun ends => ?_⟩
    · rw [same, Work.onCloud, Work.run_refusing_snd]
      exact asked
    · have waits : (p.upgrade o.name o.version s).1 = .hung →
          ∀ h v, (p.waitForUpdate o.name h v).1 ≠ .hung := by
        intro hung h v
        obtain ⟨exact, timely⟩ :=
          ends (congrArg (Ending.ofOutcome place) (Work.run_bind_of_hung hung))
        exact Provider.waitForUpdate_ne_hung exact timely checked o.name h v
      rw [← done waits]
      constructor
      · intro announced
        obtain ⟨e, ended, -, output⟩ := announced
        exact absurd (output.symm.trans (silent e ended)) o.success_ne_empty
      · exact fun upgraded => absurd upgraded failed

/-- Work that asks nothing leaves it to what follows to tell the truth. -/
theorem borneOut_bind {α : Type} {x : Work σ α} {f : α → Work σ Printout} {made : List Call}
    (quiet : x.Asks fun _ => False) (calls : s.world.calls = before ++ made)
    (unrequested : ∀ c ∈ made, ¬ c.IsUpgrade)
    (next : ∀ a u, x.run s = (.done (.ok a), u) → u.world.calls = before ++ made →
      BorneOut w o place before ((f a).run u)) :
    BorneOut w o place before ((x >>= f).run s) := by
  rcases quiet.calls_bind f s with ⟨idle, undone⟩ | ⟨a, u, ran, idle, goes⟩
  · exact borneOut_undone (idle.trans calls) unrequested undone
  · rw [goes]
    exact next a u ran (idle.trans calls)

/-- Work that prints nothing tells the truth if it has requested nothing. -/
theorem borneOut_pure {made : List Call} (calls : s.world.calls = before ++ made)
    (unrequested : ∀ c ∈ made, ¬ c.IsUpgrade) :
    BorneOut w o place before ((pure ⟨0, "", []⟩ : Work σ Printout).run s) := by
  refine ⟨made, calls, .idle unrequested fun e ends => ?_⟩
  obtain rfl := Option.some.inj ends
  rfl

theorem borneOut_run (w : Surroundings σ) (o : UpgradeOrder) (place : Place)
    (s : Session (Account σ)) : BorneOut w o place s.world.calls ((o.run w).run s) := by
  have none : s.world.calls = s.world.calls ++ [] := (List.append_nil _).symm
  refine borneOut_bind (Work.asks_settings w o.overrides) none (by simp) fun t s₁ got calls => ?_
  have read := Work.ok_of_settings got
  refine borneOut_bind (Work.asks_refusing (Provider.asks_create _ _ _) _) calls (by simp)
    fun p s₂ created calls => ?_
  obtain rfl := Provider.eq_of_create (Work.done_of_refusing created)
  let p : Provider σ := ⟨w.cloud, w.clock, t⟩
  let q := p.made (.describeCluster o.name) s₂
  have asked : (p.describeActive o.name s₂).2.world.calls = s.world.calls ++ [q] := by
    rw [p.describeActive_calls, calls, List.append_nil]
  have reads : ∀ c ∈ [q], ¬ c.IsUpgrade := by
    intro c hc
    obtain rfl := List.mem_singleton.1 hc
    exact not_isUpgrade_describeCluster rfl
  rcases Work.bind_cases (Work.onCloud (p.describeActive o.name)) _ s₂ with
    ⟨snapshot, s₃, ran, next⟩ | ⟨same, undone⟩
  case inr =>
    refine borneOut_undone ?_ reads undone
    rw [same, Work.onCloud, Work.run_refusing_snd]
    exact asked
  have described := Work.done_of_refusing ran
  rw [described] at asked
  obtain ⟨body, answered, decoded, active⟩ :=
    Provider.describeActive_done (congrArg Prod.fst described)
  rw [next]
  split
  case isTrue =>
    refine borneOut_bind (Work.asks_note _ _) asked reads fun _ _ _ calls => ?_
    exact borneOut_pure calls reads
  case isFalse differs =>
    refine borneOut_bind (Work.asks_note _ _) asked reads fun _ _ _ calls => ?_
    split
    case isTrue =>
      refine borneOut_bind (Work.asks_note _ _) calls reads fun _ _ _ calls => ?_
      exact borneOut_pure calls reads
    case isFalse unplanned =>
      have reason : Warranted w o [q] :=
        ⟨⟨t, read, by simpa using unplanned⟩, q, by simp, rfl, snapshot.version,
          ⟨body, snapshot, answered, decoded, active, rfl⟩,
          fun same => differs (Value.same_text_iff.2 same)⟩
      exact borneOut_request read rfl reason calls

end UpgradeOrder

/-- **Truthful upgrades.** Whatever is written in the words of an upgrade, whatever the variables
are, and whatever the cloud answers and when, the calls that it makes bear out what it prints:
another version is requested at most once and for a reason, and that the cluster was upgraded is
printed, with code 0, exactly if the update was confirmed in time. -/
theorem run_upgrade_truthful (w : Surroundings σ) {words : List String} {level : Level}
    {place : Place} {o : UpgradeOrder}
    (read : Command.read w.files words = .ok (level, place, .upgradeCluster o))
    (s : Session (Account σ)) :
    ∃ made, (run w words s).2.2.world.calls = s.world.calls ++ made ∧
      o.Truthful w made (run w words s).2.1 := by
  obtain ⟨made, calls, truthful⟩ := o.borneOut_run w place s
  refine ⟨made, ?_, ?_⟩
  · rw [run, read]
    exact calls
  · rw [run, read]
    exact truthful

/-- An approved upgrade is requested, confirmed and announced. -/
theorem run_upgrade_truthful_approved :
    let demo : Simulated.Cluster :=
      ⟨"demo", "eu-west-1", .text "ACTIVE", .text "1.28", ["audit"], .null⟩
    let w : Surroundings Simulated.State :=
      ⟨Simulated.cloud, .exact, [("AWS_REGION", "eu-west-1")], []⟩
    let words := ["upgrade", "cluster", "--name", "demo", "--version", "1.29", "--approve"]
    let o : UpgradeOrder := ⟨"demo", none, "1.29", true⟩
    let s : Session (Account Simulated.State) :=
      ⟨0, .new ⟨[demo], [], 1, .text "Successful", [], [], []⟩, []⟩
    ((run w words s).2.1.map fun e => (e.code, e.output)) =
        some (0, "cluster \"demo\" upgraded to version 1.29\n") ∧
      ∃ made, (run w words s).2.2.world.calls = s.world.calls ++ made ∧
        o.Truthful w made (run w words s).2.1 := by
  intro demo w words o s
  have read : Command.read w.files words = .ok (.info,
      .command (below "upgrade cluster") upgradeParameters, .upgradeCluster o) := by
    decide +kernel
  have announced : ((run w words s).2.1.map fun e => (e.code, e.output)) =
      some (0, "cluster \"demo\" upgraded to version 1.29\n") := by
    decide +kernel
  exact ⟨announced, run_upgrade_truthful w read s⟩

end CommandLine

end ClusterOps

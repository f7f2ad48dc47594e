import ClusterOps.Cloud.Simulated
import ClusterOps.Proofs.CommandLine.Endings
import ClusterOps.Proofs.OneShot.Whereabouts

/-
Where the update of logging acts. The region in the words goes before the one in
the file, which goes before those in the variables, and the name is the one in the
words or the one in the file, since words that give both are refused. The
declaration gets its region from the settings. Only an empty region in the words
would be taken for one that is given, and such settings are refused. So a command
acts in one place as a single run does (`runs_act_in_place`).
-/

namespace ClusterOps.CommandLine

open Environment (firstGiven orElse)

variable {σ : Type}

namespace Work

variable {α β : Type} {s t : Session (Account σ)}

/-- Work that is not refused in the end was not refused before. -/
theorem ok_of_bind {x : Work σ α} {f : α → Work σ β} {b : β}
    (h : (x >>= f).run s = (.done (.ok b), t)) :
    ∃ a u, x.run s = (.done (.ok a), u) ∧ (f a).run u = (.done (.ok b), t) := by
  rw [ExceptT.run_bind] at h
  obtain ⟨result, u, ran, next⟩ := Op.done_of_bind h
  cases result with
  | ok a => exact ⟨a, u, ran, next⟩
  | error r => cases Outcome.done.inj (Prod.mk.inj next).1

theorem not_refused {r : Refusal} {a : α} (h : (refuse r : Work σ α).run s = (.done (.ok a), t)) :
    False := by
  cases Outcome.done.inj (Prod.mk.inj h).1

theorem done_of_refusing {isRefusal : Cause → Bool} {x : Op (Account σ) α} {a : α}
    (h : (refusing isRefusal x).run s = (.done (.ok a), t)) : x s = (.done a, t) := by
  obtain ⟨result, u, caught, same⟩ := Op.done_of_bind h
  cases result with
  | ok b =>
    obtain ⟨value, rfl⟩ := Prod.mk.inj same
    obtain rfl := Except.ok.inj (Outcome.done.inj value)
    exact Op.done_of_caught caught
  | error c => cases Outcome.done.inj (Prod.mk.inj same).1

/-- Nothing is refused because of an operation that does not fail. -/
theorem run_onCloud_pure {x : Op (Account σ) α} (unfailing : ∀ c, (x s).1 ≠ .failed c)
    (f : α → β) : (onCloud x >>= fun a => pure (f a)).run s
      = ((x s).1.map fun a => .ok (f a), (x s).2) := by
  rcases ran : x s with ⟨o, u⟩
  rw [ran] at unfailing
  cases o with
  | done a =>
    rw [run_bind_of_ok (run_onCloud_of_done ran)]
    rfl
  | failed c => exact absurd rfl (unfailing c)
  | cancelled | hung =>
    rw [ExceptT.run_bind, onCloud, refusing]
    simp only [bind, Op.andThen, Op.caught, ran, ExceptT.run_mk]
    rfl

theorem ok_of_settings {w : Surroundings σ} {o : Settings.Overrides} {u : Settings}
    (h : (settings w o).run s = (.done (.ok u), t)) : w.settings o = .ok u := by
  unfold settings at h
  cases read : w.settings o with
  | ok u' =>
    rw [read] at h
    rw [Except.ok.inj (Outcome.done.inj (Prod.mk.inj h).1)]
  | error c =>
    rw [read] at h
    exact (not_refused h).elim

end Work

namespace LoggingOrder

/-- The identity in the file of an order, if it names one that holds a declaration. -/
def identity? (w : Surroundings σ) (o : LoggingOrder) : Option Identity := o.file.bind w.identityIn

/-- The region of an order. -/
def regionFor (w : Surroundings σ) (o : LoggingOrder) : String :=
  firstGiven [o.region.getD "", (o.identity? w).elim "" Identity.region, w.env.text "AWS_REGION",
    w.env.text "AWS_DEFAULT_REGION"]

/-- The name of the cluster of an order. -/
def nameFor (w : Surroundings σ) (o : LoggingOrder) : String :=
  firstGiven [o.name.getD "", (o.identity? w).elim "" Identity.name]

/-- What is printed about a result. -/
def printout (r : Reconciliation) : Printout :=
  ⟨OneShot.codeOf r, Value.Json.indented (.object r.toRecord) ++ "\n", []⟩

/-- The region in the variables. -/
def regionAround (w : Surroundings σ) : String :=
  orElse (w.env.text "AWS_REGION") (w.env.text "AWS_DEFAULT_REGION")

variable {w : Surroundings σ} {o : LoggingOrder} {s t : Session (Account σ)} {d : ClusterDocument}
  {region : Option String}

theorem regionFor_eq (w : Surroundings σ) (o : LoggingOrder) : o.regionFor w
    = orElse (o.region.getD "") (orElse ((o.identity? w).elim "" Identity.region)
      (regionAround w)) := by
  rw [regionFor, Environment.firstGiven_cons, Environment.firstGiven_cons,
    Environment.firstGiven_pair]
  rfl

theorem of_filed {path : String} (file : o.file = some path)
    (h : (o.filed w path).run s = (.done (.ok (d, region)), t)) :
    d.identity.name = o.nameFor w ∧ region.getD (regionAround w) = o.regionFor w := by
  unfold filed at h
  split at h
  case isTrue => exact (Work.not_refused h).elim
  case isFalse unnamed =>
    split at h
    case isTrue => exact (Work.not_refused h).elim
    case isFalse =>
      obtain ⟨d', u, read, next⟩ := Work.ok_of_bind h
      obtain ⟨rfl, rfl⟩ := Prod.mk.inj (Except.ok.inj (Outcome.done.inj (Prod.mk.inj next).1))
      have identity : o.identity? w = some d'.identity := by
        rw [identity?, file]
        exact Surroundings.identityIn_of_document (Work.done_of_refusing read)
      have empty : (o.name.getD "").isEmpty = true := by simpa [isNamed] using unnamed
      rw [nameFor, Environment.firstGiven_pair, Environment.orElse_of_isEmpty empty, regionFor_eq,
        identity]
      refine ⟨rfl, ?_⟩
      rw [← Environment.orElse_assoc]
      dsimp only [Option.elim]
      generalize orElse (o.region.getD "") d'.identity.region = given
      rw [orElse]
      split <;> rfl

theorem of_worded (unfiled : o.file = none) (given : region ≠ some "")
    (h : o.worded.run s = (.done (.ok (d, region)), t)) :
    d.identity.name = o.nameFor w ∧ region.getD (regionAround w) = o.regionFor w := by
  have identity : o.identity? w = none := by rw [identity?, unfiled]; rfl
  rw [nameFor, Environment.firstGiven_pair, regionFor_eq, identity]
  unfold worded at h
  split at h
  case isFalse => exact (Work.not_refused h).elim
  case isTrue named =>
    have named : ¬ (o.name.getD "").isEmpty := by simpa [isNamed] using named
    dsimp only at h
    split at h
    case h_2 => exact (Work.not_refused h).elim
    case h_1 made =>
      obtain ⟨rfl, rfl⟩ := Prod.mk.inj (Except.ok.inj (Outcome.done.inj (Prod.mk.inj h).1))
      obtain ⟨name, -⟩ := ClusterDocument.identity_of_new named made
      refine ⟨name.trans (Environment.orElse_of_given named _).symm, ?_⟩
      cases asked : o.region with
      | none => rfl
      | some r =>
        have given : ¬ r.isEmpty := fun empty => given (by rw [asked, String.isEmpty_iff.1 empty])
        exact (Environment.orElse_of_given given _).symm

theorem of_declaration (given : region ≠ some "")
    (h : (o.declaration w).run s = (.done (.ok (d, region)), t)) :
    d.identity.name = o.nameFor w ∧ region.getD (regionAround w) = o.regionFor w := by
  unfold declaration at h
  cases file : o.file with
  | some path =>
    rw [file] at h
    exact of_filed file h
  | none =>
    rw [file] at h
    exact of_worded file given h

/-- Settings refuse a region that is empty where one is given. -/
theorem given_of_settings {v : Settings.Overrides} {t : Settings} (read : w.settings v = .ok t) :
    v.region ≠ some "" := by
  intro empty
  obtain ⟨regions, -, -⟩ := Settings.read_of_ofEnvironment (ok_of_mapError read)
  exact Settings.given_of_isRegion (Surroundings.checked_of_settings read).isRegion_region
    (by rw [regions, empty]; rfl)

theorem actsIn_run (w : Surroundings σ) (o : LoggingOrder) (s : Session (Account σ)) :
    ActsIn w (o.regionFor w) (o.nameFor w) (Outcome.map fun r => .ok (printout r)) s
      ((o.run w).run s) := by
  refine actsIn_work (o.asks_declaration w) fun ⟨d, region⟩ u declared => ?_
  refine actsIn_work (Work.asks_settings w _) fun t v read => ?_
  have read := Work.ok_of_settings read
  have checked := Surroundings.checked_of_settings read
  obtain ⟨regions, -, -⟩ := Settings.read_of_ofEnvironment (ok_of_mapError read)
  obtain ⟨name, placed⟩ := of_declaration (given_of_settings read) declared
  have place : t.region = o.regionFor w := regions.trans placed
  refine actsIn_work (Work.asks_note _ _) fun _ v' _ => ?_
  refine actsIn_work (Work.asks_refusing (Provider.asks_create _ _ _) _) fun p u' created => ?_
  obtain rfl := Provider.eq_of_create (Work.done_of_refusing created)
  rw [← place, ← name, Work.run_onCloud_pure (Reconcile.result_ne_failed _ _ _)]
  let d' : ClusterDocument := { d with identity := { d.identity with region := t.region } }
  exact .inr ⟨_, reconciles_result (d := d') checked t.plan rfl u', rfl⟩

end LoggingOrder

/-- **A run acts where it says that it acts.** A single run and the update of logging on a command
line, with any variables, files and words, and whatever the cloud answers, ask nothing of the cloud,
or all that they ask is about one cluster in one region, and these are the cluster and the region of
the result. The region is the first that is given by the words, the file and the two variables, and
it is a region; the name is the one that is given by the variable or the words, or else the one in
the file. -/
theorem runs_act_in_place (w : Surroundings σ) (s : Session (Account σ)) :
    ActsIn w (OneShot.regionFor w) (OneShot.nameFor w) (Outcome.map OneShot.codeOf) s
        (OneShot.run w s) ∧
      ∀ words level place order,
        Command.read w.files words = .ok (level, place, .updateLogging order) →
          ActsIn w (order.regionFor w) (order.nameFor w)
            (fun o => Ending.ofOutcome place (o.map fun r => .ok (LoggingOrder.printout r))) s
            (run w words s).2 := by
  refine ⟨OneShot.actsIn_run w s, fun words level place order read => ?_⟩
  have acts := order.actsIn_run w s
  unfold run
  rw [read]
  exact acts.imp_right fun ⟨o, reconciles, finished⟩ =>
    ⟨o, reconciles, congrArg (Ending.ofOutcome place) finished⟩

/-- A cluster is described in the region in the words, although the variables name another one. -/
theorem runs_act_in_place_of_words :
    let demo : Simulated.Cluster :=
      ⟨"demo", "eu-west-3", .text "ACTIVE", .text "1.28", ["audit"], .null⟩
    let w : Surroundings Simulated.State :=
      ⟨Simulated.cloud, .binary64, [("AWS_REGION", "eu-west-1"), ("CLUSTER_NAME", "other")], []⟩
    let words :=
      ["utils", "update-cluster-logging", "--name", "demo", "--region", "eu-west-3", "--api"]
    let s : Session (Account Simulated.State) :=
      ⟨0, .new ⟨[demo], [], 1, .text "Successful", [], [], []⟩, []⟩
    (run w words s).2.2.world.calls ≠ [] ∧
      ∃ o, Reconciles w "eu-west-3" "demo" s (run w words s).2.2 o := by
  intro demo w words s
  let order : LoggingOrder := ⟨some "demo", some "eu-west-3", none, false, none, [("api", true)]⟩
  have read : Command.read w.files words = .ok (.info,
      .command (below "utils update-cluster-logging") loggingParameters,
      .updateLogging order) := by
    decide +kernel
  have called : (run w words s).2.2.world.calls ≠ [] := by decide +kernel
  have region : order.regionFor w = "eu-west-3" := by decide +kernel
  have name : order.nameFor w = "demo" := by decide +kernel
  obtain idle | ⟨o, reconciles, -⟩ := (runs_act_in_place w s).2 words _ _ order read
  · exact absurd idle called
  · rw [region, name] at reconciles
    exact ⟨called, o, reconciles⟩

end ClusterOps.CommandLine

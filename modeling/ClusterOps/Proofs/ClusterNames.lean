import ClusterOps.Proofs.ClusterDocument.Loading
import ClusterOps.Proofs.CommandLine.Whereabouts

/-
Which names of clusters reach the cloud. Settings have a rule for the name
(`Settings.AcceptsName`), a document in a file has a weaker one that bounds its
length only. The update of logging hands the name in the file to its settings, so
whatever it asks is about a name that they accept. A single run puts the name in the
file only into its declaration: where the variables give none, that name is asked
about as it stands (`runs_name_accepted`).
-/

namespace ClusterOps

variable {σ : Type}

/-- The call is about a cluster whose name has a property. -/
def Call.Names (P : String → Prop) (c : Call) : Prop :=
  ∃ name, c.request.cluster? = some name ∧ P name

theorem Call.Concerns.names {region name : String} {c : Call} {P : String → Prop}
    (h : c.Concerns region name) (accepted : P name) : c.Names P := ⟨name, h.2, accepted⟩

theorem Account.Adds.mono {P Q : Call → Prop} {a b : Account σ} (h : Adds P a b)
    (le : ∀ c, P c → Q c) : Adds Q a b := by
  obtain ⟨made, calls, all⟩ := h
  exact ⟨made, calls, fun c hc => le c (all c hc)⟩

/-- What is asked is about the name for which a run acts. -/
theorem ActsIn.adds_names {ε : Type} {w : Surroundings σ} {region name : String}
    {finish : Outcome Reconciliation → ε} {s : Session (Account σ)}
    {ran : ε × Session (Account σ)} {P : String → Prop} (h : ActsIn w region name finish s ran)
    (accepted : P name) : s.world.Adds (Call.Names P) ran.2.world := by
  rcases h with idle | ⟨o, reconciles, -⟩
  · exact .of_calls_eq idle
  · exact reconciles.asked.mono fun c about => about.names accepted

/-! ## Single runs -/

namespace OneShot

variable {w : Surroundings σ} {t u : Settings} {d : ClusterDocument} {s s' : Session (Account σ)}

/-- The name is the one in the file alone, and as long as a document allows. -/
def FiledOnly (w : Surroundings σ) (name : String) : Prop :=
  (w.env.text "CLUSTER_NAME").isEmpty ∧ name.length ≤ ClusterDocument.maxNameLength ∧
    ∃ i, identity? w = some i ∧ i.name = name

theorem idle_or_prepared (w : Surroundings σ) (s : Session (Account σ)) :
    (run w s).2.world.calls = s.world.calls ∨
      ∃ t d u s', w.settings {} = .ok t ∧ prepare w t s = (.done (d, u), s') := by
  unfold run
  cases read : w.settings {} with
  | error c => exact .inl rfl
  | ok t =>
    rcases ((asks_prepare w t).caught isReported).calls_bind _ s with
      ⟨idle, -⟩ | ⟨prepared, s', ran, idle, next⟩
    · exact .inl idle
    · cases prepared with
      | error c =>
        left
        dsimp only
        rw [next]
        exact idle
      | ok both => exact .inr ⟨t, both.1, both.2, s', rfl, Op.done_of_caught ran⟩

/-- Where the settings have no name, a declaration is one in a file. -/
theorem filed_of_document (unnamed : t.clusterName.isEmpty = true)
    (h : document w t s = (.done d, s')) : ∃ i, identity? w = some i ∧
      i.name.length ≤ ClusterDocument.maxNameLength := by
  rw [document] at h
  split at h
  case isTrue unfiled =>
    have made := Op.ok_of_ofExcept h
    rw [declared, if_pos unnamed] at made
    cases made
  case isFalse given =>
    obtain ⟨d', v, loaded, -⟩ := Op.done_of_bind h
    rw [identity?, if_neg given]
    exact ⟨d'.identity, Surroundings.identityIn_of_document loaded,
      (ClusterDocument.sound_of_load (Surroundings.load_of_document loaded)).short⟩

theorem accepts_or_filed (read : w.settings {} = .ok t)
    (h : prepare w t s = (.done (d, u), s')) :
    Settings.AcceptsName (nameFor w) ∨ FiledOnly w (nameFor w) := by
  have variable_ : t.clusterName = w.env.text "CLUSTER_NAME" :=
    (Settings.read_of_ofEnvironment (ok_of_mapError read)).2.1
  rw [nameFor_eq read]
  by_cases unnamed : t.clusterName.isEmpty = true
  · obtain ⟨d', v, declared, -⟩ := Op.done_of_bind h
    obtain ⟨i, filed, short⟩ := filed_of_document unnamed declared
    rw [Environment.orElse_of_isEmpty unnamed, filed]
    exact .inr ⟨variable_ ▸ unnamed, short, i, filed, rfl⟩
  · rw [Environment.orElse_of_given unnamed]
    exact .inl ((Surroundings.checked_of_settings read).acceptsName unnamed)

end OneShot

/-! ## The update of logging -/

namespace CommandLine

namespace LoggingOrder

/-- Settings accept every name that a declaration can have. -/
theorem accepts_of_settings {w : Surroundings σ} {name : String} {region : Option String}
    {plan : Option Bool} {t : Settings} (named : ¬ name.isEmpty)
    (read : w.settings { clusterName := some name, region := region, plan := plan } = .ok t) :
    Settings.AcceptsName name := by
  have handed : t.clusterName = name := (Settings.read_of_ofEnvironment (ok_of_mapError read)).2.1
  rw [← handed] at named ⊢
  exact (Surroundings.checked_of_settings read).acceptsName named

theorem named_of_declaration {w : Surroundings σ} {o : LoggingOrder} {d : ClusterDocument}
    {region : Option String} {s t : Session (Account σ)}
    (h : (o.declaration w).run s = (.done (.ok (d, region)), t)) : ¬ d.identity.name.isEmpty := by
  unfold declaration at h
  split at h
  case h_1 path _ =>
    unfold filed at h
    split at h
    case isTrue => exact (Work.not_refused h).elim
    case isFalse =>
      split at h
      case isTrue => exact (Work.not_refused h).elim
      case isFalse =>
        obtain ⟨d', u, read, next⟩ := Work.ok_of_bind h
        obtain ⟨rfl, -⟩ := Prod.mk.inj (Except.ok.inj (Outcome.done.inj (Prod.mk.inj next).1))
        have loaded := Surroundings.load_of_document (Work.done_of_refusing read)
        have named := (ClusterDocument.sound_of_load loaded).named
        intro empty
        rw [String.isEmpty_iff.1 empty] at named
        exact absurd named (by decide)
  case h_2 =>
    unfold worded at h
    split at h
    case isFalse => exact (Work.not_refused h).elim
    case isTrue named =>
      dsimp only at h
      split at h
      case h_2 => exact (Work.not_refused h).elim
      case h_1 made =>
        obtain ⟨rfl, -⟩ := Prod.mk.inj (Except.ok.inj (Outcome.done.inj (Prod.mk.inj h).1))
        have named : ¬ (o.name.getD "").isEmpty := by simpa [isNamed] using named
        rw [(ClusterDocument.identity_of_new named made).1]
        exact named

theorem idle_or_accepts (w : Surroundings σ) (o : LoggingOrder) (s : Session (Account σ)) :
    ((o.run w).run s).2.world.calls = s.world.calls ∨ Settings.AcceptsName (o.nameFor w) := by
  unfold run
  rcases (o.asks_declaration w).calls_bind _ s with
    ⟨idle, -⟩ | ⟨⟨d, region⟩, u, declared, idle, next⟩
  · exact .inl idle
  rw [next]
  rcases (Work.asks_settings w _).calls_bind _ u with ⟨idle', -⟩ | ⟨t, v, got, -, -⟩
  · exact .inl (idle'.trans idle)
  right
  have read := Work.ok_of_settings got
  rw [← (of_declaration (given_of_settings read) declared).1]
  exact accepts_of_settings (named_of_declaration declared) read

end LoggingOrder

end CommandLine

/-! ## Every run -/

/-- **Names are checked before they are asked about, but for one.** With any variables, files and
words, and whatever the cloud answers, the update of logging asks only about names that the settings
accept. A single run does so too, unless its variables give no name: then the name in the file is
asked about as it stands, and only its length is bounded. -/
theorem runs_name_accepted (w : Surroundings σ) (s : Session (Account σ)) :
    s.world.Adds (Call.Names fun n => Settings.AcceptsName n ∨ OneShot.FiledOnly w n)
        (OneShot.run w s).2.world ∧
      ∀ words level place order,
        CommandLine.Command.read w.files words = .ok (level, place, .updateLogging order) →
          s.world.Adds (Call.Names Settings.AcceptsName)
            (CommandLine.run w words s).2.2.world := by
  constructor
  case left =>
    rcases OneShot.idle_or_prepared w s with idle | ⟨t, d, u, s', read, prepared⟩
    · exact .of_calls_eq idle
    · exact (OneShot.actsIn_run w s).adds_names (OneShot.accepts_or_filed read prepared)
  case right =>
    intro words level place order read
    unfold CommandLine.run
    rw [read]
    rcases order.idle_or_accepts w s with idle | accepted
    · exact .of_calls_eq idle
    · exact (order.actsIn_run w s).adds_names accepted

/-- The name in a file is asked about by an update of logging, and the settings accept it. -/
theorem runs_name_accepted_of_file :
    let demo : Simulated.Cluster :=
      ⟨"demo", "eu-west-1", .text "ACTIVE", .text "1.28", ["audit"], .null⟩
    let file := "metadata: {name: demo}\n".toList.map Char.toNat
    let w : Surroundings Simulated.State :=
      ⟨Simulated.cloud, .binary64, [("AWS_REGION", "eu-west-1")], [("c.yaml", .file file)]⟩
    let words := ["utils", "update-cluster-logging", "--config-file", "c.yaml"]
    let s : Session (Account Simulated.State) :=
      ⟨0, .new ⟨[demo], [], 1, .text "Successful", [], [], []⟩, []⟩
    (CommandLine.run w words s).2.2.world.calls ≠ [] ∧
      s.world.Adds (Call.Names Settings.AcceptsName) (CommandLine.run w words s).2.2.world := by
  intro demo file w words s
  let order : CommandLine.LoggingOrder := ⟨none, none, some "c.yaml", false, none, []⟩
  have read : CommandLine.Command.read w.files words = .ok (.info,
      .command (CommandLine.below "utils update-cluster-logging") CommandLine.loggingParameters,
      .updateLogging order) := by
    decide +kernel
  have called : (CommandLine.run w words s).2.2.world.calls ≠ [] := by decide +kernel
  exact ⟨called, (runs_name_accepted w s).2 words _ _ order read⟩

/-- A single run asks about a name that the settings refuse, where only the file gives one. -/
theorem run_names_refused :
    let file := "metadata: {name: no!}\n".toList.map Char.toNat
    let w : Surroundings Unit :=
      ⟨Cloud.closed, .binary64,
        [("AWS_REGION", "eu-west-1"), ("CLUSTER_CONFIG_FILE", "c.yaml")],
        [("c.yaml", .file file)]⟩
    let ran := (OneShot.run w ⟨0, .new (), []⟩).2
    ran.world.calls.map (fun c => c.request.cluster?) = [some "no!"] ∧
      ¬ Settings.AcceptsName "no!" := by
  decide +kernel

end ClusterOps

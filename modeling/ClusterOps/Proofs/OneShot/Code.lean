import ClusterOps.OneShot
import ClusterOps.Proofs.ClusterDocument.Sound
import ClusterOps.Proofs.Reconcile.Returns

/-
The code with which a single run ends. Before a run begins only its settings and
its declaration can be at fault, and both faults are recorded (`prepare_cases`).
Once it has begun, reconciling returns where the cloud answers. So there is a code
in the end, 0 exactly if a reconciliation has succeeded, but for one failure that
nothing stops: the connection to the cloud is refused (`run_code`).
-/

namespace ClusterOps.OneShot

variable {σ : Type} {w : Surroundings σ} {t : Settings} {s : Session (Account σ)}

/-! ## Preparing -/

theorem declared_cases (checked : t.Checked) :
    (∃ d, declared w.env t = .ok d) ∨ ∃ c, declared w.env t = .error c ∧ isReported c = true := by
  unfold declared
  split
  case isTrue => exact .inr ⟨_, rfl, rfl⟩
  case isFalse named =>
    have short : t.clusterName.length ≤ ClusterDocument.maxNameLength := checked.name_length_le
    rcases ClusterDocument.new_cases t.region (facilities w.env) none named with
      ⟨-, made⟩ | ⟨long, -⟩
    · rw [made]
      exact .inl ⟨_, rfl⟩
    · omega

theorem inRegionOf_cases (checked : t.Checked) (d : ClusterDocument) :
    (∃ u, inRegionOf t d = .ok u ∧ u.Checked) ∨
      ∃ c, inRegionOf t d = .error c ∧ isReported c = true := by
  unfold inRegionOf
  dsimp only
  split
  case isTrue => exact .inl ⟨t, rfl, checked⟩
  case isFalse =>
    cases replaced : t.withOverrides
      { region := some (Environment.orElse d.identity.region t.region) } with
    | ok u => exact .inl ⟨u, rfl, Settings.checked_of_withOverrides replaced⟩
    | error e => exact .inr ⟨_, rfl, rfl⟩

/-- Between two sessions nothing has happened but that records were written. -/
structure Idle (s s' : Session (Account σ)) : Prop where
  now : s'.now = s.now
  world : s'.world = s.world

/-- If a file is named, it holds a declaration or is refused with a complaint of its own. -/
def Orderly (w : Surroundings σ) : Prop :=
  w.env.text fileVariable ≠ "" →
    ∀ c, ClusterDocument.load w.files (w.env.text fileVariable) = .error c →
      ∃ text, c = .document text

theorem document_cases (checked : t.Checked) (orderly : Orderly w) (s : Session (Account σ)) :
    ∃ s', Idle s s' ∧ ((∃ d, document w t s = (.done d, s')) ∨
      ∃ c, document w t s = (.failed c, s') ∧ isReported c = true) := by
  by_cases unfiled : (w.env.text fileVariable).isEmpty
  case pos =>
    have made : document w t = Op.ofExcept (declared w.env t) := if_pos unfiled
    rw [made]
    refine ⟨s, ⟨rfl, rfl⟩, ?_⟩
    rcases declared_cases (w := w) checked with ⟨d, made⟩ | ⟨c, refused, reported⟩
    · exact .inl ⟨d, by rw [made]; rfl⟩
    · exact .inr ⟨c, by rw [refused]; rfl, reported⟩
  case neg =>
    have read : document w t = (do return filed t (← w.document (w.env.text fileVariable))) :=
      if_neg unfiled
    rw [read]
    cases loaded : ClusterDocument.load w.files (w.env.text fileVariable) with
    | ok d =>
      let s' := { s with
        log := s.log ++ [ClusterDocument.loadedRecord s.now (w.env.text fileVariable) d] }
      have read : w.document (w.env.text fileVariable) s = (.done d, s') := by
        unfold Surroundings.document
        rw [loaded]
        rfl
      exact ⟨s', ⟨rfl, rfl⟩, .inl ⟨filed t d, Op.bind_of_done read _⟩⟩
    | error c =>
      obtain ⟨text, rfl⟩ := orderly (by simpa using unfiled) c loaded
      have read : w.document (w.env.text fileVariable) s = (.failed (.document text), s) := by
        unfold Surroundings.document
        rw [loaded]
        rfl
      exact ⟨s, ⟨rfl, rfl⟩, .inr ⟨_, Op.bind_of_failed read _, rfl⟩⟩

theorem prepare_cases (checked : t.Checked) (orderly : Orderly w) (s : Session (Account σ)) :
    ∃ s', Idle s s' ∧ ((∃ d u, prepare w t s = (.done (d, u), s') ∧ u.Checked) ∨
      ∃ c, prepare w t s = (.failed c, s') ∧ isReported c = true) := by
  obtain ⟨s', idle, ⟨d, declared⟩ | ⟨c, refused, reported⟩⟩ := document_cases checked orderly s
  · refine ⟨s', idle, ?_⟩
    have next : prepare w t s
        = (do return (d, ← Op.ofExcept (inRegionOf t d)) : Op (Account σ) _) s' :=
      Op.bind_of_done declared _
    rw [next]
    rcases inRegionOf_cases checked d with ⟨u, found, checked'⟩ | ⟨c, refused, reported⟩
    · rw [found]
      exact .inl ⟨d, u, rfl, checked'⟩
    · rw [refused]
      exact .inr ⟨c, rfl, reported⟩
  · exact ⟨s', idle, .inr ⟨c, Op.bind_of_failed refused _, reported⟩⟩

/-! ## The code -/

/-- A reconciliation has just ended, and without an error. -/
def Succeeded (w : Surroundings σ) (t : Session (Account σ)) : Prop :=
  ∃ settings plan d s r,
    Reconcile.result ⟨w.cloud, w.clock, settings⟩ plan d s = (.done r, t) ∧ r.error = none

/-- The level of the last record. -/
def lastLevel? (t : Session (Account σ)) : Option Level := t.log.getLast?.map Record.level

theorem lastLevel?_of_result {p : Provider σ} {plan : Bool} {d : ClusterDocument}
    {r : Reconciliation} {t : Session (Account σ)}
    (h : Reconcile.result p plan d s = (.done r, t)) :
    lastLevel? t = some (if r.error = none then .info else .error) := by
  obtain ⟨before, log⟩ := Reconcile.log_of_result h
  rw [lastLevel?, log, List.getLast?_concat]
  unfold Reconciliation.headline Reconciliation.succeeded
  cases r.error <;> rfl

theorem not_succeeded_of_error {t : Session (Account σ)} (h : lastLevel? t = some .error) :
    ¬ Succeeded w t := by
  intro succeeded
  obtain ⟨settings, plan, d, s, r, ran, none⟩ := succeeded
  have level := lastLevel?_of_result ran
  rw [if_pos none, h] at level
  cases level

/-- How a run ends that has a code: with 0 exactly if a reconciliation has succeeded. -/
def Coded (w : Surroundings σ) : Outcome Nat × Session (Account σ) → Prop
  | (o, t) => (o = .done 0 ∧ Succeeded w t) ∨ (o = .done 1 ∧ ¬ Succeeded w t)

/-- How a run ends whose connection is refused: it has made no other one, and no call. -/
def Unconnected (w : Surroundings σ) (s : Session (Account σ)) :
    Outcome Nat × Session (Account σ) → Prop
  | (o, t) => ∃ region c, (w.cloud.connect s.world.cloud region).1 = .failed c ∧ o = .failed c ∧
      t.world.connections = s.world.connections ++ [region] ∧ t.world.calls = s.world.calls

theorem coded_refuse (message : String) (c : Cause) (s : Session (Account σ)) :
    Coded w (refuse message c s) := by
  refine .inr ⟨rfl, not_succeeded_of_error ?_⟩
  show (s.log ++ [_]).getLast?.map Record.level = _
  rw [List.getLast?_concat]
  rfl

theorem perform_cases {limit within : Rat} (steady : w.clock.Steady limit)
    (answers : w.cloud.Answers within) (checked : t.Checked) (d : ClusterDocument)
    (soon : 0 ≤ s.now) (reach : s.now + 3 * within + 7204 ≤ limit) :
    Coded w (perform w d t s) ∨ Unconnected w s (perform w d t s) := by
  let s₁ : Session (Account σ) := (Op.record .info .oneShot "Starting logging reconciliation"
    [("cluster", .text d.identity.name), ("region", .text t.region), ("plan", .bool t.plan)] s).2
  have begins : perform w d t s = (do
      let p ← Provider.create w.cloud w.clock t
      let r ← Reconcile.result p t.plan d
      return if r.succeeded then 0 else 1 : Op (Account σ) Nat) s₁ := rfl
  rw [begins]
  rcases connected : (w.cloud.connect s.world.cloud t.region).1 with _ | c | _ | _
  case done =>
    rw [Op.bind_of_done (Provider.create_of_connected (s := s₁) w.clock connected)]
    obtain ⟨r, t', ran⟩ := Reconcile.result_returns
      (p := ⟨w.cloud, w.clock, t⟩) (s := { s₁ with world := (s₁.world.connect w.cloud t.region).2 })
      steady answers checked t.plan d soon reach
    rw [Op.bind_of_done ran]
    left
    cases error : r.error with
    | none =>
      have zero : (if r.succeeded then 0 else 1) = 0 := by
        rw [if_pos (r.succeeded_iff.2 error)]
      rw [zero]
      exact .inl ⟨rfl, t, t.plan, d, _, r, ran, error⟩
    | some c =>
      have one : (if r.succeeded then 0 else 1) = 1 := by
        rw [if_neg fun h => by simp [r.succeeded_iff.1 h] at error]
      rw [one]
      refine .inr ⟨rfl, not_succeeded_of_error ?_⟩
      show lastLevel? t' = _
      rw [lastLevel?_of_result ran, if_neg (by simp [error])]
  case failed =>
    rw [Op.bind_of_failed (Provider.create_of_refused (s := s₁) w.clock connected)]
    refine .inr ⟨t.region, c, connected, rfl, ?_, rfl⟩
    show (t.region :: s.world.recentConnections).reverse = _
    rw [List.reverse_cons]
    rfl
  case cancelled | hung =>
    have returns := answers.connects s.world.cloud t.region
    rw [connected] at returns
    cases returns

/-- **A single run ends with a code.** Where the cloud answers and the file with the declaration is
not broken in a way that its loading does not handle, a run ends with code 0 if a reconciliation
has succeeded and with code 1 otherwise, whatever the variables are; only a refused connection
leaves it without a code. -/
theorem run_code {limit within : Rat} (steady : w.clock.Steady limit)
    (answers : w.cloud.Answers within) (orderly : Orderly w) (soon : 0 ≤ s.now)
    (reach : s.now + 3 * within + 7204 ≤ limit) :
    Coded w (run w s) ∨ Unconnected w s (run w s) := by
  cases read : w.settings {} with
  | error c =>
    have refused : run w = refuse "Configuration error" c := by
      unfold run
      rw [read]
    rw [refused]
    exact .inl (coded_refuse _ c s)
  | ok t =>
    unfold run
    simp only [read]
    have checked := Surroundings.checked_of_settings read
    obtain ⟨s', idle, ⟨d, u, prepared, checked'⟩ | ⟨c, refused, reported⟩⟩ :=
      prepare_cases checked orderly s
    · have caught : Op.caught isReported (prepare w t) s = (.done (.ok (d, u)), s') := by
        simp only [Op.caught, prepared]
      rw [Op.bind_of_done caught]
      have ended := perform_cases (s := s') steady answers checked' d (idle.now ▸ soon)
        (idle.now ▸ reach)
      rcases ended with coded | unconnected
      · exact .inl coded
      · right
        simp only [Unconnected, idle.world] at unconnected
        exact unconnected
    · have caught : Op.caught isReported (prepare w t) s = (.done (.error c), s') := by
        simp only [Op.caught, refused, reported, if_true]
      rw [Op.bind_of_done caught]
      exact .inl (coded_refuse _ c s')

/-- A cluster that is as it is declared needs no change, and the run ends with code 0. -/
theorem run_code_zero :
    let demo : Simulated.Cluster :=
      ⟨"demo", "eu-west-1", .text "ACTIVE", .text "1.29", ["api"], .null⟩
    let cloud : Cloud Unit := ⟨fun _ _ => (.done (), ()),
      fun _ _ _ _ => (⟨some 0, .done (Value.object [("cluster", demo.describe)])⟩, ())⟩
    let w : Surroundings Unit := ⟨cloud, .binary64,
      [("AWS_REGION", "eu-west-1"), ("CLUSTER_NAME", "demo"), ("ENABLE_LOG_TYPES", "api")], []⟩
    let s : Session (Account Unit) := ⟨0, .new (), []⟩
    (w.clock.Steady (2 ^ 49) ∧ w.cloud.Answers 0 ∧ Orderly w ∧ 0 ≤ s.now ∧
        s.now + 3 * 0 + 7204 ≤ 2 ^ 49) ∧
      (run w s).1 = .done 0 ∧ (Coded w (run w s) ∨ Unconnected w s (run w s)) := by
  intro demo cloud w s
  have answers : w.cloud.Answers 0 := by
    refine ⟨fun _ _ => .done (), fun _ _ _ _ d delay => ?_, fun _ _ _ _ _ => ⟨?_, .done _⟩⟩
    · obtain rfl : 0 = d := Option.some.inj delay
      exact ⟨le_rfl, le_rfl⟩
    · exact Option.some_ne_none _
  have unnamed : w.env.text fileVariable = "" := by decide +kernel
  have orderly : Orderly w := fun named => absurd unnamed named
  have soon : 0 ≤ s.now := le_rfl
  have reach : s.now + 3 * 0 + 7204 ≤ 2 ^ 49 := by
    show (0 : Rat) + 3 * 0 + 7204 ≤ 2 ^ 49
    norm_num
  exact ⟨⟨Clock.steady_binary64, answers, orderly, soon, reach⟩, by decide +kernel,
    run_code Clock.steady_binary64 answers orderly soon reach⟩

/-- A connection that is refused leaves the run without a code. -/
theorem run_unconnected :
    let refusal : Cause := .fault (.answered "CreateClient" (Value.object [("Error",
      Value.object [("Code", .text "AccessDenied"), ("Message", .text "no")])]))
    let w : Surroundings Simulated.State := ⟨Simulated.cloud, .binary64,
      [("AWS_REGION", "eu-west-1"), ("CLUSTER_NAME", "demo")], []⟩
    let s : Session (Account Simulated.State) :=
      ⟨0, .new ⟨[], [], 0, .text "Successful", [], [("eu-west-1", .failed refusal)], []⟩, []⟩
    (run w s).1 = .failed refusal ∧ (run w s).2.world.calls = [] := by
  decide +kernel

end ClusterOps.OneShot

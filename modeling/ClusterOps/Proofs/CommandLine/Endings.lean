import ClusterOps.CommandLine.Run
import ClusterOps.Proofs.ClusterDocument.Sound
import ClusterOps.Proofs.Reconcile.Returns

/-
How the update of logging ends that is told without a file. Once there is a
connection, and where the cloud answers, it ends in the ways that it is meant to
(`Closes`): with what the command line itself is answered with, with a message
before the cloud was asked anything, or with the result printed. There is one
exception (`run_updateLogging`). A name is checked twice, first for the document
and then for the settings, and only the settings have a message for one that is
too long, so such a name escapes.
-/

namespace ClusterOps.CommandLine

variable {σ : Type}

namespace Work

variable {α β : Type} {s t : Session (Account σ)}

theorem run_bind_of_ok {x : Work σ α} {a : α} (h : x.run s = (.done (.ok a), t))
    (f : α → Work σ β) : (x >>= f).run s = (f a).run t := by
  rw [ExceptT.run_bind]
  exact Op.bind_of_done h _

theorem run_bind_of_error {x : Work σ α} {r : Refusal} (h : x.run s = (.done (.error r), t))
    (f : α → Work σ β) : (x >>= f).run s = (.done (.error r), t) := by
  rw [ExceptT.run_bind]
  exact Op.bind_of_done h _

/-- What has a value is refused nowhere. -/
theorem run_refusing_of_done {x : Op (Account σ) α} {a : α} (h : x s = (.done a, t))
    (isRefusal : Cause → Bool) : (refusing isRefusal x).run s = (.done (.ok a), t) := by
  have caught : Op.caught isRefusal x s = (.done (.ok a), t) := by
    simp only [Op.caught, h]
  exact Op.bind_of_done caught _

theorem run_lift_of_done {x : Op (Account σ) α} {a : α} (h : x s = (.done a, t)) :
    (lift x).run s = (.done (.ok a), t) := run_refusing_of_done h _

theorem run_onCloud_of_done {x : Op (Account σ) α} {a : α} (h : x s = (.done a, t)) :
    (onCloud x).run s = (.done (.ok a), t) := run_refusing_of_done h _

theorem settings_cases (w : Surroundings σ) (o : Settings.Overrides) (s : Session (Account σ)) :
    (∃ t, (settings w o).run s = (.done (.ok t), s) ∧ t.Checked) ∨
      ∃ text, (settings w o).run s = (.done (.error (.failed text)), s) := by
  unfold settings
  cases read : w.settings o with
  | ok t => exact .inl ⟨t, rfl, Surroundings.checked_of_settings read⟩
  | error c => exact .inr ⟨c.message, rfl⟩

end Work

/-- The ways in which the update of logging is meant to end: the command line breaks a rule, or asks
for something else; there is a message, and nothing was asked of the cloud; or the result is
printed, and the code tells whether it has an error. -/
inductive Closes (s : Session (Account σ)) : Ending → Session (Account σ) → Prop
  | usage (h : Halt) (code : h.code = 2) : Closes s (.ofHalt h) s
  | informed (h : Halt) (code : h.code = 0) : Closes s (.ofHalt h) s
  | message {t : Session (Account σ)} (text : String) (uncalled : t.world.calls = s.world.calls) :
      Closes s ⟨1, "", Ending.ofLines ["Error: " ++ text], none⟩ t
  | result {p : Provider σ} {plan : Bool} {d : ClusterDocument} {u t : Session (Account σ)}
      {r : Reconciliation} (ran : Reconcile.result p plan d u = (.done r, t)) :
      Closes s ⟨if r.error = none then 0 else 1,
        Value.Json.indented (.object r.toRecord) ++ "\n", "", none⟩ t

/-- The name that an order gives is too long for a document. -/
def LoggingOrder.Overlong (o : LoggingOrder) : Prop :=
  ClusterDocument.maxNameLength < (o.name.getD "").length

namespace LoggingOrder

variable {w : Surroundings σ} {o : LoggingOrder} {s : Session (Account σ)}

theorem worded_cases (o : LoggingOrder) (s : Session (Account σ)) :
    (o.worded.run s = (.done (.error (.misused .nameNeeded)), s) ∧ ¬ o.Overlong) ∨
      (o.worded.run s = (.done (.error (.flawed [⟨["name"], .longName⟩])), s) ∧ o.Overlong) ∨
      ∃ d, o.worded.run s = (.done (.ok (d, o.region)), s) ∧ ¬ o.Overlong := by
  unfold worded
  by_cases named : isNamed o.name
  case neg =>
    rw [if_neg named]
    have empty : o.name.getD "" = "" := by simpa [isNamed] using named
    exact .inl ⟨rfl, by simp [Overlong, empty]⟩
  case pos =>
    rw [if_pos named]
    have given : ¬ (o.name.getD "").isEmpty := by simpa [isNamed] using named
    rcases ClusterDocument.new_cases (o.region.getD "")
      (Facility.ofFlags o.all (fun n => o.flags.lookup n) Facility.supported) none given with
      ⟨short, made⟩ | ⟨long, flawed⟩
    · simp only [made]
      exact .inr (.inr ⟨_, rfl, not_lt.2 short⟩)
    · simp only [flawed]
      exact .inr (.inl ⟨rfl, long⟩)

theorem run_unfiled {limit within : Rat} (steady : w.clock.Steady limit)
    (answers : w.cloud.Answers within)
    (connects : ∀ region, (w.cloud.connect s.world.cloud region).1 = .done ()) (soon : 0 ≤ s.now)
    (reach : s.now + 3 * within + 7204 ≤ limit) (unfiled : o.file = none) (place : Place) :
    ∃ e t, (o.run w).run s = (e, t) ∧ ∃ ending, Ending.ofOutcome place e = some ending ∧
      ((Closes s ending t ∧ ¬ o.Overlong) ∨
        (ending = ⟨1, "", "", some (.flaws [⟨["name"], .longName⟩])⟩ ∧ t = s ∧ o.Overlong)) := by
  have wording : o.declaration w = o.worded := by
    unfold declaration
    rw [unfiled]
  unfold run
  rw [wording]
  rcases worded_cases o s with ⟨unnamed, short⟩ | ⟨flawed, long⟩ | ⟨d, declared, short⟩
  · rw [Work.run_bind_of_error unnamed]
    exact ⟨_, _, rfl, _, rfl, .inl ⟨.usage _ rfl, short⟩⟩
  · rw [Work.run_bind_of_error flawed]
    exact ⟨_, _, rfl, _, rfl, .inr ⟨rfl, rfl, long⟩⟩
  rw [Work.run_bind_of_ok declared]
  dsimp only
  rcases Work.settings_cases w
    { clusterName := some d.identity.name, region := o.region, plan := planOf o.approve } s with
    ⟨t, got, checked⟩ | ⟨text, refused⟩
  case inr =>
    rw [Work.run_bind_of_error refused]
    exact ⟨_, _, rfl, _, rfl, .inl ⟨.message text rfl, short⟩⟩
  let s₁ : Session (Account σ) :=
    (Op.record .info .commandLine ("using region " ++ t.region) [] s).2
  have noted : (Work.note .info ("using region " ++ t.region) : Work σ Unit).run s
      = (.done (.ok ()), s₁) := Work.run_lift_of_done rfl
  have created := Provider.create_of_connected (s := s₁) w.clock (connects t.region)
  rw [Work.run_bind_of_ok got, Work.run_bind_of_ok noted,
    Work.run_bind_of_ok (Work.run_lift_of_done created)]
  obtain ⟨r, u, ran⟩ := Reconcile.result_returns
    (p := ⟨w.cloud, w.clock, t⟩) (s := { s₁ with world := (s₁.world.connect w.cloud t.region).2 })
    steady answers checked t.plan { d with identity := { d.identity with region := t.region } }
    soon reach
  rw [Work.run_bind_of_ok (Work.run_onCloud_of_done ran)]
  refine ⟨_, _, rfl, _, rfl, .inl ⟨?_, short⟩⟩
  have code : (if r.succeeded then 0 else 1) = if r.error = none then 0 else 1 := by
    simp only [r.succeeded_iff]
  show Closes s ⟨if r.succeeded then 0 else 1, _, Ending.ofLines [], none⟩ u
  rw [code]
  exact .result ran

end LoggingOrder

/-- The words make no other command than the update of logging, and name no file for it. -/
def Unfiled (files : Files) (words : List String) : Prop :=
  ∀ level place c, Command.read files words = .ok (level, place, c) →
    ∃ o, c = .updateLogging o ∧ o.file = none

/-- The words give the update of logging a name that is too long. -/
def Overlong (files : Files) (words : List String) : Prop :=
  ∃ level place o, Command.read files words = .ok (level, place, .updateLogging o) ∧ o.Overlong

/-- **How the update of logging ends.** Told without a file, with a connection and where the cloud
answers, it ends in the ways that it is meant to, whatever is written and whatever the variables
are, unless the name is too long: then its flaw escapes, before anything has happened. -/
theorem run_updateLogging {w : Surroundings σ} {words : List String} {s : Session (Account σ)}
    {limit within : Rat} (steady : w.clock.Steady limit) (answers : w.cloud.Answers within)
    (connects : ∀ region, (w.cloud.connect s.world.cloud region).1 = .done ()) (soon : 0 ≤ s.now)
    (reach : s.now + 3 * within + 7204 ≤ limit) (unfiled : Unfiled w.files words) :
    ∃ level e t, run w words s = (level, some e, t) ∧
      ((Closes s e t ∧ ¬ Overlong w.files words) ∨
        (e = ⟨1, "", "", some (.flaws [⟨["name"], .longName⟩])⟩ ∧ t = s ∧
          Overlong w.files words)) := by
  unfold run
  cases read : Command.read w.files words with
  | error h =>
    refine ⟨_, _, _, rfl, .inl ⟨?_, ?_⟩⟩
    · rcases h with ⟨p, asked⟩ | _ | ⟨p, c⟩
      · cases asked
        · exact .usage _ rfl
        · exact .informed _ rfl
      · exact .informed _ rfl
      · exact .usage _ rfl
    · intro long
      obtain ⟨_, _, _, made, -⟩ := long
      cases read.symm.trans made
  | ok told =>
    obtain ⟨level, place, c⟩ := told
    obtain ⟨o, rfl, file⟩ := unfiled level place c read
    obtain ⟨outcome, t, ran, e, ends, closes⟩ :=
      o.run_unfiled steady answers connects soon reach file place
    have long_iff : Overlong w.files words ↔ o.Overlong := by
      constructor
      · intro long
        obtain ⟨_, _, o', made, long⟩ := long
        have same := (Prod.mk.inj (Prod.mk.inj (Except.ok.inj (read.symm.trans made))).2).2
        obtain rfl := Command.updateLogging.inj same
        exact long
      · exact fun long => ⟨level, place, o, read, long⟩
    have ran : ((Command.updateLogging o).run w).run s = (outcome, t) := ran
    refine ⟨level, e, t, ?_, ?_⟩
    · simp only [ran, ends]
    · rw [long_iff]
      exact closes

/-- The result for a cluster that cannot be described is printed, with an error in it. -/
theorem run_updateLogging_refused :
    let w : Surroundings Unit := ⟨Cloud.closed, .binary64, [("AWS_REGION", "eu-west-1")], []⟩
    let words := ["utils", "update-cluster-logging", "--name", "demo", "--no-api"]
    let s : Session (Account Unit) := ⟨0, .new (), []⟩
    (w.clock.Steady (2 ^ 49) ∧ w.cloud.Answers 0 ∧
        (∀ region, (w.cloud.connect s.world.cloud region).1 = .done ()) ∧ 0 ≤ s.now ∧
        s.now + 3 * 0 + 7204 ≤ 2 ^ 49 ∧ Unfiled w.files words) ∧
      ∃ level e t, run w words s = (level, some e, t) ∧
        ((Closes s e t ∧ ¬ Overlong w.files words) ∨
          (e = ⟨1, "", "", some (.flaws [⟨["name"], .longName⟩])⟩ ∧ t = s ∧
            Overlong w.files words)) := by
  intro w words s
  have answers : w.cloud.Answers 0 := by
    refine ⟨fun _ _ => .done (), fun _ _ _ _ d delay => ?_, fun _ _ _ _ _ => ⟨?_, .failed _⟩⟩
    · obtain rfl : 0 = d := Option.some.inj delay
      exact ⟨le_rfl, le_rfl⟩
    · exact Option.some_ne_none _
  have connects : ∀ region, (w.cloud.connect s.world.cloud region).1 = .done () := fun _ => rfl
  have soon : 0 ≤ s.now := le_rfl
  have reach : s.now + 3 * 0 + 7204 ≤ 2 ^ 49 := by
    show (0 : Rat) + 3 * 0 + 7204 ≤ 2 ^ 49
    norm_num
  have unfiled : Unfiled w.files words := by
    intro level place c read
    have made : Command.read w.files words = .ok (.info,
        .command (below "utils update-cluster-logging") loggingParameters,
        .updateLogging ⟨some "demo", none, none, false, none, [("api", false)]⟩) := by
      decide +kernel
    obtain rfl := (Prod.mk.inj (Prod.mk.inj (Except.ok.inj (made.symm.trans read))).2).2
    exact ⟨_, rfl, rfl⟩
  exact ⟨⟨Clock.steady_binary64, answers, connects, soon, reach, unfiled⟩,
    run_updateLogging Clock.steady_binary64 answers connects soon reach unfiled⟩

/-- A name of one character too many escapes as a flaw. -/
theorem run_updateLogging_overlong :
    let w : Surroundings Unit := ⟨Cloud.closed, .binary64, [("AWS_REGION", "eu-west-1")], []⟩
    let words := ["utils", "update-cluster-logging", "--name",
      String.ofList (List.replicate 101 'a')]
    let ran := run w words ⟨0, .new (), []⟩
    ran.2.1.map (fun e => (e.code, e.output, e.errors, e.escape.isSome))
        = some (1, "", "", true) ∧ ran.2.2.world.calls = [] := by
  decide +kernel

end ClusterOps.CommandLine

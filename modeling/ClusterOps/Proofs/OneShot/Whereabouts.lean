import ClusterOps.Proofs.Whereabouts

/-
Where a single run acts. The region in the file goes before those in the
variables, the name in the variables before the one in the file. The declaration
and the settings are prepared apart from each other, but once both are there they
have the same region (`of_prepare`), so the run acts in one place (`actsIn_run`).
-/

namespace ClusterOps.OneShot

open Environment (firstGiven orElse)

variable {σ : Type}

/-- The identity in the file that a variable names, if it names one that holds a declaration. -/
def identity? (w : Surroundings σ) : Option Identity :=
  if (w.env.text fileVariable).isEmpty then none else w.identityIn (w.env.text fileVariable)

/-- The region of a single run. -/
def regionFor (w : Surroundings σ) : String :=
  firstGiven [(identity? w).elim "" Identity.region, w.env.text "AWS_REGION",
    w.env.text "AWS_DEFAULT_REGION"]

/-- The name of the cluster of a single run. -/
def nameFor (w : Surroundings σ) : String :=
  firstGiven [w.env.text "CLUSTER_NAME", (identity? w).elim "" Identity.name]

/-- The code of a run whose reconciliation has a result. -/
def codeOf (r : Reconciliation) : Nat := if r.succeeded then 0 else 1

variable {w : Surroundings σ} {t u : Settings} {d : ClusterDocument}
  {s s' : Session (Account σ)} {P : Call → Prop}

/-! ## Preparing -/

theorem asks_prepare (w : Surroundings σ) (t : Settings) : (prepare w t).Asks P := by
  refine Op.Asks.bind ?document fun _ => (Op.asks_ofExcept _).bind fun _ => Op.asks_pure _
  rw [document]
  split
  · exact Op.asks_ofExcept _
  · exact (w.asks_document _).bind fun _ => Op.asks_pure _

theorem regionFor_eq (read : w.settings {} = .ok t) :
    regionFor w = orElse ((identity? w).elim "" Identity.region) t.region := by
  rw [regionFor, Environment.firstGiven_cons, Environment.firstGiven_pair]
  exact congrArg _ (Settings.read_of_ofEnvironment (ok_of_mapError read)).1.symm

theorem nameFor_eq (read : w.settings {} = .ok t) :
    nameFor w = orElse t.clusterName ((identity? w).elim "" Identity.name) := by
  have name := (Settings.read_of_ofEnvironment (ok_of_mapError read)).2.1
  rw [nameFor, Environment.firstGiven_pair, name]
  rfl

theorem of_document (read : w.settings {} = .ok t) (h : document w t s = (.done d, s')) :
    d.identity.region = regionFor w ∧ d.identity.name = nameFor w := by
  rw [regionFor_eq read, nameFor_eq read, identity?]
  rw [document] at h
  split at h
  case isTrue unfiled =>
    rw [if_pos unfiled]
    have made := Op.ok_of_ofExcept h
    rw [declared] at made
    split at made
    case isTrue => cases made
    case isFalse named =>
      obtain ⟨name, region⟩ := ClusterDocument.identity_of_new named (ok_of_mapError made)
      exact ⟨region, name.trans (Environment.orElse_of_given named _).symm⟩
  case isFalse given =>
    rw [if_neg given]
    obtain ⟨d', v, loaded, next⟩ := Op.done_of_bind h
    obtain rfl := Outcome.done.inj (Prod.mk.inj next).1
    rw [Surroundings.identityIn_of_document loaded]
    exact ⟨rfl, rfl⟩

/-- The settings of a run are those for the region of its declaration. -/
theorem of_inRegionOf (checked : t.Checked) (given : ¬ d.identity.region.isEmpty)
    (h : inRegionOf t d = .ok u) : u.Checked ∧ d.identity.region = u.region := by
  rw [inRegionOf, Environment.orElse_of_given given] at h
  split at h
  case isTrue same =>
    obtain rfl := Except.ok.inj h
    exact ⟨checked, same⟩
  case isFalse =>
    have replaced := ok_of_mapError h
    obtain ⟨rfl, -⟩ := Settings.issues_of_check replaced
    exact ⟨Settings.checked_of_withOverrides replaced, rfl⟩

theorem of_prepare (read : w.settings {} = .ok t) (h : prepare w t s = (.done (d, u), s')) :
    u.Checked ∧ d.identity.region = u.region ∧ u.region = regionFor w ∧
      d.identity.name = nameFor w := by
  obtain ⟨d', v, declared, next⟩ := Op.done_of_bind h
  obtain ⟨u', v', placed, same⟩ := Op.done_of_bind next
  obtain ⟨rfl, rfl⟩ := Prod.mk.inj (Outcome.done.inj (Prod.mk.inj same).1)
  obtain ⟨region, name⟩ := of_document read declared
  -- Where no region is declared, the one of the settings stands in, and they have one.
  have checked := Surroundings.checked_of_settings read
  have given : ¬ d'.identity.region.isEmpty := by
    rw [region, regionFor_eq read]
    exact Environment.orElse_given (Settings.given_of_isRegion checked.isRegion_region) _
  obtain ⟨checked', same⟩ := of_inRegionOf checked given (Op.ok_of_ofExcept placed)
  exact ⟨checked', same, same.symm.trans region, name⟩

/-! ## Runs -/

theorem actsIn_perform (checked : t.Checked) (same : d.identity.region = t.region) :
    ActsIn w t.region d.identity.name (Outcome.map codeOf) s (perform w d t s) := by
  refine actsIn_bind (Op.asks_record _ _ _ _) fun _ u _ => ?_
  refine actsIn_bind (Provider.asks_create _ _ _) fun p v created => ?_
  obtain rfl := Provider.eq_of_create created
  rw [Op.bind_pure_eq]
  exact .inr ⟨_, reconciles_result checked _ same _, rfl⟩

theorem actsIn_run (w : Surroundings σ) (s : Session (Account σ)) :
    ActsIn w (regionFor w) (nameFor w) (Outcome.map codeOf) s (run w s) := by
  unfold run
  cases read : w.settings {} with
  | error c => exact .inl rfl
  | ok t =>
    refine actsIn_bind ((asks_prepare w t).caught _) fun prepared s' ran => ?_
    cases prepared with
    | error c => exact .inl rfl
    | ok both =>
      obtain ⟨d, u⟩ := both
      obtain ⟨checked, same, region, name⟩ := of_prepare read (Op.done_of_caught ran)
      rw [← region, ← name]
      exact actsIn_perform checked same

end ClusterOps.OneShot

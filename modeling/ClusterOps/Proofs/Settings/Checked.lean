import ClusterOps.Proofs.Results
import ClusterOps.Proofs.Settings.Reading
import ClusterOps.Proofs.Settings.Rules
import ClusterOps.Surroundings

/-
What can be relied on once settings are checked: the interval, the timeout, the
name of the cluster and the size of a page are in their bounds, and regions are
regions. All settings that a run gets are checked, from the variables
(`checked_of_settings`) or with fields replaced (`checked_of_withOverrides`).
-/

namespace ClusterOps

namespace Settings

variable {s t : Settings}

theorem checked_of_check (h : s.check = .ok t) : t.Checked := by
  obtain ⟨rfl, -⟩ := issues_of_check h
  exact h

theorem checked_of_withOverrides {o : Overrides} (h : s.withOverrides o = .ok t) : t.Checked :=
  checked_of_check h

theorem Checked.times (h : s.Checked) :
    1 ≤ s.pollInterval ∧ s.pollInterval ≤ s.waitTimeout ∧ s.waitTimeout ≤ 7200 :=
  ⟨h.valid.pollInterval.1, h.valid.withinTimeout, h.valid.waitTimeout.2⟩

theorem Checked.name_length_le (h : s.Checked) : s.clusterName.length ≤ maxNameLength := by
  obtain missing | ⟨short, -⟩ := h.valid.clusterName
  · rw [missing]
    exact Nat.zero_le _
  · exact short

/-- The rule for the name of a cluster that is given. -/
def AcceptsName (name : String) : Prop := name.length ≤ maxNameLength ∧ isClusterName name = true

instance (name : String) : Decidable (AcceptsName name) :=
  inferInstanceAs (Decidable (_ ∧ _))

theorem Checked.acceptsName (h : s.Checked) (given : ¬ s.clusterName.isEmpty) :
    AcceptsName s.clusterName := by
  obtain missing | ⟨short, spelled⟩ := h.valid.clusterName
  · exact absurd (String.isEmpty_iff.2 missing) given
  · exact ⟨short, isClusterName_iff.2 spelled⟩

/-! ## Regions and listings -/

theorem Checked.isRegion_region (h : s.Checked) : isRegion s.region = true :=
  isRegion_iff.2 h.valid.region

theorem Checked.listChunk_bounds (h : s.Checked) : 1 ≤ s.listChunk ∧ s.listChunk ≤ 100 :=
  h.valid.listChunk

theorem Checked.isRegion_of_mem (h : s.Checked) {r : String} (mem : r ∈ s.regions) :
    isRegion r = true :=
  isRegion_iff.2 (h.valid.regions r mem)

theorem Checked.one_le_maxConcurrency (h : s.Checked) : 1 ≤ s.maxConcurrency :=
  h.valid.maxConcurrency

/-- Another region in the place of the first one breaks no rule. -/
theorem Checked.withOverrides_region (h : s.Checked) {r : String} (valid : isRegion r = true) :
    s.withOverrides { region := some r } = .ok (s.replace { region := some r }) :=
  checked_iff_valid.2 { h.valid with region := isRegion_iff.1 valid }

/-- The region, the name and the plan are those in the variables, unless they are given. -/
theorem read_of_ofEnvironment {env : Environment} {o : Overrides}
    (h : ofEnvironment env o = .ok t) :
    t.region = o.region.getD
        (Environment.orElse (env.text "AWS_REGION") (env.text "AWS_DEFAULT_REGION")) ∧
      t.clusterName = o.clusterName.getD (env.text "CLUSTER_NAME") ∧
      t.plan = o.plan.getD (!env.flag "APPROVE" false) := by
  rw [Environment.ofEnvironment_eq] at h
  split at h
  case h_1 => cases h
  case h_2 =>
    obtain ⟨rfl, -⟩ := issues_of_check h
    exact ⟨rfl, rfl, rfl⟩

theorem checked_of_ofEnvironment {env : Environment} {o : Overrides}
    (h : ofEnvironment env o = .ok t) : t.Checked := by
  obtain ⟨s, -, checked⟩ := ok_of_bind h
  exact checked_of_withOverrides checked

end Settings

theorem Surroundings.checked_of_settings {σ : Type} {w : Surroundings σ}
    {o : Settings.Overrides} {t : Settings} (h : w.settings o = .ok t) : t.Checked :=
  Settings.checked_of_ofEnvironment (ok_of_mapError h)

end ClusterOps

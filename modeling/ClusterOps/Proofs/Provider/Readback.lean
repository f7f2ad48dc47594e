import ClusterOps.Proofs.Provider.Upkeep

/-
What is sent is what is read. A request for an update sends one setup that is on and one
that is off, and the description of a cluster has setups of the same form. Sent and read
back, the lists come out as sets, except that a facility in both of them counts as on
(`mem_split_pair`). An update has no facility in both, so it comes out as it was, and
compared with its declaration it leaves nothing to be done (`logging_reads_back`).
-/

namespace ClusterOps

/-- What is observed where one setup is on and one is off. -/
theorem Snapshot.mem_split_pair (on off : List String) :
    let o := Snapshot.split [(on, true), (off, false)]
    (∀ n, n ∈ o.enabled ↔ n ∈ on) ∧ ∀ n, n ∈ o.disabled ↔ n ∈ off ∧ n ∉ on := by
  simp [Snapshot.split, Facility.mem_others, Facility.mem_distinct]

namespace Provider

variable {σ : Type}

/-- The logging configuration that is sent with a request for an update is read as an observation,
wherever the description of a cluster has it. -/
def ReadsBack (p : Provider σ) (name : String) (s : Session (Account σ)) (on off : List String)
    (o : Facility.Observed) : Prop :=
  ∃ call sent, (p.updateLogging name on off s).2.world.calls = s.world.calls ++ [call] ∧
    call.request.arguments.get? "logging" = some sent ∧
    ∀ cluster, Value.find? cluster "logging" = some sent →
      ∃ snapshot, Snapshot.ofPayload (.map cluster) = .ok snapshot ∧ snapshot.observed = .ok o

theorem readsBack_split (p : Provider σ) (name : String) (s : Session (Account σ))
    (on off : List String) :
    p.ReadsBack name s on off (Snapshot.split [(on, true), (off, false)]) := by
  refine ⟨_, Request.logging on off, p.updateLogging_calls name on off s, rfl, fun cluster h => ?_⟩
  obtain ⟨snapshot, read, -, observed⟩ :=
    observed_of_configuration (h.trans (congrArg some (logging_eq_configuration on off)))
  exact ⟨snapshot, read, observed⟩

/-- **What is sent is what is read.** Of the lists of a request that are read back from the
description of a cluster, the first comes out as the facilities that are on, and the second without
those of the first as the facilities that are off. The lists of an update both come out as they are,
and compared with the same declaration they are the same update, which is not needed any more. -/
theorem logging_reads_back (p : Provider σ) (name : String) (s : Session (Account σ)) :
    (∀ on off, ∃ o, p.ReadsBack name s on off o ∧ (∀ n, n ∈ o.enabled ↔ n ∈ on) ∧
      ∀ n, n ∈ o.disabled ↔ n ∈ off ∧ n ∉ on) ∧
    ∀ observed desired catalog,
      let d := Facility.diff observed desired catalog
      ∃ o, p.ReadsBack name s d.toEnable d.toDisable o ∧ (∀ n, n ∈ o.enabled ↔ n ∈ d.toEnable) ∧
        (∀ n, n ∈ o.disabled ↔ n ∈ d.toDisable) ∧
        Facility.diff o desired catalog = { d with changed := false } := by
  constructor
  · intro on off
    exact ⟨_, p.readsBack_split name s on off, Snapshot.mem_split_pair on off⟩
  · intro observed desired catalog d
    obtain ⟨enabled, disabled⟩ := Snapshot.mem_split_pair d.toEnable d.toDisable
    refine ⟨_, p.readsBack_split name s d.toEnable d.toDisable, enabled, fun n => ?_, ?_⟩
    · rw [disabled]
      exact and_iff_left_of_imp fun off => (Facility.mem_others.1 off).2
    · have settled : (Facility.diff (Snapshot.split [(d.toEnable, true), (d.toDisable, false)])
          desired catalog).changed = false := by
        rw [Bool.eq_false_iff, ne_eq, Facility.changed_diff_iff, not_not]
        exact fun n => (enabled n).trans Facility.mem_distinct
      exact congrArg (Facility.Diff.mk d.toEnable d.toDisable) settled

example : (Snapshot.ofPayload (Value.object [("logging",
    Request.logging ["api", "api"] ["audit", "api", "audit"])]) >>= Snapshot.observed).toOption
      = some ⟨["api"], ["audit"]⟩ := by decide

end Provider

end ClusterOps

import ClusterOps.Proofs.Facility.Coverage
import ClusterOps.Cloud
import ClusterOps.Snapshot

/-
An update that is carried out facility by facility. What is to be disabled is turned
off, one facility after the other, and then what is to be enabled is turned on. No such
step touches any other facility (`mem_turnOff`, `mem_turnOn`), so in the end that is on
which was on and is not to be disabled, or is to be enabled.

The catalog is closed: whatever is to be disabled is in it. So what is on without being
in the catalog stays on, and it is all that can keep the update from leaving exactly what
is desired (`carriedOut_diff`).
-/

namespace ClusterOps.Facility

variable {declared desired catalog : List String} {n m : String}

/-- What is on after a facility was turned off. -/
def turnOff (enabled : List String) (n : String) : List String := enabled.filter fun m => m != n

/-- What is on after a facility was turned on. -/
def turnOn (enabled : List String) (n : String) : List String := enabled.insert n

/-- What is on after an update was carried out facility by facility. -/
def Diff.carriedOut (d : Diff) (enabled : List String) : List String :=
  d.toEnable.foldl turnOn (d.toDisable.foldl turnOff enabled)

theorem mem_turnOff {enabled : List String} : m ∈ turnOff enabled n ↔ m ∈ enabled ∧ m ≠ n := by
  simp [turnOff]

theorem mem_turnOn {enabled : List String} : m ∈ turnOn enabled n ↔ m = n ∨ m ∈ enabled :=
  List.mem_insert_iff

theorem mem_foldl_turnOff {off enabled : List String} :
    n ∈ off.foldl turnOff enabled ↔ n ∈ enabled ∧ n ∉ off := by
  induction off generalizing enabled with
  | nil => simp
  | cons m off ih =>
    rw [List.foldl_cons, ih, mem_turnOff, List.mem_cons, not_or, and_assoc]

theorem mem_foldl_turnOn {on enabled : List String} :
    n ∈ on.foldl turnOn enabled ↔ n ∈ enabled ∨ n ∈ on := by
  induction on generalizing enabled with
  | nil => simp
  | cons m on ih =>
    rw [List.foldl_cons, ih, mem_turnOn, List.mem_cons, or_assoc, or_left_comm]

theorem mem_carriedOut {d : Diff} {enabled : List String} :
    n ∈ d.carriedOut enabled ↔ n ∈ enabled ∧ n ∉ d.toDisable ∨ n ∈ d.toEnable := by
  rw [Diff.carriedOut, mem_foldl_turnOn, mem_foldl_turnOff]

/-- What is desired is on in the end, and what was on without being in the catalog. -/
theorem mem_carriedOut_diff {observed : Observed} :
    n ∈ (diff observed desired catalog).carriedOut observed.enabled
      ↔ n ∈ desired ∨ n ∈ observed.enabled ∧ n ∉ catalog := by
  have toEnable : n ∈ (diff observed desired catalog).toEnable ↔ n ∈ desired := mem_distinct
  rw [mem_carriedOut, mem_toDisable_diff, toEnable]
  constructor
  · rintro (⟨on, kept⟩ | wanted)
    · by_cases wanted : n ∈ desired
      · exact .inl wanted
      · exact .inr ⟨on, fun known => kept ⟨known, wanted⟩⟩
    · exact .inl wanted
  · rintro (wanted | ⟨on, unknown⟩)
    · exact .inr wanted
    · exact .inl ⟨on, fun ⟨known, _⟩ => unknown known⟩

/-- **What an update leaves that is carried out facility by facility.** That is on which was on and
is not to be disabled, or is to be enabled: what is desired, and besides only what was on without
being in the catalog. So exactly what is desired is on, and no further update is needed, if and only
if nothing was on that is not in the catalog. -/
theorem carriedOut_diff (expands : expand declared catalog = .ok desired) (observed : Observed) :
    let d := diff observed desired catalog
    let after := d.carriedOut observed.enabled
    (∀ n, n ∈ after ↔ n ∈ observed.enabled ∧ n ∉ d.toDisable ∨ n ∈ d.toEnable) ∧
    (∀ n, n ∈ after ↔ n ∈ desired ∨ n ∈ observed.enabled ∧ n ∉ catalog) ∧
    ((∀ n, n ∈ after ↔ n ∈ desired) ↔ ∀ n ∈ observed.enabled, n ∈ catalog) ∧
    ∀ off, (diff ⟨after, off⟩ desired catalog).changed = true ↔
      ∃ n ∈ observed.enabled, n ∉ catalog := by
  intro d after
  have left : ∀ n, n ∈ after ↔ n ∈ desired ∨ n ∈ observed.enabled ∧ n ∉ catalog :=
    fun n => mem_carriedOut_diff
  have exactly : (∀ n, n ∈ after ↔ n ∈ desired) ↔ ∀ n ∈ observed.enabled, n ∈ catalog := by
    constructor
    · intro same n on
      by_contra unknown
      exact unknown (mem_of_expand expands ((same n).1 ((left n).2 (.inr ⟨on, unknown⟩))))
    · intro known n
      rw [left]
      exact or_iff_left fun ⟨on, unknown⟩ => unknown (known n on)
  refine ⟨fun n => mem_carriedOut, left, exactly, fun off => ?_⟩
  rw [changed_diff_iff, exactly]
  simp only [not_forall, exists_prop]

/-- An update for a declaration with repetitions, of a cluster with another facility on. -/
theorem carriedOut_diff_within :
    let declared := ["scheduler", "api", "scheduler"]
    let observed : Observed := ⟨["audit", "api"], []⟩
    let d := diff observed declared supported
    expand declared supported = .ok declared ∧ d.changed = true ∧
      (∀ n, n ∈ d.carriedOut observed.enabled ↔ n ∈ declared) ∧
      (diff ⟨d.carriedOut observed.enabled, d.toDisable⟩ declared supported).changed = false := by
  intro declared observed d
  have expands : expand declared supported = .ok declared := by rfl
  obtain ⟨-, -, exactly, again⟩ := carriedOut_diff expands observed
  have known : ∀ n ∈ observed.enabled, n ∈ supported := by decide
  refine ⟨expands, by decide, exactly.2 known, Bool.eq_false_iff.2 fun changed => ?_⟩
  obtain ⟨n, on, unknown⟩ := (again _).1 changed
  exact unknown (known n on)

/-- A facility that the catalog lacks is never turned off: the update leaves more than what is
desired, and is needed again. -/
theorem carriedOut_diff_beyond :
    let description := Value.object
      [("status", .text "ACTIVE"), ("logging", Request.logging ["api", "network"] [])]
    let observed : Observed := ⟨["api", "network"], []⟩
    let d := diff observed ["api"] supported
    (Snapshot.ofPayload description >>= Snapshot.observed) = .ok observed ∧
      supported.Nodup ∧ expand ["api"] supported = .ok ["api"] ∧ d.changed = true ∧
      ¬ (∀ n, n ∈ observed.enabled ∧ n ∉ d.toDisable ∨ n ∈ d.toEnable ↔ n ∈ ["api"]) ∧
      diff ⟨d.carriedOut observed.enabled, d.toDisable⟩ ["api"] supported = d := by
  intro description observed d
  refine ⟨by rfl, by decide, by rfl, by decide, fun same => ?_, by decide⟩
  exact absurd ((same "network").1 (by decide)) (by decide)

end ClusterOps.Facility

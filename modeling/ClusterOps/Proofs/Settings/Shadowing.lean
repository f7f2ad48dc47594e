import ClusterOps.Proofs.Settings.Reading
import Mathlib.Data.List.Basic

/-
What the variables of an environment can still say where fields are given otherwise. What
is read for the other fields does not depend on these variables (`replace_reading`). Only
the variables that hold numbers are looked at in any case, so two environments that differ
in shadowed variables alone are told apart exactly by the first number that cannot be read
(`ofEnvironment_eq_iff`).
-/

namespace ClusterOps

namespace Environment

open Settings

variable {env env' : Environment} {name : String} {o : Overrides}

/-! ## Agreement beside what is given -/

/-- The environments agree on the variables of every field that is not given. -/
def AgreeBeside (o : Overrides) (env env' : Environment) : Prop :=
  ∀ f, o.value? f = none → ∀ name ∈ f.variables, env.lookup name = env'.lookup name

/-- Every variable that holds a number is read for a field. -/
theorem exists_field (hn : name ∈ numbers) : ∃ f : Field, name ∈ f.variables := by
  simp only [numbers, List.mem_cons, List.not_mem_nil, or_false] at hn
  rcases hn with rfl | rfl | rfl | rfl
  · exact ⟨.waitTimeout, List.mem_singleton_self _⟩
  · exact ⟨.pollInterval, List.mem_singleton_self _⟩
  · exact ⟨.listChunk, List.mem_singleton_self _⟩
  · exact ⟨.maxConcurrency, List.mem_singleton_self _⟩

/-- What is read for the fields that are not given is the same in both. -/
theorem replace_reading (agree : AgreeBeside o env env') :
    env.reading.replace o = env'.reading.replace o :=
  replace_congr fun f left => value_reading (agree f left)

theorem firstMisread_congr (agree : AgreeBeside o env env')
    (shadowed : ∀ f, o.value? f ≠ none → ∀ name ∈ f.variables, name ∈ numbers →
      env.misread name = none ∧ env'.misread name = none) :
    env.firstMisread = env'.firstMisread := by
  rw [firstMisread, firstMisread, ← List.head?_filterMap, ← List.head?_filterMap]
  refine congrArg List.head? (List.filterMap_congr fun name hn => ?_)
  obtain ⟨f, hf⟩ := exists_field hn
  by_cases left : o.value? f = none
  · exact misread_congr (agree f left name hf)
  · obtain ⟨fine, fine'⟩ := shadowed f left name hf hn
    rw [fine, fine']

end Environment

namespace Settings

variable {env env' : Environment} {o : Overrides}

/-! ## What tells two environments apart -/

theorem check_ne_notInteger {s : Settings} {name v : String} :
    s.check ≠ .error (.notInteger name v) := by
  unfold check
  split <;> simp

/-- Environments that agree on the variables of every field that is not given are told apart by the
first number that cannot be read, and by nothing else. -/
theorem ofEnvironment_eq_iff (agree : Environment.AgreeBeside o env env') :
    ofEnvironment env o = ofEnvironment env' o ↔ env.firstMisread = env'.firstMisread := by
  rw [Environment.ofEnvironment_eq, Environment.ofEnvironment_eq,
    Environment.replace_reading agree]
  constructor
  · intro same
    cases first : env.firstMisread with
    | none =>
      cases first' : env'.firstMisread with
      | none => rfl
      | some bad' =>
        rw [first, first'] at same
        exact absurd same check_ne_notInteger
    | some bad =>
      cases first' : env'.firstMisread with
      | none =>
        rw [first, first'] at same
        exact absurd same.symm check_ne_notInteger
      | some bad' =>
        rw [first, first'] at same
        obtain ⟨name, v⟩ := bad
        obtain ⟨name', v'⟩ := bad'
        injection same with same
        injection same with names values
        rw [names, values]
  · intro same
    rw [same]

/-- **What shadowed variables can still say.** Let two environments agree on the variables of every
field that is not given. Then they give the same settings or the same error exactly where the same
variable, or none, is the first that should hold a number and does not; in particular where the
numbers in the variables of the fields that are given can be read. A number that cannot be read is
refused whatever is given. Where all can be read, a field that is not given has the value that its
variables give, and the rules are checked on the whole. -/
theorem ofEnvironment_shadowed (agree : Environment.AgreeBeside o env env') :
    (ofEnvironment env o = ofEnvironment env' o ↔ env.firstMisread = env'.firstMisread) ∧
    ((∀ f, o.value? f ≠ none → ∀ name ∈ f.variables, name ∈ Environment.numbers →
        env.misread name = none ∧ env'.misread name = none) →
      ofEnvironment env o = ofEnvironment env' o) ∧
    (∀ name v, env.firstMisread = some (name, v) →
      ofEnvironment env o = .error (.notInteger name v)) ∧
    (env.firstMisread = none →
      ofEnvironment env o = (env.reading.replace o).check ∧
      ∀ f, (env.reading.replace o).value f = (o.value? f).getD (env.reading.value f)) := by
  refine ⟨ofEnvironment_eq_iff agree, fun shadowed => ?_, fun name v first => ?_,
    fun readable => ⟨?_, value_replace⟩⟩
  · exact (ofEnvironment_eq_iff agree).mpr (Environment.firstMisread_congr agree shadowed)
  · rw [Environment.ofEnvironment_eq, first]
  · rw [Environment.ofEnvironment_eq, readable]

/-- A region that is none and a timeout, both given otherwise. -/
theorem ofEnvironment_shadowed_region :
    let env : Environment := [("AWS_REGION", "nowhere"), ("WAIT_TIMEOUT", "0"),
      ("LOG_LEVEL", "debug")]
    let env' : Environment := [("AWS_DEFAULT_REGION", "us-east-1"), ("LOG_LEVEL", "debug")]
    let o : Overrides := { region := some "eu-west-1", waitTimeout := some 60 }
    Environment.AgreeBeside o env env' ∧ env.firstMisread = none ∧
      ofEnvironment env o = ofEnvironment env' o ∧
      ofEnvironment env o =
        .ok { forRegion "eu-west-1" with waitTimeout := 60, logLevel := "debug" } := by
  intro env env' o
  have agree : Environment.AgreeBeside o env env' := by
    intro f left
    cases f
    case region | waitTimeout => cases left
    all_goals decide
  have readable : env.firstMisread = none := by decide +kernel
  obtain ⟨told_apart, -, -, given⟩ := ofEnvironment_shadowed agree
  refine ⟨agree, readable, told_apart.mpr (by decide +kernel), ?_⟩
  rw [(given readable).1]
  decide +kernel

/-- A size that is no number is refused though another is given, so that shadowed variables can
tell two environments apart. -/
theorem ofEnvironment_shadowed_misread :
    let env : Environment := [("AWS_REGION", "eu-west-1"), ("LIST_CHUNK_SIZE", "x")]
    let env' : Environment := [("AWS_REGION", "eu-west-1")]
    let o : Overrides := { listChunk := some 50 }
    Environment.AgreeBeside o env env' ∧
      ofEnvironment env o = .error (.notInteger "LIST_CHUNK_SIZE" "x") ∧
      ofEnvironment env' o = .ok { forRegion "eu-west-1" with listChunk := 50 } := by
  intro env env' o
  have agree : Environment.AgreeBeside o env env' := by
    intro f left
    cases f
    case listChunk => cases left
    all_goals decide
  exact ⟨agree, by decide +kernel, by decide +kernel⟩

end Settings

end ClusterOps

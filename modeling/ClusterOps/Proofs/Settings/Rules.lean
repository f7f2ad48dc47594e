import ClusterOps.Proofs.Settings.Grammar
import ClusterOps.Settings

/-
The rules for settings, said without the check. Settings are valid if every rule holds
(`Valid`). What can be wrong with them is listed once, in the order in which it is told
(`grounds`), and a complaint is made exactly for the grounds that are given
(`issues_eq`): the check takes valid settings as they are and refuses all others with
these complaints (`verdict_check`).

Overrides are tried on the settings that were valid last. One step either goes on with
valid settings or stays where it is (`retain_eq`), and so does a whole sequence
(`Valid.retained`).
-/

namespace ClusterOps.Settings

variable {s t : Settings}

instance (s : String) : Decidable (s.toList ∈ regionPattern) := decidable_of_iff _ isRegion_iff

instance (s : String) : Decidable (s.toList ∈ clusterPattern) :=
  decidable_of_iff _ isClusterName_iff

/-! ## The rules -/

/-- Settings that keep every rule. -/
structure Valid (s : Settings) : Prop where
  region : s.region.toList ∈ regionPattern
  clusterName : s.clusterName = ""
    ∨ s.clusterName.length ≤ 100 ∧ s.clusterName.toList ∈ clusterPattern
  waitTimeout : 1 ≤ s.waitTimeout ∧ s.waitTimeout ≤ 7200
  pollInterval : 1 ≤ s.pollInterval ∧ s.pollInterval ≤ 300
  withinTimeout : s.pollInterval ≤ s.waitTimeout
  listChunk : 1 ≤ s.listChunk ∧ s.listChunk ≤ 100
  someRegion : s.regions ≠ []
  regions : ∀ r ∈ s.regions, r.toList ∈ regionPattern
  maxConcurrency : 1 ≤ s.maxConcurrency
  logLevel : Text.upper s.logLevel ∈ Level.ranks.map Prod.fst

/-- All that can be wrong with settings, in the order in which it is told. -/
def grounds (s : Settings) : List Issue :=
  [Issue.noRegion, Issue.badRegion s.region, Issue.longName, Issue.badName s.clusterName,
      Issue.waitTimeout, Issue.pollInterval, Issue.intervalExceedsTimeout, Issue.listChunk,
      Issue.noRegions]
    ++ s.regions.map Issue.badListed ++ [Issue.concurrency, Issue.logLevel s.logLevel]

/-- Whether there is ground for a complaint. A name is complained of once, and the interval is
compared with the timeout only when it is in its own bounds. -/
def Violated (s : Settings) : Issue → Prop
  | .noRegion => s.region = ""
  | .badRegion r => r ≠ "" ∧ r.toList ∉ regionPattern
  | .longName => 100 < s.clusterName.length
  | .badName n => n ≠ "" ∧ n.length ≤ 100 ∧ n.toList ∉ clusterPattern
  | .waitTimeout => ¬ (1 ≤ s.waitTimeout ∧ s.waitTimeout ≤ 7200)
  | .pollInterval => ¬ (1 ≤ s.pollInterval ∧ s.pollInterval ≤ 300)
  | .intervalExceedsTimeout =>
    (1 ≤ s.pollInterval ∧ s.pollInterval ≤ 300) ∧ s.waitTimeout < s.pollInterval
  | .listChunk => ¬ (1 ≤ s.listChunk ∧ s.listChunk ≤ 100)
  | .noRegions => s.regions = []
  | .badListed r => r.toList ∉ regionPattern
  | .concurrency => s.maxConcurrency < 1
  | .logLevel l => Text.upper l ∉ Level.ranks.map Prod.fst

instance (s : Settings) : DecidablePred (Violated s) := fun i => by
  cases i <;> unfold Violated <;> infer_instance

/-! ## The check -/

/-- The complaints there is ground for among some. -/
def among (s : Settings) (grounds : List Issue) : List Issue :=
  grounds.filter fun i => decide (s.Violated i)

theorem among_nil : s.among [] = [] := rfl

theorem among_cons {i : Issue} {grounds : List Issue} :
    s.among (i :: grounds) = (if s.Violated i then [i] else []) ++ s.among grounds := by
  rw [among, List.filter_cons, apply_ite (· ++ s.among grounds)]
  simp only [decide_eq_true_eq]
  rfl

theorem among_append {first second : List Issue} :
    s.among (first ++ second) = s.among first ++ s.among second := List.filter_append ..

theorem regionIssues_eq : s.regionIssues = s.among [.noRegion, .badRegion s.region] := by
  simp only [regionIssues, among_cons, among_nil, Violated, String.isEmpty_iff, isRegion_iff]
  grind

theorem nameIssues_eq : s.nameIssues = s.among [.longName, .badName s.clusterName] := by
  have empty : s.clusterName = "" → s.clusterName.length = 0 := fun missing => by rw [missing]; rfl
  simp only [nameIssues, maxNameLength, among_cons, among_nil, Violated, String.isEmpty_iff,
    isClusterName_iff]
  grind

theorem timeIssues_eq :
    s.timeIssues = s.among [.waitTimeout, .pollInterval, .intervalExceedsTimeout] := by
  simp only [timeIssues, among_cons, among_nil, Violated]
  grind

theorem listingIssues_eq :
    s.listingIssues
      = s.among ([Issue.listChunk, Issue.noRegions] ++ s.regions.map Issue.badListed
        ++ [Issue.concurrency]) := by
  have listed : (s.regions.filter fun r => !isRegion r).map .badListed
      = s.among (s.regions.map .badListed) := by
    rw [among, List.filter_map]
    refine congrArg (List.map _) (List.filter_congr fun r _ => ?_)
    rw [Bool.eq_iff_iff, Bool.not_eq_true', ← Bool.not_eq_true, isRegion_iff]
    exact decide_eq_true_iff.symm
  rw [listingIssues, listed]
  simp only [among_append, among_cons, among_nil, Violated, List.isEmpty_iff]
  grind

theorem levelRank?_isSome : s.levelRank?.isSome = true
    ↔ Text.upper s.logLevel ∈ Level.ranks.map Prod.fst := by
  rw [levelRank?, Level.rankOf?, Option.isSome_iff_ne_none, ne_eq, List.lookup_eq_none_iff]
  simp only [bne_iff_ne, ne_eq, not_forall, not_not, exists_prop, List.mem_map,
    @eq_comm _ (Text.upper s.logLevel)]

/-- What is told of settings are the complaints there is ground for, each in its place. -/
theorem issues_eq : s.issues = s.among s.grounds := by
  have level : (if s.levelRank?.isSome then [] else [.logLevel s.logLevel])
      = s.among [.logLevel s.logLevel] := by
    simp only [levelRank?_isSome, among_cons, among_nil, Violated]
    grind
  have order : s.grounds = [Issue.noRegion, Issue.badRegion s.region]
      ++ [Issue.longName, Issue.badName s.clusterName]
      ++ [Issue.waitTimeout, Issue.pollInterval, Issue.intervalExceedsTimeout]
      ++ ([Issue.listChunk, Issue.noRegions] ++ s.regions.map Issue.badListed
        ++ [Issue.concurrency])
      ++ [Issue.logLevel s.logLevel] := by
    simp [grounds]
  rw [issues, regionIssues_eq, nameIssues_eq, timeIssues_eq, listingIssues_eq, level, order]
  simp only [among_append]

theorem valid_of_unviolated (fine : ∀ i ∈ s.grounds, ¬ s.Violated i) : s.Valid := by
  have pollInterval : 1 ≤ s.pollInterval ∧ s.pollInterval ≤ 300 :=
    not_not.1 (fine .pollInterval (by simp [grounds]))
  have short : s.clusterName.length ≤ 100 := not_lt.1 (fine .longName (by simp [grounds]))
  constructor
  case region =>
    by_contra invalid
    have missing := fine .noRegion (by simp [grounds])
    exact fine (.badRegion s.region) (by simp [grounds]) ⟨missing, invalid⟩
  case clusterName =>
    refine or_iff_not_imp_left.2 fun given => ⟨short, ?_⟩
    by_contra invalid
    exact fine (.badName s.clusterName) (by simp [grounds]) ⟨given, short, invalid⟩
  case withinTimeout =>
    refine not_lt.1 fun late => ?_
    exact fine .intervalExceedsTimeout (by simp [grounds]) ⟨pollInterval, late⟩
  case regions =>
    intro r hr
    by_contra invalid
    exact fine (.badListed r) (by simp [grounds, hr]) invalid
  case waitTimeout => exact not_not.1 (fine .waitTimeout (by simp [grounds]))
  case pollInterval => exact pollInterval
  case listChunk => exact not_not.1 (fine .listChunk (by simp [grounds]))
  case someRegion => exact fine .noRegions (by simp [grounds])
  case maxConcurrency => exact not_lt.1 (fine .concurrency (by simp [grounds]))
  case logLevel => exact not_not.1 (fine (.logLevel s.logLevel) (by simp [grounds]))

theorem given_of_isRegion {r : String} (valid : isRegion r = true) : ¬ r.isEmpty := by
  intro empty
  rw [String.isEmpty_iff.1 empty] at valid
  exact absurd valid (by decide)

theorem Valid.unviolated (valid : s.Valid) {i : Issue} (hi : i ∈ s.grounds) : ¬ s.Violated i := by
  intro bad
  cases i with
  | noRegion => exact given_of_isRegion (isRegion_iff.2 valid.region) (String.isEmpty_iff.2 bad)
  | badRegion r =>
    obtain rfl : r = s.region := by simpa [grounds] using hi
    exact bad.2 valid.region
  | longName =>
    obtain missing | ⟨short, -⟩ := valid.clusterName
    · simp [Violated, missing] at bad
    · exact absurd bad (not_lt.2 short)
  | badName n =>
    obtain rfl : n = s.clusterName := by simpa [grounds] using hi
    obtain missing | ⟨-, spelled⟩ := valid.clusterName
    · exact bad.1 missing
    · exact bad.2.2 spelled
  | waitTimeout => exact bad valid.waitTimeout
  | pollInterval => exact bad valid.pollInterval
  | intervalExceedsTimeout => exact absurd bad.2 (not_lt.2 valid.withinTimeout)
  | listChunk => exact bad valid.listChunk
  | noRegions => exact valid.someRegion bad
  | badListed r => exact bad (valid.regions r (by simpa [grounds] using hi))
  | concurrency => exact absurd bad (not_lt.2 valid.maxConcurrency)
  | logLevel l =>
    obtain rfl : l = s.logLevel := by simpa [grounds] using hi
    exact bad valid.logLevel

/-- Settings are valid if there is no ground for a complaint. -/
theorem among_grounds_eq_nil : s.among s.grounds = [] ↔ s.Valid := by
  simp only [among, List.filter_eq_nil_iff, decide_eq_true_eq]
  exact ⟨valid_of_unviolated, fun valid _ hi => valid.unviolated hi⟩

/-- The settings break no rule. -/
def Checked (s : Settings) : Prop := s.check = .ok s

theorem checked_iff : s.Checked ↔ s.issues = [] := by
  refine ⟨fun h => (issues_of_check h).2, fun unbroken => ?_⟩
  rw [Checked, check, unbroken]

instance : Decidable s.Checked := decidable_of_iff _ checked_iff.symm

theorem checked_iff_valid : s.Checked ↔ s.Valid := by
  rw [checked_iff, issues_eq, among_grounds_eq_nil]

theorem Checked.valid (h : s.Checked) : s.Valid := checked_iff_valid.1 h

instance (s : Settings) : Decidable s.Valid := decidable_of_iff _ checked_iff_valid

/-- What becomes of settings: valid ones are taken, all others are refused with every complaint
there is ground for. -/
inductive Verdict (s : Settings) : Except Error Settings → Prop
  | accepted : s.Valid → Verdict s (.ok s)
  | refused : ¬ s.Valid → Verdict s (.error (.invalid (s.among s.grounds)))

theorem verdict_check (s : Settings) : Verdict s s.check := by
  by_cases valid : s.Valid
  · rw [checked_iff_valid.2 valid]
    exact .accepted valid
  · have broken : s.issues ≠ [] := fun none => valid (checked_iff.2 none).valid
    have refused : s.check = .error (.invalid s.issues) := by
      unfold check
      split
      case h_1 none => exact absurd none broken
      case h_2 => rfl
    rw [refused, issues_eq]
    exact .refused valid

theorem check_eq_iff {r : Except Error Settings} : s.check = r ↔ Verdict s r := by
  refine ⟨fun same => same ▸ verdict_check s, fun verdict => ?_⟩
  have made := verdict_check s
  generalize s.check = answer at made
  cases made with
  | accepted valid =>
    cases verdict with
    | accepted => rfl
    | refused invalid => exact absurd valid invalid
  | refused invalid =>
    cases verdict with
    | accepted valid => exact absurd valid invalid
    | refused => rfl

theorem intercalate_lines {sep : String} {parts : List String} (some : parts ≠ []) :
    sep ++ sep.intercalate parts = String.join (parts.map fun part => sep ++ part) := by
  induction parts with
  | nil => exact absurd rfl some
  | cons part rest ih =>
    rw [List.map_cons, String.join_cons]
    cases rest with
    | nil => simp
    | cons next rest =>
      rw [← ih (List.cons_ne_nil _ _), String.intercalate_cons_cons]
      simp only [String.append_assoc]

/-- The wording of a refusal has a line for each complaint. -/
theorem message_invalid {broken : List Issue} (some : broken ≠ []) :
    (Error.invalid broken).message
      = "Configuration validation failed:"
        ++ String.join (broken.map fun i => "\n  - " ++ i.message) := by
  have parts : broken.map Issue.message ≠ [] := fun none => some (List.map_eq_nil_iff.1 none)
  calc (Error.invalid broken).message
      = "Configuration validation failed:"
        ++ ("\n  - " ++ "\n  - ".intercalate (broken.map Issue.message)) := by
        rw [← String.append_assoc]
        rfl
    _ = _ := by rw [intercalate_lines parts, List.map_map]; rfl

/-! ## Overrides -/

/-- The settings after an override was tried: those with the fields replaced, if they are valid,
and otherwise the same as before. -/
def retain (last : Settings) (o : Overrides) : Settings :=
  match last.withOverrides o with
  | .ok t => t
  | .error _ => last

/-- The settings after overrides were tried one after the other. -/
def retained (s : Settings) (os : List Overrides) : Settings := os.foldl retain s

theorem retain_eq (last : Settings) (o : Overrides) :
    last.retain o = if (last.replace o).Valid then last.replace o else last := by
  have tried : Verdict (last.replace o) (last.withOverrides o) := verdict_check _
  unfold retain
  generalize last.withOverrides o = answer at tried
  cases tried with
  | accepted valid => rw [if_pos valid]
  | refused invalid => rw [if_neg invalid]

theorem Valid.retain (valid : s.Valid) (o : Overrides) : (s.retain o).Valid := by
  rw [retain_eq]
  split
  case isTrue replaced => exact replaced
  case isFalse => exact valid

theorem Valid.retained (valid : s.Valid) (os : List Overrides) : (s.retained os).Valid := by
  induction os generalizing s with
  | nil => exact valid
  | cons o os ih => exact ih (valid.retain o)

/-- **Settings are taken exactly if every rule holds**, and they are then taken as they are; all
others are refused at once with a line for each rule that is broken, and for each listed region that
is none, in a fixed order. Whatever overrides are tried one after the other on settings that were
taken, the last that were taken keep every rule; the next override is judged on them, and if it is
refused they stay. -/
theorem check_exact (s : Settings) :
    (∀ r, s.check = r ↔ Verdict s r) ∧
    (∀ broken, s.check = .error (.invalid broken) →
      (Error.invalid broken).message = "Configuration validation failed:"
        ++ String.join (broken.map fun i => "\n  - " ++ i.message)) ∧
    (s.check = .ok s → ∀ os o,
      (s.retained os).Valid ∧
      (∀ r, (s.retained os).withOverrides o = r ↔ Verdict ((s.retained os).replace o) r) ∧
      s.retained (os ++ [o])
        = if ((s.retained os).replace o).Valid then (s.retained os).replace o
          else s.retained os) := by
  refine ⟨fun r => check_eq_iff, fun broken refused => message_invalid ?_, fun taken os o => ?_⟩
  · have verdict := check_eq_iff.1 refused
    cases verdict with
    | refused invalid => exact fun none => invalid (among_grounds_eq_nil.1 none)
  · refine ⟨(Checked.valid taken).retained os, fun r => check_eq_iff, ?_⟩
    rw [← retain_eq, retained, List.foldl_append]
    rfl

/-- An override that puts the interval above the timeout is refused, a smaller interval is taken,
and a third override is judged on what that left. -/
theorem check_exact_of_three :
    let s := forRegion "us-west-2"
    let os : List Overrides := [{ waitTimeout := some 10 }, { pollInterval := some 5 }]
    let o : Overrides := { waitTimeout := some 10, listChunk := some 0 }
    let last := { s with pollInterval := 5 }
    s.check = .ok s ∧ s.retained os = last ∧ last.Valid ∧
      Verdict (last.replace o) (.error (.invalid [.listChunk])) ∧
      s.retained (os ++ [o]) = last := by
  intro s os o last
  have taken : s.check = .ok s := by decide +kernel
  have reached : s.retained os = last := by decide +kernel
  have refused : last.withOverrides o = .error (.invalid [.listChunk]) := by decide +kernel
  obtain ⟨-, -, steps⟩ := check_exact s
  obtain ⟨valid, judged, next⟩ := steps taken os o
  rw [reached] at valid judged next
  have invalid : ¬ (last.replace o).Valid := by decide +kernel
  rw [if_neg invalid] at next
  exact ⟨taken, reached, valid, (judged _).1 refused, next⟩

end ClusterOps.Settings

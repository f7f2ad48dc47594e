import ClusterOps.Facility
import Mathlib.Data.List.Induction
import Mathlib.Data.List.Nodup

/-
An update names every facility of the catalog exactly once. What a declaration stands
for is said without the expansion (`StandsFor`): the catalog, itself, or a complaint
about its first unknown name. Whatever it stands for names nothing that the catalog
lacks, and stands for itself.

The names to enable are those that are declared, in the order in which they occur for
the first time. That goes by induction on the declaration from its end: a further name
changes no place at which a name occurs first, and it is kept exactly if it is new
(`distinct_concat`). The names to disable are what is left of the catalog, so that both
together are the catalog in another order (`expand_covers`).
-/

namespace ClusterOps.Facility

variable {declared desired catalog names : List String}

/-! ## Expansion -/

/-- What a declaration stands for. -/
inductive StandsFor (declared catalog : List String) : Except Unknown (List String) → Prop
  | whole {w : String} : w ∈ declared → w ∈ wildcards → StandsFor declared catalog (.ok catalog)
  | itself : (∀ n ∈ declared, n ∉ wildcards) → (∀ n ∈ declared, n ∈ catalog) →
      StandsFor declared catalog (.ok declared)
  | unknown {known rest : List String} {n : String} : (∀ m ∈ declared, m ∉ wildcards) →
      declared = known ++ n :: rest → (∀ m ∈ known, m ∈ catalog) → n ∉ catalog →
      StandsFor declared catalog (.error ⟨n⟩)

/-- A wildcard makes the whole catalog of a declaration. -/
theorem expand_of_wildcard {w : String} (hw : w ∈ declared) (listed : w ∈ wildcards) :
    expand declared catalog = .ok catalog := by
  have wild : declared.any wildcards.contains = true :=
    List.any_eq_true.2 ⟨w, hw, List.contains_iff_mem.2 listed⟩
  have complete : catalog.find? (fun n => !catalog.contains n) = none := by simp
  simp only [expand, if_pos wild, complete]

/-- Without a wildcard all depends on the first unknown name. -/
theorem expand_of_tame (tame : ∀ n ∈ declared, n ∉ wildcards) :
    expand declared catalog
      = (declared.find? fun n => !catalog.contains n).elim (.ok declared) fun n => .error ⟨n⟩ := by
  have noWildcard : ¬ declared.any wildcards.contains = true := by simpa using tame
  simp only [expand, if_neg noWildcard]
  cases declared.find? fun n => !catalog.contains n <;> rfl

theorem standsFor_expand (declared catalog : List String) :
    StandsFor declared catalog (expand declared catalog) := by
  by_cases wild : ∃ w ∈ declared, w ∈ wildcards
  · obtain ⟨w, hw, listed⟩ := wild
    rw [expand_of_wildcard hw listed]
    exact .whole hw listed
  · have tame : ∀ n ∈ declared, n ∉ wildcards := fun n hn listed => wild ⟨n, hn, listed⟩
    rw [expand_of_tame tame]
    cases first : declared.find? fun n => !catalog.contains n with
    | none => exact .itself tame (by simpa using first)
    | some n =>
      obtain ⟨unlisted, known, rest, place, all⟩ := List.find?_eq_some_iff_append.1 first
      exact .unknown tame place (by simpa using all) (by simpa using unlisted)

theorem expand_eq_iff {r : Except Unknown (List String)} :
    expand declared catalog = r ↔ StandsFor declared catalog r := by
  refine ⟨fun h => h ▸ standsFor_expand declared catalog, fun h => ?_⟩
  cases h with
  | whole hw listed => exact expand_of_wildcard hw listed
  | itself tame all =>
    have first : declared.find? (fun n => !catalog.contains n) = none := by simpa using all
    rw [expand_of_tame tame, first]
    rfl
  | @unknown known rest n tame place all unlisted =>
    have first : declared.find? (fun n => !catalog.contains n) = some n :=
      List.find?_eq_some_iff_append.2
        ⟨by simpa using unlisted, known, rest, place, by simpa using all⟩
    rw [expand_of_tame tame, first]
    rfl

/-- An expanded declaration names nothing that the catalog lacks. -/
theorem mem_of_expand (h : expand declared catalog = .ok desired) {n : String}
    (hn : n ∈ desired) : n ∈ catalog := by
  cases expand_eq_iff.1 h with
  | whole => exact hn
  | itself _ all => exact all n hn

/-- An expanded declaration stays as it is when it is expanded again. -/
theorem expand_expanded (h : expand declared catalog = .ok desired) :
    expand desired catalog = .ok desired := by
  cases expand_eq_iff.1 h with
  | itself => exact h
  | whole =>
    -- A catalog may itself list a wildcard, and then stands for the catalog all the same.
    refine expand_eq_iff.2 ?_
    by_cases wild : ∃ w ∈ desired, w ∈ wildcards
    · obtain ⟨w, hw, listed⟩ := wild
      exact .whole hw listed
    · exact .itself (fun n hn listed => wild ⟨n, hn, listed⟩) fun _ hn => hn

/-! ## The two halves of an update -/

/-- The names of a list, in the order in which they occur for the first time. -/
structure FirstOccurrences (names found : List String) : Prop where
  members : ∀ n, n ∈ found ↔ n ∈ names
  order : found.Pairwise fun m n => names.idxOf m < names.idxOf n

theorem FirstOccurrences.nodup {found : List String} (h : FirstOccurrences names found) :
    found.Nodup :=
  h.order.imp fun {m n} before same => by
    subst same
    exact Nat.lt_irrefl _ before

theorem distinct_concat (names : List String) (n : String) :
    distinct (names ++ [n])
      = if n ∈ distinct names then distinct names else distinct names ++ [n] := by
  simp [distinct, List.foldl_append]

theorem firstOccurrences_distinct (names : List String) :
    FirstOccurrences names (distinct names) := by
  refine ⟨fun n => mem_distinct, ?_⟩
  induction names using List.reverseRecOn with
  | nil => exact .nil
  | append_singleton names last ih =>
    have place : ∀ {n}, n ∈ distinct names → (names ++ [last]).idxOf n = names.idxOf n :=
      fun hn => List.idxOf_append_of_mem (mem_distinct.1 hn)
    have kept : (distinct names).Pairwise fun m n =>
        (names ++ [last]).idxOf m < (names ++ [last]).idxOf n :=
      ih.imp_of_mem fun hm hn before => by rwa [place hm, place hn]
    rw [distinct_concat]
    split
    case isTrue => exact kept
    case isFalse new =>
      have fresh : last ∉ names := fun h => new (mem_distinct.2 h)
      refine List.pairwise_append.2 ⟨kept, List.pairwise_singleton .., fun m hm n hn => ?_⟩
      obtain rfl := List.mem_singleton.1 hn
      calc (names ++ [n]).idxOf m = names.idxOf m := place hm
        _ < names.length := List.idxOf_lt_length_of_mem (mem_distinct.1 hm)
        _ = (names ++ [n]).idxOf n := by simp [List.idxOf_append_of_notMem fresh]

/-- An update is one for what is desired: it enables that in its order, disables what is left of
the catalog in the order of the catalog, and so names every facility once. -/
structure Diff.Covers (d : Diff) (desired catalog : List String) : Prop where
  enables : FirstOccurrences desired d.toEnable
  disables : ∀ n, n ∈ d.toDisable ↔ n ∈ catalog ∧ n ∉ desired
  order : d.toDisable.Sublist catalog
  once : (d.toEnable ++ d.toDisable).Perm catalog

theorem mem_toDisable_diff {observed : Observed} {n : String} :
    n ∈ (diff observed desired catalog).toDisable ↔ n ∈ catalog ∧ n ∉ desired := by
  simp only [diff, mem_others, mem_distinct]

theorem covers_diff (unique : catalog.Nodup) (listed : ∀ n ∈ desired, n ∈ catalog)
    (observed : Observed) : (diff observed desired catalog).Covers desired catalog := by
  have enables := firstOccurrences_distinct desired
  refine ⟨enables, fun n => mem_toDisable_diff, List.filter_sublist, ?_⟩
  have apart : (distinct desired).Disjoint (others (distinct desired) catalog) :=
    fun n hn hk => (mem_others.1 hk).2 hn
  have nodup : (distinct desired ++ others (distinct desired) catalog).Nodup :=
    enables.nodup.append (unique.filter _) apart
  refine (List.perm_ext_iff_of_nodup nodup unique).2 fun n => ?_
  rw [List.mem_append, mem_others, mem_distinct]
  constructor
  · rintro (hn | ⟨hn, -⟩)
    · exact listed n hn
    · exact hn
  · intro hn
    by_cases wanted : n ∈ desired
    · exact .inl wanted
    · exact .inr ⟨hn, wanted⟩

/-- Whether an update is needed depends on the sets of the enabled and of the desired facilities
only. -/
theorem changed_diff_congr {observed observed' : Observed} {desired' catalog' : List String}
    (enabled : ∀ n, n ∈ observed'.enabled ↔ n ∈ observed.enabled)
    (wanted : ∀ n, n ∈ desired' ↔ n ∈ desired) :
    (diff observed' desired' catalog').changed = (diff observed desired catalog).changed := by
  rw [Bool.eq_iff_iff, changed_diff_iff, changed_diff_iff]
  simp only [enabled, wanted]

/-- **An update names every facility of the catalog exactly once.** A declaration expands to what
it stands for and to nothing else. What it expands to is not changed by expanding it again; its
update enables it in the order of the declaration and disables the rest in the order of the catalog;
and the update is needed exactly if what is enabled is not what is desired, whatever the order, the
repetitions and the facilities that are observed to be off. -/
theorem expand_covers {catalog : List String} (unique : catalog.Nodup) (declared : List String)
    (observed : Observed) :
    (∀ r, expand declared catalog = r ↔ StandsFor declared catalog r) ∧
    ∀ desired, expand declared catalog = .ok desired →
      expand desired catalog = .ok desired ∧
      (diff observed desired catalog).Covers desired catalog ∧
      ((diff observed desired catalog).changed = true ↔
        ¬ ∀ n, n ∈ observed.enabled ↔ n ∈ desired) ∧
      ∀ observed' desired', (∀ n, n ∈ observed'.enabled ↔ n ∈ observed.enabled) →
        (∀ n, n ∈ desired' ↔ n ∈ desired) →
        (diff observed' desired' catalog).changed = (diff observed desired catalog).changed := by
  refine ⟨fun r => expand_eq_iff, fun desired expands => ?_⟩
  refine ⟨expand_expanded expands, covers_diff unique (fun n => mem_of_expand expands) observed,
    changed_diff_iff, fun observed' desired' => changed_diff_congr⟩

/-- A catalog with a wildcard in it, and a declaration that names two facilities several times. -/
theorem expand_covers_repeated :
    let catalog := ["audit", "*", "api", "scheduler"]
    let declared := ["api", "audit", "api", "audit"]
    catalog.Nodup ∧ expand declared catalog = .ok declared ∧
      (diff ⟨["api"], ["api"]⟩ declared catalog).Covers declared catalog ∧
      (diff ⟨["api"], ["api"]⟩ declared catalog).toEnable = ["api", "audit"] ∧
      (diff ⟨["api"], ["api"]⟩ declared catalog).toDisable = ["*", "scheduler"] := by
  intro catalog declared
  have unique : catalog.Nodup := by decide
  have expands : expand declared catalog = .ok declared := by rfl
  obtain ⟨-, covers, -⟩ := (expand_covers unique declared ⟨["api"], ["api"]⟩).2 declared expands
  exact ⟨unique, expands, covers, by decide, by decide⟩

end ClusterOps.Facility

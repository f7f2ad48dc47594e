import ClusterOps.Facility.Flag
import Mathlib.Data.List.Nodup
import Mathlib.Data.List.Sort

/-
What flags ask for. Filling goes through the catalog and adds each facility that no flag
is against and that is not there yet; in a catalog without repetitions, that is the rest
of the catalog as it stands (`fill_eq`). So the choice is in two parts, what the flags
name and, where all is asked for, what no flag mentions (`ofFlags_eq`).

A choice that follows the flags is described by its members and their order (`Follows`).
Both together leave no room: the choice that is made is the only one
(`ofFlags_eq_iff`).
-/

namespace ClusterOps.Facility

variable {all : Option Bool} {flag : String → Option Bool} {catalog names chosen : List String}

/-! ## Filling -/

/-- Filling adds, in the order of the catalog, what no flag is against and what is not there. -/
theorem fill_eq (unique : catalog.Nodup) :
    fill flag names catalog
      = names ++ catalog.filter fun n => flag n != some false && !names.contains n := by
  induction catalog generalizing names with
  | nil => simp [fill]
  | cons a rest ih =>
    obtain ⟨fresh, unique⟩ := List.nodup_cons.1 unique
    rw [fill, List.filter_cons, ih unique]
    by_cases skip : flag a = some false ∨ a ∈ names
    · have passed : ¬ (flag a != some false && !names.contains a) = true := by simp; tauto
      have kept : (flag a == some false || names.contains a) = true := by simpa using skip
      rw [if_pos kept, if_neg passed]
    · obtain ⟨open_, absent⟩ := not_or.1 skip
      have taken : (flag a != some false && !names.contains a) = true := by
        simp [open_, absent]
      have added : ¬ (flag a == some false || names.contains a) = true := by
        simp [open_, absent]
      -- No later facility is the one that was added, so its being there changes nothing for them.
      have later : ∀ n ∈ rest,
          (flag n != some false && !(names ++ [a]).contains n)
            = (flag n != some false && !names.contains n) := by
        intro n hn
        have other : n ≠ a := fun same => fresh (same ▸ hn)
        simp [other]
      rw [if_neg added, if_pos taken, List.filter_congr later, List.append_assoc,
        List.singleton_append]

theorem mem_flagged {n : String} :
    n ∈ flagged flag catalog ↔ n ∈ catalog ∧ flag n = some true := by
  simp [flagged]

/-- Beside what the flags name, filling adds what no flag mentions. -/
theorem fill_flagged (unique : catalog.Nodup) :
    fill flag (flagged flag catalog) catalog
      = flagged flag catalog ++ catalog.filter fun n => flag n == none := by
  rw [fill_eq unique]
  congr 1
  refine List.filter_congr fun n hn => ?_
  have named : n ∈ flagged flag catalog ↔ flag n = some true := by simp [mem_flagged, hn]
  cases given : flag n with
  | none => simp [named, given]
  | some on => cases on <;> simp [named, given]

/-! ## What is taken -/

/-- All is asked for, or nothing is said of all and no flag names a facility of the catalog. -/
def TakesAll (all : Option Bool) (flag : String → Option Bool) (catalog : List String) : Prop :=
  all = some true ∨ all = none ∧ ∀ n ∈ catalog, flag n ≠ some true

instance : Decidable (TakesAll all flag catalog) := inferInstanceAs (Decidable (_ ∨ _))

theorem takesAll_iff :
    all.getD (flagged flag catalog).isEmpty = true ↔ TakesAll all flag catalog := by
  have unnamed : (flagged flag catalog).isEmpty = true ↔ ∀ n ∈ catalog, flag n ≠ some true := by
    simp [flagged, List.isEmpty_iff]
  cases all with
  | none => simp [TakesAll, unnamed]
  | some on => simp [TakesAll]

/-- The two parts of a choice. -/
theorem ofFlags_eq (unique : catalog.Nodup) :
    ofFlags all flag catalog
      = flagged flag catalog
        ++ if TakesAll all flag catalog then catalog.filter (fun n => flag n == none) else [] := by
  unfold ofFlags
  by_cases takes : TakesAll all flag catalog
  · rw [if_pos (takesAll_iff.2 takes), if_pos takes, fill_flagged unique]
  · rw [if_neg (mt takesAll_iff.1 takes), if_neg takes, List.append_nil]

/-! ## Following the flags -/

/-- Facilities that a flag names stand before the others, and otherwise the order is that of the
catalog. -/
def Before (flag : String → Option Bool) (catalog : List String) (m n : String) : Prop :=
  flag m = some true ∧ flag n ≠ some true
    ∨ (flag m = some true ↔ flag n = some true) ∧ catalog.idxOf m < catalog.idxOf n

/-- A choice takes of the catalog, once each, what a flag names and, where all is taken, what no
flag mentions, and it is in its order. -/
structure Follows (all : Option Bool) (flag : String → Option Bool) (catalog chosen : List String) :
    Prop where
  once : chosen.Nodup
  known : ∀ n ∈ chosen, n ∈ catalog
  taken : ∀ n ∈ catalog,
    n ∈ chosen ↔ flag n = some true ∨ flag n = none ∧ TakesAll all flag catalog
  refused : ∀ n ∈ chosen, flag n ≠ some false
  order : chosen.Pairwise (Before flag catalog)

instance : Std.Irrefl (Before flag catalog) :=
  ⟨fun _ before => before.elim (fun h => h.2 h.1) fun h => Nat.lt_irrefl _ h.2⟩

instance : Std.Antisymm (Before flag catalog) := by
  refine ⟨fun m n before after => ?_⟩
  rcases before with ⟨on, off⟩ | ⟨alike, before⟩ <;> rcases after with ⟨on', off'⟩ | ⟨alike', after⟩
  · exact absurd on' off
  · exact absurd (alike'.2 on) off
  · exact absurd (alike.2 on') off'
  · exact absurd (before.trans after) (Nat.lt_irrefl _)

theorem pairwise_idxOf (unique : catalog.Nodup) :
    catalog.Pairwise fun m n => catalog.idxOf m < catalog.idxOf n := by
  refine List.pairwise_iff_getElem.2 fun i j hi hj before => ?_
  rw [unique.idxOf_getElem i hi, unique.idxOf_getElem j hj]
  exact before

theorem pairwise_before (unique : catalog.Nodup) {part : List String} (sub : part.Sublist catalog)
    (alike : ∀ m ∈ part, ∀ n ∈ part, (flag m = some true ↔ flag n = some true)) :
    part.Pairwise (Before flag catalog) :=
  ((pairwise_idxOf unique).sublist sub).imp_of_mem
    fun {m n} hm hn before => .inr ⟨alike m hm n hn, before⟩

theorem mem_ofFlags (unique : catalog.Nodup) {n : String} :
    n ∈ ofFlags all flag catalog ↔
      n ∈ catalog ∧ (flag n = some true ∨ flag n = none ∧ TakesAll all flag catalog) := by
  rw [ofFlags_eq unique, List.mem_append, mem_flagged]
  split
  case isTrue takes =>
    simp only [List.mem_filter, beq_iff_eq, takes, and_true]
    exact and_or_left.symm
  case isFalse limited => simp [limited]

/-- The choice that is made is in order: its two parts are, and the first is what flags name. -/
theorem ofFlags_order (unique : catalog.Nodup) :
    (ofFlags all flag catalog).Pairwise (Before flag catalog) := by
  have named : (flagged flag catalog).Pairwise (Before flag catalog) :=
    pairwise_before unique List.filter_sublist fun m hm n hn =>
      iff_of_true (mem_flagged.1 hm).2 (mem_flagged.1 hn).2
  rw [ofFlags_eq unique]
  split
  case isFalse => rwa [List.append_nil]
  case isTrue =>
    have silent : ∀ n ∈ catalog.filter (fun n => flag n == none), flag n ≠ some true := by
      intro n hn
      have unmentioned : flag n = none := by simpa using (List.mem_filter.1 hn).2
      simp [unmentioned]
    have unnamed : (catalog.filter fun n => flag n == none).Pairwise (Before flag catalog) :=
      pairwise_before unique List.filter_sublist fun m hm n hn =>
        iff_of_false (silent m hm) (silent n hn)
    exact List.pairwise_append.2 ⟨named, unnamed, fun m hm n hn =>
      .inl ⟨(mem_flagged.1 hm).2, silent n hn⟩⟩

theorem follows_ofFlags (unique : catalog.Nodup) :
    Follows all flag catalog (ofFlags all flag catalog) where
  once := (ofFlags_order unique).nodup
  known n hn := ((mem_ofFlags unique).1 hn).1
  taken n hn := (mem_ofFlags unique).trans (and_iff_right hn)
  refused n hn off := by
    obtain ⟨-, on | ⟨unmentioned, -⟩⟩ := (mem_ofFlags unique).1 hn
    · exact absurd (off.symm.trans on) (by decide)
    · exact absurd (off.symm.trans unmentioned) (by decide)
  order := ofFlags_order unique

theorem Follows.mem_iff {n : String} (h : Follows all flag catalog chosen) :
    n ∈ chosen ↔
      n ∈ catalog ∧ (flag n = some true ∨ flag n = none ∧ TakesAll all flag catalog) :=
  ⟨fun hn => ⟨h.known n hn, (h.taken n (h.known n hn)).1 hn⟩, fun ⟨hn, asked⟩ =>
    (h.taken n hn).2 asked⟩

/-- **What flags ask for.** In a catalog without repetitions there is exactly one choice that
follows the flags, and it is the one that is made: a facility is in it if and only if a flag names
it, or no flag mentions it and all is asked for or, nothing being said of all, no facility is named;
those that flags name come first, each part is in the order of the catalog, and nothing else is in
it, in particular nothing that a flag is against. -/
theorem ofFlags_eq_iff (unique : catalog.Nodup) (all : Option Bool)
    (flag : String → Option Bool) (chosen : List String) :
    ofFlags all flag catalog = chosen ↔ Follows all flag catalog chosen := by
  refine ⟨fun same => same ▸ follows_ofFlags unique, fun follows => ?_⟩
  exact (ofFlags_order unique).eq_of_mem_iff follows.order fun n =>
    (mem_ofFlags unique).trans follows.mem_iff.symm

/-- All is asked for, one facility is named and one excluded. -/
theorem ofFlags_eq_iff_of_both :
    let flag := fun n => [("scheduler", true), ("api", false)].lookup n
    supported.Nodup ∧
      ofFlags (some true) flag supported
        = ["scheduler", "audit", "authenticator", "controllerManager"] ∧
      Follows (some true) flag supported
        ["scheduler", "audit", "authenticator", "controllerManager"] := by
  intro flag
  have unique : supported.Nodup := by decide
  have made : ofFlags (some true) flag supported
      = ["scheduler", "audit", "authenticator", "controllerManager"] := by decide
  exact ⟨unique, made, (ofFlags_eq_iff unique _ _ _).1 made⟩

end ClusterOps.Facility

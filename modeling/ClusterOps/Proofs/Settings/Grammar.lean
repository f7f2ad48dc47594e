import ClusterOps.Proofs.Text.Run
import ClusterOps.Settings.Grammar
import Mathlib.Computability.Language
import Mathlib.Data.List.TakeWhile

/-
The forms of names as languages. The tests for regions and for names of clusters read a
word from left to right without going back; the languages are put together from their
parts (`regionNames`, `clusterNames`). A run of characters followed by a word that cannot
go on with it is read by dropping the run (`mem_manyOf_mul`, `mem_someOf_mul`), and that
settles each part of a test by the part of the language it is for.

What the tests take is more than the names themselves: a line feed after the name, and
for regions the digits of any script (`isRegion_iff`, `isClusterName_iff`).
-/

namespace ClusterOps.Settings

variable {p : Char → Bool} {c : Char} {cs : List Char} {l : Language Char}

/-! ## Parts of a word -/

/-- One character of a kind. -/
def oneOf (p : Char → Bool) : Language Char := {cs | ∃ c, cs = [c] ∧ p c = true}

/-- Any number of characters of a kind. -/
def manyOf (p : Char → Bool) : Language Char := {cs | ∀ c ∈ cs, p c = true}

/-- One or more characters of a kind. -/
def someOf (p : Char → Bool) : Language Char := oneOf p * manyOf p

/-- The word itself. -/
def spelled (word : String) : Language Char := {word.toList}

/-- What may follow a name: nothing, or a line feed. -/
def lineEnd : Language Char := 1 + spelled "\n"

theorem mem_spelled {word : String} : cs ∈ spelled word ↔ cs = word.toList := Iff.rfl

theorem mem_spelled_mul {word : String} :
    cs ∈ spelled word * l ↔ ∃ rest ∈ l, cs = word.toList ++ rest := by
  rw [Language.mem_mul]
  constructor
  · rintro ⟨_, rfl, rest, hr, rfl⟩
    exact ⟨rest, hr, rfl⟩
  · rintro ⟨rest, hr, rfl⟩
    exact ⟨_, rfl, rest, hr, rfl⟩

theorem cons_mem_oneOf_mul : c :: cs ∈ oneOf p * l ↔ p c = true ∧ cs ∈ l := by
  rw [Language.mem_mul]
  constructor
  · rintro ⟨_, ⟨d, rfl, hd⟩, rest, hr, same⟩
    obtain ⟨rfl, rfl⟩ := List.cons.inj same
    exact ⟨hd, hr⟩
  · rintro ⟨hc, hr⟩
    exact ⟨[c], ⟨c, rfl, hc⟩, cs, hr, rfl⟩

theorem nil_notMem_oneOf_mul : [] ∉ oneOf p * l := by
  rw [Language.mem_mul]
  rintro ⟨_, ⟨d, rfl, -⟩, rest, -, same⟩
  cases same

/-- No word of the language begins with a character of the kind. -/
def StopsAt (p : Char → Bool) (l : Language Char) : Prop :=
  ∀ cs ∈ l, ∀ c ∈ cs.head?, p c = false

theorem mem_manyOf_mul (stops : StopsAt p l) : cs ∈ manyOf p * l ↔ cs.dropWhile p ∈ l := by
  rw [Language.mem_mul]
  constructor
  · rintro ⟨run, all, rest, hr, rfl⟩
    rwa [Text.dropWhile_run all (stops rest hr)]
  · intro hr
    exact ⟨cs.takeWhile p, fun c => List.mem_takeWhile_imp, cs.dropWhile p, hr,
      List.takeWhile_append_dropWhile⟩

theorem mem_someOf_mul (stops : StopsAt p l) :
    cs ∈ someOf p * l ↔ cs.head?.any p = true ∧ cs.dropWhile p ∈ l := by
  rw [someOf, mul_assoc]
  cases cs with
  | nil => simp [nil_notMem_oneOf_mul]
  | cons c cs =>
    rw [cons_mem_oneOf_mul, mem_manyOf_mul stops, List.head?_cons, Option.any_some]
    refine and_congr_right fun hc => ?_
    rw [List.dropWhile_cons_of_pos hc]

theorem stopsAt_spelled_mul {word : String} {c : Char} (first : word.toList.head? = some c)
    (other : p c = false) : StopsAt p (spelled word * l) := by
  intro cs hcs d hd
  obtain ⟨rest, -, rfl⟩ := mem_spelled_mul.1 hcs
  rw [List.head?_append, first, Option.some_or] at hd
  exact Option.some.inj hd ▸ other

theorem stopsAt_lineEnd (other : p '\n' = false) : StopsAt p lineEnd := by
  rintro cs (rfl | rfl) d hd
  · cases hd
  · exact Option.some.inj hd ▸ other

theorem isEnd_iff : isEnd cs = true ↔ cs ∈ lineEnd := by
  rw [isEnd, Bool.or_eq_true, List.isEmpty_iff, beq_iff_eq, lineEnd, Language.mem_add,
    Language.mem_one, mem_spelled]
  rfl

/-! ## Regions -/

/-- The names of regions, their number in digits of a kind. -/
def regionNames (digit : Char → Bool) : Language Char :=
  oneOf isSmall * oneOf isSmall * (1 + spelled "-gov") * spelled "-" * someOf isSmall
    * spelled "-" * someOf digit

/-- What is taken for a region. -/
def regionPattern : Language Char := regionNames Text.isDecimalDigit * lineEnd

/-- A place, and what may follow it. -/
def placePattern : Language Char :=
  spelled "-" * (someOf isSmall * (spelled "-" * (someOf Text.isDecimalDigit * lineEnd)))

theorem regionPattern_eq :
    regionPattern
      = oneOf isSmall * (oneOf isSmall * (placePattern + spelled "-gov" * placePattern)) := by
  simp only [regionPattern, regionNames, placePattern, mul_assoc, add_mul, one_mul]

theorem isNumber_iff : isNumber cs = true ↔ cs ∈ someOf Text.isDecimalDigit * lineEnd := by
  rw [isNumber, Bool.and_eq_true, isEnd_iff, mem_someOf_mul (stopsAt_lineEnd (by decide))]

/-- After a hyphen the language goes on with the rest. -/
theorem mem_hyphen_mul : cs ∈ spelled "-" * l ↔ ∃ rest ∈ l, cs = '-' :: rest := mem_spelled_mul

theorem isPlace_iff : isPlace cs = true ↔ cs ∈ placePattern := by
  have stops : StopsAt isSmall (spelled "-" * (someOf Text.isDecimalDigit * lineEnd)) :=
    stopsAt_spelled_mul rfl (by decide)
  rw [placePattern, mem_hyphen_mul]
  unfold isPlace
  split
  case h_2 other =>
    refine iff_of_false Bool.false_ne_true ?_
    rintro ⟨rest, -, rfl⟩
    exact other rest rfl
  case h_1 rest =>
    rw [Bool.and_eq_true]
    trans rest ∈ someOf isSmall * (spelled "-" * (someOf Text.isDecimalDigit * lineEnd))
    · rw [mem_someOf_mul stops, mem_hyphen_mul]
      refine and_congr_right fun _ => ?_
      split
      case h_1 number after =>
        rw [after, isNumber_iff]
        simp
      case h_2 other =>
        refine iff_of_false Bool.false_ne_true ?_
        rintro ⟨number, -, after⟩
        exact other number after
    · simp

theorem isRegion_iff {s : String} : isRegion s = true ↔ s.toList ∈ regionPattern := by
  rw [regionPattern_eq]
  unfold isRegion
  split
  case h_1 a b rest word =>
    rw [word, cons_mem_oneOf_mul, cons_mem_oneOf_mul, Language.mem_add, Bool.and_eq_true,
      Bool.and_eq_true, Bool.or_eq_true, isPlace_iff, and_assoc]
    refine and_congr_right fun _ => and_congr_right fun _ => or_congr_right ?_
    rw [mem_spelled_mul]
    split
    case h_1 rest => rw [isPlace_iff]; simp
    case h_2 other =>
      refine iff_of_false Bool.false_ne_true ?_
      rintro ⟨rest, -, rfl⟩
      exact other rest rfl
  case h_2 short =>
    refine iff_of_false Bool.false_ne_true ?_
    match word : s.toList with
    | [] => exact nil_notMem_oneOf_mul
    | [a] => exact fun h => nil_notMem_oneOf_mul (cons_mem_oneOf_mul.1 h).2
    | a :: b :: rest => exact absurd word (short a b rest)

/-! ## Names of clusters -/

/-- The names of clusters. -/
def clusterNames : Language Char := oneOf isNameStart * manyOf isNameRest

/-- What is taken for a name of a cluster. -/
def clusterPattern : Language Char := clusterNames * lineEnd

theorem isClusterName_iff {s : String} : isClusterName s = true ↔ s.toList ∈ clusterPattern := by
  have stops : StopsAt isNameRest lineEnd := stopsAt_lineEnd (by decide)
  rw [clusterPattern, clusterNames, mul_assoc]
  unfold isClusterName
  split
  case h_1 c cs word =>
    rw [word, cons_mem_oneOf_mul, mem_manyOf_mul stops, Bool.and_eq_true, isEnd_iff]
  case h_2 word =>
    rw [word]
    exact iff_of_false Bool.false_ne_true nil_notMem_oneOf_mul

end ClusterOps.Settings

import ClusterOps.Proofs.Settings.Rules
import ClusterOps.Proofs.Text.Ascii

/-
Which names settings can have. The names of regions in digits of ASCII, and the names of
clusters, are plain words: characters of ASCII without a line feed (`madeOf_regionNames`,
`madeOf_clusterNames`). Among plain words these are what is accepted; what is accepted
besides has a line feed at its end, or digits of another script (`accepts_names`).
-/

namespace ClusterOps.Settings

variable {s : Settings} {p : Char → Bool} {l m : Language Char} {cs : List Char}

/-- A character of ASCII other than the line feed. -/
def isPlain (c : Char) : Bool := decide (c.toNat < 128) && c != '\n'

instance {cs : List Char} : Decidable (cs ∈ manyOf p) :=
  decidable_of_iff (cs.all p = true) List.all_eq_true

/-! ## Languages of plain words -/

/-- The words of the language have characters of the kind only. -/
def MadeOf (p : Char → Bool) (l : Language Char) : Prop := ∀ cs ∈ l, cs ∈ manyOf p

theorem MadeOf.mul (hl : MadeOf p l) (hm : MadeOf p m) : MadeOf p (l * m) := by
  rintro _ ⟨first, hf, second, hs, rfl⟩ c hc
  exact (List.mem_append.1 hc).elim (hl first hf c) (hm second hs c)

theorem MadeOf.add (hl : MadeOf p l) (hm : MadeOf p m) : MadeOf p (l + m) :=
  fun cs hcs => hcs.elim (hl cs) (hm cs)

theorem madeOf_one : MadeOf p 1 := by
  rintro _ rfl c hc
  cases hc

theorem madeOf_manyOf {q : Char → Bool} (sub : ∀ c, p c = true → q c = true) :
    MadeOf q (manyOf p) :=
  fun _ all c hc => sub c (all c hc)

theorem madeOf_oneOf {q : Char → Bool} (sub : ∀ c, p c = true → q c = true) :
    MadeOf q (oneOf p) := by
  rintro _ ⟨d, rfl, hd⟩ c hc
  obtain rfl := List.mem_singleton.1 hc
  exact sub c hd

theorem madeOf_someOf {q : Char → Bool} (sub : ∀ c, p c = true → q c = true) :
    MadeOf q (someOf p) :=
  (madeOf_oneOf sub).mul (madeOf_manyOf sub)

theorem madeOf_spelled {word : String} (all : word.toList.all p = true) :
    MadeOf p (spelled word) := by
  rintro _ rfl
  exact List.all_eq_true.1 all

theorem isPlain_of_isAlphanum {c : Char} (h : c.isAlphanum = true) : isPlain c = true := by
  have ⟨low, high⟩ := Text.toNat_of_isAlphanum h
  have other : c ≠ '\n' := Text.ne_of_isAlphanum h (by decide)
  simp [isPlain, other]
  omega

theorem isPlain_of_isSmall {c : Char} (h : isSmall c = true) : isPlain c = true := by
  simp only [isSmall, Bool.and_eq_true, decide_eq_true_eq] at h
  obtain ⟨low, high⟩ := h
  have bound : c.toNat ≤ 122 := UInt32.le_iff_toNat_le.1 (Char.le_def.1 high)
  have other : c ≠ '\n' := by
    rintro rfl
    exact absurd low (by decide)
  simp [isPlain, other]
  omega

theorem isPlain_of_isDigit {c : Char} (h : c.isDigit = true) : isPlain c = true :=
  isPlain_of_isAlphanum (Text.isAlphanum_of_isDigit h)

theorem isPlain_of_isNameRest {c : Char} (h : isNameRest c = true) : isPlain c = true := by
  simp only [isNameRest, Bool.or_eq_true, beq_iff_eq] at h
  obtain (word | rfl) | rfl := h
  · exact isPlain_of_isAlphanum word
  · decide
  · decide

/-- The names of regions are plain. -/
theorem madeOf_regionNames : MadeOf isPlain (regionNames Char.isDigit) := by
  have letter : MadeOf isPlain (oneOf isSmall) := madeOf_oneOf fun _ => isPlain_of_isSmall
  have letters : MadeOf isPlain (someOf isSmall) := madeOf_someOf fun _ => isPlain_of_isSmall
  have digits : MadeOf isPlain (someOf Char.isDigit) := madeOf_someOf fun _ => isPlain_of_isDigit
  have hyphen : MadeOf isPlain (spelled "-") := madeOf_spelled (by decide)
  have gov : MadeOf isPlain (1 + spelled "-gov") := madeOf_one.add (madeOf_spelled (by decide))
  exact (((((letter.mul letter).mul gov).mul hyphen).mul letters).mul hyphen).mul digits

/-- The names of clusters are plain. -/
theorem madeOf_clusterNames : MadeOf isPlain clusterNames :=
  (madeOf_oneOf fun _ => isPlain_of_isAlphanum).mul (madeOf_manyOf fun _ => isPlain_of_isNameRest)

/-! ## Plain words -/

/-- A plain word does not end with a line feed. -/
theorem mem_of_plain (plain : cs ∈ manyOf isPlain) (h : cs ∈ l * lineEnd) : cs ∈ l := by
  obtain ⟨word, hw, rest, rfl | rfl, rfl⟩ := Language.mem_mul.1 h
  · rwa [List.append_nil]
  · exact absurd (plain '\n' (by simp)) (by decide)

theorem mem_mul_lineEnd (h : cs ∈ l) : cs ∈ l * lineEnd := by
  rw [lineEnd, mul_add, mul_one]
  exact .inl h

theorem mem_someOf : cs ∈ someOf p ↔ cs ≠ [] ∧ ∀ c ∈ cs, p c = true := by
  cases cs with
  | nil => simp [someOf, nil_notMem_oneOf_mul]
  | cons c cs =>
    rw [someOf, cons_mem_oneOf_mul, List.forall_mem_cons]
    exact (and_iff_right (List.cons_ne_nil _ _)).symm

/-- Only the digits of a region's name depend on the kind of digits. -/
theorem regionNames_of_digits {q : Char → Bool} (h : cs ∈ regionNames p)
    (all : ∀ c ∈ cs, p c = true → q c = true) : cs ∈ regionNames q := by
  obtain ⟨start, hs, number, hn, rfl⟩ := Language.mem_mul.1 h
  have digits : number ∈ someOf q := by
    rw [mem_someOf] at hn ⊢
    exact ⟨hn.1, fun c hc => all c (List.mem_append_right _ hc) (hn.2 c hc)⟩
  exact Language.append_mem_mul hs digits

/-- The names of regions are the plain words that are taken for regions. -/
theorem mem_regionNames :
    cs ∈ regionNames Char.isDigit ↔ cs ∈ regionPattern ∧ cs ∈ manyOf isPlain := by
  constructor
  · intro h
    have digits := regionNames_of_digits h fun c _ => Text.isDecimalDigit_of_isDigit
    exact ⟨mem_mul_lineEnd digits, madeOf_regionNames _ h⟩
  · rintro ⟨h, plain⟩
    refine regionNames_of_digits (mem_of_plain plain h) fun c hc digit => ?_
    have ascii : c.toNat < 128 := by
      have := plain c hc
      simp only [isPlain, Bool.and_eq_true, decide_eq_true_eq] at this
      exact this.1
    exact Text.isDigit_of_isDecimalDigit digit ascii

/-- The names of clusters are the plain words that are taken for them. -/
theorem mem_clusterNames :
    cs ∈ clusterNames ↔ cs ∈ clusterPattern ∧ cs ∈ manyOf isPlain :=
  ⟨fun h => ⟨mem_mul_lineEnd h, madeOf_clusterNames _ h⟩, fun ⟨h, plain⟩ => mem_of_plain plain h⟩

/-! ## Settings with a name -/

theorem checked_region (taken : s.Checked) {r : String} :
    (s.replace { region := some r }).Checked ↔ r.toList ∈ regionPattern := by
  have valid := taken.valid
  rw [checked_iff_valid]
  exact ⟨fun h => h.region, fun h => { valid with region := h }⟩

theorem checked_regions (taken : s.Checked) {rs : List String} :
    (s.replace { regions := some rs }).Checked ↔ rs ≠ [] ∧ ∀ r ∈ rs, r.toList ∈ regionPattern := by
  have valid := taken.valid
  rw [checked_iff_valid]
  exact ⟨fun h => ⟨h.someRegion, h.regions⟩,
    fun ⟨given, all⟩ => { valid with someRegion := given, regions := all }⟩

theorem checked_clusterName (taken : s.Checked) {n : String} :
    (s.replace { clusterName := some n }).Checked
      ↔ n = "" ∨ n.length ≤ 100 ∧ n.toList ∈ clusterPattern := by
  have valid := taken.valid
  rw [checked_iff_valid]
  exact ⟨fun h => h.clusterName, fun h => { valid with clusterName := h }⟩

/-- **Which names settings can have.** A region is accepted, and so is each of the listed regions,
exactly if it has the form of a region, its number in the digits of any script and perhaps with a
line feed behind it; a name of a cluster is accepted exactly if it is empty, or of at most 100
characters and a name, perhaps with a line feed as its last. Hence the names proper, whose digits
are those of ASCII and which nothing follows, are accepted, and among plain words no others are. -/
theorem accepts_names (taken : s.Checked) :
    (∀ r, (s.replace { region := some r }).Checked ↔ r.toList ∈ regionPattern) ∧
    (∀ rs, (s.replace { regions := some rs }).Checked ↔
      rs ≠ [] ∧ ∀ r ∈ rs, r.toList ∈ regionPattern) ∧
    (∀ n, (s.replace { clusterName := some n }).Checked ↔
      n = "" ∨ n.length ≤ 100 ∧ n.toList ∈ clusterPattern) ∧
    (∀ r, r.toList ∈ regionNames Char.isDigit ↔
      (s.replace { region := some r }).Checked ∧ r.toList ∈ manyOf isPlain) ∧
    (∀ rs, (rs ≠ [] ∧ ∀ r ∈ rs, r.toList ∈ regionNames Char.isDigit) ↔
      (s.replace { regions := some rs }).Checked ∧ ∀ r ∈ rs, r.toList ∈ manyOf isPlain) ∧
    ∀ n ≠ "", n.length ≤ 100 ∧ n.toList ∈ clusterNames ↔
      (s.replace { clusterName := some n }).Checked ∧ n.toList ∈ manyOf isPlain := by
  refine ⟨fun r => checked_region taken, fun rs => checked_regions taken,
    fun n => checked_clusterName taken, fun r => ?_, fun rs => ?_, fun n given => ?_⟩
  · rw [checked_region taken, mem_regionNames]
  · rw [checked_regions taken]
    simp only [mem_regionNames, forall_and, and_assoc]
  · rw [checked_clusterName taken, or_iff_right given, mem_clusterNames, and_assoc]

/-- A region, two listed regions and the name of a cluster. -/
theorem accepts_names_proper :
    let s := forRegion "us-west-2"
    s.Checked ∧ "us-gov-west-1".toList ∈ regionNames Char.isDigit ∧
      (∀ r ∈ ["us-gov-1", "eu-west-10"], r.toList ∈ regionNames Char.isDigit) ∧
      "0-_x" ≠ "" ∧ "0-_x".toList ∈ clusterNames := by
  intro s
  have taken : s.Checked := by decide +kernel
  have given : "0-_x" ≠ "" := by decide
  obtain ⟨-, -, -, region, regions, name⟩ := accepts_names taken
  exact ⟨taken, (region _).2 (by decide +kernel),
    ((regions ["us-gov-1", "eu-west-10"]).2 (by decide +kernel)).2,
    given, ((name _ given).2 (by decide +kernel)).2⟩

/-- A line feed after a region or a name, and digits of another script, are accepted, though no
region and no name is spelled so. -/
theorem accepts_names_beyond :
    let s := forRegion "us-west-2"
    (s.replace { region := some "us-west-2\n" }).Checked ∧
      "us-west-2\n".toList ∉ regionNames Char.isDigit ∧
      (s.replace { regions := some ["us-west-٢"] }).Checked ∧
      "us-west-٢".toList ∉ regionNames Char.isDigit ∧
      (s.replace { clusterName := some "demo\n" }).Checked ∧ "demo\n".toList ∉ clusterNames := by
  intro s
  have fed : "us-west-2\n".toList ∉ manyOf isPlain := by decide +kernel
  have foreign : "us-west-٢".toList ∉ manyOf isPlain := by decide +kernel
  have name : "demo\n".toList ∉ manyOf isPlain := by decide +kernel
  exact ⟨by decide +kernel, fun h => fed (madeOf_regionNames _ h), by decide +kernel,
    fun h => foreign (madeOf_regionNames _ h), by decide +kernel,
    fun h => name (madeOf_clusterNames _ h)⟩

end ClusterOps.Settings

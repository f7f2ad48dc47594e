import ClusterOps.CommandLine.Command
import ClusterOps.Proofs.Results

/-
What words can say. A switch that has one name, no letter and no other name that
turns it off is `Bare`: it is written for only by the word that is its name. So a
command line without that word leaves it as it is, whatever else is written, and
a command whose line has no `--approve` is not approved (`read_unapproved`).
-/

namespace ClusterOps

/-! ## Small facts -/

theorem mem_of_lookup {α β : Type} [BEq α] [LawfulBEq α] {l : List (α × β)} {k : α} {b : β}
    (h : l.lookup k = some b) : (k, b) ∈ l := by
  obtain ⟨before, after, rfl, -⟩ := List.lookup_eq_some_iff.1 h
  simp

namespace CommandLine

/-- The parameters of a name are switches with nothing but this name. -/
def Bare (n : String) (ps : List Parameter) : Prop :=
  ∀ p ∈ ps, p.name = n → p.letter = none ∧ p.offName = none ∧ p.form = .switch

instance (n : String) (ps : List Parameter) : Decidable (Bare n ps) :=
  inferInstanceAs (Decidable (∀ p ∈ ps, _))

variable {n : String} {ps : List Parameter}

/-! ## Options -/

/-- A word without an equals sign is its own name. -/
theorem eq_of_cut {word name : String} (h : cut word = (name, none)) : word = name := by
  simp only [cut] at h
  split at h
  case h_1 ended =>
    obtain ⟨rfl, -⟩ := Prod.mk.inj h
    have whole := List.takeWhile_append_dropWhile (p := (· != '=')) (l := word.toList)
    rw [ended, List.append_nil] at whole
    rw [whole, String.ofList_toList]
  case h_2 => cases (Prod.mk.inj h).2

/-- Letters write for no parameter that has none. -/
theorem not_mem_readLetters (bare : Bare n ps) {cs : List Char} {o : OptionWord}
    (h : readLetters ps cs = .ok o) :
    (∀ w, (n, w) ∉ o.written) ∧ ∀ p name, o.waiting = some (p, name) → p.name ≠ n := by
  have lettered : ∀ {c p}, lettered? ps c = some p → p.name ≠ n := by
    intro c p found same
    have letter := List.find?_some found
    rw [(bare p (List.mem_of_find?_eq_some found) same).1] at letter
    cases letter
  induction cs generalizing o with
  | nil =>
    cases h
    simp
  | cons c rest ih =>
    rw [readLetters] at h
    split at h
    case h_1 => cases h
    case h_2 p found =>
      have other := lettered found
      split at h
      · split at h
        · cases h
          refine ⟨by simp, fun q name waiting => ?_⟩
          obtain ⟨rfl, -⟩ := Prod.mk.inj (Option.some.inj waiting)
          exact other
        · cases h
          exact ⟨by simp [Ne.symm other], by simp⟩
      · obtain ⟨o', more, rfl⟩ := ok_of_map h
        obtain ⟨absent, waiting⟩ := ih more
        exact ⟨by simp [absent, Ne.symm other], waiting⟩

/-- An option writes for a bare switch only if it is its name. -/
theorem eq_of_readOption (bare : Bare n ps) {word : String} {o : OptionWord}
    (h : readOption ps word = .ok o) :
    (∀ w, (n, w) ∈ o.written → word = n) ∧ ∀ p name, o.waiting = some (p, name) → p.name ≠ n := by
  obtain ⟨name, value, parts⟩ : ∃ name value, cut word = (name, value) := ⟨_, _, rfl⟩
  simp only [readOption, parts] at h
  split at h
  case h_1 p on found =>
    obtain ⟨mem, named⟩ := mem_longNames_of_named? found
    have plain : p.name = n → p.takesValue = false ∧ name = n := by
      intro same
      obtain ⟨-, off, form⟩ := bare p mem same
      refine ⟨by simp [Parameter.takesValue, form], ?_⟩
      simpa [Parameter.longNames, off, same] using named
    split at h
    case isTrue takes =>
      have other : p.name ≠ n := fun same => by simp [(plain same).1] at takes
      cases value with
      | some v =>
        cases h
        exact ⟨by simp [Ne.symm other], by simp⟩
      | none =>
        cases h
        refine ⟨by simp, fun q called waiting => ?_⟩
        obtain ⟨rfl, -⟩ := Prod.mk.inj (Option.some.inj waiting)
        exact other
    case isFalse =>
      cases value with
      | some v => cases h
      | none =>
        cases h
        refine ⟨fun w hw => ?_, by simp⟩
        obtain ⟨same, -⟩ := Prod.mk.inj (List.mem_singleton.1 hw)
        exact (eq_of_cut parts).trans (plain same.symm).2
  case h_2 =>
    split at h
    · cases h
    · obtain ⟨absent, waiting⟩ := not_mem_readLetters bare h
      exact ⟨fun w hw => absurd hw (absent w), waiting⟩

/-! ## Scans -/

/-- A scan writes for a bare switch only if its name is among the words, and leaves none but these
words. -/
theorem not_mem_scan (bare : Bare n ps) {mixed : Bool} {words : List String} {s : Scan}
    (h : scan ps mixed words = .ok s) :
    (n ∉ words → ∀ w, (n, w) ∉ s.written) ∧ ∀ word ∈ s.others, word ∈ words := by
  fun_induction scan ps mixed words generalizing s with
  | case1 =>
    cases h
    simp
  | case2 rest =>
    cases h
    exact ⟨by simp, fun word hw => List.mem_cons_of_mem _ hw⟩
  | case3 => cases h
  | case4 word rest _ _ written read ih =>
    obtain ⟨s', more, rfl⟩ := ok_of_map h
    obtain ⟨absent, others⟩ := ih more
    refine ⟨fun hn w hw => ?_, fun word hw => List.mem_cons_of_mem _ (others word hw)⟩
    simp only [List.mem_cons, not_or] at hn
    rcases List.mem_append.1 hw with hw | hw
    · exact hn.1 ((eq_of_readOption bare read).1 w hw).symm
    · exact absent hn.2 w hw
  | case5 => cases h
  | case6 word _ _ written p name read value rest ih =>
    obtain ⟨s', more, rfl⟩ := ok_of_map h
    obtain ⟨absent, others⟩ := ih more
    obtain ⟨own, waiting⟩ := eq_of_readOption bare read
    refine ⟨fun hn w hw => ?_, fun word hw => by simp [others word hw]⟩
    -- The next word is the value, whatever it is, but of a parameter that takes values.
    simp only [List.mem_cons, not_or] at hn
    rcases List.mem_append.1 hw with hw | hw
    · rcases List.mem_append.1 hw with hw | hw
      · exact hn.1 (own w hw).symm
      · obtain ⟨same, -⟩ := Prod.mk.inj (List.mem_singleton.1 hw)
        exact waiting p name rfl same.symm
    · exact absent hn.2.2 w hw
  | case7 word rest _ _ _ ih =>
    obtain ⟨s', more, rfl⟩ := ok_of_map h
    obtain ⟨absent, others⟩ := ih more
    refine ⟨fun hn => absent fun mem => hn (List.mem_cons_of_mem _ mem), fun other hw => ?_⟩
    rcases List.mem_cons.1 hw with rfl | hw
    · exact List.mem_cons_self
    · exact List.mem_cons_of_mem _ (others other hw)
  | case8 =>
    cases h
    simp

/-- What is settled is something that was written. -/
theorem written_of_settle {files : Files} {s : Scan} {order : List Parameter} {a : Answers}
    (h : s.settle files order = .ok a) : ∀ name x, (name, x) ∈ a → ∃ w, (name, w) ∈ s.written := by
  induction order generalizing a with
  | nil =>
    cases h
    simp
  | cons p rest ih =>
    rw [Scan.settle] at h
    split at h
    case h_1 =>
      split at h
      · cases h
      · exact ih h
    case h_2 w last =>
      split at h
      case h_1 => cases h
      case h_2 x accepted =>
        obtain ⟨a', more, rfl⟩ := ok_of_map h
        intro name y hy
        rcases List.mem_cons.1 hy with same | hy
        · obtain ⟨rfl, -⟩ := Prod.mk.inj same
          exact ⟨w, List.mem_reverse.1 (mem_of_lookup last)⟩
        · exact ih more name y hy

/-! ## Places -/

/-- What is accepted at a place holds a bare switch only if its name is among the words, and no
other words are left. -/
theorem switch?_of_enter {p : Place} (bare : Bare n p.parameters) {files : Files} {mixed : Bool}
    {words left : List String} {a : Answers} (h : p.enter files mixed words = .ok (a, left)) :
    (n ∉ words → a.switch? n = none) ∧ ∀ word ∈ left, word ∈ words := by
  obtain ⟨s, scanned, h⟩ := ok_of_bind h
  obtain ⟨absent, others⟩ := not_mem_scan bare (ok_of_mapError scanned)
  split at h
  case h_1 => cases h
  case h_2 =>
    obtain ⟨a', settled, h⟩ := ok_of_bind h
    obtain ⟨rfl, rfl⟩ := Prod.mk.inj (Except.ok.inj h)
    refine ⟨fun hn => ?_, others⟩
    have none : a'.lookup n = none := by
      refine List.lookup_eq_none_iff.2 fun entry hentry => ?_
      obtain ⟨w, hw⟩ := written_of_settle (ok_of_mapError settled) entry.1 entry.2 hentry
      simpa using fun same : n = entry.1 => absent hn w (same ▸ hw)
    rw [Answers.switch?, none]

theorem switch?_of_finish {p : Place} (bare : Bare n p.parameters) {files : Files}
    {words : List String} {a : Answers} (h : p.finish files words = .ok a) (hn : n ∉ words) :
    a.switch? n = none := by
  obtain ⟨⟨a', left⟩, entered, h⟩ := ok_of_bind h
  dsimp only at h
  split at h
  · obtain rfl := Except.ok.inj h
    exact (switch?_of_enter bare entered).1 hn
  · cases h

/-- A menu leads to one of its members, and leaves none but the words behind it. -/
theorem mem_of_choose {α : Type} {m : Menu α} (bare : Bare n m.place.parameters) {files : Files}
    {words left : List String} {a : Answers} {x : α} (h : m.choose files words = .ok (a, x, left)) :
    (∃ word, (word, x) ∈ m.members) ∧ ∀ word ∈ left, word ∈ words := by
  rw [Menu.choose] at h
  split at h
  case isTrue => cases h
  case isFalse =>
    obtain ⟨⟨a', others⟩, entered, h⟩ := ok_of_bind h
    -- A word that leads nowhere is a complaint, however it reads as an option.
    have among := (switch?_of_enter bare entered).2
    dsimp only at h
    split at h
    case h_1 => cases h
    case h_2 word rest =>
      split at h
      case h_1 y leads =>
        obtain ⟨-, same⟩ := Prod.mk.inj (Except.ok.inj h)
        obtain ⟨rfl, rfl⟩ := Prod.mk.inj same
        exact ⟨⟨word, mem_of_lookup leads⟩, fun w hw => among w (List.mem_cons_of_mem _ hw)⟩
      case h_2 =>
        obtain ⟨_, -, h⟩ := ok_of_bind h
        cases h

/-! ## Commands -/

/-- The command is told to apply changes. -/
def Command.approves : Command → Bool
  | .updateLogging o => o.approve
  | .getCluster _ => false
  | .upgradeCluster o => o.approve

/-- Behind a menu nothing but the word for it tells a command to apply changes. -/
structure Guarded (m : Menu Entrance) : Prop where
  bare : Bare "--approve" m.place.parameters
  entrances : ∀ word e, (word, e) ∈ m.members → Bare "--approve" e.place.parameters
  commands : ∀ word e, (word, e) ∈ m.members → ∀ a : Answers, a.switch? "--approve" = none →
    (e.make a).approves = false

/-- A menu with one command is guarded if this command is. -/
theorem guarded_of_single {p : Place} {word : String} {e : Entrance}
    (bare : Bare "--approve" p.parameters) (entrance : Bare "--approve" e.place.parameters)
    (command : ∀ a : Answers, a.switch? "--approve" = none → (e.make a).approves = false) :
    Guarded ⟨p, [(word, e)]⟩ where
  bare := bare
  entrances _ _ h := by
    obtain ⟨-, rfl⟩ := Prod.mk.inj (List.mem_singleton.1 h)
    exact entrance
  commands _ _ h := by
    obtain ⟨-, rfl⟩ := Prod.mk.inj (List.mem_singleton.1 h)
    exact command

/-- All menus of the program are guarded. -/
theorem guarded_of_mem_top {word : String} {m : Menu Entrance} (h : (word, m) ∈ top.members) :
    Guarded m := by
  simp only [top, List.mem_cons, Prod.mk.injEq, List.not_mem_nil, or_false] at h
  rcases h with ⟨-, rfl⟩ | ⟨-, rfl⟩ | ⟨-, rfl⟩
  · refine guarded_of_single (by decide) (by decide) fun a none => ?_
    show (a.switch? "--approve").getD false = false
    rw [none]
    rfl
  · exact guarded_of_single (by decide) (by decide) fun _ _ => rfl
  · refine guarded_of_single (by decide) (by decide) fun a none => ?_
    show (a.switch? "--approve").getD false = false
    rw [none]
    rfl

/-- A command is told to apply changes only by the word for it. -/
theorem read_unapproved {files : Files} {words : List String} {level : Level} {place : Place}
    {c : Command} (h : Command.read files words = .ok (level, place, c))
    (hn : "--approve" ∉ words) : c.approves = false := by
  obtain ⟨⟨answers, menu, behind⟩, chosen, h⟩ := ok_of_bind h
  obtain ⟨⟨_, member⟩, among⟩ := mem_of_choose (n := "--approve") (by decide) chosen
  have guarded := guarded_of_mem_top member
  obtain ⟨⟨_, entrance, last⟩, led, h⟩ := ok_of_bind h
  obtain ⟨⟨_, member⟩, among'⟩ := mem_of_choose guarded.bare led
  have unwritten : "--approve" ∉ last := fun mem => hn (among _ (among' _ mem))
  obtain ⟨given, finished, h⟩ := ok_of_bind h
  obtain ⟨-, same⟩ := Prod.mk.inj (Except.ok.inj h)
  obtain ⟨-, rfl⟩ := Prod.mk.inj same
  exact guarded.commands _ _ member given
    (switch?_of_finish (guarded.entrances _ _ member) finished unwritten)

end CommandLine

end ClusterOps

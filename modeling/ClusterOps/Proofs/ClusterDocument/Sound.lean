import ClusterOps.ClusterDocument
import ClusterOps.Proofs.Results

/-
What every document satisfies that is read or made: its kind is the only one that
there is, and its name has one to a hundred characters (`sound_of_ofEntries`). A
document is made of any such name, and a longer one is the only reason why it is
not made of a name that is there at all (`new_cases`).
-/

namespace ClusterOps.ClusterDocument

/-- The kind and the name of a document are as they have to be. -/
structure Sound (d : ClusterDocument) : Prop where
  kind : d.kind = onlyKind
  named : 1 ≤ d.identity.name.length
  short : d.identity.name.length ≤ maxNameLength

theorem length_pos_of_not_isEmpty {s : String} (h : ¬ s.isEmpty) : 1 ≤ s.length := by
  have : s ≠ "" := by simpa using h
  have : s.length ≠ 0 := by simpa using this
  omega

theorem length_of_nameAt {place : List String} {v : Value} {n : String}
    (h : nameAt place v = .ok n) : 1 ≤ n.length ∧ n.length ≤ maxNameLength := by
  unfold nameAt at h
  split at h
  case h_1 => cases h
  case h_2 =>
    split at h
    case h_1 => cases h
    case h_2 =>
      split at h
      case isTrue => cases h
      case isFalse named =>
        split at h
        case isTrue => cases h
        case isFalse short =>
          obtain rfl := Except.ok.inj h
          exact ⟨length_pos_of_not_isEmpty named, by omega⟩

theorem eq_of_kindAt {place : List String} {v : Value} {k : String} (h : kindAt place v = .ok k) :
    k = onlyKind := by
  unfold kindAt at h
  split at h
  case h_1 => cases h
  case h_2 =>
    split at h
    case h_1 => cases h
    case h_2 =>
      split at h
      case isTrue same =>
        obtain rfl := Except.ok.inj h
        exact same
      case isFalse => cases h

/-- Both parts of what was read were read. -/
theorem Checked.ok_of_and {α β : Type} {x : Checked α} {y : Checked β} {a : α} {b : β}
    (h : x.and y = .ok (a, b)) : x = .ok a ∧ y = .ok b := by
  cases x <;> cases y <;> simp_all [Checked.and]

theorem length_of_identityAt {place : List String} {v : Value} {i : Identity}
    (h : identityAt place v = .ok i) : 1 ≤ i.name.length ∧ i.name.length ≤ maxNameLength := by
  unfold identityAt at h
  split at h
  case h_2 => cases h
  case h_1 entries =>
    obtain ⟨⟨n, r, v, ts⟩, parts, rfl⟩ := ok_of_map h
    obtain ⟨name, -⟩ := Checked.ok_of_and parts
    split at name
    case h_1 => exact length_of_nameAt name
    case h_2 => cases name

/-- What is read of a map is a sound document. -/
theorem sound_of_ofEntries {entries : List (Value × Value)} {d : ClusterDocument}
    (h : ofEntries entries = .ok d) : d.Sound := by
  obtain ⟨⟨a, k, i, l⟩, parts, rfl⟩ := ok_of_map h
  obtain ⟨-, parts⟩ := Checked.ok_of_and parts
  obtain ⟨kind, parts⟩ := Checked.ok_of_and parts
  obtain ⟨identity, -⟩ := Checked.ok_of_and parts
  have name : 1 ≤ i.name.length ∧ i.name.length ≤ maxNameLength := by
    split at identity
    case h_1 => exact length_of_identityAt identity
    case h_2 => cases identity
  have kind : k = onlyKind := by
    unfold optional at kind
    split at kind
    case h_1 => exact eq_of_kindAt kind
    case h_2 => exact (Except.ok.inj kind).symm
  exact ⟨kind, name.1, name.2⟩

theorem new_cases {name : String} (region : String) (enableTypes : List String)
    (version : Option String) (named : ¬ name.isEmpty) :
    (name.length ≤ maxNameLength ∧ new name region enableTypes version
        = .ok ⟨defaultVersion, onlyKind, ⟨name, region, version, []⟩, some enableTypes⟩) ∨
      (maxNameLength < name.length ∧
        new name region enableTypes version = .error [⟨["name"], .longName⟩]) := by
  unfold new nameAt
  dsimp only [textAt]
  rw [if_neg named]
  split
  case isTrue long => exact .inr ⟨long, rfl⟩
  case isFalse short => exact .inl ⟨by omega, rfl⟩

end ClusterOps.ClusterDocument

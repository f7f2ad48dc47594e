import ClusterOps.Value.Json
import Mathlib.Data.List.Nodup

/-
The data that JSON knows. A JSON text can name the halves of a character one by one, so
its value can hold texts with halves. What is read here of a JSON text has none, and is of
that kind (`isJson_of_read?`): a key that is repeated gives its value to the entry that it
has already, so no key of an object stands twice.
-/

namespace ClusterOps.Value

/-- A text, whatever its codes. -/
inductive IsText : Value → Prop
  | text (s : String) : IsText (.text s)
  | halves (h : Text.Halves) : IsText (.halves h)

/-- What a JSON text can hold: its keys are texts, and no key of an object occurs twice. Whether
halves may occur in its texts is told by `broken`. -/
inductive IsJson (broken : Prop) : Value → Prop
  | null : IsJson broken .null
  | bool (b : Bool) : IsJson broken (.bool b)
  | int (n : Int) : IsJson broken (.int n)
  | float (x : Binary64) : IsJson broken (.float x)
  | text (s : String) : IsJson broken (.text s)
  | halves (h : Text.Halves) : broken → IsJson broken (.halves h)
  | list {items : List Value} : (∀ v ∈ items, IsJson broken v) → IsJson broken (.list items)
  | map {entries : List (Value × Value)} : (∀ e ∈ entries, e.1.IsText) →
      (∀ e ∈ entries, IsJson broken e.1) → (entries.map Prod.fst).Nodup →
      (∀ e ∈ entries, IsJson broken e.2) → IsJson broken (.map entries)

variable {broken more : Prop} {entries : List (Value × Value)} {key v : Value} {k : String}

theorem IsJson.unique (json : IsJson broken (.map entries)) : (entries.map Prod.fst).Nodup := by
  cases json with
  | map _ _ unique _ => exact unique

theorem IsJson.of_mem (json : IsJson broken (.map entries)) (mem : (key, v) ∈ entries) :
    v.IsJson broken := by
  cases json with
  | map _ _ _ data => exact data _ mem

/-- The entries behind the first one are an object, too. -/
theorem IsJson.tail {e : Value × Value} (json : IsJson broken (.map (e :: entries))) :
    IsJson broken (.map entries) := by
  cases json with
  | map texts keys unique data =>
    exact .map (List.forall_mem_cons.1 texts).2 (List.forall_mem_cons.1 keys).2
      (List.nodup_cons.1 unique).2 (List.forall_mem_cons.1 data).2

theorem isJson_emptyMap : IsJson broken (.map []) := .map nofun nofun .nil nofun

/-- Where fewer halves are allowed, fewer occur. -/
theorem IsJson.mono (json : IsJson broken v) (allowed : broken → more) : IsJson more v := by
  induction json with
  | null => exact .null
  | bool b => exact .bool b
  | int n => exact .int n
  | float x => exact .float x
  | text s => exact .text s
  | halves h given => exact .halves h (allowed given)
  | list _ items => exact .list items
  | map texts _ unique _ keys data => exact .map texts keys unique data

/-- The keys of an object without halves are made of characters. -/
theorem IsJson.exists_text (json : IsJson False (.map entries)) {e : Value × Value}
    (mem : e ∈ entries) : ∃ s, e.1 = .text s := by
  cases json with
  | map texts keys _ _ =>
    have text := texts e mem
    have whole := keys e mem
    generalize e.1 = key at text whole
    cases whole with
    | text s => exact ⟨s, rfl⟩
    | halves => contradiction
    | null | bool | int | float | list | map => nomatch text

/-! ## Entries -/

theorem eq_or_mem_of_mem_put {e : Value × Value} (h : e ∈ put entries (.text k) v) :
    e = (.text k, v) ∨ e ∈ entries := by
  induction entries with
  | nil => simpa [put] using h
  | cons first entries ih =>
    rw [put] at h
    split at h
    case isTrue same =>
      rw [sameScalar_text_iff.1 same] at h
      exact (List.mem_cons.1 h).imp_right (List.mem_cons_of_mem _)
    case isFalse =>
      rcases List.mem_cons.1 h with rfl | later
      · exact .inr List.mem_cons_self
      · exact (ih later).imp_right (List.mem_cons_of_mem _)

theorem nodup_put (unique : (entries.map Prod.fst).Nodup) :
    ((put entries (.text k) v).map Prod.fst).Nodup := by
  induction entries with
  | nil => exact List.nodup_singleton _
  | cons first entries ih =>
    obtain ⟨fresh, rest⟩ := List.nodup_cons.1 unique
    rw [put]
    split
    case isTrue => exact unique
    case isFalse other =>
      refine List.nodup_cons.2 ⟨fun mem => ?_, ih rest⟩
      obtain ⟨e, put, same⟩ := List.mem_map.1 mem
      rcases eq_or_mem_of_mem_put put with rfl | old
      · exact other (sameScalar_text_iff.2 same.symm)
      · exact fresh (List.mem_map.2 ⟨e, old, same⟩)

theorem IsJson.put (json : IsJson broken (.map entries)) (k : String) (data : v.IsJson broken) :
    IsJson broken (.map (put entries (.text k) v)) := by
  cases json with
  | map texts keys unique old =>
    refine .map (fun e he => ?_) (fun e he => ?_) (nodup_put unique) fun e he => ?_
    · rcases eq_or_mem_of_mem_put he with rfl | he
      · exact .text k
      · exact texts e he
    · rcases eq_or_mem_of_mem_put he with rfl | he
      · exact .text k
      · exact keys e he
    · rcases eq_or_mem_of_mem_put he with rfl | he
      · exact data
      · exact old e he

/-! ## Texts -/

namespace Json

variable {cs rest : List Char}

theorem isJson_number? (h : number? cs = some (v, rest)) : v.IsJson False := by
  unfold number? at h
  dsimp only at h
  split at h
  case h_1 | h_2 =>
    split at h
    case isTrue => cases h
    case isFalse =>
      split at h
      case h_1 => cases h
      case h_2 =>
        split at h
        case h_1 => cases h
        case h_2 =>
          split at h
          case isTrue =>
            cases h
            exact .int _
          case isFalse =>
            cases h
            exact .float _

mutual

/-- A value that is read is JSON. -/
theorem isJson_value? : ∀ (fuel : Nat) {cs rest : List Char} {v : Value},
    value? fuel cs = some (v, rest) → v.IsJson False
  | fuel + 1, cs, rest, v, h => by
    rw [value?] at h
    split at h
    case h_1 =>
      obtain ⟨⟨s, _⟩, _, same⟩ := Option.map_eq_some_iff.1 h
      cases same
      exact .text s
    case h_2 =>
      split at h
      case h_1 =>
        cases h
        exact .list (List.forall_mem_nil _)
      case h_2 => exact isJson_items? fuel (List.forall_mem_nil _) h
    case h_3 =>
      split at h
      case h_1 =>
        cases h
        exact isJson_emptyMap
      case h_2 => exact isJson_members? fuel isJson_emptyMap h
    case h_4 | h_5 =>
      cases h
      exact .bool _
    case h_6 =>
      cases h
      exact .null
    case h_7 => exact isJson_number? h

/-- A list that is read is JSON, if what was read of it before is. -/
theorem isJson_items? : ∀ (fuel : Nat) {done : List Value} {cs rest : List Char} {v : Value},
    (∀ w ∈ done, w.IsJson False) → items? fuel done cs = some (v, rest) → v.IsJson False
  | fuel + 1, done, cs, rest, v, json, h => by
    rw [items?] at h
    split at h
    case h_1 => cases h
    case h_2 w behind read =>
      have more : ∀ x ∈ w :: done, x.IsJson False :=
        List.forall_mem_cons.2 ⟨isJson_value? fuel read, json⟩
      split at h
      case h_1 => exact isJson_items? fuel more h
      case h_2 =>
        cases h
        exact .list fun x hx => more x (List.mem_reverse.1 hx)
      case h_3 => cases h

/-- An object that is read is JSON, if what was read of it before is. -/
theorem isJson_members? : ∀ (fuel : Nat) {done : List (Value × Value)} {cs rest : List Char}
    {v : Value}, IsJson False (.map done) → members? fuel done cs = some (v, rest) → v.IsJson False
  | fuel + 1, done, cs, rest, v, json, h => by
    rw [members?] at h
    split at h
    case h_2 => cases h
    case h_1 =>
      split at h
      case h_1 => cases h
      case h_2 key _ _ =>
        split at h
        case h_2 => cases h
        case h_1 =>
          split at h
          case h_1 => cases h
          case h_2 w _ read =>
            have more := json.put key (isJson_value? fuel read)
            dsimp only at h
            split at h
            case h_1 => exact isJson_members? fuel more h
            case h_2 =>
              cases h
              exact more
            case h_3 => cases h

end

/-- Whatever is read of a JSON text is JSON without halves. -/
theorem isJson_of_read? {s : String} (h : read? s = some v) : v.IsJson False := by
  unfold read? at h
  dsimp only at h
  split at h
  case h_2 => cases h
  case h_1 read =>
    split at h
    case isFalse => cases h
    case isTrue =>
      cases h
      exact isJson_value? _ read

end Json

end ClusterOps.Value

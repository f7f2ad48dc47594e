import ClusterOps.Cause

/-
Reading the replies of the cloud. A reply is data without a schema, and what is
read of it is taken as it comes; data of a wrong kind is noticed only where its
parts are asked for, and the complaint then is about that.
-/

namespace ClusterOps.Payload

/-- The field of a map that may lack it. -/
def field? (v : Value) (name : String) : Except Cause (Option Value) :=
  match v with
  | .map es => .ok (Value.find? es name)
  | v => .error (Cause.noAttribute v "get")

/-- The field of a map, the null if it is missing. -/
def field (v : Value) (name : String) : Except Cause Value :=
  (field? v name).map fun o => o.getD .null

/-- The field of a map, the empty map in place of anything that counts as false. -/
def part (v : Value) (name : String) : Except Cause Value :=
  (field v name).map fun w => if w.isTruthy then w else .map []

/-- The field of a map that must have it. -/
def required (v : Value) (name : String) : Except Cause Value :=
  match v with
  | .map es =>
    match Value.find? es name with
    | some w => .ok w
    | none => .error (Cause.missingField name)
  | .list _ =>
    .error (.other "TypeError" "list indices must be integers or slices, not str")
  | .text _ | .halves _ =>
    .error (.other "TypeError" "string indices must be integers, not 'str'")
  | v => .error (.other "TypeError" ("'" ++ v.kindName ++ "' object is not subscriptable"))

/-- The parts of which a value consists; what counts as false has none. -/
def elements (v : Value) : Except Cause (List Value) :=
  if !v.isTruthy then .ok []
  else match v with
    | .list vs | .set vs => .ok vs
    | .map es => .ok (es.map Prod.fst)
    | .text s => .ok (s.toList.map fun c => .text (String.singleton c))
    | .halves h => .ok (h.codes.map Value.ofCode)
    | .bytes bs => .ok (bs.map fun b => .int (Int.ofNat b))
    | v => .error (.other "TypeError" ("'" ++ v.kindName ++ "' object is not iterable"))

/-- A list consists of its items. -/
@[simp] theorem elements_list (vs : List Value) : elements (.list vs) = .ok vs := by
  cases vs <;> rfl

/-- Reading a field of a map never fails. -/
@[simp] theorem field_map (es : List (Value × Value)) (name : String) :
    field (.map es) name = .ok ((Value.find? es name).getD .null) := rfl

end ClusterOps.Payload

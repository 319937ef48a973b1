import Souk.Python.JsonDecoder

/-!
# `json.dumps`

The encoder takes any object and refuses some.  What it refuses decides whether a frame can leave a
socket, so its text is left out and its exceptions are kept, in the order in which it meets them.
-/

namespace Souk.Python

/-- A Python object as `json.dumps` tells them apart. -/
inductive Object where
  | none
  | bool (value : Bool)
  | int (value : Int)
  | float (value : Float64)
  | str (value : Str)
  | list (items : List Object)
  | dict (entries : List (Object × Object))
  /-- A reference back to a container which is being encoded. -/
  | enclosing
  /-- An instance of a type the encoder does not know. -/
  | other

namespace Object

mutual

/-- A value `json.loads` returned, as the object it is. -/
def ofValue : Value → Object
  | .null => .none
  | .bool value => .bool value
  | .int value => .int value
  | .float value => .float value
  | .str value => .str value
  | .list items => .list (ofItems items)
  | .dict fields => .dict (ofFields fields)

def ofItems : List Value → List Object
  | [] => []
  | item :: items => ofValue item :: ofItems items

def ofFields : List (Str × Value) → List (Object × Object)
  | [] => []
  | (key, value) :: fields => (.str key, ofValue value) :: ofFields fields

end

/-- A dictionary display whose keys are string literals. -/
def record (fields : List (String × Object)) : Object :=
  .dict (fields.map fun field => (.str (Python.str field.1), field.2))

end Object

namespace Json

/-- `int.__repr__`, which refuses an integer with too many digits. -/
def encodeInt (limits : Limits) (value : Int) : Except Raised Unit :=
  if 10 ^ limits.maxIntDigits ≤ value.natAbs then .error .valueError else .ok ()

/-- The key of a member: a string, or one of the types which become strings. -/
def encodeKey (limits : Limits) : Object → Except Raised Unit
  | .str _ | .float _ | .bool _ | .none => .ok ()
  | .int value => encodeInt limits value
  | _ => .error .typeError

mutual

/-- Encode an object inside `depth` containers. -/
def encode (limits : Limits) (depth : Nat) : Object → Except Raised Unit
  | .none | .bool _ | .float _ | .str _ => .ok ()
  | .int value => encodeInt limits value
  | .list items =>
      if depth < limits.maxDepth then encodeItems limits (depth + 1) items
      else .error .recursionError
  | .dict entries =>
      if depth < limits.maxDepth then encodeEntries limits (depth + 1) entries
      else .error .recursionError
  | .enclosing => .error .valueError
  | .other => .error .typeError

def encodeItems (limits : Limits) (depth : Nat) : List Object → Except Raised Unit
  | [] => .ok ()
  | item :: items => do
      encode limits depth item
      encodeItems limits depth items

def encodeEntries (limits : Limits) (depth : Nat) : List (Object × Object) → Except Raised Unit
  | [] => .ok ()
  | (key, value) :: entries => do
      encodeKey limits key
      encode limits depth value
      encodeEntries limits depth entries

end

/-- `json.dumps(object)`, as far as it can fail. -/
def dumps (limits : Limits) (object : Object) : Except Raised Unit := encode limits 0 object

/-- Whether `json.dumps(object)` returns. -/
def serializes (limits : Limits) (object : Object) : Bool := (dumps limits object).isOk

end Json
end Souk.Python

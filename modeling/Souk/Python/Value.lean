import Mathlib

/-!
# Python values which cross a socket

The peers of every wire here are untyped: a frame is whatever `json.loads` returns.  This file
gives those values, with `str` as a sequence of code points so that a lone surrogate is a value
like any other, and the operations the program applies to them: dictionary access, truth,
hashability, equality and the exceptions an operation raises on a value of the wrong type.
-/

namespace Souk.Python

/-- One element of a Python `str`; the surrogates are among them. -/
abbrev CodePoint := Fin 0x110000

instance codePointNeZero : NeZero (0x110000 : Nat) := ⟨by decide⟩

/-- A Python `str`. -/
abbrev Str := List CodePoint

instance strLawfulBEq : LawfulBEq Str := inferInstance

/-- The code point of a character. -/
def codePoint (char : Char) : CodePoint :=
  ⟨char.toNat, by
    have valid := char.valid
    unfold Char.toNat
    rcases valid with small | ⟨_, large⟩
    · omega
    · exact large⟩

/-- A string literal of the source as a Python `str`. -/
def str (text : String) : Str := text.toList.map codePoint

instance : Coe String Str := ⟨str⟩

theorem codePoint_injective : Function.Injective codePoint := by
  intro left right equality
  have values : (codePoint left).val = (codePoint right).val := congrArg Fin.val equality
  exact Char.toNat_inj.mp values

@[simp]
theorem str_inj {left right : String} : str left = str right ↔ left = right := by
  rw [str, str, List.map_inj_right fun _ _ equality => codePoint_injective equality,
    String.toList_inj]

/-- A binary64 value; the two zeros are one value, as they are for `==` and for truth. -/
inductive Float64 where
  | finite (value : ℚ)
  | infinite (negative : Bool)
  | nan
  deriving DecidableEq

namespace Float64

/-- Nearest integer to `numerator / denominator`, ties to even. -/
def roundHalfEven (numerator denominator : Nat) : Nat :=
  let quotient := numerator / denominator
  let twice := 2 * (numerator % denominator)
  if twice < denominator then quotient
  else if denominator < twice then quotient + 1
  else if quotient % 2 = 0 then quotient else quotient + 1

/-- Exponent of the unit in the last place of a positive rational, not below the subnormal one. -/
def ulpExponent (numerator denominator : Nat) : Int :=
  let estimate : Int := (Nat.log2 numerator : Int) - Nat.log2 denominator
  let floorLog :=
    if 0 ≤ estimate then
      if numerator < denominator * 2 ^ estimate.toNat then estimate - 1 else estimate
    else if numerator * 2 ^ (-estimate).toNat < denominator then estimate - 1 else estimate
  max (floorLog - 52) (-1074)

/-- The binary64 value nearest to `numerator / denominator`. -/
def nearest (negative : Bool) (numerator denominator : Nat) : Float64 :=
  let exponent := ulpExponent numerator denominator
  let significand :=
    if 0 ≤ exponent then roundHalfEven numerator (denominator * 2 ^ exponent.toNat)
    else roundHalfEven (numerator * 2 ^ (-exponent).toNat) denominator
  let magnitude : ℚ := significand * (2 : ℚ) ^ exponent
  if 2 ^ 1024 ≤ magnitude then .infinite negative
  else .finite (if negative then -magnitude else magnitude)

/-- The value of a decimal literal `digits · 10 ^ exponent`, where `count` digits were written. -/
def ofDecimal (negative : Bool) (digits count : Nat) (exponent : Int) : Float64 :=
  if digits = 0 ∨ count + exponent < -400 then .finite 0
  else if 400 < exponent then .infinite negative
  else if 0 ≤ exponent then nearest negative (digits * 10 ^ exponent.toNat) 1
  else nearest negative digits (10 ^ (-exponent).toNat)

end Float64

/-- A value `json.loads` can return. -/
inductive Value where
  | null
  | bool (value : Bool)
  | int (value : Int)
  | float (value : Float64)
  | str (value : Str)
  | list (items : List Value)
  | dict (fields : List (Str × Value))

/-- The exceptions the modelled code can raise, by class. -/
inductive Raised where
  | typeError
  | valueError
  | keyError
  | attributeError
  | recursionError
  | overflowError
  | jsonDecodeError
  | unicodeEncodeError
  | funduqError
  | runtimeError
  deriving DecidableEq, Repr

/-- What the first of two calls must have returned for the second to be made. -/
theorem bind_eq_ok {α β : Type} {action : Except Raised α} {next : α → Except Raised β}
    {result : β} : action >>= next = .ok result ↔
      ∃ value, action = .ok value ∧ next value = .ok result := by
  cases action with
  | ok value =>
      constructor
      · intro taken
        exact ⟨value, rfl, taken⟩
      · rintro ⟨other, same, taken⟩
        obtain rfl := Except.ok.inj same
        exact taken
  | error raised =>
      constructor
      · intro impossible
        cases impossible
      · rintro ⟨value, impossible, _⟩
        cases impossible

/-- An exception of two calls is raised by the first, or by the second after the first returned. -/
theorem error_of_bind {α β : Type} {action : Except Raised α} {next : α → Except Raised β}
    {raised : Raised} (failed : action >>= next = .error raised) :
    action = .error raised ∨ ∃ value, action = .ok value ∧ next value = .error raised := by
  cases action with
  | ok value => exact .inr ⟨value, rfl, failed⟩
  | error other => exact .inl (congrArg Except.error (Except.error.inj failed))

/-- An exception of a call whose value is only converted is that of the call. -/
theorem error_of_map {α β : Type} {action : Except Raised α} {convert : α → β} {raised : Raised}
    (failed : (do let value ← action; return convert value) = .error raised) :
    action = .error raised := by
  cases action with
  | ok value => cases failed
  | error other => exact congrArg Except.error (Except.error.inj failed)

/-- The fields of a `dict` value whose keys are strings. -/
abbrev Dict := List (Str × Value)

namespace Dict

/-- `d.get(key)`: a missing key and an explicit `null` both read as `None`. -/
def get (fields : Dict) (key : Str) : Value := (fields.lookup key).getD .null

/-- `d[key] = value`: the position of an existing key is kept. -/
def set : Dict → Str → Value → Dict
  | [], key, value => [(key, value)]
  | (other, old) :: rest, key, value =>
      if other = key then (key, value) :: rest else (other, old) :: set rest key value

/-- `{key: value for key, value in d.items() if key not in dropped}`. -/
def without (fields : Dict) (dropped : List Str) : Dict :=
  fields.filter fun field => field.1 ∉ dropped

@[simp]
theorem get_nil (key : Str) : get [] key = .null := rfl

@[simp]
theorem lookup_set_self (fields : Dict) (key : Str) (value : Value) :
    (set fields key value).lookup key = some value := by
  induction fields with
  | nil => simp [set]
  | cons field fields induction =>
      obtain ⟨name, old⟩ := field
      by_cases same : name = key
      · simp [set, same]
      · have unequal : (key == name) = false := by simpa using fun equal => same equal.symm
        rw [set, if_neg same, List.lookup_cons, unequal]
        exact induction

/-- Setting a key leaves the others as they are. -/
theorem lookup_set_of_ne {fields : Dict} {key other : Str} {value : Value} (differ : other ≠ key) :
    (set fields key value).lookup other = fields.lookup other := by
  have unequal : (other == key) = false := by simpa using differ
  induction fields with
  | nil => rw [set, List.lookup_cons, unequal]
  | cons field fields induction =>
      obtain ⟨name, old⟩ := field
      by_cases same : name = key
      · rw [set, if_pos same, same, List.lookup_cons, List.lookup_cons, unequal]
      · rw [set, if_neg same, List.lookup_cons, List.lookup_cons, induction]

end Dict

namespace Value

/-- Python's `bool(value)`. -/
def truthy : Value → Bool
  | .null => false
  | .bool value => value
  | .int value => value ≠ 0
  | .float value => value ≠ .finite 0
  | .str value => value ≠ []
  | .list items => !items.isEmpty
  | .dict fields => !fields.isEmpty

/-- Whether `hash(value)` returns; a set or dictionary lookup raises `TypeError` where not. -/
def hashable : Value → Bool
  | .list _ | .dict _ => false
  | _ => true

/-- `value or default`. -/
def orElse (value default : Value) : Value := if value.truthy then value else default

/-- The string a value is, if it is one: `isinstance(value, str)`. -/
def asStr? : Value → Option Str
  | .str value => some value
  | _ => none

/-- The dictionary a value is, if it is one: `isinstance(value, dict)`. -/
def asDict? : Value → Option Dict
  | .dict fields => some fields
  | _ => none

/-- The integer a value is, if it is one: `isinstance(value, int)`, which a `bool` is. -/
def asInt? : Value → Option Int
  | .int value => some value
  | .bool value => some (if value then 1 else 0)
  | _ => none

/-- The non-empty string a value is: `isinstance(value, str) and value`. -/
def nonEmptyStr? (value : Value) : Option Str :=
  match value with
  | .str [] => none
  | .str text => some text
  | _ => none

/-- `value.get(key)`, which only a dictionary has. -/
def getAttr (value : Value) (key : Str) : Except Raised Value :=
  match value with
  | .dict fields => .ok (Dict.get fields key)
  | _ => .error .attributeError

/-- `value[key]` with a string key. -/
def item (value : Value) (key : Str) : Except Raised Value :=
  match value with
  | .dict fields =>
      match fields.lookup key with
      | some found => .ok found
      | none => .error .keyError
  | _ => .error .typeError

/-- The number a value compares as: Python compares booleans, integers and floats by value. -/
def number? : Value → Option Float64
  | .bool value => some (.finite (if value then 1 else 0))
  | .int value => some (.finite value)
  | .float value => some value
  | _ => none

mutual

/-- How a container compares two elements, `left is right or left == right`.  `json.loads` returns
one object for every `NaN`. -/
def same : Value → Value → Bool
  | .null, .null => true
  | .str left, .str right => left = right
  | .list left, .list right => sameItems left right
  | .dict left, .dict right => left.length = right.length && sameFields left right
  | left, right =>
      match number? left, number? right with
      | some x, some y => x = y
      | _, _ => false

/-- Elementwise comparison of two lists. -/
def sameItems : List Value → List Value → Bool
  | [], [] => true
  | left :: lefts, right :: rights => same left right && sameItems lefts rights
  | _, _ => false

/-- Every field on the left has the same one on the right. -/
def sameFields : List (Str × Value) → List (Str × Value) → Bool
  | [], _ => true
  | (key, left) :: lefts, rights =>
      (match rights.lookup key with
        | some right => same left right
        | none => false) && sameFields lefts rights

end

/-- Whether the value is the float `NaN`, which is the only value not equal to itself. -/
def isNaN : Value → Bool
  | .float .nan => true
  | _ => false

/-- Python's `left == right`. -/
def eq (left right : Value) : Bool := !left.isNaN && same left right

theorem same_str_iff (value : Value) (text : Str) :
    value.same (.str text) = true ↔ value = .str text := by
  cases value with
  | str other => simp [same]
  | null | bool | int | float | list | dict => simp [same, number?]

/-- Only a string equals a string. -/
theorem eq_str_iff (value : Value) (text : Str) :
    value.eq (.str text) = true ↔ value = .str text := by
  rw [eq, Bool.and_eq_true, same_str_iff]
  refine and_iff_right_of_imp ?_
  rintro rfl
  rfl

theorem getAttr_eq_ok {value result : Value} {key : Str} :
    value.getAttr key = .ok result ↔
      ∃ fields, value = .dict fields ∧ Dict.get fields key = result := by
  cases value with
  | dict fields => simp [getAttr]
  | null | bool | int | float | str | list => simp [getAttr]

theorem item_eq_ok {value result : Value} {key : Str} :
    value.item key = .ok result ↔
      ∃ fields, value = .dict fields ∧ fields.lookup key = some result := by
  cases value with
  | dict fields =>
      rw [item]
      cases found : fields.lookup key with
      | none => simp [found]
      | some other => simp [found]
  | null | bool | int | float | str | list => simp [item]

theorem get_of_item {fields : Dict} {key : Str} {result : Value}
    (found : (dict fields).item key = .ok result) : Dict.get fields key = result := by
  obtain ⟨_, same, lookup⟩ := item_eq_ok.mp found
  obtain rfl := dict.inj same
  rw [Dict.get, lookup, Option.getD_some]

/-- `value in items`. -/
def memberOf (value : Value) (items : List Value) : Bool := items.any fun item => same item value

/-- `len(value)`. -/
def len : Value → Except Raised Nat
  | .str text => .ok text.length
  | .list items => .ok items.length
  | .dict fields => .ok fields.length
  | _ => .error .typeError

/-- `text in value` for a string: a substring, an element or a key. -/
def contains (text : Str) : Value → Except Raised Bool
  | .str other => .ok (text <:+: other)
  | .list items => .ok (memberOf (.str text) items)
  | .dict fields => .ok (fields.lookup text).isSome
  | _ => .error .typeError

/-- The items a `for` loop over the value takes. -/
def iterate : Value → Except Raised (List Value)
  | .str text => .ok (text.map fun char => .str [char])
  | .list items => .ok items
  | .dict fields => .ok (fields.map fun field => .str field.1)
  | _ => .error .typeError

end Value

/-- An error text of the program: its format and the values which fill it. -/
structure Message where
  format : String
  values : List Value := []

end Souk.Python

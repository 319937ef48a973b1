import Souk.Python.Value

/-!
# `json.Unmarshal` into nested structs

A chain of structs with one field each, down to a string.  `encoding/json` finds a field by its name
up to case, lets a later member overwrite an earlier one, leaves alone what stands at `null`, and
reports a value of the wrong type after it has read everything.
-/

namespace Souk.Go

open Souk.Python

/-- `foldRune`, as far as it bears on names in ASCII: two runes beyond it fold to a letter. -/
def foldRune (point : CodePoint) : CodePoint :=
  if 0x61 ≤ point.val ∧ point.val ≤ 0x7A then Fin.ofNat _ (point.val - 0x20)
  else if point = 0x212A then codePoint 'K'
  else if point = 0x017F then codePoint 'S'
  else point

/-- `foldName` -/
def foldName (name : Str) : Str := name.map foldRune

/-- The member goes to the field. -/
def namesField (name key : Str) : Bool := foldName key = foldName name

/-- A Go string holds no surrogates: `unquote` puts U+FFFD in their place. -/
def goString (text : Str) : Str :=
  text.map fun point => if 0xD800 ≤ point.val ∧ point.val ≤ 0xDFFF then 0xFFFD else point

/-- `maxNestingDepth` -/
def maxNestingDepth : Nat := 10000

mutual

/-- `checkValid`, on the text of the value: the literals `NaN` and `Infinity` are Python's. -/
def checkValid (depth : Nat) : Value → Bool
  | .float (.finite _) | .null | .bool _ | .int _ | .str _ => true
  | .float _ => false
  | .list items => depth < maxNestingDepth && checkItems (depth + 1) items
  | .dict fields => depth < maxNestingDepth && checkFields (depth + 1) fields

def checkItems (depth : Nat) : List Value → Bool
  | [] => true
  | item :: items => checkValid depth item && checkItems depth items

def checkFields (depth : Nat) : List (Str × Value) → Bool
  | [] => true
  | (_, value) :: fields => checkValid depth value && checkFields depth fields

end

/-- Decode into the structs whose fields have these names, where the string holds `current`.  An
`UnmarshalTypeError` leaves nothing to use. -/
def decode : List Str → Str → Value → Option Str
  | _, current, .null => some current
  | [], _, .str text => some (goString text)
  | name :: names, current, .dict fields =>
      fields.foldlM (fun current field =>
        if namesField name field.1 then decode names current field.2 else some current) current
  | _, _, _ => none

/-- `json.Unmarshal` into a fresh struct; `none` is an error. -/
def unmarshal (names : List Str) (value : Value) : Option Str :=
  if checkValid 0 value then decode names [] value else none

/-! ## What is decoded -/

/-- The values in the place of the string, in the order of the text. -/
def reached : List Str → Value → List Value
  | [], value => [value]
  | name :: names, .dict fields =>
      fields.flatMap fun field => if namesField name field.1 then reached names field.2 else []
  | _, _ => []

/-- On the way to the string are objects, and the string is one, unless `null` cuts it short. -/
def WellTyped : List Str → Value → Prop
  | _, .null => True
  | [], .str _ => True
  | name :: names, .dict fields =>
      ∀ field ∈ fields, namesField name field.1 = true → WellTyped names field.2
  | _, _ => False

/-- The last string wins, and `null` is none. -/
def lastString (current : Str) (values : List Value) : Str :=
  values.foldl (fun current value => (value.asStr?.map goString).getD current) current

theorem lastString_append (current : Str) (first second : List Value) :
    lastString current (first ++ second) = lastString (lastString current first) second :=
  List.foldl_append

theorem reached_null {names : List Str} {current : Str} :
    lastString current (reached names .null) = current := by
  cases names <;> rfl

/-- The members of one object, folded from the left. -/
theorem decode_fields {name : Str} {names : List Str}
    (ih : ∀ (current : Str) (value : Value) (result : Str), decode names current value = some result ↔
      WellTyped names value ∧ lastString current (reached names value) = result)
    (fields : List (Str × Value)) (current result : Str) :
    decode (name :: names) current (.dict fields) = some result ↔
      WellTyped (name :: names) (.dict fields) ∧
        lastString current (reached (name :: names) (.dict fields)) = result := by
  induction fields generalizing current with
  | nil => simp [decode, WellTyped, reached, lastString]
  | cons field fields more =>
      have tail (current : Str) := more current
      simp only [decode, WellTyped, reached] at tail
      simp only [decode, WellTyped, reached, List.foldlM_cons, List.flatMap_cons,
        List.forall_mem_cons, lastString_append]
      by_cases named : namesField name field.1 = true
      · simp only [named, if_true, true_implies]
        constructor
        · intro decoded
          obtain ⟨next, first, rest⟩ := Option.bind_eq_some_iff.mp decoded
          obtain ⟨typed, rfl⟩ := (ih current field.2 next).mp first
          obtain ⟨others, last⟩ := (tail _).mp rest
          exact ⟨⟨typed, others⟩, last⟩
        · rintro ⟨⟨typed, others⟩, last⟩
          refine Option.bind_eq_some_iff.mpr ⟨_, (ih current field.2 _).mpr ⟨typed, rfl⟩, ?_⟩
          exact (tail _).mpr ⟨others, last⟩
      · simp only [named, if_false, Bool.false_eq_true, false_implies, true_and]
        exact tail current

/-- What `decode` yields, and when. -/
theorem decode_eq_some_iff {names : List Str} {current result : Str} {value : Value} :
    decode names current value = some result ↔
      WellTyped names value ∧ lastString current (reached names value) = result := by
  induction names generalizing current value result with
  | nil => cases value <;> simp [decode, WellTyped, reached, lastString, Value.asStr?]
  | cons name names ih =>
      cases value with
      | dict fields => exact decode_fields (fun _ _ _ => ih) fields current result
      | null => simp [decode, WellTyped, reached_null]
      | bool | int | float | str | list => simp [decode, WellTyped]

end Souk.Go

import Souk.Python.JsonDecoder

/-!
# The text `json.dumps` writes

With `ensure_ascii`, as every caller here leaves it: a string is written in printable ASCII and a
character beyond the basic plane as a pair of escapes.  `json.loads` reads the text back, except
that it joins two surrogates which stood apart.
-/

namespace Souk.Python.Json

/-- How a call of `json.dumps` writes. -/
structure Encoder where
  /-- There is a space behind every separator. -/
  spaced : Bool
  /-- `float.__repr__` -/
  floatText : Float64 → Str

namespace Encoder

/-- What stands behind a comma or a colon. -/
def gap (encoder : Encoder) : Str := if encoder.spaced then [0x20] else []

end Encoder

/-- The digit of a value below sixteen. -/
def hexPoint (value : Nat) : CodePoint :=
  Fin.ofNat _ (if value < 10 then 0x30 + value else 0x57 + value)

/-- `'\\u{0:04x}'` -/
def unitEscape (unit : Nat) : Str :=
  [reverseSolidus, codePoint 'u', hexPoint (unit / 0x1000), hexPoint (unit / 0x100 % 0x10),
    hexPoint (unit / 0x10 % 0x10), hexPoint (unit % 0x10)]

/-- One character inside a string. -/
def escapePoint (point : CodePoint) : Str :=
  if point = quotationMark ∨ point = reverseSolidus then [reverseSolidus, point]
  else if point = 0x0A then [reverseSolidus, codePoint 'n']
  else if point = 0x0D then [reverseSolidus, codePoint 'r']
  else if point = 0x09 then [reverseSolidus, codePoint 't']
  else if point = 0x0C then [reverseSolidus, codePoint 'f']
  else if point = 0x08 then [reverseSolidus, codePoint 'b']
  else if 0x20 ≤ point.val ∧ point.val < 0x7F then [point]
  else if point.val < 0x10000 then unitEscape point.val
  else
    unitEscape (0xD800 + (point.val - 0x10000) / 0x400) ++
      unitEscape (0xDC00 + (point.val - 0x10000) % 0x400)

/-- A string with its quotation marks. -/
def stringText (text : Str) : Str :=
  quotationMark :: text.flatMap escapePoint ++ [quotationMark]

/-- The decimal digits of a number. -/
def decimal (number : Nat) : Str :=
  if number = 0 then [0x30]
  else ((Nat.digits 10 number).reverse).map fun digit => Fin.ofNat _ (0x30 + digit)

/-- `int.__repr__` -/
def intText : Int → Str
  | .ofNat number => decimal number
  | .negSucc number => codePoint '-' :: decimal (number + 1)

mutual

/-- The text of a value. -/
def text (encoder : Encoder) : Value → Str
  | .null => str "null"
  | .bool true => str "true"
  | .bool false => str "false"
  | .int value => intText value
  | .float value => encoder.floatText value
  | .str value => stringText value
  | .list [] => str "[]"
  | .list (item :: items) =>
      codePoint '[' :: text encoder item ++ itemsText encoder items ++ [codePoint ']']
  | .dict [] => str "\x7b\x7d"
  | .dict ((key, value) :: fields) =>
      codePoint '\x7b' :: stringText key ++ codePoint ':' :: encoder.gap ++ text encoder value ++
        fieldsText encoder fields ++ [codePoint '\x7d']

/-- The items after the first, each behind its separator. -/
def itemsText (encoder : Encoder) : List Value → Str
  | [] => []
  | item :: items =>
      codePoint ',' :: encoder.gap ++ text encoder item ++ itemsText encoder items

/-- The members after the first. -/
def fieldsText (encoder : Encoder) : List (Str × Value) → Str
  | [] => []
  | (key, value) :: fields =>
      codePoint ',' :: encoder.gap ++ stringText key ++ codePoint ':' :: encoder.gap ++
        text encoder value ++ fieldsText encoder fields

end

/-! ## What is read back -/

def isHigh (point : CodePoint) : Bool := 0xD800 ≤ point.val && point.val ≤ 0xDBFF

def isLow (point : CodePoint) : Bool := 0xDC00 ≤ point.val && point.val ≤ 0xDFFF

/-- A string under construction, with one more character read into it. -/
def appendPoint (read : Str × Bool) (point : CodePoint) : Str × Bool :=
  if point.val < 0x10000 then appendUnit read.1 read.2 point.val else (read.1 ++ [point], false)

/-- What becomes of a string: two surrogates which stood apart are joined. -/
def rereadStr (text : Str) : Str := (text.foldl appendPoint ([], false)).1

mutual

/-- What becomes of a value. -/
def reread : Value → Value
  | .str text => .str (rereadStr text)
  | .list items => .list (rereadItems items)
  | .dict fields => .dict (rereadFields [] fields)
  | .null => .null
  | .bool value => .bool value
  | .int value => .int value
  | .float value => .float value

def rereadItems : List Value → List Value
  | [] => []
  | item :: items => reread item :: rereadItems items

/-- Keys which have become equal name one member. -/
def rereadFields (before : Dict) : List (Str × Value) → Dict
  | [] => before
  | (key, value) :: fields =>
      rereadFields (Dict.set before (rereadStr key) (reread value)) fields

end

mutual

/-- Whether the text of a value is within the limits, inside `depth` containers. -/
def readable (limits : Limits) (depth : Nat) : Value → Bool
  | .null | .bool _ | .str _ => true
  | .int value =>
      (Nat.digits 10 value.natAbs).length ≤ limits.maxIntDigits && 0 < limits.maxIntDigits
  | .float _ => false
  | .list items => depth < limits.maxDepth && readableItems limits (depth + 1) items
  | .dict fields => depth < limits.maxDepth && readableFields limits (depth + 1) fields

def readableItems (limits : Limits) (depth : Nat) : List Value → Bool
  | [] => true
  | item :: items => readable limits depth item && readableItems limits depth items

def readableFields (limits : Limits) (depth : Nat) : List (Str × Value) → Bool
  | [] => true
  | (_, value) :: fields => readable limits depth value && readableFields limits depth fields

end

/-- No high surrogate stands in front of a low one, where one stood `afterHigh` already. -/
def unjoined (afterHigh : Bool) : Str → Bool
  | [] => true
  | point :: rest => !(afterHigh && isLow point) && unjoined (isHigh point) rest

/-- A unit which does not complete a pair is appended as it is. -/
theorem appendUnit_apart {read : Str} {afterHigh : Bool} {point : CodePoint}
    (apart : (afterHigh && isLow point) = false) :
    appendUnit read afterHigh point.val = (read ++ [point], isHigh point) := by
  have same : Fin.ofNat 0x110000 point.val = point := Fin.ofNat_val_eq_self point
  unfold appendUnit
  split
  · rename_i high last
    have notLow : ¬(0xDC00 ≤ point.val ∧ point.val ≤ 0xDFFF) := by
      simpa [isLow] using apart
    rw [if_neg notLow, same, isHigh]
  · rw [same, isHigh]

theorem appendPoint_apart {read : Str} {afterHigh : Bool} {point : CodePoint}
    (apart : (afterHigh && isLow point) = false) :
    appendPoint (read, afterHigh) point = (read ++ [point], isHigh point) := by
  unfold appendPoint
  split
  · exact appendUnit_apart apart
  · have high : isHigh point = false := by
      simp [isHigh]
      omega
    rw [high]

theorem foldl_appendPoint {read text : Str} {afterHigh : Bool}
    (apart : unjoined afterHigh text = true) :
    (text.foldl appendPoint (read, afterHigh)).1 = read ++ text := by
  induction text generalizing read afterHigh with
  | nil => exact (List.append_nil read).symm
  | cons point text ih =>
      simp only [unjoined, Bool.and_eq_true, Bool.not_eq_true'] at apart
      rw [List.foldl_cons, appendPoint_apart apart.1, ih apart.2, List.append_assoc]
      rfl

/-- A string without such a pair is read back as it was. -/
theorem rereadStr_of_unjoined {text : Str} (apart : unjoined false text = true) :
    rereadStr text = text := foldl_appendPoint apart

/-- The characters of ASCII are no surrogates. -/
theorem unjoined_of_ascii {afterHigh : Bool} {text : Str}
    (ascii : ∀ point ∈ text, point.val < 0x80) :
    unjoined afterHigh text = true := by
  induction text generalizing afterHigh with
  | nil => rfl
  | cons point text ih =>
      have small := ascii point List.mem_cons_self
      have low : isLow point = false := by
        simp [isLow]
        omega
      rw [unjoined, low, ih fun other member => ascii other (List.mem_cons_of_mem point member)]
      simp

/-! ## Reading a piece of text -/

/-- The scanner reads a piece of text, whatever follows it. -/
def Reads (limits : Limits) (before : Scanner) (piece : Str) (after : Scanner) : Prop :=
  ∀ rest, before.scan limits (piece ++ rest) = after.scan limits rest

variable {limits : Limits} {before middle after : Scanner} {stack : List Frame}

theorem Reads.append {first second : Str} (reads : Reads limits before first middle)
    (more : Reads limits middle second after) : Reads limits before (first ++ second) after := by
  intro rest
  rw [List.append_assoc, reads, more]

theorem reads_point {point : CodePoint} (taken : before.step limits point = .ok after) :
    Reads limits before [point] after := by
  intro rest
  rw [List.singleton_append, Scanner.scan, taken]
  rfl

theorem Reads.point {piece : Str} {point : CodePoint} (reads : Reads limits middle piece after)
    (taken : before.step limits point = .ok middle) : Reads limits before (point :: piece) after :=
  (reads_point taken).append reads

/-! ### Strings -/

theorem hexDigit?_hexPoint : ∀ value < 16, hexDigit? (hexPoint value) = some value := by decide

/-- A unit is read and appended, as `appendUnit` has it. -/
theorem reads_unitEscape {keyOf : Option Dict} {read : Str} {afterHigh : Bool} {unit : Nat}
    (small : unit < 0x10000) :
    Reads limits ⟨.string keyOf read afterHigh .plain, stack⟩ (unitEscape unit)
      ⟨.string keyOf (appendUnit read afterHigh unit).1 (appendUnit read afterHigh unit).2 .plain,
        stack⟩ := by
  have nibble {value : Nat} (bound : value < 16) (scanned count : Nat) (more : count ≠ 3) :
      (⟨.string keyOf read afterHigh (.hex scanned count), stack⟩ : Scanner).step limits
        (hexPoint value) =
      .ok ⟨.string keyOf read afterHigh (.hex (16 * scanned + value) (count + 1)), stack⟩ := by
    simp only [Scanner.step, continueString, hexDigit?_hexPoint value bound, if_neg more]
  have last {value : Nat} (bound : value < 16) (scanned : Nat) :
      (⟨.string keyOf read afterHigh (.hex scanned 3), stack⟩ : Scanner).step limits
        (hexPoint value) =
      .ok ⟨.string keyOf (appendUnit read afterHigh (16 * scanned + value)).1
        (appendUnit read afterHigh (16 * scanned + value)).2 .plain, stack⟩ := by
    simp only [Scanner.step, continueString, hexDigit?_hexPoint value bound, if_true]
  have whole : 16 * (16 * (16 * (16 * 0 + unit / 0x1000) + unit / 0x100 % 0x10) +
      unit / 0x10 % 0x10) + unit % 0x10 = unit := by omega
  have finished := reads_point (last (Nat.mod_lt unit (by decide : 0 < 0x10))
    (16 * (16 * (16 * 0 + unit / 0x1000) + unit / 0x100 % 0x10) + unit / 0x10 % 0x10))
  rw [whole] at finished
  have third := finished.point (nibble (Nat.mod_lt (unit / 0x10) (by decide)) _ 2 (by decide))
  have second := third.point (nibble (Nat.mod_lt (unit / 0x100) (by decide)) _ 1 (by decide))
  have first := second.point (nibble (by omega : unit / 0x1000 < 16) 0 0 (by decide))
  exact (first.point rfl).point rfl

/-- The two units of a character beyond the basic plane are joined again. -/
theorem reads_pair {keyOf : Option Dict} {read : Str} {afterHigh : Bool} {point : CodePoint}
    (large : 0x10000 ≤ point.val) :
    Reads limits ⟨.string keyOf read afterHigh .plain, stack⟩
      (unitEscape (0xD800 + (point.val - 0x10000) / 0x400) ++
        unitEscape (0xDC00 + (point.val - 0x10000) % 0x400))
      ⟨.string keyOf (read ++ [point]) false .plain, stack⟩ := by
  have bound := point.isLt
  obtain ⟨high, highIs⟩ : ∃ high : CodePoint, high.val = 0xD800 + (point.val - 0x10000) / 0x400 :=
    ⟨⟨0xD800 + (point.val - 0x10000) / 0x400, by omega⟩, rfl⟩
  have first : appendUnit read afterHigh (0xD800 + (point.val - 0x10000) / 0x400) =
      (read ++ [high], true) := by
    rw [← highIs, appendUnit_apart]
    · simp [isHigh]
      omega
    · simp [isLow]
      omega
  have second : appendUnit (read ++ [high]) true (0xDC00 + (point.val - 0x10000) % 0x400) =
      (read ++ [point], false) := by
    have joined : 0x10000 + (high.val - 0xD800) * 0x400 +
        (0xDC00 + (point.val - 0x10000) % 0x400 - 0xDC00) = point.val := by omega
    simp only [appendUnit, List.getLast?_concat, List.dropLast_concat]
    rw [if_pos (by omega), joined, Fin.ofNat_val_eq_self]
  have readFirst := @reads_unitEscape limits stack keyOf read afterHigh _
    (by omega : 0xD800 + (point.val - 0x10000) / 0x400 < 0x10000)
  have readSecond := @reads_unitEscape limits stack keyOf (read ++ [high]) true _
    (by omega : 0xDC00 + (point.val - 0x10000) % 0x400 < 0x10000)
  rw [first] at readFirst
  rw [second] at readSecond
  exact readFirst.append readSecond

/-- A short escape or a printable character stands for itself. -/
theorem appendPoint_small {read : Str} {afterHigh : Bool} {point : CodePoint}
    (small : point.val < 0x80) :
    appendPoint (read, afterHigh) point = (read ++ [point], false) := by
  have low : isLow point = false := by
    simp [isLow]
    omega
  have high : isHigh point = false := by
    simp [isHigh]
    omega
  rw [appendPoint, if_pos (by omega), appendUnit_apart (by rw [low, Bool.and_false]), high]

theorem reads_escapePoint {keyOf : Option Dict} {read : Str} {afterHigh : Bool}
    {point : CodePoint} :
    Reads limits ⟨.string keyOf read afterHigh .plain, stack⟩ (escapePoint point)
      ⟨.string keyOf (appendPoint (read, afterHigh) point).1
        (appendPoint (read, afterHigh) point).2 .plain, stack⟩ := by
  unfold escapePoint
  split
  · rename_i special
    obtain rfl | rfl := special
    · rw [appendPoint_small (by decide)]
      exact (reads_point rfl).point rfl
    · rw [appendPoint_small (by decide)]
      exact (reads_point rfl).point rfl
  split
  · rename_i newline
    rw [appendPoint_small (by rw [newline]; decide), newline]
    exact (reads_point rfl).point rfl
  split
  · rename_i carriageReturn
    rw [appendPoint_small (by rw [carriageReturn]; decide), carriageReturn]
    exact (reads_point rfl).point rfl
  split
  · rename_i tab
    rw [appendPoint_small (by rw [tab]; decide), tab]
    exact (reads_point rfl).point rfl
  split
  · rename_i formFeed
    rw [appendPoint_small (by rw [formFeed]; decide), formFeed]
    exact (reads_point rfl).point rfl
  split
  · rename_i backspace
    rw [appendPoint_small (by rw [backspace]; decide), backspace]
    exact (reads_point rfl).point rfl
  split
  · rename_i ordinary _ _ _ _ _ printable
    rw [appendPoint_small (by omega)]
    refine reads_point ?_
    simp only [not_or] at ordinary
    simp only [Scanner.step, continueString, if_neg ordinary.1, if_neg ordinary.2,
      if_neg (by omega : ¬point.val < 0x20)]
  split
  · rename_i small
    rw [appendPoint, if_pos small]
    exact reads_unitEscape small
  · rename_i large
    rw [appendPoint, if_neg large]
    exact reads_pair (by omega)

/-- The scanner behind a string's closing quotation mark. -/
def closed (keyOf : Option Dict) (stack : List Frame) (text : Str) : Scanner :=
  match keyOf with
  | none => ⟨.after (.str text), stack⟩
  | some fields => ⟨.colon fields text, stack⟩

theorem reads_characters {keyOf : Option Dict} {read text : Str} {afterHigh : Bool} :
    Reads limits ⟨.string keyOf read afterHigh .plain, stack⟩
      (text.flatMap escapePoint ++ [quotationMark])
      (closed keyOf stack (text.foldl appendPoint (read, afterHigh)).1) := by
  induction text generalizing read afterHigh with
  | nil => cases keyOf <;> exact reads_point rfl
  | cons point text ih =>
      rw [List.flatMap_cons, List.append_assoc, List.foldl_cons]
      exact reads_escapePoint.append ih

theorem reads_stringText {first : Bool} {text : Str} :
    Reads limits ⟨.value first, stack⟩ (stringText text) ⟨.after (.str (rereadStr text)), stack⟩ :=
  (@reads_characters limits stack none [] text false).point rfl

theorem reads_keyText {fields : Dict} {first : Bool} {key : Str} :
    Reads limits ⟨.key fields first, stack⟩ (stringText key)
      ⟨.colon fields (rereadStr key), stack⟩ :=
  (@reads_characters limits stack (some fields) [] key false).point rfl

/-! ### Numbers -/

/-- What follows a value: nothing, or one of the points which end a number. -/
def Delimited : Str → Prop
  | [] => True
  | point :: _ => point = codePoint ',' ∨ point = codePoint ']' ∨ point = codePoint '\x7d'

theorem digit?_point : ∀ value < 10, digit? (Fin.ofNat _ (0x30 + value)) = some value := by decide

theorem decimal_of_lt {number : Nat} (small : number < 10) :
    decimal number = [Fin.ofNat _ (0x30 + number)] := by
  unfold decimal
  split
  · rename_i zero
    subst zero
    rfl
  · rename_i positive
    rw [Nat.digits_of_lt 10 number positive small]
    rfl

theorem decimal_of_ge {number : Nat} (large : 10 ≤ number) :
    decimal number = decimal (number / 10) ++ [Fin.ofNat _ (0x30 + number % 10)] := by
  have quotient : number / 10 ≠ 0 := by omega
  rw [decimal, decimal, if_neg (by omega), if_neg quotient,
    Nat.digits_def' (by decide : 1 < 10) (by omega), List.reverse_cons, List.map_append]
  rfl

/-- A numeral is read into its value and its number of digits. -/
theorem reads_decimal {negative : Bool} (number : Nat)
    (start : ∀ value < 10, before.step limits (Fin.ofNat _ (0x30 + value)) =
      .ok ⟨.number (.int negative value 1), stack⟩) :
    Reads limits before (decimal number)
      ⟨.number (.int negative number (decimal number).length), stack⟩ := by
  induction number using Nat.strong_induction_on with
  | _ number ih =>
      by_cases small : number < 10
      · rw [decimal_of_lt small]
        exact reads_point (start number small)
      · have large : 10 ≤ number := by omega
        have quotient : number / 10 ≠ 0 := by omega
        have value : 10 * (number / 10) + number % 10 = number := by omega
        rw [decimal_of_ge large, List.length_append]
        refine (ih (number / 10) (by omega)).append (reads_point ?_)
        simp only [Scanner.step, NumberScan.extend?, digit?_point _ (Nat.mod_lt number (by decide)),
          if_neg quotient, value]
        rfl

theorem length_decimal_le {number bound : Nat} (digits : (Nat.digits 10 number).length ≤ bound)
    (positive : 0 < bound) : (decimal number).length ≤ bound := by
  unfold decimal
  split
  · exact positive
  · simpa using digits

/-- A complete numeral ends where something else begins. -/
theorem scan_number {negative : Bool} {number count : Nat} {rest : Str}
    (short : count ≤ limits.maxIntDigits) (delimited : Delimited rest) :
    (⟨.number (.int negative number count), stack⟩ : Scanner).scan limits rest =
      (⟨.after (.int (if negative then -(number : Int) else number)), stack⟩ : Scanner).scan limits
        rest := by
  have value : toInt limits negative number count =
      .ok (.int (if negative then -(number : Int) else number)) := by
    rw [toInt, if_neg (by omega)]
  cases rest with
  | nil => simp only [Scanner.scan, Scanner.finish, NumberScan.complete, value]
  | cons point rest =>
      have ended : NumberScan.extend? (.int negative number count) point = none := by
        obtain rfl | rfl | rfl := delimited <;> rfl
      simp only [Scanner.scan, Scanner.step, ended, NumberScan.complete, value]
      rfl

theorem scan_intText {first : Bool} {value : Int} {rest : Str}
    (digits : (Nat.digits 10 value.natAbs).length ≤ limits.maxIntDigits)
    (positive : 0 < limits.maxIntDigits) (delimited : Delimited rest) :
    (⟨.value first, stack⟩ : Scanner).scan limits (intText value ++ rest) =
      (⟨.after (.int value), stack⟩ : Scanner).scan limits rest := by
  cases value with
  | ofNat number =>
      have start : ∀ digit < 10, (⟨.value first, stack⟩ : Scanner).step limits
          (Fin.ofNat _ (0x30 + digit)) = .ok ⟨.number (.int false digit 1), stack⟩ := by
        intro digit small
        interval_cases digit <;> rfl
      have short : (decimal number).length ≤ limits.maxIntDigits :=
        length_decimal_le digits positive
      rw [intText, reads_decimal number start, scan_number short delimited]
      rfl
  | negSucc number =>
      have start : ∀ digit < 10, (⟨.number .minus, stack⟩ : Scanner).step limits
          (Fin.ofNat _ (0x30 + digit)) = .ok ⟨.number (.int true digit 1), stack⟩ := by
        intro digit small
        interval_cases digit <;> rfl
      have read : Reads limits ⟨.value first, stack⟩ (intText (.negSucc number)) _ :=
        (reads_decimal (number + 1) start).point rfl
      have short : (decimal (number + 1)).length ≤ limits.maxIntDigits :=
        length_decimal_le digits positive
      rw [read, scan_number short delimited]
      rfl

/-! ### Values -/

theorem reads_gap (encoder : Encoder) {mode : Mode}
    (skips : (⟨mode, stack⟩ : Scanner).step limits 0x20 = .ok ⟨mode, stack⟩) :
    Reads limits ⟨mode, stack⟩ encoder.gap ⟨mode, stack⟩ := by
  unfold Encoder.gap
  split
  · exact reads_point skips
  · exact fun _ => rfl

theorem delimited_itemsText (encoder : Encoder) (items : List Value) (rest : Str) :
    Delimited (itemsText encoder items ++ codePoint ']' :: rest) := by
  cases items with
  | nil => exact Or.inr (Or.inl rfl)
  | cons item items => exact Or.inl rfl

theorem delimited_fieldsText (encoder : Encoder) (fields : List (Str × Value)) (rest : Str) :
    Delimited (fieldsText encoder fields ++ codePoint '\x7d' :: rest) := by
  cases fields with
  | nil => exact Or.inr (Or.inr rfl)
  | cons field fields => exact Or.inl rfl

/-- A literal name is read to its end before it counts as a value. -/
theorem scan_word (value : Value) (rest : Str) :
    (⟨.word [] value, stack⟩ : Scanner).scan limits rest =
      (⟨.after value, stack⟩ : Scanner).scan limits rest := by
  cases rest <;> rfl

theorem reads_word {word : Str} {value : Value} :
    Reads limits ⟨.word word value, stack⟩ word ⟨.word [] value, stack⟩ := by
  induction word with
  | nil => exact fun _ => rfl
  | cons point word ih =>
      refine ih.point ?_
      simp only [Scanner.step, if_true]

/-- The opening bracket of a list which is not nested too deeply. -/
theorem reads_openList {first : Bool} (shallow : stack.length < limits.maxDepth) :
    Reads limits ⟨.value first, stack⟩ [codePoint '['] ⟨.value true, .list [] :: stack⟩ := by
  have opens : (⟨.value first, stack⟩ : Scanner).step limits (codePoint '[') =
      if stack.length < limits.maxDepth then .ok ⟨.value true, .list [] :: stack⟩
      else .error .recursionError := rfl
  exact reads_point (opens.trans (if_pos shallow))

theorem reads_openDict {first : Bool} (shallow : stack.length < limits.maxDepth) :
    Reads limits ⟨.value first, stack⟩ [codePoint '\x7b'] ⟨.key [] true, stack⟩ := by
  have opens : (⟨.value first, stack⟩ : Scanner).step limits (codePoint '\x7b') =
      if stack.length < limits.maxDepth then .ok ⟨.key [] true, stack⟩
      else .error .recursionError := rfl
  exact reads_point (opens.trans (if_pos shallow))

/-- A member from its key to its value. -/
theorem reads_member (encoder : Encoder) {fields : Dict} {first : Bool} {key : Str} :
    Reads limits ⟨.key fields first, stack⟩ (stringText key ++ codePoint ':' :: encoder.gap)
      ⟨.value false, .dict fields (rereadStr key) :: stack⟩ :=
  reads_keyText.append ((reads_gap encoder rfl).point rfl)

mutual

/-- The text of a value is read to its end. -/
theorem scan_text (encoder : Encoder) : ∀ (value : Value) (first : Bool) (stack : List Frame)
    (rest : Str), readable limits stack.length value = true → Delimited rest →
    (⟨.value first, stack⟩ : Scanner).scan limits (text encoder value ++ rest) =
      (⟨.after (reread value), stack⟩ : Scanner).scan limits rest
  | .null, first, stack, rest, _, _ => by
      have read : Reads limits ⟨.value first, stack⟩ (text encoder .null) ⟨.word [] .null, stack⟩ :=
        reads_word.point rfl
      rw [read, scan_word, reread]
  | .bool true, first, stack, rest, _, _ => by
      have read : Reads limits ⟨.value first, stack⟩ (text encoder (.bool true))
          ⟨.word [] (.bool true), stack⟩ := reads_word.point rfl
      rw [read, scan_word, reread]
  | .bool false, first, stack, rest, _, _ => by
      have read : Reads limits ⟨.value first, stack⟩ (text encoder (.bool false))
          ⟨.word [] (.bool false), stack⟩ := reads_word.point rfl
      rw [read, scan_word, reread]
  | .int value, first, stack, rest, fits, delimited => by
      simp only [readable, Bool.and_eq_true, decide_eq_true_eq] at fits
      rw [text, reread]
      exact scan_intText fits.1 fits.2 delimited
  | .float _, _, _, _, fits, _ => by cases fits
  | .str value, first, stack, rest, _, _ => by
      rw [text, reread]
      exact reads_stringText rest
  | .list [], first, stack, rest, fits, _ => by
      simp only [readable, Bool.and_eq_true, decide_eq_true_eq] at fits
      have read : Reads limits ⟨.value first, stack⟩ (text encoder (.list []))
          ⟨.after (.list []), stack⟩ := (reads_openList fits.1).append (reads_point rfl)
      exact read rest
  | .list (item :: items), first, stack, rest, fits, _ => by
      simp only [readable, readableItems, Bool.and_eq_true, decide_eq_true_eq] at fits
      obtain ⟨shallow, fitsItem, fitsItems⟩ := fits
      have shape : text encoder (.list (item :: items)) ++ rest = [codePoint '['] ++
          (text encoder item ++ (itemsText encoder items ++ codePoint ']' :: rest)) := by
        simp [text]
      rw [shape, reads_openList shallow, scan_text encoder item true (.list [] :: stack) _ fitsItem
        (delimited_itemsText encoder items rest),
        scan_itemsText encoder items [] (reread item) stack rest fitsItems]
      rfl
  | .dict [], first, stack, rest, fits, _ => by
      simp only [readable, Bool.and_eq_true, decide_eq_true_eq] at fits
      have read : Reads limits ⟨.value first, stack⟩ (text encoder (.dict []))
          ⟨.after (.dict []), stack⟩ := (reads_openDict fits.1).append (reads_point rfl)
      exact read rest
  | .dict ((key, value) :: fields), first, stack, rest, fits, _ => by
      simp only [readable, readableFields, Bool.and_eq_true, decide_eq_true_eq] at fits
      obtain ⟨shallow, fitsValue, fitsFields⟩ := fits
      have shape : text encoder (.dict ((key, value) :: fields)) ++ rest = [codePoint '\x7b'] ++
          ((stringText key ++ codePoint ':' :: encoder.gap) ++ (text encoder value ++
            (fieldsText encoder fields ++ codePoint '\x7d' :: rest))) := by
        simp [text]
      rw [shape, reads_openDict shallow, reads_member encoder,
        scan_text encoder value false (.dict [] (rereadStr key) :: stack) _ fitsValue
          (delimited_fieldsText encoder fields rest),
        scan_fieldsText encoder fields [] (rereadStr key) (reread value) stack rest fitsFields]
      rfl

theorem scan_itemsText (encoder : Encoder) : ∀ (items : List Value) (before : List Value)
    (last : Value) (stack : List Frame) (rest : Str),
    readableItems limits (stack.length + 1) items = true →
    (⟨.after last, .list before :: stack⟩ : Scanner).scan limits
        (itemsText encoder items ++ codePoint ']' :: rest) =
      (⟨.after (.list (before ++ last :: rereadItems items)), stack⟩ : Scanner).scan limits rest
  | [], before, last, stack, rest, _ => rfl
  | item :: items, before, last, stack, rest, fits => by
      simp only [readableItems, Bool.and_eq_true] at fits
      have shape : itemsText encoder (item :: items) ++ codePoint ']' :: rest = [codePoint ','] ++
          (encoder.gap ++ (text encoder item ++ (itemsText encoder items ++
            codePoint ']' :: rest))) := by
        simp [itemsText]
      have comma : Reads limits ⟨.after last, .list before :: stack⟩ [codePoint ',']
          ⟨.value false, .list (before ++ [last]) :: stack⟩ := reads_point rfl
      rw [shape, comma, reads_gap encoder rfl,
        scan_text encoder item false (.list (before ++ [last]) :: stack) _ fits.1
          (delimited_itemsText encoder items rest),
        scan_itemsText encoder items (before ++ [last]) (reread item) stack rest fits.2,
        List.append_assoc]
      rfl

theorem scan_fieldsText (encoder : Encoder) : ∀ (fields : List (Str × Value)) (before : Dict)
    (lastKey : Str) (last : Value) (stack : List Frame) (rest : Str),
    readableFields limits (stack.length + 1) fields = true →
    (⟨.after last, .dict before lastKey :: stack⟩ : Scanner).scan limits
        (fieldsText encoder fields ++ codePoint '\x7d' :: rest) =
      (⟨.after (.dict (rereadFields (Dict.set before lastKey last) fields)), stack⟩ :
        Scanner).scan limits rest
  | [], before, lastKey, last, stack, rest, _ => rfl
  | (key, value) :: fields, before, lastKey, last, stack, rest, fits => by
      simp only [readableFields, Bool.and_eq_true] at fits
      have shape : fieldsText encoder ((key, value) :: fields) ++ codePoint '\x7d' :: rest =
          [codePoint ','] ++ (encoder.gap ++ ((stringText key ++ codePoint ':' :: encoder.gap) ++
            (text encoder value ++ (fieldsText encoder fields ++ codePoint '\x7d' :: rest)))) := by
        simp [fieldsText]
      have comma : Reads limits ⟨.after last, .dict before lastKey :: stack⟩ [codePoint ',']
          ⟨.key (Dict.set before lastKey last) false, stack⟩ := reads_point rfl
      rw [shape, comma, reads_gap encoder rfl, reads_member encoder,
        scan_text encoder value false
          (.dict (Dict.set before lastKey last) (rereadStr key) :: stack) _ fits.1
          (delimited_fieldsText encoder fields rest),
        scan_fieldsText encoder fields (Dict.set before lastKey last) (rereadStr key) (reread value)
          stack rest fits.2]
      rfl

end

/-- The round trip of a value within the limits, whichever separators it was written with. -/
theorem loads_text (encoder : Encoder) {value : Value} (fits : readable limits 0 value = true) :
    loads limits (text encoder value) = .ok (reread value) := by
  have read := scan_text encoder value false [] [] fits trivial
  rw [List.append_nil] at read
  exact read

end Souk.Python.Json

import Souk.Python.Value

/-!
# `json.loads`

The decoder is a machine which reads one code point at a time and keeps the open containers on a
stack.  It is total by structural recursion on the text.  Besides `JSONDecodeError` it raises the
two exceptions a well-formed text can provoke: `ValueError` for an integer literal with more digits
than the interpreter converts, and `RecursionError` for containers nested too deeply.
-/

namespace Souk.Python.Json

/-- The limits of the interpreter which a text can run into. -/
structure Limits where
  /-- `sys.get_int_max_str_digits()`. -/
  maxIntDigits : Nat
  /-- Number of nested containers the scanner enters before it raises `RecursionError`. -/
  maxDepth : Nat

/-- The limits of an interpreter nobody has configured. -/
def defaultLimits : Limits := ⟨4300, 1000⟩

/-- A container being read. -/
inductive Frame where
  | list (items : List Value)
  | dict (fields : Dict) (key : Str)

/-- How much of a number has been read. -/
inductive NumberScan where
  | minus
  | int (negative : Bool) (digits count : Nat)
  | point (negative : Bool) (digits count : Nat)
  | fraction (negative : Bool) (digits count scale : Nat)
  | exponentMark (negative : Bool) (digits count scale : Nat) (integral signed negativeExp : Bool)
  | exponent (negative : Bool) (digits count scale : Nat) (negativeExp : Bool) (value : Nat)

/-- How much of an escape sequence inside a string has been read. -/
inductive EscapeScan where
  | plain
  | backslash
  | hex (value count : Nat)

/-- What the scanner stands in front of. -/
inductive Mode where
  | value (first : Bool)
  | key (fields : Dict) (first : Bool)
  | colon (fields : Dict) (key : Str)
  | after (value : Value)
  | word (rest : Str) (value : Value)
  | string (keyOf : Option Dict) (read : Str) (afterHigh : Bool) (escape : EscapeScan)
  | number (scan : NumberScan)

/-- The scanner between two code points. -/
structure Scanner where
  mode : Mode
  stack : List Frame

/-- The quotation mark, which opens and closes a string. -/
def quotationMark : CodePoint := 0x22

/-- The backslash, which opens an escape sequence. -/
def reverseSolidus : CodePoint := 0x5C

/-- The white space JSON allows between tokens. -/
def isWhitespace (point : CodePoint) : Bool :=
  point = 0x20 || point = 0x09 || point = 0x0A || point = 0x0D

/-- The value of a decimal digit. -/
def digit? (point : CodePoint) : Option Nat :=
  if 0x30 ≤ point.val ∧ point.val ≤ 0x39 then some (point.val - 0x30) else none

/-- The value of a hexadecimal digit. -/
def hexDigit? (point : CodePoint) : Option Nat :=
  if 0x30 ≤ point.val ∧ point.val ≤ 0x39 then some (point.val - 0x30)
  else if 0x41 ≤ point.val ∧ point.val ≤ 0x46 then some (point.val - 0x37)
  else if 0x61 ≤ point.val ∧ point.val ≤ 0x66 then some (point.val - 0x57)
  else none

/-- `int(numeral)`, which refuses a numeral with too many digits. -/
def toInt (limits : Limits) (negative : Bool) (digits count : Nat) : Except Raised Value :=
  if limits.maxIntDigits < count then .error .valueError
  else .ok (.int (if negative then -(digits : Int) else digits))

/-- The value of the number read so far, at the end of its numeral.  A numeral cut inside its
fraction or exponent leaves text behind which no rule accepts, after the integer is converted. -/
def NumberScan.complete (limits : Limits) : NumberScan → Except Raised Value
  | .minus => .error .jsonDecodeError
  | .int negative digits count => toInt limits negative digits count
  | .point negative digits count => do
      let _ ← toInt limits negative digits count
      .error .jsonDecodeError
  | .fraction negative digits count scale =>
      .ok (.float (.ofDecimal negative digits count (-scale)))
  | .exponentMark negative digits count _ integral _ _ =>
      if integral then do
        let _ ← toInt limits negative digits count
        .error .jsonDecodeError
      else .error .jsonDecodeError
  | .exponent negative digits count scale negativeExp value =>
      .ok (.float (.ofDecimal negative digits count
        ((if negativeExp then -(value : Int) else value) - scale)))

/-- The numeral extended by one code point, if it can be. -/
def NumberScan.extend? (scan : NumberScan) (point : CodePoint) : Option NumberScan :=
  match scan, digit? point with
  | .minus, some value => some (.int true value 1)
  | .int negative digits count, some value =>
      if digits = 0 then none else some (.int negative (10 * digits + value) (count + 1))
  | .int negative digits count, none =>
      if point = codePoint '.' then some (.point negative digits count)
      else if point = codePoint 'e' ∨ point = codePoint 'E' then
        some (.exponentMark negative digits count 0 true false false)
      else none
  | .point negative digits count, some value =>
      some (.fraction negative (10 * digits + value) (count + 1) 1)
  | .fraction negative digits count scale, some value =>
      some (.fraction negative (10 * digits + value) (count + 1) (scale + 1))
  | .fraction negative digits count scale, none =>
      if point = codePoint 'e' ∨ point = codePoint 'E' then
        some (.exponentMark negative digits count scale false false false)
      else none
  | .exponentMark negative digits count scale _ _ negativeExp, some value =>
      some (.exponent negative digits count scale negativeExp value)
  | .exponentMark negative digits count scale integral false _, none =>
      if point = codePoint '+' then
        some (.exponentMark negative digits count scale integral true false)
      else if point = codePoint '-' then
        some (.exponentMark negative digits count scale integral true true)
      else none
  | .exponent negative digits count scale negativeExp written, some value =>
      some (.exponent negative digits count scale negativeExp (10 * written + value))
  | _, _ => none

/-- Read one code point where a value must start; `first` allows an empty list to close. -/
def startValue (limits : Limits) (stack : List Frame) (first : Bool) (point : CodePoint) :
    Except Raised Scanner :=
  if isWhitespace point then .ok ⟨.value first, stack⟩
  else if point = quotationMark then .ok ⟨.string none [] false .plain, stack⟩
  else if point = codePoint '{' then
    if stack.length < limits.maxDepth then .ok ⟨.key [] true, stack⟩
    else .error .recursionError
  else if point = codePoint '[' then
    if stack.length < limits.maxDepth then .ok ⟨.value true, .list [] :: stack⟩
    else .error .recursionError
  else if point = codePoint 'n' then .ok ⟨.word (str "ull") .null, stack⟩
  else if point = codePoint 't' then .ok ⟨.word (str "rue") (.bool true), stack⟩
  else if point = codePoint 'f' then .ok ⟨.word (str "alse") (.bool false), stack⟩
  else if point = codePoint 'N' then .ok ⟨.word (str "aN") (.float .nan), stack⟩
  else if point = codePoint 'I' then
    .ok ⟨.word (str "nfinity") (.float (.infinite false)), stack⟩
  else if point = codePoint '-' then .ok ⟨.number .minus, stack⟩
  else
    match digit? point, first, stack with
    | some value, _, _ => .ok ⟨.number (.int false value 1), stack⟩
    | none, true, .list items :: rest =>
        if point = codePoint ']' then .ok ⟨.after (.list items), rest⟩
        else .error .jsonDecodeError
    | none, _, _ => .error .jsonDecodeError

/-- Read one code point after a complete value. -/
def continueAfter (value : Value) (stack : List Frame) (point : CodePoint) :
    Except Raised Scanner :=
  if isWhitespace point then .ok ⟨.after value, stack⟩
  else
    match stack with
    | [] => .error .jsonDecodeError
    | .list items :: rest =>
        if point = codePoint ',' then .ok ⟨.value false, .list (items ++ [value]) :: rest⟩
        else if point = codePoint ']' then .ok ⟨.after (.list (items ++ [value])), rest⟩
        else .error .jsonDecodeError
    | .dict fields key :: rest =>
        if point = codePoint ',' then .ok ⟨.key (Dict.set fields key value) false, rest⟩
        else if point = codePoint '}' then .ok ⟨.after (.dict (Dict.set fields key value)), rest⟩
        else .error .jsonDecodeError

/-- The character a one-letter escape stands for. -/
def shortEscape? (point : CodePoint) : Option CodePoint :=
  if point = quotationMark ∨ point = reverseSolidus ∨ point = codePoint '/' then some point
  else if point = codePoint 'b' then some 0x08
  else if point = codePoint 'f' then some 0x0C
  else if point = codePoint 'n' then some 0x0A
  else if point = codePoint 'r' then some 0x0D
  else if point = codePoint 't' then some 0x09
  else none

/-- Append the code unit of a `\u` escape; a low surrogate joins the high one just before it. -/
def appendUnit (read : Str) (afterHigh : Bool) (unit : Nat) : Str × Bool :=
  match afterHigh, read.getLast? with
  | true, some high =>
      if 0xDC00 ≤ unit ∧ unit ≤ 0xDFFF then
        (read.dropLast ++
          [Fin.ofNat _ (0x10000 + (high.val - 0xD800) * 0x400 + (unit - 0xDC00))], false)
      else (read ++ [Fin.ofNat _ unit], 0xD800 ≤ unit && unit ≤ 0xDBFF)
  | _, _ => (read ++ [Fin.ofNat _ unit], 0xD800 ≤ unit && unit ≤ 0xDBFF)

/-- Read one code point inside a string. -/
def continueString (stack : List Frame) (keyOf : Option Dict) (read : Str) (afterHigh : Bool)
    (escape : EscapeScan) (point : CodePoint) : Except Raised Scanner :=
  match escape with
  | .plain =>
      if point = quotationMark then
        match keyOf with
        | none => .ok ⟨.after (.str read), stack⟩
        | some fields => .ok ⟨.colon fields read, stack⟩
      else if point = reverseSolidus then .ok ⟨.string keyOf read afterHigh .backslash, stack⟩
      else if point.val < 0x20 then .error .jsonDecodeError
      else .ok ⟨.string keyOf (read ++ [point]) false .plain, stack⟩
  | .backslash =>
      if point = codePoint 'u' then .ok ⟨.string keyOf read afterHigh (.hex 0 0), stack⟩
      else
        match shortEscape? point with
        | some meant => .ok ⟨.string keyOf (read ++ [meant]) false .plain, stack⟩
        | none => .error .jsonDecodeError
  | .hex value count =>
      match hexDigit? point with
      | none => .error .jsonDecodeError
      | some nibble =>
          if count = 3 then
            let appended := appendUnit read afterHigh (16 * value + nibble)
            .ok ⟨.string keyOf appended.1 appended.2 .plain, stack⟩
          else .ok ⟨.string keyOf read afterHigh (.hex (16 * value + nibble) (count + 1)), stack⟩

/-- Read one code point. -/
def Scanner.step (limits : Limits) (scanner : Scanner) (point : CodePoint) :
    Except Raised Scanner :=
  match scanner.mode with
  | .value first => startValue limits scanner.stack first point
  | .key fields first =>
      if isWhitespace point then .ok scanner
      else if point = quotationMark then
        .ok ⟨.string (some fields) [] false .plain, scanner.stack⟩
      else if point = codePoint '}' ∧ first then .ok ⟨.after (.dict fields), scanner.stack⟩
      else .error .jsonDecodeError
  | .colon fields key =>
      if isWhitespace point then .ok scanner
      else if point = codePoint ':' then .ok ⟨.value false, .dict fields key :: scanner.stack⟩
      else .error .jsonDecodeError
  | .after value => continueAfter value scanner.stack point
  | .word [] value => continueAfter value scanner.stack point
  | .word (expected :: rest) value =>
      if point = expected then .ok ⟨.word rest value, scanner.stack⟩ else .error .jsonDecodeError
  | .string keyOf read afterHigh escape =>
      continueString scanner.stack keyOf read afterHigh escape point
  | .number .minus =>
      if point = codePoint 'I' then
        .ok ⟨.word (str "nfinity") (.float (.infinite true)), scanner.stack⟩
      else
        match NumberScan.minus.extend? point with
        | some extended => .ok ⟨.number extended, scanner.stack⟩
        | none => .error .jsonDecodeError
  | .number scan =>
      match scan.extend? point with
      | some extended => .ok ⟨.number extended, scanner.stack⟩
      | none => do
          let value ← scan.complete limits
          continueAfter value scanner.stack point

/-- The value of the whole text, at its end. -/
def Scanner.finish (limits : Limits) (scanner : Scanner) : Except Raised Value := do
  let value ←
    match scanner.mode with
    | .after value | .word [] value => .ok value
    | .number scan => scan.complete limits
    | _ => .error .jsonDecodeError
  match scanner.stack with
  | [] => .ok value
  | _ :: _ => .error .jsonDecodeError

/-- Read a text to its end. -/
def Scanner.scan (limits : Limits) (scanner : Scanner) : Str → Except Raised Value
  | [] => scanner.finish limits
  | point :: rest => do
      let next ← scanner.step limits point
      next.scan limits rest

/-- `json.loads(text)`. -/
def loads (limits : Limits) (text : Str) : Except Raised Value :=
  Scanner.scan limits ⟨.value false, []⟩ text

/-! ## The exceptions of the decoder -/

/-- The three exceptions `json.loads` raises. -/
def decodingErrors : List Raised := [.jsonDecodeError, .valueError, .recursionError]

/-- A computation which raises nothing else. -/
def Decoding {α : Type} (action : Except Raised α) : Prop :=
  ∀ raised, action = .error raised → raised ∈ decodingErrors

section Decoding

variable {α β : Type} {limits : Limits}

@[simp]
theorem decoding_ok (value : α) : Decoding (.ok value) := nofun

theorem decoding_error {raised : Raised} (among : raised ∈ decodingErrors) :
    Decoding (.error raised : Except Raised α) := by
  intro other same
  cases same
  exact among

@[simp]
theorem decoding_jsonDecodeError : Decoding (.error .jsonDecodeError : Except Raised α) :=
  decoding_error (by decide)

@[simp]
theorem decoding_valueError : Decoding (.error .valueError : Except Raised α) :=
  decoding_error (by decide)

@[simp]
theorem decoding_recursionError : Decoding (.error .recursionError : Except Raised α) :=
  decoding_error (by decide)

theorem Decoding.bind {action : Except Raised α} {next : α → Except Raised β}
    (first : Decoding action) (rest : ∀ value, Decoding (next value)) :
    Decoding (action >>= next) := by
  cases action with
  | ok value => exact rest value
  | error raised =>
      intro other same
      cases same
      exact first raised rfl

@[simp]
theorem decoding_ite {condition : Prop} [Decidable condition] {yes no : Except Raised α} :
    Decoding (if condition then yes else no) ↔
      (condition → Decoding yes) ∧ (¬condition → Decoding no) := by
  split <;> rename_i holds <;> simp [holds]

theorem decoding_toInt (negative : Bool) (digits count : Nat) :
    Decoding (toInt limits negative digits count) := by
  unfold toInt
  split <;> simp

theorem decoding_complete (scan : NumberScan) : Decoding (scan.complete limits) := by
  cases scan with
  | minus => exact decoding_jsonDecodeError
  | int negative digits count => exact decoding_toInt negative digits count
  | point negative digits count =>
      exact (decoding_toInt negative digits count).bind fun _ => decoding_jsonDecodeError
  | fraction | exponent => exact decoding_ok _
  | exponentMark negative digits count scale integral =>
      cases integral with
      | true => exact (decoding_toInt negative digits count).bind fun _ => decoding_jsonDecodeError
      | false => exact decoding_jsonDecodeError

theorem decoding_startValue (stack : List Frame) (first : Bool) (point : CodePoint) :
    Decoding (startValue limits stack first point) := by
  unfold startValue
  simp only [decoding_ite, decoding_ok, decoding_recursionError, implies_true, and_true, true_and]
  intros
  split <;> simp

theorem decoding_continueAfter (value : Value) (stack : List Frame) (point : CodePoint) :
    Decoding (continueAfter value stack point) := by
  unfold continueAfter
  simp only [decoding_ite, decoding_ok, implies_true, true_and]
  intros
  split <;> simp

theorem decoding_continueString (stack : List Frame) (keyOf : Option Dict) (read : Str)
    (afterHigh : Bool) (escape : EscapeScan) (point : CodePoint) :
    Decoding (continueString stack keyOf read afterHigh escape point) := by
  cases escape with
  | plain => cases keyOf <;> simp [continueString]
  | backslash => cases meant : shortEscape? point <;> simp [continueString, meant]
  | hex value count => cases nibble : hexDigit? point <;> simp [continueString, nibble]

theorem decoding_step (scanner : Scanner) (point : CodePoint) :
    Decoding (scanner.step limits point) := by
  unfold Scanner.step
  split
  · exact decoding_startValue _ _ _
  · simp
  · simp
  · exact decoding_continueAfter _ _ _
  · exact decoding_continueAfter _ _ _
  · simp
  · exact decoding_continueString _ _ _ _ _ _
  · simp only [decoding_ite, decoding_ok, implies_true, true_and]
    intro
    split <;> simp
  · split
    · exact decoding_ok _
    · exact (decoding_complete _).bind fun value => decoding_continueAfter _ _ _

theorem decoding_finish (scanner : Scanner) : Decoding (scanner.finish limits) := by
  rw [Scanner.finish]
  split
  all_goals
    refine Decoding.bind ?_ fun value => by cases scanner.stack <;> simp
  · exact decoding_ok _
  · exact decoding_ok _
  · exact decoding_complete _
  · exact decoding_jsonDecodeError

/-- `json.loads` raises `JSONDecodeError`, `ValueError` or `RecursionError`, and nothing else. -/
theorem decoding_loads (text : Str) : Decoding (loads limits text) := by
  have scans : ∀ scanner : Scanner, Decoding (scanner.scan limits text) := by
    induction text with
    | nil => exact decoding_finish
    | cons point rest induction =>
        intro scanner
        exact (decoding_step scanner point).bind induction
  exact scans _

end Decoding
end Souk.Python.Json

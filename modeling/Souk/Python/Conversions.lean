import Souk.Python.JsonEncoder
import Souk.Python.JsonText

/-!
# `int` and `str.encode`

The two conversions a signed payload goes through: what `int` makes of an arbitrary value, and the
bytes of a text, which has none where it holds a surrogate.
-/

namespace Souk.Python

/-! ## `int` -/

/-- `int(value)` of a float drops the fraction. -/
def Float64.truncate : Float64 → Except Raised Int
  | .finite value => .ok (if 0 ≤ value then ⌊value⌋ else ⌈value⌉)
  | .infinite _ => .error .overflowError
  | .nan => .error .valueError

/-- The zeros of the decimal digits, which stand in runs of ten. -/
def decimalZeros : List Nat :=
  [0x30, 0x660, 0x6F0, 0x7C0, 0x966, 0x9E6, 0xA66, 0xAE6, 0xB66, 0xBE6, 0xC66, 0xCE6, 0xD66, 0xDE6,
    0xE50, 0xED0, 0xF20, 0x1040, 0x1090, 0x17E0, 0x1810, 0x1946, 0x19D0, 0x1A80, 0x1A90, 0x1B50,
    0x1BB0, 0x1C40, 0x1C50, 0xA620, 0xA8D0, 0xA900, 0xA9D0, 0xA9F0, 0xAA50, 0xABF0, 0xFF10, 0x104A0,
    0x10D30, 0x11066, 0x110F0, 0x11136, 0x111D0, 0x112F0, 0x11450, 0x114D0, 0x11650, 0x116C0,
    0x11730, 0x118E0, 0x11950, 0x11C50, 0x11D50, 0x11DA0, 0x11F50, 0x16A60, 0x16AC0, 0x16B50,
    0x1D7CE, 0x1D7D8, 0x1D7E2, 0x1D7EC, 0x1D7F6, 0x1E140, 0x1E2F0, 0x1E4F0, 0x1E950, 0x1FBF0]

/-- `Py_UNICODE_TODECIMAL` -/
def toDecimal (point : CodePoint) : Option Nat :=
  (decimalZeros.find? fun start => start ≤ point.val ∧ point.val < start + 10).map (point.val - ·)

/-- `Py_UNICODE_ISSPACE` from U+007F on. -/
def isWideSpace (point : CodePoint) : Bool :=
  point.val ∈ [0x85, 0xA0, 0x1680, 0x2028, 0x2029, 0x202F, 0x205F, 0x3000] ∨
    0x2000 ≤ point.val ∧ point.val ≤ 0x200A

/-- `_PyUnicode_TransformDecimalAndSpaceToASCII` -/
def toAscii (point : CodePoint) : CodePoint :=
  if point.val < 0x7F then point
  else if isWideSpace point then 0x20
  else
    match toDecimal point with
    | some value => Fin.ofNat _ (0x30 + value)
    | none => codePoint '?'

/-- `Py_ISSPACE` -/
def isSpace (point : CodePoint) : Bool := point = 0x20 ∨ 0x09 ≤ point.val ∧ point.val ≤ 0x0D

/-- An unsigned numeral: digits, with single underscores between them. -/
def digitsToNat (limits : Json.Limits) (text : Str) : Except Raised Nat :=
  let groups := text.splitOn (codePoint '_')
  if groups.all fun group => group ≠ [] && group.all fun point => (Json.digit? point).isSome then
    if limits.maxIntDigits < groups.flatten.length then .error .valueError
    else .ok (groups.flatten.foldl (fun value point => 10 * value + (point.val - 0x30)) 0)
  else .error .valueError

/-- `int(text)` -/
def intOfStr (limits : Json.Limits) (text : Str) : Except Raised Int :=
  match ((text.map toAscii).dropWhile isSpace).rdropWhile isSpace with
  | [] => .error .valueError
  | sign :: digits =>
      if sign = codePoint '-' then do
        let value ← digitsToNat limits digits
        return -value
      else do
        let value ← digitsToNat limits (if sign = codePoint '+' then digits else sign :: digits)
        return value

/-- `int(value)` -/
def Value.toInt (limits : Json.Limits) : Value → Except Raised Int
  | .bool value => .ok (if value then 1 else 0)
  | .int value => .ok value
  | .float value => value.truncate
  | .str text => intOfStr limits text
  | .null | .list _ | .dict _ => .error .typeError

theorem digitsToNat_error {limits : Json.Limits} {text : Str} {raised : Raised}
    (failed : digitsToNat limits text = .error raised) : raised = .valueError := by
  simp only [digitsToNat] at failed
  split at failed
  · split at failed
    · exact (Except.error.inj failed).symm
    · cases failed
  · exact (Except.error.inj failed).symm

theorem intOfStr_error {limits : Json.Limits} {text : Str} {raised : Raised}
    (failed : intOfStr limits text = .error raised) : raised = .valueError := by
  unfold intOfStr at failed
  split at failed
  · exact (Except.error.inj failed).symm
  · split at failed
    · exact digitsToNat_error (error_of_map failed)
    · exact digitsToNat_error (error_of_map failed)

/-- The exceptions `int` raises: only an infinity overflows. -/
theorem Value.toInt_error {limits : Json.Limits} {value : Value} {raised : Raised}
    (failed : value.toInt limits = .error raised) :
    raised = .typeError ∨ raised = .valueError ∨
      raised = .overflowError ∧ ∃ negative, value = .float (.infinite negative) := by
  cases value with
  | null | list | dict => exact .inl (Except.error.inj failed).symm
  | bool | int => cases failed
  | str text => exact .inr (.inl (intOfStr_error failed))
  | float number =>
      cases number with
      | finite => cases failed
      | infinite negative => exact .inr (.inr ⟨(Except.error.inj failed).symm, negative, rfl⟩)
      | nan => exact .inr (.inl (Except.error.inj failed).symm)

/-! ## `str.encode` -/

/-- The character of a code point, if it is not a surrogate. -/
def scalar? (point : CodePoint) : Option Char :=
  if point.val.isValidChar then some (Char.ofNat point.val) else none

/-- `text.encode()` -/
def encodeUtf8 (text : Str) : Except Raised (List UInt8) :=
  match text.mapM scalar? with
  | some chars => .ok (chars.flatMap String.utf8EncodeChar)
  | none => .error .unicodeEncodeError

theorem codePoint_of_scalar? {point : CodePoint} {char : Char}
    (scalar : scalar? point = some char) :
    codePoint char = point := by
  unfold scalar? at scalar
  split at scalar
  · rename_i valid
    obtain rfl := Option.some.inj scalar
    apply Fin.ext
    exact (Char.toNat_ofNat _).trans (if_pos valid)
  · cases scalar

theorem str_of_mapM_scalar? {text : Str} {chars : List Char}
    (scalars : text.mapM scalar? = some chars) :
    chars.map codePoint = text := by
  induction text generalizing chars with
  | nil =>
      obtain rfl : [] = chars := by simpa using scalars
      rfl
  | cons point text induction =>
      rw [List.mapM_cons] at scalars
      obtain ⟨char, first, scalars⟩ := Option.bind_eq_some_iff.mp scalars
      obtain ⟨rest, others, scalars⟩ := Option.bind_eq_some_iff.mp scalars
      obtain rfl := Option.some.inj scalars
      rw [List.map_cons, codePoint_of_scalar? first, induction others]

/-- The bytes tell the characters. -/
theorem flatMap_utf8EncodeChar_injective {left right : List Char}
    (same : left.flatMap String.utf8EncodeChar = right.flatMap String.utf8EncodeChar) :
    left = right := by
  have encoded : left.utf8Encode = right.utf8Encode := by
    rw [List.utf8Encode, List.utf8Encode, same]
  have decoded : left.utf8Encode.utf8Decode? = right.utf8Encode.utf8Decode? := by rw [encoded]
  rw [List.utf8Decode?_utf8Encode, List.utf8Decode?_utf8Encode, Option.some.injEq] at decoded
  simpa using decoded

theorem scalar?_codePoint (char : Char) : scalar? (codePoint char) = some char := by
  have valid : (codePoint char).val.isValidChar := char.valid
  rw [scalar?, if_pos valid]
  exact congrArg some (Char.ofNat_toNat char)

/-- A text of characters has their bytes. -/
theorem encodeUtf8_map_codePoint (chars : List Char) :
    encodeUtf8 (chars.map codePoint) = .ok (chars.flatMap String.utf8EncodeChar) := by
  have scalars : (chars.map codePoint).mapM scalar? = some chars := by
    induction chars with
    | nil => rfl
    | cons char chars induction =>
        rw [List.map_cons, List.mapM_cons, scalar?_codePoint, induction]
        rfl
  rw [encodeUtf8, scalars]

/-- A text which has bytes is one of characters. -/
theorem exists_chars_of_encodeUtf8 {text : Str} {bytes : List UInt8}
    (encoded : encodeUtf8 text = .ok bytes) :
    ∃ chars : List Char, text = chars.map codePoint ∧
      bytes = chars.flatMap String.utf8EncodeChar := by
  unfold encodeUtf8 at encoded
  cases scalars : text.mapM scalar? with
  | none => simp [scalars] at encoded
  | some chars =>
      simp only [scalars, Except.ok.injEq] at encoded
      exact ⟨chars, (str_of_mapM_scalar? scalars).symm, encoded.symm⟩

/-- Two texts with the same bytes are the same. -/
theorem encodeUtf8_injective {left right : Str} {bytes : List UInt8}
    (first : encodeUtf8 left = .ok bytes) (second : encodeUtf8 right = .ok bytes) :
    left = right := by
  obtain ⟨leftChars, rfl, leftBytes⟩ := exists_chars_of_encodeUtf8 first
  obtain ⟨rightChars, rfl, rightBytes⟩ := exists_chars_of_encodeUtf8 second
  rw [flatMap_utf8EncodeChar_injective (leftBytes.symm.trans rightBytes)]

/-- Half of a surrogate pair, which has no bytes of its own. -/
def isSurrogate (point : CodePoint) : Bool := 0xD800 ≤ point.val ∧ point.val ≤ 0xDFFF

theorem isSome_scalar? (point : CodePoint) : (scalar? point).isSome = !isSurrogate point := by
  have inside := point.isLt
  by_cases valid : point.val.isValidChar
  · have whole : ¬(0xD800 ≤ point.val ∧ point.val ≤ 0xDFFF) := by
      rcases valid with low | high <;> omega
    simp [scalar?, isSurrogate, valid, whole]
  · have half : 0xD800 ≤ point.val ∧ point.val ≤ 0xDFFF := by
      simp only [Nat.isValidChar, not_or, not_and] at valid
      omega
    simp [scalar?, isSurrogate, valid, half]

/-- A text has bytes unless it holds a lone surrogate. -/
theorem encodeUtf8_returns_iff {text : Str} :
    (∃ bytes, encodeUtf8 text = .ok bytes) ↔ ∀ point ∈ text, isSurrogate point = false := by
  have scalars : (text.mapM scalar?).isSome ↔ ∀ point ∈ text, isSurrogate point = false := by
    induction text with
    | nil => simp
    | cons point text induction =>
        have first := isSome_scalar? point
        rw [List.mapM_cons, List.forall_mem_cons, ← induction]
        cases scalar : scalar? point with
        | none => simp_all
        | some char =>
            have whole : isSurrogate point = false := by simpa [scalar] using first
            cases rest : text.mapM scalar? <;> simp [whole]
  rw [← scalars, encodeUtf8]
  cases text.mapM scalar? <;> simp

theorem ascii_of_all {text : Str} (all : (text.all fun point => point.val < 0x80) = true) :
    ∀ point ∈ text, point.val < 0x80 := by
  simpa using all

theorem scalar?_of_ascii {point : CodePoint} (ascii : point.val < 0x80) :
    ∃ char, scalar? point = some char := by
  have valid : point.val.isValidChar := Or.inl (by omega)
  exact ⟨_, if_pos valid⟩

theorem encodeUtf8_of_ascii {text : Str} (ascii : ∀ point ∈ text, point.val < 0x80) :
    ∃ bytes, encodeUtf8 text = .ok bytes := by
  have scalars : ∃ chars, text.mapM scalar? = some chars := by
    induction text with
    | nil => exact ⟨[], rfl⟩
    | cons point text induction =>
        obtain ⟨char, first⟩ := scalar?_of_ascii (ascii point List.mem_cons_self)
        obtain ⟨chars, rest⟩ :=
          induction fun other among => ascii other (List.mem_cons_of_mem _ among)
        exact ⟨char :: chars, by rw [List.mapM_cons, first, rest]; rfl⟩
  obtain ⟨chars, scalars⟩ := scalars
  exact ⟨_, by rw [encodeUtf8, scalars]⟩

/-! ## Numerals -/

namespace Json

/-- The number digits stand for. -/
def decimalValue (digits : Str) : Nat :=
  digits.foldl (fun value point => 10 * value + (point.val - 0x30)) 0

theorem decimalValue_append (digits : Str) (point : CodePoint) :
    decimalValue (digits ++ [point]) = 10 * decimalValue digits + (point.val - 0x30) := by
  rw [decimalValue, List.foldl_append]
  rfl

theorem val_digit {value : Nat} (small : value < 10) :
    (Fin.ofNat 0x110000 (0x30 + value)).val = 0x30 + value := by
  rw [Fin.val_ofNat]
  omega

theorem decimalValue_decimal (number : Nat) : decimalValue (decimal number) = number := by
  induction number using Nat.strong_induction_on with
  | _ number induction =>
      by_cases small : number < 10
      · rw [decimal_of_lt small, decimalValue, List.foldl_cons, List.foldl_nil, val_digit small]
        omega
      · have last : number % 10 < 10 := Nat.mod_lt number (by decide)
        rw [decimal_of_ge (by omega), decimalValue_append, induction (number / 10) (by omega),
          val_digit last]
        omega

theorem decimal_digits {number : Nat} :
    ∀ point ∈ decimal number, 0x30 ≤ point.val ∧ point.val < 0x3A := by
  induction number using Nat.strong_induction_on with
  | _ number induction =>
      by_cases small : number < 10
      · rw [decimal_of_lt small]
        intro point among
        rw [List.mem_singleton.mp among, val_digit small]
        omega
      · have last : number % 10 < 10 := Nat.mod_lt number (by decide)
        rw [decimal_of_ge (by omega)]
        intro point among
        rcases List.mem_append.mp among with earlier | final
        · exact induction (number / 10) (by omega) point earlier
        · rw [List.mem_singleton.mp final, val_digit last]
          omega

/-- An integer is written with its sign and digits, and nothing else. -/
theorem intText_points {value : Int} :
    ∀ point ∈ intText value, point = codePoint '-' ∨ 0x30 ≤ point.val ∧ point.val < 0x3A := by
  intro point among
  cases value with
  | ofNat number => exact Or.inr (decimal_digits point among)
  | negSucc number =>
      rcases List.mem_cons.mp among with sign | digit
      · exact Or.inl sign
      · exact Or.inr (decimal_digits point digit)

theorem intText_injective : Function.Injective intText := by
  have unsigned {number other : Nat} : decimal number ≠ codePoint '-' :: decimal other := by
    intro same
    have first : codePoint '-' ∈ decimal number := by
      rw [same]
      exact List.mem_cons_self
    exact absurd (decimal_digits _ first).1 (by decide)
  intro left right same
  cases left with
  | ofNat left =>
      cases right with
      | ofNat right =>
          have values : decimalValue (decimal left) = decimalValue (decimal right) :=
            congrArg decimalValue same
          rw [decimalValue_decimal, decimalValue_decimal] at values
          rw [values]
      | negSucc right => exact absurd same unsigned
  | negSucc left =>
      cases right with
      | ofNat right => exact absurd same.symm unsigned
      | negSucc right =>
          have digits := (List.cons.inj same).2
          have values : decimalValue (decimal (left + 1)) = decimalValue (decimal (right + 1)) :=
            congrArg decimalValue digits
          rw [decimalValue_decimal, decimalValue_decimal, Nat.succ_inj] at values
          rw [values]

end Json

end Souk.Python

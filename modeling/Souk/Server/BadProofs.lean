import Souk.Presenter
import Souk.Server.BadFrames

/-!
# Bad presenter headers

A presenter header is text of the caller's choosing.  `presenter_key_of` catches three classes of
exception while it reads the proof and none while it builds the payload.  What is left is one
exception of the decoder, one of `int`, and the two with which a payload cannot be written.
-/

namespace Souk.Server

open Souk.Python

variable {terms : PresenterTerms} {header : Str} {body : List UInt8}

/-- The exceptions which leave the `try`: the text nests too deeply, or `int` is given an infinity
after the key has been found. -/
def Escapes (limits : Json.Limits) (header : Str) : Prop :=
  Json.loads limits header = .error .recursionError ∨
    ∃ fields negative, Json.loads limits header = .ok (.dict fields) ∧
      (fields.lookup (str "publicKey")).isSome = true ∧
      fields.lookup (str "timestamp") = some (.float (.infinite negative))

/-- The header is a proof: an object with a key and a signature, and a timestamp which `int` takes. -/
def HoldsProof (limits : Json.Limits) (header publicKey : Str) (timestamp : Int)
    (signature : Str) : Prop :=
  ∃ fields value, Json.loads limits header = .ok (.dict fields) ∧
    fields.lookup (str "publicKey") = some (.str publicKey) ∧
    fields.lookup (str "timestamp") = some value ∧ value.toInt limits = .ok timestamp ∧
    fields.lookup (str "signature") = some (.str signature)

/-- The timestamp and the key can be written into the payload. -/
def Writable (limits : Json.Limits) (publicKey : Str) (timestamp : Int) : Prop :=
  timestamp.natAbs < 10 ^ limits.maxIntDigits ∧ ∀ point ∈ publicKey, isSurrogate point = false

/-- No exception leaves the header's reader: none escapes its `try`, and if the header is a proof
with a fresh timestamp then the payload of that proof can be written. -/
structure Tolerated (terms : PresenterTerms) (header : Str) : Prop where
  caught : ¬Escapes terms.limits header
  writable : ∀ publicKey timestamp signature,
    HoldsProof terms.limits header publicKey timestamp signature →
      terms.isTimestampFresh timestamp = true → Writable terms.limits publicKey timestamp

/-! ## The exceptions of the read -/

theorem malformed_of_item {value : Value} {key : Str} {raised : Raised}
    (failed : value.item key = .error raised) : malformed raised = true := by
  cases value with
  | dict fields =>
      rw [Value.item] at failed
      split at failed
      · cases failed
      · obtain rfl := Except.error.inj failed
        rfl
  | null | bool | int | float | str | list =>
      obtain rfl := Except.error.inj failed
      rfl

theorem malformed_of_loads {limits : Json.Limits} {raised : Raised}
    (failed : Json.loads limits header = .error raised) :
    malformed raised = true ∨ raised = .recursionError := by
  have among := Json.decoding_loads header raised failed
  simp only [Json.decodingErrors, List.mem_cons, List.not_mem_nil, or_false] at among
  rcases among with rfl | rfl | rfl
  · exact .inl rfl
  · exact .inl rfl
  · exact .inr rfl

/-- What leaves the `try` of `presenter_key_of`. -/
theorem escapes_iff {limits : Json.Limits} :
    (∃ raised, readProof limits header = .error raised ∧ malformed raised = false) ↔
      Escapes limits header := by
  constructor
  · rintro ⟨raised, failed, uncaught⟩
    have spared {raisedFirst : Raised} (first : raisedFirst = raised)
        (caught : malformed raisedFirst = true) : Escapes limits header := by
      rw [first, uncaught] at caught
      cases caught
    rcases error_of_bind failed with loading | ⟨proof, loaded, failed⟩
    · rcases malformed_of_loads loading with caught | rfl
      · exact spared rfl caught
      · exact .inl loading
    rcases error_of_bind failed with keying | ⟨publicKey, keyed, failed⟩
    · exact spared rfl (malformed_of_item keying)
    rcases error_of_bind failed with timing | ⟨timestamp, timed, failed⟩
    · exact spared rfl (malformed_of_item timing)
    rcases error_of_bind failed with converting | ⟨number, converted, failed⟩
    · rcases Value.toInt_error converting with rfl | rfl | ⟨rfl, negative, rfl⟩
      · cases uncaught
      · cases uncaught
      · obtain ⟨fields, rfl, key⟩ := Value.item_eq_ok.mp keyed
        obtain ⟨_, same, time⟩ := Value.item_eq_ok.mp timed
        obtain rfl := Value.dict.inj same
        exact .inr ⟨fields, negative, loaded, by rw [key, Option.isSome_some], time⟩
    rcases error_of_bind failed with signing | ⟨signature, signed, failed⟩
    · exact spared rfl (malformed_of_item signing)
    · cases failed
  · rintro (deep | ⟨fields, negative, loaded, keyed, timed⟩)
    · exact ⟨.recursionError, by rw [readProof, deep]; rfl, rfl⟩
    · obtain ⟨publicKey, key⟩ := Option.isSome_iff_exists.mp keyed
      refine ⟨.overflowError, ?_, rfl⟩
      have item {name : Str} {found : Value} (lookup : fields.lookup name = some found) :
          (Value.dict fields).item name = .ok found := Value.item_eq_ok.mpr ⟨fields, rfl, lookup⟩
      simp only [readProof, loaded, item key, item timed, Value.toInt, Float64.truncate, bind,
        Except.bind]

theorem not_escapes_of_read {limits : Json.Limits} {proof : Value × Int × Value}
    (read : readProof limits header = .ok proof) : ¬Escapes limits header := by
  intro escapes
  obtain ⟨raised, failed, _⟩ := escapes_iff.mpr escapes
  cases read.symm.trans failed

theorem escapes_of_failed {limits : Json.Limits} {raised : Raised}
    (failed : readProof limits header = .error raised) :
    Escapes limits header ↔ malformed raised = false := by
  rw [← escapes_iff]
  constructor
  · rintro ⟨other, found, uncaught⟩
    obtain rfl := Except.error.inj (failed.symm.trans found)
    exact uncaught
  · exact fun uncaught => ⟨raised, failed, uncaught⟩

/-- A header which holds no proof is tolerated unless its exception escapes. -/
theorem tolerated_of_failed {raised : Raised}
    (failed : readProof terms.limits header = .error raised) :
    Tolerated terms header ↔ malformed raised = true := by
  rw [← Bool.not_eq_false, ← escapes_of_failed failed]
  refine ⟨Tolerated.caught, fun caught => ⟨caught, fun _ _ _ holds => ?_⟩⟩
  cases failed.symm.trans (readProof_eq_ok.mpr holds)

/-! ## The exceptions of the payload -/

theorem payload_completes_iff (ascii : ∀ body, ∀ point ∈ terms.sha256Hex body, point.val < 0x80)
    {publicKey : Str} {timestamp : Int} :
    Completes (presenterPayload terms publicKey timestamp body) ↔
      Writable terms.limits publicKey timestamp := by
  have whole {point : CodePoint} (small : point.val < 0x80) : isSurrogate point = false := by
    simp only [isSurrogate, decide_eq_false_iff_not, not_and, not_le]
    omega
  have digits : ∀ point ∈ Json.intText timestamp, isSurrogate point = false := by
    intro point among
    rcases Json.intText_points point among with rfl | digit
    · decide
    · exact whole (by omega)
  have digest : ∀ point ∈ terms.sha256Hex body, isSurrogate point = false :=
    fun point among => whole (ascii body point among)
  have domain : ∀ point ∈ presenterDomain, isSurrogate point = false :=
    fun point among => whole (ascii_of_all rfl point among)
  have colon : ∀ point ∈ str ":", isSurrogate point = false :=
    fun point among => whole (ascii_of_all rfl point among)
  rw [presenterPayload, completes_bind, Writable]
  constructor
  · rintro ⟨text, formatted, written⟩
    obtain ⟨short, rfl⟩ := formatInt_eq_ok.mp formatted
    refine ⟨short, fun point among => encodeUtf8_returns_iff.mp written point ?_⟩
    simp [among]
  · rintro ⟨short, key⟩
    refine ⟨_, formatInt_eq_ok.mpr ⟨short, rfl⟩, encodeUtf8_returns_iff.mpr fun point among => ?_⟩
    simp only [List.mem_append] at among
    rcases among with ((((((here | here) | here) | here) | here) | here) | here)
    · exact domain point here
    · exact colon point here
    · exact key point here
    · exact colon point here
    · exact digits point here
    · exact colon point here
    · exact digest point here

/-- The empty header is no proof. -/
theorem tolerated_nil : Tolerated terms [] := by
  have unread : readProof terms.limits [] = .error .jsonDecodeError := rfl
  exact (tolerated_of_failed unread).mpr rfl

/-- A header with a character is read. -/
theorem completes_cons_iff (ascii : ∀ body, ∀ point ∈ terms.sha256Hex body, point.val < 0x80)
    (verifies : ∀ key signature payload, Completes (terms.verifySignature key signature payload))
    {point : CodePoint} {rest : Str} :
    Completes (presenterKeyOf terms (some (point :: rest)) body) ↔
      Tolerated terms (point :: rest) := by
  rw [presenterKeyOf]
  split
  · rename_i raised failed
    rw [tolerated_of_failed failed]
    cases malformed raised <;> simp
  · rename_i publicKey timestamp signature read
    have tolerated : Tolerated terms (point :: rest) ↔
        (terms.isTimestampFresh timestamp = true →
          Writable terms.limits publicKey timestamp) := by
      have holds := readProof_eq_ok.mp read
      refine ⟨fun held => held.writable publicKey timestamp signature holds, fun held =>
        ⟨not_escapes_of_read read, fun key time sign again => ?_⟩⟩
      have same := Except.ok.inj (read.symm.trans (readProof_eq_ok.mpr again))
      simp only [Prod.mk.injEq, Value.str.injEq] at same
      obtain ⟨rfl, rfl, _⟩ := same
      exact held
    rw [tolerated, ← payload_completes_iff ascii]
    cases fresh : terms.isTimestampFresh timestamp with
    | false => simp
    | true =>
        simp only [if_true, true_implies]
        rw [completes_bind]
        refine exists_congr fun payload => and_iff_left ?_
        obtain ⟨verified, checked⟩ := verifies publicKey signature payload
        exact completes_bind.mpr ⟨verified, checked, completes_pure _⟩
  · rename_i proof unsigned read
    refine iff_of_true ⟨none, rfl⟩ ⟨not_escapes_of_read read, fun key time sign holds => ?_⟩
    have same := Except.ok.inj (read.symm.trans (readProof_eq_ok.mpr holds))
    exact absurd same (unsigned key time sign)

/-- Where the digests are ASCII and `verify_signature` returns, `presenter_key_of` returns a key or
`None` precisely for the headers it tolerates. -/
theorem presenterKeyOf_completes_iff
    (ascii : ∀ body, ∀ point ∈ terms.sha256Hex body, point.val < 0x80)
    (verifies : ∀ key signature payload, Completes (terms.verifySignature key signature payload))
    (header : Str) (body : List UInt8) :
    Completes (presenterKeyOf terms (some header) body) ↔ Tolerated terms header := by
  cases header with
  | nil => exact iff_of_true ⟨none, rfl⟩ tolerated_nil
  | cons point rest => exact completes_cons_iff ascii verifies

/-! Two headers which no reader of JSON refuses. -/

/-- A proof whose timestamp is too large for a float. -/
def oversizedHeader : Str :=
  "\x7b\"publicKey\": \"ab\", \"timestamp\": 1e999, \"signature\": \"\"\x7d"

/-- A fresh proof of a key which is a lone surrogate. -/
def surrogateHeader : Str :=
  "\x7b\"publicKey\": \"\\ud800\", \"timestamp\": 1757260000, \"signature\": \"\"\x7d"

set_option maxRecDepth 4000 in
theorem readProof_surrogateHeader : readProof plainTerms.limits surrogateHeader =
    .ok (.str [0xD800], 1757260000, .str []) := (rfl)

/-- The payload of that proof has no bytes. -/
theorem presenterPayload_surrogate :
    presenterPayload plainTerms [0xD800] 1757260000 [] = .error .unicodeEncodeError := by
  rw [presenterPayload, formatInt_eq_ok.mpr ⟨plainTerms_lawful.window _ rfl, rfl⟩]
  rfl

theorem plainTerms_completes_iff :
    (∀ body, ∀ point ∈ plainTerms.sha256Hex body, point.val < 0x80) ∧
      (∀ key signature payload, Completes (plainTerms.verifySignature key signature payload)) ∧
      (Completes (presenterKeyOf plainTerms (some surrogateHeader) []) ↔
        Tolerated plainTerms surrogateHeader) := by
  have verifies : ∀ key signature payload,
      Completes (plainTerms.verifySignature key signature payload) := fun _ _ _ => ⟨_, rfl⟩
  exact ⟨plainTerms_lawful.digest_ascii, verifies,
    presenterKeyOf_completes_iff plainTerms_lawful.digest_ascii verifies surrogateHeader []⟩

set_option maxRecDepth 4000 in
/-- An infinite timestamp and a lone surrogate leave as exceptions. -/
theorem bad_headers_raise :
    presenterKeyOf plainTerms (some oversizedHeader) [] = .error .overflowError ∧
      presenterKeyOf plainTerms (some surrogateHeader) [] = .error .unicodeEncodeError := by
  refine ⟨rfl, ?_⟩
  have nonempty : surrogateHeader = surrogateHeader.head (by decide) :: surrogateHeader.tail :=
    (List.cons_head_tail _).symm
  rw [nonempty, presenterKeyOf, ← nonempty]
  have fresh : plainTerms.isTimestampFresh 1757260000 = true := by decide
  simp only [readProof_surrogateHeader, fresh, presenterPayload_surrogate, bind, Except.bind,
    if_true]

end Souk.Server

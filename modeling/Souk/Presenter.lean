import Souk.Python.Conversions

/-!
# Presenter proofs

Who sends a request signs its body, and the gateway reads the key back.  The signer has a digest and
an integer, the verifier a body and whatever JSON carries; both sign and verify one line of text,
joined by colons.
-/

namespace Souk

open Souk.Python

/-- `hashlib.sha256(body).hexdigest()` and the contract's part of a proof. -/
structure PresenterTerms where
  limits : Json.Limits
  sha256Hex : List UInt8 → Str
  isTimestampFresh : Int → Bool
  verifySignature : Str → Str → List UInt8 → Except Raised Bool

/-- What an f-string writes for an integer. -/
def formatInt (limits : Json.Limits) (value : Int) : Except Raised Str := do
  Json.encodeInt limits value
  return Json.intText value

/-- `PRESENTER_DOMAIN` -/
def presenterDomain : Str := "funduq-server-presenter"

/-! ## The signer -/

namespace AgentSdk

/-- The key of a provider, and what it signs with it. -/
structure ProviderIdentity where
  publicKey : Str
  sign : List UInt8 → Str

/-- `PRESENTER_HEADER` -/
def presenterHeader : Str := "Funduq-Presenter"

/-- `presenter_payload` -/
def presenterPayload (limits : Json.Limits) (publicKey : Str) (timestamp : Int) (bodyHash : Str) :
    Except Raised (List UInt8) := do
  let timestamp ← formatInt limits timestamp
  encodeUtf8
    (presenterDomain ++ str ":" ++ publicKey ++ str ":" ++ timestamp ++ str ":" ++ bodyHash)

/-- `presenter_proof`, where `int(time.time())` would yield `now`. -/
def presenterProof (terms : PresenterTerms) (now : Int) (identity : ProviderIdentity)
    (body : List UInt8) (timestamp : Option Int) : Except Raised Dict := do
  let timestamp := timestamp.getD now
  let payload ← presenterPayload terms.limits identity.publicKey timestamp (terms.sha256Hex body)
  return [("publicKey", .str identity.publicKey), ("timestamp", .int timestamp),
    ("signature", .str (identity.sign payload))]

/-- `json.dumps(value, separators=(",", ":"))` -/
def dumpsCompact (limits : Json.Limits) (floatText : Float64 → Str) (value : Value) :
    Except Raised Str := do
  Json.dumps limits (.ofValue value)
  return Json.text ⟨false, floatText⟩ value

/-- `presenter_headers` -/
def presenterHeaders (terms : PresenterTerms) (floatText : Float64 → Str) (now : Int)
    (identity : Option ProviderIdentity) (body : List UInt8) (timestamp : Option Int) :
    Except Raised (List (Str × Str)) :=
  match identity with
  | none => .ok []
  | some identity => do
      let proof ← presenterProof terms now identity body timestamp
      let header ← dumpsCompact terms.limits floatText (.dict proof)
      return [(presenterHeader, header)]

/-- `_presented`; `PresenterIdentityRequired` is a `ValueError`. -/
def presented (terms : PresenterTerms) (floatText : Float64 → Str) (now : Int) (body : Dict)
    (identity : Option ProviderIdentity) (actorChainPresent : Bool) :
    Except Raised (List UInt8 × List (Str × Str)) :=
  if actorChainPresent ∧ identity.isNone then .error .valueError
  else do
    let text ← dumpsCompact terms.limits floatText (.dict body)
    let raw ← encodeUtf8 text
    let headers ← presenterHeaders terms floatText now identity raw none
    return (raw, [(str "A2A-Version", str "1.0"), (str "Content-Type", str "application/json")] ++
      headers)

end AgentSdk

/-! ## The verifier -/

namespace Server

/-- `presenter_payload` -/
def presenterPayload (terms : PresenterTerms) (publicKey : Str) (timestamp : Int)
    (body : List UInt8) : Except Raised (List UInt8) := do
  let timestamp ← formatInt terms.limits timestamp
  encodeUtf8 (presenterDomain ++ str ":" ++ publicKey ++ str ":" ++ timestamp ++ str ":" ++
    terms.sha256Hex body)

/-- What the `try` of `presenter_key_of` reads: the key, the timestamp and the signature. -/
def readProof (limits : Json.Limits) (rawHeader : Str) : Except Raised (Value × Int × Value) := do
  let proof ← Json.loads limits rawHeader
  let publicKey ← proof.item "publicKey"
  let timestamp ← proof.item "timestamp"
  let timestamp ← timestamp.toInt limits
  let signature ← proof.item "signature"
  return (publicKey, timestamp, signature)

/-- A `TypeError`, a `ValueError` or a `KeyError`. -/
def malformed : Raised → Bool
  | .typeError | .valueError | .keyError | .jsonDecodeError | .unicodeEncodeError => true
  | .attributeError | .recursionError | .overflowError | .funduqError | .runtimeError => false

/-- `presenter_key_of` -/
def presenterKeyOf (terms : PresenterTerms) (rawHeader : Option Str) (body : List UInt8) :
    Except Raised (Option Str) :=
  match rawHeader with
  | none | some [] => .ok none
  | some (point :: rest) =>
      match readProof terms.limits (point :: rest) with
      | .error raised => if malformed raised then .ok none else .error raised
      | .ok (.str publicKey, timestamp, .str signature) =>
          if terms.isTimestampFresh timestamp then do
            let payload ← presenterPayload terms publicKey timestamp body
            let verified ← terms.verifySignature publicKey signature payload
            return if verified then some publicKey else none
          else .ok none
      | .ok _ => .ok none

end Server

open AgentSdk Server

/-! ## What is relied on -/

/-- Digests are 64 characters of ASCII, and the window holds no timestamp `int` would not read. -/
structure PresenterTerms.Lawful (terms : PresenterTerms) : Prop where
  digest_length : ∀ body, (terms.sha256Hex body).length = 64
  digest_ascii : ∀ body, ∀ point ∈ terms.sha256Hex body, point.val < 0x80
  window : ∀ timestamp, terms.isTimestampFresh timestamp = true →
    timestamp.natAbs < 10 ^ terms.limits.maxIntDigits
  digits : 0 < terms.limits.maxIntDigits
  depth : 0 < terms.limits.maxDepth

/-- The identity has its key and its signatures in ASCII, and what it signs verifies. -/
structure AgentSdk.ProviderIdentity.Lawful (identity : ProviderIdentity) (terms : PresenterTerms) :
    Prop where
  key_ascii : ∀ point ∈ identity.publicKey, point.val < 0x80
  signature_ascii : ∀ payload, ∀ point ∈ identity.sign payload, point.val < 0x80
  verifies : ∀ payload,
    terms.verifySignature identity.publicKey (identity.sign payload) payload = .ok true

/-- What verifies under a key was signed with it. -/
def Unforgeable (terms : PresenterTerms) (Signed : Str → List UInt8 → Prop) : Prop :=
  ∀ key signature payload,
    terms.verifySignature key signature payload = .ok true → Signed key payload

/-- The header proves the key for the body. -/
def Proves (terms : PresenterTerms) (header : Str) (body : List UInt8) (key : Str) : Prop :=
  ∃ fields timestamp value signature payload,
    Json.loads terms.limits header = .ok (.dict fields) ∧
      fields.lookup (str "publicKey") = some (.str key) ∧
      fields.lookup (str "timestamp") = some value ∧
      value.toInt terms.limits = .ok timestamp ∧
      fields.lookup (str "signature") = some (.str signature) ∧
      terms.isTimestampFresh timestamp = true ∧
      AgentSdk.presenterPayload terms.limits key timestamp (terms.sha256Hex body) = .ok payload ∧
      terms.verifySignature key signature payload = .ok true

/-! ## The payload -/

/-- Signer and verifier build the same bytes. -/
theorem presenterPayload_eq (terms : PresenterTerms) (publicKey : Str) (timestamp : Int)
    (body : List UInt8) :
    Server.presenterPayload terms publicKey timestamp body =
      AgentSdk.presenterPayload terms.limits publicKey timestamp (terms.sha256Hex body) := rfl

theorem formatInt_eq_ok {limits : Json.Limits} {value : Int} {text : Str} :
    formatInt limits value = .ok text ↔
      value.natAbs < 10 ^ limits.maxIntDigits ∧ Json.intText value = text := by
  rw [formatInt, Json.encodeInt]
  by_cases long : 10 ^ limits.maxIntDigits ≤ value.natAbs
  · simp [long, Nat.not_lt.mpr long, bind, Except.bind]
  · simp [long, Nat.lt_of_not_le long, bind, Except.bind, pure, Except.pure]

theorem payload_of_ok {limits : Json.Limits} {publicKey bodyHash : Str} {timestamp : Int}
    {payload : List UInt8}
    (built : AgentSdk.presenterPayload limits publicKey timestamp bodyHash = .ok payload) :
    encodeUtf8 (presenterDomain ++ str ":" ++ publicKey ++ str ":" ++ Json.intText timestamp ++
      str ":" ++ bodyHash) = .ok payload := by
  obtain ⟨text, formatted, encoded⟩ := bind_eq_ok.mp built
  obtain ⟨_, rfl⟩ := formatInt_eq_ok.mp formatted
  exact encoded

theorem colon_notMem_intText (value : Int) : codePoint ':' ∉ Json.intText value := by
  intro among
  rcases Json.intText_points _ among with minus | digit
  · exact absurd minus (by decide)
  · exact absurd digit.2 (by decide)

/-- A list is cut in one way at the last separator. -/
theorem append_cons_inj_of_last {α : Type} {separator : α} {front front' back back' : List α}
    (last : separator ∉ back) (last' : separator ∉ back')
    (same : front ++ separator :: back = front' ++ separator :: back') :
    front = front' ∧ back = back' := by
  rcases List.append_eq_append_iff.mp same with ⟨between, rfl, cut⟩ | ⟨between, rfl, cut⟩
  · cases between with
    | nil => exact ⟨(List.append_nil _).symm, (List.cons.inj cut).2⟩
    | cons _ between =>
        obtain ⟨_, rfl⟩ := List.cons.inj cut
        exact absurd (List.mem_append_right between List.mem_cons_self) last
  · cases between with
    | nil => exact ⟨List.append_nil _, (List.cons.inj cut).2.symm⟩
    | cons _ between =>
        obtain ⟨_, rfl⟩ := List.cons.inj cut
        exact absurd (List.mem_append_right between List.mem_cons_self) last'

/-- The payload tells the three apart: the digest has a fixed length, the timestamp holds no colon,
and the rest is the key. -/
theorem presenterPayload_injective {limits : Json.Limits} {key key' digest digest' : Str}
    {timestamp timestamp' : Int} {payload : List UInt8} (sized : digest.length = 64)
    (sized' : digest'.length = 64)
    (built : AgentSdk.presenterPayload limits key timestamp digest = .ok payload)
    (built' : AgentSdk.presenterPayload limits key' timestamp' digest' = .ok payload) :
    key = key' ∧ timestamp = timestamp' ∧ digest = digest' := by
  have texts := encodeUtf8_injective (payload_of_ok built) (payload_of_ok built')
  obtain ⟨front, digests⟩ := List.append_inj' texts (sized.trans sized'.symm)
  obtain ⟨front, _⟩ := List.append_inj' front rfl
  simp only [List.append_assoc] at front
  have named := List.append_cancel_left (List.append_cancel_left front)
  have parts : key ++ codePoint ':' :: Json.intText timestamp =
      key' ++ codePoint ':' :: Json.intText timestamp' := named
  obtain ⟨keys, numerals⟩ :=
    append_cons_inj_of_last (colon_notMem_intText _) (colon_notMem_intText _) parts
  exact ⟨keys, Json.intText_injective numerals, digests⟩

/-! ## What a key proves -/

section Verifier

variable {terms : PresenterTerms} {header : Str} {body : List UInt8} {key : Str}

theorem readProof_eq_ok {limits : Json.Limits} {publicKey signature : Value} {timestamp : Int} :
    readProof limits header = .ok (publicKey, timestamp, signature) ↔
      ∃ fields value, Json.loads limits header = .ok (.dict fields) ∧
        fields.lookup (str "publicKey") = some publicKey ∧
        fields.lookup (str "timestamp") = some value ∧ value.toInt limits = .ok timestamp ∧
        fields.lookup (str "signature") = some signature := by
  constructor
  · intro read
    obtain ⟨proof, loaded, read⟩ := bind_eq_ok.mp read
    obtain ⟨named, keyed, read⟩ := bind_eq_ok.mp read
    obtain ⟨value, timed, read⟩ := bind_eq_ok.mp read
    obtain ⟨number, converted, read⟩ := bind_eq_ok.mp read
    obtain ⟨signed, signatured, read⟩ := bind_eq_ok.mp read
    obtain ⟨rfl, rfl, rfl⟩ : named = publicKey ∧ number = timestamp ∧ signed = signature := by
      simpa [pure, Except.pure] using read
    obtain ⟨fields, rfl, key⟩ := Value.item_eq_ok.mp keyed
    obtain ⟨_, same, time⟩ := Value.item_eq_ok.mp timed
    obtain rfl := Value.dict.inj same
    obtain ⟨_, same, proof⟩ := Value.item_eq_ok.mp signatured
    obtain rfl := Value.dict.inj same
    exact ⟨fields, value, loaded, key, time, converted, proof⟩
  · rintro ⟨fields, value, loaded, keyed, timed, converted, signatured⟩
    have item {name : Str} {found : Value} (lookup : fields.lookup name = some found) :
        (Value.dict fields).item name = .ok found := Value.item_eq_ok.mpr ⟨fields, rfl, lookup⟩
    simp only [readProof, loaded, item keyed, item timed, converted, item signatured, bind,
      Except.bind, pure, Except.pure]

/-- The text of a header holds a proof, hence a character. -/
theorem not_proves_nil : ¬Proves terms [] body key := by
  rintro ⟨fields, _, _, _, _, loaded, _⟩
  cases loaded

/-- `presenter_key_of` returns the keys which are proved. -/
theorem presenterKeyOf_eq_some_iff :
    presenterKeyOf terms (some header) body = .ok (some key) ↔ Proves terms header body key := by
  cases header with
  | nil => simp [presenterKeyOf, not_proves_nil]
  | cons point rest =>
      rw [presenterKeyOf]
      constructor
      · intro returned
        split at returned
        · split at returned <;> cases returned
        · rename_i publicKey timestamp signature read
          obtain ⟨fields, value, loaded, keyed, timed, converted, signed⟩ := readProof_eq_ok.mp read
          split at returned
          · rename_i fresh
            obtain ⟨payload, built, returned⟩ := bind_eq_ok.mp returned
            obtain ⟨verified, checked, returned⟩ := bind_eq_ok.mp returned
            cases verified with
            | false => cases returned
            | true =>
                obtain rfl : publicKey = key := by simpa [pure, Except.pure] using returned
                exact ⟨fields, timestamp, value, signature, payload, loaded, keyed, timed,
                  converted, signed, fresh, built, checked⟩
          · cases returned
        · cases returned
      · rintro ⟨fields, timestamp, value, signature, payload, loaded, keyed, timed, converted,
          signed, fresh, built, checked⟩
        have read := readProof_eq_ok.mpr ⟨fields, value, loaded, keyed, timed, converted, signed⟩
        rw [← presenterPayload_eq] at built
        simp only [read, fresh, built, checked, bind, Except.bind, pure, Except.pure, if_true]

end Verifier

/-! ## What a signer sends -/

section Signer

variable {terms : PresenterTerms} {identity : ProviderIdentity}

/-- Inside the window the payload has bytes. -/
theorem presenterPayload_ok (lawful : terms.Lawful) {publicKey : Str}
    (ascii : ∀ point ∈ publicKey, point.val < 0x80) {timestamp : Int}
    (fresh : terms.isTimestampFresh timestamp = true) (body : List UInt8) :
    ∃ payload, AgentSdk.presenterPayload terms.limits publicKey timestamp (terms.sha256Hex body) =
      .ok payload := by
  have formatted : formatInt terms.limits timestamp = .ok (Json.intText timestamp) :=
    formatInt_eq_ok.mpr ⟨lawful.window timestamp fresh, rfl⟩
  have digits : ∀ point ∈ Json.intText timestamp, point.val < 0x80 := by
    intro point among
    rcases Json.intText_points point among with rfl | digit
    · decide
    · omega
  have line : ∀ point ∈ presenterDomain ++ str ":" ++ publicKey ++ str ":" ++
      Json.intText timestamp ++ str ":" ++ terms.sha256Hex body, point.val < 0x80 := by
    simp only [List.forall_mem_append]
    exact ⟨⟨⟨⟨⟨⟨ascii_of_all rfl, ascii_of_all rfl⟩, ascii⟩, ascii_of_all rfl⟩, digits⟩,
      ascii_of_all rfl⟩, lawful.digest_ascii body⟩
  obtain ⟨payload, encoded⟩ := encodeUtf8_of_ascii line
  exact ⟨payload, bind_eq_ok.mpr ⟨_, formatted, encoded⟩⟩

/-- The dictionary of a proof. -/
def proofFields (publicKey : Str) (timestamp : Int) (signature : Str) : Dict :=
  [("publicKey", .str publicKey), ("timestamp", .int timestamp), ("signature", .str signature)]

theorem reread_proofFields {publicKey signature : Str} {timestamp : Int}
    (keyAscii : ∀ point ∈ publicKey, point.val < 0x80)
    (signatureAscii : ∀ point ∈ signature, point.val < 0x80) :
    Json.reread (.dict (proofFields publicKey timestamp signature)) =
      .dict (proofFields publicKey timestamp signature) := by
  have key := Json.rereadStr_of_unjoined (@Json.unjoined_of_ascii false _ keyAscii)
  have signed := Json.rereadStr_of_unjoined (@Json.unjoined_of_ascii false _ signatureAscii)
  have fields : Json.reread (.dict (proofFields publicKey timestamp signature)) =
      .dict (proofFields (Json.rereadStr publicKey) timestamp (Json.rereadStr signature)) := rfl
  rw [fields, key, signed]

/-- The proof of an identity, as the header carries it. -/
theorem presenterHeaders_eq (lawful : terms.Lawful) (honest : identity.Lawful terms)
    (floatText : Float64 → Str) (now : Int) (body : List UInt8) {timestamp : Option Int}
    (fresh : terms.isTimestampFresh (timestamp.getD now) = true) :
    ∃ payload, AgentSdk.presenterPayload terms.limits identity.publicKey (timestamp.getD now)
        (terms.sha256Hex body) = .ok payload ∧
      presenterHeaders terms floatText now (some identity) body timestamp =
        .ok [(presenterHeader, Json.text ⟨false, floatText⟩ (.dict (proofFields identity.publicKey
          (timestamp.getD now) (identity.sign payload))))] := by
  obtain ⟨payload, built⟩ := presenterPayload_ok lawful honest.key_ascii fresh body
  refine ⟨payload, built, ?_⟩
  have short : ¬10 ^ terms.limits.maxIntDigits ≤ (timestamp.getD now).natAbs :=
    Nat.not_le.mpr (lawful.window _ fresh)
  have proved : presenterProof terms now identity body timestamp = .ok (proofFields
      identity.publicKey (timestamp.getD now) (identity.sign payload)) :=
    bind_eq_ok.mpr ⟨payload, built, rfl⟩
  have dumped : Json.dumps terms.limits (.ofValue (.dict (proofFields identity.publicKey
      (timestamp.getD now) (identity.sign payload)))) = .ok () := by
    simp [Json.dumps, proofFields, Object.ofValue, Object.ofFields, Json.encode, Json.encodeEntries,
      Json.encodeKey, Json.encodeInt, lawful.depth, short, bind, Except.bind]
  simp only [presenterHeaders, proved, dumpsCompact, dumped, bind, Except.bind, pure, Except.pure]

theorem loads_proofFields (lawful : terms.Lawful) (honest : identity.Lawful terms)
    (floatText : Float64 → Str) {timestamp : Int}
    (fresh : terms.isTimestampFresh timestamp = true) (payload : List UInt8) :
    Json.loads terms.limits (Json.text ⟨false, floatText⟩
        (.dict (proofFields identity.publicKey timestamp (identity.sign payload)))) =
      .ok (.dict (proofFields identity.publicKey timestamp (identity.sign payload))) := by
  have digits : (Nat.digits 10 timestamp.natAbs).length ≤ terms.limits.maxIntDigits :=
    (Nat.digits_length_le_iff (by decide) _).mpr (lawful.window timestamp fresh)
  have fits : Json.readable terms.limits 0
      (.dict (proofFields identity.publicKey timestamp (identity.sign payload))) = true := by
    simp [Json.readable, Json.readableFields, proofFields, lawful.depth, lawful.digits, digits]
  rw [Json.loads_text _ fits, reread_proofFields honest.key_ascii (honest.signature_ascii payload)]

/-- The gateway reads the key of whoever signed. -/
theorem proves_presenterHeaders (lawful : terms.Lawful) (honest : identity.Lawful terms)
    (floatText : Float64 → Str) (now : Int) (body : List UInt8) {timestamp : Option Int}
    (fresh : terms.isTimestampFresh (timestamp.getD now) = true) :
    ∃ header, presenterHeaders terms floatText now (some identity) body timestamp =
        .ok [(presenterHeader, header)] ∧ Proves terms header body identity.publicKey := by
  obtain ⟨payload, built, sent⟩ := presenterHeaders_eq lawful honest floatText now body fresh
  exact ⟨_, sent, _, _, _, _, payload, loads_proofFields lawful honest floatText fresh payload, rfl,
    rfl, rfl, rfl, fresh, built, honest.verifies payload⟩

/-- The headers of a request prove the key for the bytes which are posted. -/
theorem proves_presented (lawful : terms.Lawful) (honest : identity.Lawful terms)
    {floatText : Float64 → Str} {now : Int} (fresh : terms.isTimestampFresh now = true)
    {body : Dict}
    {actorChainPresent : Bool} {raw : List UInt8} {headers : List (Str × Str)}
    (sent : presented terms floatText now body (some identity) actorChainPresent =
      .ok (raw, headers)) :
    ∃ header, (presenterHeader, header) ∈ headers ∧ Proves terms header raw identity.publicKey := by
  have identified : ¬(actorChainPresent = true ∧ (some identity).isNone = true) := by simp
  rw [presented, if_neg identified] at sent
  obtain ⟨text, _, sent⟩ := bind_eq_ok.mp sent
  obtain ⟨bytes, _, sent⟩ := bind_eq_ok.mp sent
  obtain ⟨signed, carried, sent⟩ := bind_eq_ok.mp sent
  obtain ⟨rfl, rfl⟩ : bytes = raw ∧ _ = headers := by simpa [pure, Except.pure] using sent
  obtain ⟨header, produced, proves⟩ :=
    @proves_presenterHeaders terms identity lawful honest floatText now bytes none fresh
  obtain rfl := Except.ok.inj (carried.symm.trans produced)
  exact ⟨header, by simp, proves⟩

end Signer

/-! ## Presenter proofs -/

/-- A proof round-trips, what is proved was signed for this key and this body, and a proof for
anything else takes another signature. -/
structure PresentersBound (terms : PresenterTerms) (Signed : Str → List UInt8 → Prop) : Prop where
  roundTrip : ∀ identity : ProviderIdentity, identity.Lawful terms →
    ∀ floatText now body timestamp, terms.isTimestampFresh (timestamp.getD now) = true →
      ∃ header, presenterHeaders terms floatText now (some identity) body timestamp =
          .ok [(presenterHeader, header)] ∧
        presenterKeyOf terms (some header) body = .ok (some identity.publicKey)
  proved : ∀ raw body key, presenterKeyOf terms raw body = .ok (some key) →
    ∃ header, raw = some header ∧ Proves terms header body key
  injective : ∀ key key' timestamp timestamp' digest digest' payload,
    digest.length = 64 → digest'.length = 64 →
    AgentSdk.presenterPayload terms.limits key timestamp digest = .ok payload →
    AgentSdk.presenterPayload terms.limits key' timestamp' digest' = .ok payload →
      key = key' ∧ timestamp = timestamp' ∧ digest = digest'
  renewed : ∀ raw raw' body body' key key',
    presenterKeyOf terms raw body = .ok (some key) →
    presenterKeyOf terms raw' body' = .ok (some key') →
    key ≠ key' ∨ terms.sha256Hex body ≠ terms.sha256Hex body' →
      ∃ timestamp timestamp' payload payload',
        Server.presenterPayload terms key timestamp body = .ok payload ∧
        Server.presenterPayload terms key' timestamp' body' = .ok payload' ∧
        Signed key payload ∧ Signed key' payload' ∧ payload ≠ payload'
  sameKey : ∀ raw body body' key key', presenterKeyOf terms raw body = .ok (some key) →
    presenterKeyOf terms raw body' = .ok (some key') → key = key'

section Bound

variable {terms : PresenterTerms} {Signed : Str → List UInt8 → Prop}

theorem proves_of_presenterKeyOf {raw : Option Str} {body : List UInt8} {key : Str}
    (returned : presenterKeyOf terms raw body = .ok (some key)) :
    ∃ header, raw = some header ∧ Proves terms header body key := by
  cases raw with
  | none => cases returned
  | some header => exact ⟨header, rfl, presenterKeyOf_eq_some_iff.mp returned⟩

theorem Proves.signed {header : Str} {body : List UInt8} {key : Str}
    (unforgeable : Unforgeable terms Signed) (proves : Proves terms header body key) :
    ∃ timestamp payload, Server.presenterPayload terms key timestamp body = .ok payload ∧
      Signed key payload := by
  obtain ⟨_, timestamp, _, signature, payload, _, _, _, _, _, _, built, verified⟩ := proves
  exact ⟨timestamp, payload, built, unforgeable key signature payload verified⟩

/-- The header names its key. -/
theorem Proves.key_unique {header : Str} {body body' : List UInt8} {key key' : Str}
    (proves : Proves terms header body key) (proves' : Proves terms header body' key') :
    key = key' := by
  obtain ⟨fields, _, _, _, _, loaded, keyed, _⟩ := proves
  obtain ⟨fields', _, _, _, _, loaded', keyed', _⟩ := proves'
  obtain rfl := Value.dict.inj (Except.ok.inj (loaded.symm.trans loaded'))
  exact Value.str.inj (Option.some.inj (keyed.symm.trans keyed'))

theorem presenters_bound (lawful : terms.Lawful) (unforgeable : Unforgeable terms Signed) :
    PresentersBound terms Signed where
  roundTrip identity honest floatText now body timestamp fresh := by
    obtain ⟨header, produced, proves⟩ :=
      @proves_presenterHeaders terms identity lawful honest floatText now body timestamp fresh
    exact ⟨header, produced, presenterKeyOf_eq_some_iff.mpr proves⟩
  proved raw body key returned := proves_of_presenterKeyOf returned
  injective key key' timestamp timestamp' digest digest' payload sized sized' built built' :=
    presenterPayload_injective sized sized' built built'
  renewed raw raw' body body' key key' returned returned' differ := by
    obtain ⟨_, _, proves⟩ := proves_of_presenterKeyOf returned
    obtain ⟨_, _, proves'⟩ := proves_of_presenterKeyOf returned'
    obtain ⟨timestamp, payload, built, signed⟩ := proves.signed unforgeable
    obtain ⟨timestamp', payload', built', signed'⟩ := proves'.signed unforgeable
    refine ⟨timestamp, timestamp', payload, payload', built, built', signed, signed', ?_⟩
    rintro rfl
    obtain ⟨keys, _, digests⟩ := presenterPayload_injective (lawful.digest_length body)
      (lawful.digest_length body') built built'
    rcases differ with otherKey | otherDigest
    · exact otherKey keys
    · exact otherDigest digests
  sameKey raw body body' key key' returned returned' := by
    obtain ⟨header, rfl, proves⟩ := proves_of_presenterKeyOf returned
    obtain ⟨_, same, proves'⟩ := proves_of_presenterKeyOf returned'
    obtain rfl := Option.some.inj same
    exact proves.key_unique proves'

end Bound

/-! A key which signs by writing the bytes out. -/

/-- The digest of the empty body. -/
def emptyDigest : Str := "e3b0c44298fc1c149afbf4c8996fb92427ae41e4649b934ca495991b7852b855"

/-- Bytes as letters. -/
def letters (bytes : List UInt8) : Str := bytes.map fun byte => Fin.ofNat _ (byte.toNat % 0x80)

/-- One digest, and signatures which are the letters of what they sign. -/
def plainTerms : PresenterTerms where
  limits := Json.defaultLimits
  sha256Hex _ := emptyDigest
  isTimestampFresh timestamp := 1757260000 - 60 ≤ timestamp ∧ timestamp ≤ 1757260000 + 60
  verifySignature key signature payload := .ok (key = str "ab" && signature = letters payload)

theorem plainTerms_lawful : plainTerms.Lawful where
  digest_length _ := rfl
  digest_ascii _ := ascii_of_all rfl
  window timestamp fresh := by
    obtain ⟨after, before⟩ : 1757260000 - 60 ≤ timestamp ∧ timestamp ≤ 1757260000 + 60 := by
      simpa [plainTerms] using fresh
    have small : timestamp.natAbs < 10 ^ 10 := by omega
    exact small.trans_le (Nat.pow_le_pow_right (by decide) (by decide))
  digits := by decide
  depth := by decide

/-- The identity whose key is `ab`. -/
def plainIdentity : ProviderIdentity := ⟨"ab", letters⟩

theorem plainIdentity_lawful : plainIdentity.Lawful plainTerms where
  key_ascii := ascii_of_all rfl
  signature_ascii payload point among := by
    obtain ⟨byte, _, rfl⟩ := List.mem_map.mp among
    rw [Fin.val_ofNat]
    omega
  verifies payload := by simp [plainTerms, plainIdentity]

theorem plainTerms_bound :
    plainTerms.Lawful ∧ plainIdentity.Lawful plainTerms ∧
      Unforgeable plainTerms (fun key _ => key = str "ab") ∧
      PresentersBound plainTerms (fun key _ => key = str "ab") := by
  have unforgeable : Unforgeable plainTerms (fun key _ => key = str "ab") := by
    intro key signature payload verified
    have both : (key = str "ab" && signature = letters payload) = true := Except.ok.inj verified
    simp only [Bool.and_eq_true, decide_eq_true_eq] at both
    exact both.1
  exact ⟨plainTerms_lawful, plainIdentity_lawful, unforgeable,
    presenters_bound plainTerms_lawful unforgeable⟩

end Souk

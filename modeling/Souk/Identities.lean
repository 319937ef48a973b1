import Souk.PodProbeAgent.Wire

/-!
# Identity files

A provider keeps the seed of its Ed25519 key in a file.  The Python SDK writes and reads the 32 bytes
themselves, the Go probe their hex text.
-/

namespace Souk

open Souk.Python

/-- The bytes of the files, by path. -/
abbrev Disk := Str → Option (List UInt8)

namespace Disk

/-- `write_bytes` and `os.WriteFile`, where the disk lets them. -/
def write (disk : Disk) (path : Str) (data : List UInt8) : Disk :=
  fun other => if other = path then some data else disk other

@[simp]
theorem write_same (disk : Disk) (path : Str) (data : List UInt8) :
    disk.write path data path = some data := if_pos rfl

end Disk

namespace AgentSdk

/-- What `identity.py` uses of `Ed25519PrivateKey`. -/
structure Ed25519 (PrivateKey : Type) where
  fromPrivateBytes : List UInt8 → Except Raised PrivateKey
  privateBytesRaw : PrivateKey → List UInt8
  publicBytesRaw : PrivateKey → List UInt8

/-- A private key is its seed of 32 bytes, and the public key is derived from it. -/
structure Ed25519.Lawful {PrivateKey : Type} (ed25519 : Ed25519 PrivateKey)
    (derive : List UInt8 → List UInt8) : Prop where
  reads : ∀ data, data.length = 32 →
    ∃ key, ed25519.fromPrivateBytes data = .ok key ∧ ed25519.privateBytesRaw key = data
  refuses : ∀ data, data.length ≠ 32 → ed25519.fromPrivateBytes data = .error .valueError
  sized : ∀ key, (ed25519.privateBytesRaw key).length = 32
  derived : ∀ key, ed25519.publicBytesRaw key = derive (ed25519.privateBytesRaw key)

/-- `load_or_create_identity`, where `generate` would yield the given key. -/
def loadOrCreateIdentity {PrivateKey : Type} (ed25519 : Ed25519 PrivateKey) (generated : PrivateKey)
    (path : Str) (disk : Disk) : Except Raised (PrivateKey × Disk) :=
  match disk path with
  | some data => do
      let key ← ed25519.fromPrivateBytes data
      return (key, disk)
  | none => .ok (generated, disk.write path (ed25519.privateBytesRaw generated))

/-- `public_key_hex` -/
def publicKeyHex {PrivateKey : Type} (ed25519 : Ed25519 PrivateKey) (key : PrivateKey) : Str :=
  PodProbeAgent.hexEncode (ed25519.publicBytesRaw key)

end AgentSdk

namespace PodProbeAgent

/-- The keypair of a probe, as its seed. -/
structure Identity where
  priv : List UInt8

/-- `PublicHex` -/
def Identity.publicHex (derive : List UInt8 → List UInt8) (identity : Identity) : Str :=
  hexEncode (derive identity.priv)

/-- `ed25519.SeedSize` -/
def seedSize : Nat := 32

/-- `string(data)`, one element a byte. -/
def ofBytes (data : List UInt8) : Str := data.map fun byte => Fin.ofNat 0x110000 byte.toNat

/-- `[]byte(text)` for text in ASCII. -/
def toBytes (text : Str) : List UInt8 := text.map fun point => UInt8.ofNat point.val

/-- The characters `trimSpace` takes off. -/
def isSpace (char : CodePoint) : Bool :=
  char = codePoint '\n' ∨ char = codePoint '\r' ∨ char = codePoint ' ' ∨ char = codePoint '\t'

/-- `trimSpace` -/
def trimSpace (text : Str) : Str := (text.rdropWhile isSpace).dropWhile isSpace

/-- `loadOrCreateIdentity`, where `rand.Read` would yield the given seed. -/
def loadOrCreateIdentity (generated : List UInt8) (path : Str) (disk : Disk) :
    Except Message (Identity × Disk) :=
  match disk path with
  | some data =>
      match hexDecode (trimSpace (ofBytes data)) with
      | some seed =>
          if seed.length = seedSize then .ok (⟨seed⟩, disk)
          else .error ⟨"identity at %s is not a 32-byte hex seed", [.str path]⟩
      | none => .error ⟨"identity at %s is not a 32-byte hex seed", [.str path]⟩
  | none =>
      if path = [] then .ok (⟨generated⟩, disk)
      else .ok (⟨generated⟩, disk.write path (toBytes (hexEncode generated)))

/-! ## Hex text -/

theorem hexDigit_hexChar {value : Nat} (small : value < 16) :
    hexDigit (hexChar value) = some (UInt8.ofNat value) := by
  interval_cases value <;> rfl

theorem nibbles (byte : UInt8) :
    16 * UInt8.ofNat (byte.toNat / 16) + UInt8.ofNat (byte.toNat % 16) = byte := by
  have bound := byte.toNat_lt
  have sixteen : (16 : UInt8).toNat = 16 := rfl
  apply UInt8.toNat.inj
  rw [UInt8.toNat_add, UInt8.toNat_mul, UInt8.toNat_ofNat', UInt8.toNat_ofNat', sixteen]
  omega

@[simp]
theorem hexEncode_nil : hexEncode [] = [] := rfl

@[simp]
theorem hexEncode_cons (byte : UInt8) (bytes : List UInt8) :
    hexEncode (byte :: bytes) =
      hexChar (byte.toNat / 16) :: hexChar (byte.toNat % 16) :: hexEncode bytes := rfl

/-- What is written in hex is read back. -/
theorem hexDecode_hexEncode (bytes : List UInt8) : hexDecode (hexEncode bytes) = some bytes := by
  induction bytes with
  | nil => rfl
  | cons byte bytes induction =>
      have bound := byte.toNat_lt
      have high : hexDigit (hexChar (byte.toNat / 16)) = some (UInt8.ofNat (byte.toNat / 16)) :=
        hexDigit_hexChar (by omega)
      have low : hexDigit (hexChar (byte.toNat % 16)) = some (UInt8.ofNat (byte.toNat % 16)) :=
        hexDigit_hexChar (by omega)
      rw [hexEncode_cons, hexDecode, high, low, induction]
      simp only [bind, Option.bind, pure, nibbles]

theorem length_hexEncode (bytes : List UInt8) : (hexEncode bytes).length = 2 * bytes.length := by
  induction bytes with
  | nil => rfl
  | cons byte bytes induction =>
      rw [hexEncode_cons, List.length_cons, List.length_cons, List.length_cons, induction]
      omega

/-- Two digits make one byte. -/
theorem length_of_hexDecode {text : Str} {bytes : List UInt8}
    (decoded : hexDecode text = some bytes) : text.length = 2 * bytes.length := by
  induction text using hexDecode.induct generalizing bytes with
  | case1 =>
      obtain rfl := Option.some.inj decoded
      rfl
  | case2 digit => cases decoded
  | case3 high low rest induction =>
      rw [hexDecode] at decoded
      obtain ⟨_, _, decoded⟩ := Option.bind_eq_some_iff.mp decoded
      obtain ⟨_, _, decoded⟩ := Option.bind_eq_some_iff.mp decoded
      obtain ⟨others, read, decoded⟩ := Option.bind_eq_some_iff.mp decoded
      obtain rfl := Option.some.inj decoded
      rw [List.length_cons, List.length_cons, List.length_cons, induction read]
      omega

theorem hexChar_ascii {value : Nat} (small : value < 16) :
    (hexChar value).val < 0x80 ∧ isSpace (hexChar value) = false := by
  interval_cases value <;> exact ⟨by decide, rfl⟩

theorem hexEncode_ascii {bytes : List UInt8} {char : CodePoint} (among : char ∈ hexEncode bytes) :
    char.val < 0x80 ∧ isSpace char = false := by
  obtain ⟨byte, _, digit⟩ := List.mem_flatMap.mp among
  have bound := byte.toNat_lt
  rcases List.mem_cons.mp digit with rfl | other
  · exact hexChar_ascii (by omega)
  · obtain rfl := List.mem_singleton.mp other
    exact hexChar_ascii (by omega)

/-! ## The bytes of a file -/

theorem length_trimSpace_le (text : Str) : (trimSpace text).length ≤ text.length :=
  (List.dropWhile_suffix _).length_le.trans (List.rdropWhile_prefix _ _).length_le

theorem trimSpace_eq_self {text : Str} (unspaced : ∀ char ∈ text, isSpace char = false) :
    trimSpace text = text := by
  have right : text.rdropWhile isSpace = text := by
    rw [List.rdropWhile_eq_self_iff]
    intro nonempty spaced
    rw [unspaced _ (List.getLast_mem nonempty)] at spaced
    cases spaced
  rw [trimSpace, right, List.dropWhile_eq_self_iff]
  intro nonempty spaced
  rw [unspaced _ (List.getElem_mem nonempty)] at spaced
  cases spaced

theorem ofBytes_toBytes {text : Str} (ascii : ∀ char ∈ text, char.val < 0x80) :
    ofBytes (toBytes text) = text := by
  rw [ofBytes, toBytes, List.map_map]
  conv_rhs => rw [← List.map_id text]
  apply List.map_congr_left
  intro char among
  have bound := ascii char among
  apply Fin.ext
  rw [Function.comp_apply, Fin.val_ofNat, UInt8.toNat_ofNat', id]
  omega

@[simp]
theorem length_ofBytes (data : List UInt8) : (ofBytes data).length = data.length :=
  List.length_map _

@[simp]
theorem length_toBytes (text : Str) : (toBytes text).length = text.length := List.length_map _

/-- The probe's own file is read as its seed. -/
theorem hexDecode_file (seed : List UInt8) :
    hexDecode (trimSpace (ofBytes (toBytes (hexEncode seed)))) = some seed := by
  have ascii : ∀ char ∈ hexEncode seed, char.val < 0x80 :=
    fun char among => (hexEncode_ascii among).1
  have unspaced : ∀ char ∈ hexEncode seed, isSpace char = false :=
    fun char among => (hexEncode_ascii among).2
  rw [ofBytes_toBytes ascii, trimSpace_eq_self unspaced, hexDecode_hexEncode]

/-- A file which is too short for the hex text of a seed is refused, whatever its bytes. -/
theorem loadOrCreateIdentity_short {generated : List UInt8} {path : Str} {disk : Disk}
    {data : List UInt8} (stored : disk path = some data) (short : data.length < 64) :
    loadOrCreateIdentity generated path disk =
      .error ⟨"identity at %s is not a 32-byte hex seed", [.str path]⟩ := by
  rw [loadOrCreateIdentity, stored]
  cases decoded : hexDecode (trimSpace (ofBytes data)) with
  | none => simp only [decoded]
  | some seed =>
      have digits := length_of_hexDecode decoded
      have trimmed := length_trimSpace_le (ofBytes data)
      rw [length_ofBytes] at trimmed
      have unsized : seed.length ≠ seedSize := by
        rw [seedSize]
        omega
      simp only [decoded, unsized, if_false]

theorem loadOrCreateIdentity_hex {generated seed : List UInt8} {path : Str} {disk : Disk}
    (stored : disk path = some (toBytes (hexEncode seed))) (sized : seed.length = seedSize) :
    loadOrCreateIdentity generated path disk = .ok (⟨seed⟩, disk) := by
  simp only [loadOrCreateIdentity, stored, hexDecode_file, sized, if_true]

theorem loadOrCreateIdentity_absent {generated : List UInt8} {path : Str} {disk : Disk}
    (absent : disk path = none) (named : path ≠ []) :
    loadOrCreateIdentity generated path disk =
      .ok (⟨generated⟩, disk.write path (toBytes (hexEncode generated))) := by
  simp only [loadOrCreateIdentity, absent, named, if_false]

end PodProbeAgent

/-! ## Files across the two languages -/

/-- Load or create the identity at a path: the public key, and the disk afterwards. -/
abbrev Loader (Fresh : Type) := Fresh → Str → Disk → Option (Str × Disk)

/-- The SDK's loader. -/
def pythonLoader {PrivateKey : Type} (ed25519 : AgentSdk.Ed25519 PrivateKey) : Loader PrivateKey :=
  fun generated path disk =>
    match AgentSdk.loadOrCreateIdentity ed25519 generated path disk with
    | .ok (key, disk) => some (AgentSdk.publicKeyHex ed25519 key, disk)
    | .error _ => none

/-- The probe's loader. -/
def goLoader (derive : List UInt8 → List UInt8) : Loader (List UInt8) :=
  fun generated path disk =>
    match PodProbeAgent.loadOrCreateIdentity generated path disk with
    | .ok (identity, disk) => some (identity.publicHex derive, disk)
    | .error _ => none

/-- What one loader writes where there was no file, the other reads to the same public key. -/
def ReadsBack {Fresh Other : Type} (writer : Loader Fresh) (reader : Loader Other) (fresh : Fresh)
    (path : Str) (disk : Disk) : Prop :=
  ∃ publicKey written, writer fresh path disk = some (publicKey, written) ∧
    ∀ other, ∃ left, reader other path written = some (publicKey, left)

/-- The two write and read one format. -/
def Interchangeable {PrivateKey : Type} (ed25519 : AgentSdk.Ed25519 PrivateKey)
    (derive : List UInt8 → List UInt8) (key : PrivateKey) (seed : List UInt8) (path : Str)
    (disk : Disk) : Prop :=
  ReadsBack (pythonLoader ed25519) (goLoader derive) key path disk ∧
    ReadsBack (goLoader derive) (pythonLoader ed25519) seed path disk ∧
    ReadsBack (pythonLoader ed25519) (pythonLoader ed25519) key path disk ∧
    ReadsBack (goLoader derive) (goLoader derive) seed path disk

section Files

variable {PrivateKey : Type} {ed25519 : AgentSdk.Ed25519 PrivateKey}
  {derive : List UInt8 → List UInt8} {path : Str} {disk : Disk}

theorem pythonLoader_absent (absent : disk path = none) (key : PrivateKey) :
    pythonLoader ed25519 key path disk =
      some (AgentSdk.publicKeyHex ed25519 key,
        disk.write path (ed25519.privateBytesRaw key)) := by
  simp only [pythonLoader, AgentSdk.loadOrCreateIdentity, absent]

theorem goLoader_absent (absent : disk path = none) (named : path ≠ []) (seed : List UInt8) :
    goLoader derive seed path disk =
      some (PodProbeAgent.hexEncode (derive seed),
        disk.write path (PodProbeAgent.toBytes (PodProbeAgent.hexEncode seed))) := by
  simp only [goLoader, PodProbeAgent.loadOrCreateIdentity_absent absent named,
    PodProbeAgent.Identity.publicHex]

theorem pythonLoader_stored (lawful : ed25519.Lawful derive) {data : List UInt8}
    (stored : disk path = some data) (sized : data.length = 32) (generated : PrivateKey) :
    pythonLoader ed25519 generated path disk =
      some (PodProbeAgent.hexEncode (derive data), disk) := by
  obtain ⟨key, read, raw⟩ := lawful.reads data sized
  simp only [pythonLoader, AgentSdk.loadOrCreateIdentity, stored, read, bind, Except.bind, pure,
    Except.pure, AgentSdk.publicKeyHex, lawful.derived, raw]

theorem pythonLoader_refused (lawful : ed25519.Lawful derive) {data : List UInt8}
    (stored : disk path = some data) (unsized : data.length ≠ 32) (generated : PrivateKey) :
    pythonLoader ed25519 generated path disk = none := by
  simp only [pythonLoader, AgentSdk.loadOrCreateIdentity, stored, lawful.refuses data unsized, bind,
    Except.bind]

/-- Each provider reads its own file, and neither ever reads the other's. -/
theorem identity_files_differ (lawful : ed25519.Lawful derive) (named : path ≠ [])
    (absent : disk path = none) {key : PrivateKey} {seed : List UInt8}
    (raw : ed25519.privateBytesRaw key = seed) :
    ReadsBack (pythonLoader ed25519) (pythonLoader ed25519) key path disk ∧
      ReadsBack (goLoader derive) (goLoader derive) seed path disk ∧
      ¬ReadsBack (pythonLoader ed25519) (goLoader derive) key path disk ∧
      ¬ReadsBack (goLoader derive) (pythonLoader ed25519) seed path disk ∧
      ¬Interchangeable ed25519 derive key seed path disk := by
  subst raw
  have sized := lawful.sized key
  have written := @pythonLoader_absent _ ed25519 path disk absent key
  have encoded := @goLoader_absent derive path disk absent named (ed25519.privateBytesRaw key)
  have goRefuses : ¬ReadsBack (pythonLoader ed25519) (goLoader derive) key path disk := by
    rintro ⟨publicKey, left, wrote, reads⟩
    obtain ⟨rfl, rfl⟩ := by simpa using written.symm.trans wrote
    obtain ⟨_, read⟩ := reads []
    rw [goLoader,
      PodProbeAgent.loadOrCreateIdentity_short (Disk.write_same _ _ _) (by omega)] at read
    cases read
  refine ⟨?_, ?_, goRefuses, ?_, fun interchangeable => goRefuses interchangeable.1⟩
  · refine ⟨_, _, written, fun other => ⟨disk.write path (ed25519.privateBytesRaw key), ?_⟩⟩
    rw [pythonLoader_stored lawful (Disk.write_same _ _ _) sized, AgentSdk.publicKeyHex,
      lawful.derived]
  · refine ⟨_, _, encoded, fun other => ⟨disk.write path (PodProbeAgent.toBytes
      (PodProbeAgent.hexEncode (ed25519.privateBytesRaw key))), ?_⟩⟩
    simp only [goLoader, PodProbeAgent.loadOrCreateIdentity_hex (Disk.write_same _ _ _) sized,
      PodProbeAgent.Identity.publicHex]
  · rintro ⟨publicKey, left, wrote, reads⟩
    obtain ⟨rfl, rfl⟩ := by simpa using encoded.symm.trans wrote
    obtain ⟨_, read⟩ := reads key
    have unsized : (PodProbeAgent.toBytes
        (PodProbeAgent.hexEncode (ed25519.privateBytesRaw key))).length ≠ 32 := by
      rw [PodProbeAgent.length_toBytes, PodProbeAgent.length_hexEncode]
      omega
    rw [pythonLoader_refused lawful (Disk.write_same _ _ _) unsized] at read
    cases read

end Files

/-! Keys which are their own seeds. -/

/-- Seeds of 32 bytes, each its own public key. -/
def plainEd25519 : AgentSdk.Ed25519 {data : List UInt8 // data.length = 32} where
  fromPrivateBytes data :=
    if sized : data.length = 32 then .ok ⟨data, sized⟩ else .error .valueError
  privateBytesRaw key := key.val
  publicBytesRaw key := key.val

theorem lawful_plainEd25519 : plainEd25519.Lawful id where
  reads data sized := ⟨⟨data, sized⟩, dif_pos sized, rfl⟩
  refuses _ unsized := dif_neg unsized
  sized key := key.property
  derived _ := rfl

/-- The seed of 32 zero bytes. -/
def zeroSeed : {data : List UInt8 // data.length = 32} :=
  ⟨List.replicate 32 0, List.length_replicate⟩

theorem zeroSeed_files_differ :
    ReadsBack (pythonLoader plainEd25519) (pythonLoader plainEd25519) zeroSeed "id"
        (fun _ => none) ∧
      ReadsBack (goLoader id) (goLoader id) zeroSeed.val "id" (fun _ => none) ∧
      ¬ReadsBack (pythonLoader plainEd25519) (goLoader id) zeroSeed "id" (fun _ => none) ∧
      ¬ReadsBack (goLoader id) (pythonLoader plainEd25519) zeroSeed.val "id" (fun _ => none) ∧
      ¬Interchangeable plainEd25519 id zeroSeed zeroSeed.val "id" (fun _ => none) :=
  identity_files_differ lawful_plainEd25519 (by simp [str]) rfl rfl

/-- The probe cannot start from the file the SDK writes for the zero seed. -/
theorem zeroSeed_not_interchangeable :
    ¬Interchangeable plainEd25519 id zeroSeed zeroSeed.val "id" (fun _ => none) := by
  rintro ⟨⟨publicKey, written, wrote, reads⟩, _⟩
  obtain ⟨left, read⟩ := reads []
  obtain ⟨rfl, rfl⟩ := by
    simpa using
      (@pythonLoader_absent _ plainEd25519 "id" (fun _ => none) rfl zeroSeed).symm.trans wrote
  rw [goLoader,
    PodProbeAgent.loadOrCreateIdentity_short (Disk.write_same _ _ _) (by decide)] at read
  cases read

end Souk

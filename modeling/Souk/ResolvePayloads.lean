import Souk.Library.OrderedCode
import Souk.Identities
import Souk.Python.Conversions
import Souk.Server.WsCommon

/-!
# What an authority signs to answer asks

The Go probe sorts the ids of the asks by their bytes, in a copy of the slice it was given, where
the contract sorts them by code point.  UTF-8 is an ordered code, so that the two sign the same
bytes, and the ids can be read back from what is hashed.
-/

namespace Souk

open Souk.Python OrderedCode

namespace PodProbeAgent

/-- A Go `string`. -/
abbrev GoString := List UInt8

/-- The arrays behind the `[]string` of a program. -/
abbrev Memory := List (List GoString)

/-- A `[]string`: some of the strings of an array. -/
structure Slice where
  array : Nat
  offset : Nat
  length : Nat

namespace Slice

/-- `[]string(nil)` -/
def empty : Slice := ⟨0, 0, 0⟩

/-- The strings of a slice. -/
def strings (memory : Memory) (slice : Slice) : List GoString :=
  ((memory.getD slice.array []).drop slice.offset).take slice.length

/-- A slice does not reach beyond its array. -/
def Within (memory : Memory) (slice : Slice) : Prop :=
  slice.offset + slice.length ≤ (memory.getD slice.array []).length

end Slice

/-- `append([]string(nil), items...)`: a new array, unless there is nothing to put in it. -/
def appendToNil (memory : Memory) (items : List GoString) : Memory × Slice :=
  if items = [] then (memory, .empty) else (memory ++ [items], ⟨memory.length, 0, items.length⟩)

/-- `sort.Strings`: the strings of a slice are put in the order of their bytes, in their array. -/
def sortStrings (memory : Memory) (slice : Slice) : Memory :=
  memory.modify slice.array fun array =>
    array.take slice.offset ++
      ((array.drop slice.offset).take slice.length).insertionSort (· ≤ ·) ++
      array.drop (slice.offset + slice.length)

/-- `strings.Join` -/
def join (items : List GoString) (separator : GoString) : GoString := separator.intercalate items

/-- The bytes `resolvePayload` hashes, and the memory it leaves. -/
def joinedAsks (memory : Memory) (askIDs : Slice) : Memory × GoString :=
  let (memory, sorted) := appendToNil memory (askIDs.strings memory)
  let memory := sortStrings memory sorted
  (memory, join (sorted.strings memory) [0])

/-- `resolvePayload` -/
def resolvePayload (sha256 : List UInt8 → List UInt8) (memory : Memory) (runID : GoString)
    (askIDs : Slice) : Memory × List UInt8 :=
  let (memory, joined) := joinedAsks memory askIDs
  let digest := sha256 joined
  (memory, toBytes (str "funduq-resolve:") ++ runID ++ toBytes (str ":") ++
    toBytes (hexEncode digest))

/-! ## The copy -/

theorem sortStrings_empty (memory : Memory) : sortStrings memory .empty = memory := by
  have unchanged : (fun array : List GoString =>
      array.take Slice.empty.offset ++
        ((array.drop Slice.empty.offset).take Slice.empty.length).insertionSort (· ≤ ·) ++
        array.drop (Slice.empty.offset + Slice.empty.length)) = id := by
    funext array
    simp [Slice.empty]
  rw [sortStrings, unchanged, List.modify_id]

theorem sortStrings_last (memory : Memory) (items : List GoString) :
    sortStrings (memory ++ [items]) ⟨memory.length, 0, items.length⟩ =
      memory ++ [items.insertionSort (· ≤ ·)] := by
  simp [sortStrings, List.modify_eq_take_cons_drop]

theorem strings_empty (memory : Memory) : Slice.empty.strings memory = [] := List.take_zero

/-- The array which is allocated, if any, and the bytes which are hashed. -/
theorem joinedAsks_eq (memory : Memory) (askIDs : Slice) :
    joinedAsks memory askIDs =
      (if askIDs.strings memory = [] then memory
        else memory ++ [(askIDs.strings memory).insertionSort (· ≤ ·)],
       [0].intercalate ((askIDs.strings memory).insertionSort (· ≤ ·))) := by
  unfold joinedAsks appendToNil
  generalize askIDs.strings memory = items
  by_cases none : items = []
  · simp only [none, if_true, sortStrings_empty, strings_empty, join, List.insertionSort_nil]
  · have whole : (⟨memory.length, 0, items.length⟩ : Slice).strings
        (memory ++ [items.insertionSort (· ≤ ·)]) = items.insertionSort (· ≤ ·) := by
      simp [Slice.strings]
    simp only [if_neg none, sortStrings_last, whole, join]

theorem resolvePayload_eq (sha256 : List UInt8 → List UInt8) (memory : Memory) (runID : GoString)
    (askIDs : Slice) :
    (resolvePayload sha256 memory runID askIDs).2 =
      toBytes (str "funduq-resolve:") ++ runID ++ toBytes (str ":") ++ toBytes (hexEncode
        (sha256 ([0].intercalate ((askIDs.strings memory).insertionSort (· ≤ ·))))) := by
  rw [resolvePayload, joinedAsks_eq]

theorem strings_append {memory : Memory} {slice : Slice} (within : slice.Within memory)
    (array : List GoString) : slice.strings (memory ++ [array]) = slice.strings memory := by
  by_cases known : slice.array < memory.length
  · rw [Slice.strings, List.getD_append _ _ _ _ known, Slice.strings]
  · have unknown : memory.getD slice.array [] = [] :=
      List.getD_eq_default _ _ (Nat.le_of_not_lt known)
    rw [Slice.Within, unknown, List.length_nil] at within
    have short : slice.length = 0 := by omega
    rw [Slice.strings, Slice.strings, short, List.take_zero, List.take_zero]

/-- Every slice of the program keeps its strings, that of the caller among them. -/
theorem strings_resolvePayload (sha256 : List UInt8 → List UInt8) {memory : Memory}
    (runID : GoString) (askIDs : Slice) {slice : Slice} (within : slice.Within memory) :
    slice.strings (resolvePayload sha256 memory runID askIDs).1 = slice.strings memory := by
  rw [resolvePayload, joinedAsks_eq]
  dsimp only
  split
  · rfl
  · exact strings_append within _

/-- Ids which are not empty and hold no NUL can be read back from what is hashed. -/
theorem perm_of_joinedAsks_eq {memory other : Memory} {askIDs others : Slice}
    (apart : ∀ id ∈ askIDs.strings memory, id ≠ [] ∧ 0 ∉ id)
    (othersApart : ∀ id ∈ others.strings other, id ≠ [] ∧ 0 ∉ id)
    (same : (joinedAsks memory askIDs).2 = (joinedAsks other others).2) :
    (askIDs.strings memory).Perm (others.strings other) := by
  rw [joinedAsks_eq, joinedAsks_eq] at same
  have sorted := eq_of_intercalate_eq
    (fun id among => apart id ((List.mem_insertionSort _).mp among))
    (fun id among => othersApart id ((List.mem_insertionSort _).mp among)) same
  have perm := List.perm_insertionSort (· ≤ ·) (others.strings other)
  rw [← sorted] at perm
  exact (List.perm_insertionSort _ _).symm.trans perm

end PodProbeAgent

/-! ## The order of the contract -/

open PodProbeAgent Server

theorem strictMono_codePoint : StrictMono codePoint := fun _ _ smaller => smaller

/-- The bytes of a text of characters. -/
def utf8 (chars : List Char) : List UInt8 := chars.flatMap String.utf8EncodeChar

theorem strictMono_utf8 : StrictMono utf8 := isOrdered_utf8EncodeChar.strictMono

theorem utf8_of_ascii {chars : List Char}
    (ascii : ∀ point ∈ chars.map codePoint, point.val < 0x80) :
    utf8 chars = toBytes (chars.map codePoint) := by
  induction chars with
  | nil => rfl
  | cons char chars induction =>
      obtain ⟨first, rest⟩ := List.forall_mem_cons.mp ascii
      have small : char.val.toNat ≤ 0x7f := Nat.le_of_lt_succ first
      have single : String.utf8EncodeChar char = [UInt8.ofNat char.val.toNat] := if_pos small
      rw [utf8, List.flatMap_cons, single, ← utf8, induction rest]
      rfl

theorem encodeUtf8_ascii {text : Str} (ascii : ∀ point ∈ text, point.val < 0x80) :
    encodeUtf8 text = .ok (toBytes text) := by
  obtain ⟨bytes, encoded⟩ := encodeUtf8_of_ascii ascii
  obtain ⟨chars, rfl, rfl⟩ := exists_chars_of_encodeUtf8 encoded
  rw [encoded, ← utf8, utf8_of_ascii ascii]

theorem encodeUtf8_append {left right : Str} {leftBytes rightBytes : List UInt8}
    (first : encodeUtf8 left = .ok leftBytes) (second : encodeUtf8 right = .ok rightBytes) :
    encodeUtf8 (left ++ right) = .ok (leftBytes ++ rightBytes) := by
  obtain ⟨leftChars, rfl, rfl⟩ := exists_chars_of_encodeUtf8 first
  obtain ⟨rightChars, rfl, rfl⟩ := exists_chars_of_encodeUtf8 second
  rw [← List.map_append, encodeUtf8_map_codePoint, List.flatMap_append]

/-- What the contract has an authority sign: the ids are sorted by code point and joined with
NULs. -/
def contractPayload (sha256 : List UInt8 → List UInt8) (runId : Str) (askIds : List Str) :
    Except Raised (List UInt8) := do
  let joined ← encodeUtf8 ([0].intercalate (sortedNames askIds))
  encodeUtf8 (str "funduq-resolve:" ++ runId ++ str ":" ++ hexEncode (sha256 joined))

/-- A text without lone surrogates. -/
def IsUnicode (text : Str) : Prop := ∀ point ∈ text, isSurrogate point = false

/-- The payload is that of the contract, whatever the order of the ids and whatever else they are
used for, and tells the ids. -/
structure IsCanonical (sha256 : List UInt8 → List UInt8) : Prop where
  contract : ∀ runId askIds, IsUnicode runId → (∀ id ∈ askIds, IsUnicode id) →
    ∃ runID ids payload, encodeUtf8 runId = .ok runID ∧ askIds.mapM encodeUtf8 = .ok ids ∧
      contractPayload sha256 runId askIds = .ok payload ∧
      ∀ memory (askIDs : Slice), askIDs.strings memory = ids →
        (resolvePayload sha256 memory runID askIDs).2 = payload
  permuted : ∀ memory other runID (askIDs others : Slice),
    (askIDs.strings memory).Perm (others.strings other) →
    (resolvePayload sha256 memory runID askIDs).2 = (resolvePayload sha256 other runID others).2
  kept : ∀ memory runID (askIDs slice : Slice), slice.Within memory →
    slice.strings (resolvePayload sha256 memory runID askIDs).1 = slice.strings memory
  told : ∀ memory other (askIDs others : Slice),
    (∀ id ∈ askIDs.strings memory, id ≠ [] ∧ 0 ∉ id) →
    (∀ id ∈ others.strings other, id ≠ [] ∧ 0 ∉ id) →
    (joinedAsks memory askIDs).2 = (joinedAsks other others).2 →
    (askIDs.strings memory).Perm (others.strings other)

/-- Texts without lone surrogates are texts of characters. -/
theorem exists_chars {texts : List Str} (unicode : ∀ text ∈ texts, IsUnicode text) :
    ∃ words : List (List Char), texts = words.map (List.map codePoint) := by
  induction texts with
  | nil => exact ⟨[], rfl⟩
  | cons text texts induction =>
      obtain ⟨first, rest⟩ := List.forall_mem_cons.mp unicode
      obtain ⟨bytes, encoded⟩ := encodeUtf8_returns_iff.mpr first
      obtain ⟨chars, rfl, -⟩ := exists_chars_of_encodeUtf8 encoded
      obtain ⟨words, rfl⟩ := induction rest
      exact ⟨chars :: words, rfl⟩

theorem mapM_encodeUtf8 (words : List (List Char)) :
    (words.map (List.map codePoint)).mapM encodeUtf8 = .ok (words.map utf8) := by
  induction words with
  | nil => rfl
  | cons chars words induction =>
      rw [List.map_cons, List.mapM_cons, encodeUtf8_map_codePoint, induction]
      rfl

/-- Sorting the bytes and joining them with NUL bytes is sorting the texts by code point, joining
them with NULs, and encoding. -/
theorem encodeUtf8_sorted (words : List (List Char)) :
    encodeUtf8 ([0].intercalate (sortedNames (words.map (List.map codePoint)))) =
      .ok ([0].intercalate ((words.map utf8).insertionSort (· ≤ ·))) := by
  have nul : [codePoint (Char.ofNat 0)] = [0] := rfl
  have nulByte : String.utf8EncodeChar (Char.ofNat 0) = [0] := rfl
  have texts : sortedNames (words.map (List.map codePoint)) =
      (words.insertionSort (· ≤ ·)).map (List.map codePoint) :=
    (map_insertionSort_of_strictMono (strictMono_map strictMono_codePoint) words).symm
  have joined := flatMap_intercalate (fun char => [codePoint char]) nul
    (words.insertionSort (· ≤ ·))
  have bytes := flatMap_intercalate String.utf8EncodeChar nulByte (words.insertionSort (· ≤ ·))
  simp only [← List.map_eq_flatMap] at joined
  rw [texts, ← joined, encodeUtf8_map_codePoint, bytes,
    ← map_insertionSort_of_strictMono strictMono_utf8]
  rfl

theorem contractPayload_eq (sha256 : List UInt8 → List UInt8) {runId : Str} {runID : List UInt8}
    (encoded : encodeUtf8 runId = .ok runID) (words : List (List Char)) :
    contractPayload sha256 runId (words.map (List.map codePoint)) =
      .ok (toBytes (str "funduq-resolve:") ++ runID ++ toBytes (str ":") ++ toBytes (hexEncode
        (sha256 ([0].intercalate ((words.map utf8).insertionSort (· ≤ ·)))))) := by
  have head : encodeUtf8 (str "funduq-resolve:") = .ok (toBytes (str "funduq-resolve:")) :=
    encodeUtf8_ascii (ascii_of_all rfl)
  have colon : encodeUtf8 (str ":") = .ok (toBytes (str ":")) := encodeUtf8_ascii (ascii_of_all rfl)
  have digest := encodeUtf8_ascii fun point among => (@hexEncode_ascii
    (sha256 ([0].intercalate ((words.map utf8).insertionSort (· ≤ ·)))) point among).1
  rw [contractPayload, encodeUtf8_sorted]
  exact encodeUtf8_append (encodeUtf8_append (encodeUtf8_append head encoded) colon) digest

/-- The payload, for every hash function. -/
theorem resolvePayload_isCanonical (sha256 : List UInt8 → List UInt8) : IsCanonical sha256 where
  contract runId askIds runUnicode unicode := by
    obtain ⟨runID, encoded⟩ := encodeUtf8_returns_iff.mpr runUnicode
    obtain ⟨words, rfl⟩ := exists_chars unicode
    refine ⟨runID, words.map utf8, _, encoded, mapM_encodeUtf8 words,
      contractPayload_eq sha256 encoded words, ?_⟩
    intro memory askIDs given
    rw [resolvePayload_eq, given]
  permuted memory other runID askIDs others perm := by
    rw [resolvePayload_eq, resolvePayload_eq, insertionSort_eq_of_perm perm]
  kept memory runID askIDs slice within := strings_resolvePayload sha256 runID askIDs within
  told memory other askIDs others apart othersApart same :=
    perm_of_joinedAsks_eq apart othersApart same

end Souk

import Mathlib

/-!
# Codes which keep the order of words

A word parts below another if, after a common beginning, it goes on with the smaller symbol.  A code
whose code words part in the order of their letters keeps the lexicographic order of words, whatever
the lengths of the code words: UTF-8 is one.  The last section is about words which are joined by a
separator.
-/

namespace Souk.OrderedCode

variable {Letter Symbol : Type*}

/-- After a common beginning, the first word goes on with the smaller symbol. -/
inductive PartsBelow [LT Symbol] : List Symbol → List Symbol → Prop
  | here {low high : Symbol} (smaller : low < high) (lows highs : List Symbol) :
      PartsBelow (low :: lows) (high :: highs)
  | later (symbol : Symbol) {left right : List Symbol} (parts : PartsBelow left right) :
      PartsBelow (symbol :: left) (symbol :: right)

namespace PartsBelow

variable [LinearOrder Symbol] {left right : List Symbol}

theorem append (parts : PartsBelow left right) (lefts rights : List Symbol) :
    PartsBelow (left ++ lefts) (right ++ rights) := by
  induction parts with
  | here smaller lows highs => exact .here smaller _ _
  | later symbol _ induction => exact .later symbol induction

theorem lt (parts : PartsBelow left right) : left < right := by
  induction parts with
  | here smaller lows highs => exact .rel smaller
  | later symbol _ induction => exact .cons induction

end PartsBelow

/-- No code word is empty, and the code words part in the order of their letters. -/
structure IsOrdered [LT Letter] [LT Symbol] (encode : Letter → List Symbol) : Prop where
  nonempty : ∀ letter, encode letter ≠ []
  parts : ∀ {low high}, low < high → PartsBelow (encode low) (encode high)

section Words

variable [LinearOrder Letter] [LinearOrder Symbol] {encode : Letter → List Symbol}

/-- An ordered code keeps the lexicographic order of words. -/
theorem IsOrdered.strictMono (ordered : IsOrdered encode) :
    StrictMono fun word : List Letter => word.flatMap encode := by
  intro word other smaller
  have lex : List.Lex (· < ·) word other := smaller
  clear smaller
  induction lex with
  | @nil letter rest =>
      obtain ⟨symbol, symbols, code⟩ := List.exists_cons_of_ne_nil (ordered.nonempty letter)
      simp only [List.flatMap_nil, List.flatMap_cons, code, List.cons_append]
      exact .nil
  | rel smaller =>
      simp only [List.flatMap_cons]
      exact ((ordered.parts smaller).append _ _).lt
  | cons _ induction =>
      simp only [List.flatMap_cons]
      exact List.append_left_lt induction

/-- Relabelling the letters in their order is an ordered code. -/
theorem isOrdered_singleton {relabel : Letter → Symbol} (increasing : StrictMono relabel) :
    IsOrdered fun letter => [relabel letter] where
  nonempty _ := List.cons_ne_nil _ _
  parts smaller := .here (increasing smaller) [] []

theorem strictMono_map {relabel : Letter → Symbol} (increasing : StrictMono relabel) :
    StrictMono (List.map relabel) := by
  have flat : List.map relabel = fun word => word.flatMap fun letter => [relabel letter] :=
    funext fun word => List.map_eq_flatMap
  rw [flat]
  exact (isOrdered_singleton increasing).strictMono

/-- Words may be put in order before or after a mapping which keeps their order. -/
theorem map_insertionSort_of_strictMono {mapping : Letter → Symbol}
    (increasing : StrictMono mapping) (letters : List Letter) :
    (letters.insertionSort (· ≤ ·)).map mapping = (letters.map mapping).insertionSort (· ≤ ·) :=
  List.map_insertionSort _ _ _ _ fun _ _ _ _ => increasing.le_iff_le.symm

/-- The order in which letters come is lost when they are put in order. -/
theorem insertionSort_eq_of_perm {letters others : List Letter} (perm : letters.Perm others) :
    letters.insertionSort (· ≤ ·) = others.insertionSort (· ≤ ·) := by
  apply List.Perm.eq_of_pairwise (fun _ _ _ _ => le_antisymm)
    (List.pairwise_insertionSort _ letters) (List.pairwise_insertionSort _ others)
  exact (List.perm_insertionSort _ letters).trans
    (perm.trans (List.perm_insertionSort _ others).symm)

end Words

/-! ## UTF-8 -/

instance byteLinearOrder : LinearOrder UInt8 where
  le_refl _ := UInt8.le_refl _
  le_trans _ _ _ := UInt8.le_trans
  le_antisymm _ _ := UInt8.le_antisymm
  le_total := UInt8.le_total
  lt_iff_le_not_ge _ _ := by
    rw [UInt8.not_le]
    exact ⟨fun smaller => ⟨UInt8.le_of_lt smaller, smaller⟩, And.right⟩
  toDecidableLE := inferInstance

/-- The first byte of one word is smaller than that of another. -/
theorem PartsBelow.lead {low high : Nat} {lows highs : List UInt8} (bound : high < UInt8.size)
    (smaller : low < high) : PartsBelow (UInt8.ofNat low :: lows) (UInt8.ofNat high :: highs) := by
  apply PartsBelow.here
  rw [UInt8.lt_iff_toNat_lt, UInt8.toNat_ofNat_of_lt' (smaller.trans bound),
    UInt8.toNat_ofNat_of_lt' bound]
  exact smaller

/-- If the first bytes of two words are the same, the words part later. -/
theorem PartsBelow.byte {low high : Nat} {lows highs : List UInt8} (bound : high < UInt8.size)
    (ordered : low ≤ high) (parts : low = high → PartsBelow lows highs) :
    PartsBelow (UInt8.ofNat low :: lows) (UInt8.ofNat high :: highs) := by
  rcases ordered.eq_or_lt with same | smaller
  · rw [same]
    exact .later _ (parts same)
  · exact .lead bound smaller

theorem isOrdered_utf8EncodeChar : IsOrdered String.utf8EncodeChar where
  nonempty char := by
    unfold String.utf8EncodeChar
    dsimp only
    split_ifs <;> exact List.cons_ne_nil _ _
  parts {low high} smaller := by
    have values : low.val.toNat < high.val.toNat := smaller
    have bound : high.val.toNat < 0x110000 := by
      rcases high.valid with small | ⟨_, large⟩ <;> omega
    have size : UInt8.size = 256 := rfl
    unfold String.utf8EncodeChar
    generalize low.val.toNat = value at values
    generalize high.val.toNat = other at values bound
    dsimp only
    split_ifs <;> try omega
    -- A longer code word begins with a greater byte, and of two as long the digits decide.
    · exact .lead (by omega) values
    · exact .lead (by omega) (by omega)
    · exact .lead (by omega) (by omega)
    · exact .lead (by omega) (by omega)
    · apply PartsBelow.byte (by omega) (by omega)
      intro first
      exact .lead (by omega) (by omega)
    · exact .lead (by omega) (by omega)
    · exact .lead (by omega) (by omega)
    · apply PartsBelow.byte (by omega) (by omega)
      intro first
      apply PartsBelow.byte (by omega) (by omega)
      intro second
      exact .lead (by omega) (by omega)
    · exact .lead (by omega) (by omega)
    · apply PartsBelow.byte (by omega) (by omega)
      intro first
      apply PartsBelow.byte (by omega) (by omega)
      intro second
      apply PartsBelow.byte (by omega) (by omega)
      intro third
      exact .lead (by omega) (by omega)

/-! ## Words joined by a separator -/

section Separator

variable {separator : Symbol} {words others : List (List Symbol)}

theorem intercalate_ne_nil {word : List Symbol} (nonempty : word ≠ []) :
    [separator].intercalate (word :: words) ≠ [] := by
  cases words with
  | nil => simpa using nonempty
  | cons next rest => simp [List.intercalate_cons_cons]

/-- Words without the separator, none of them empty, can be told from their join. -/
theorem eq_of_intercalate_eq [DecidableEq Symbol]
    (apart : ∀ word ∈ words, word ≠ [] ∧ separator ∉ word)
    (othersApart : ∀ word ∈ others, word ≠ [] ∧ separator ∉ word)
    (same : [separator].intercalate words = [separator].intercalate others) : words = others := by
  cases words with
  | nil =>
      cases others with
      | nil => rfl
      | cons other rest =>
          exact absurd same.symm (intercalate_ne_nil (othersApart other List.mem_cons_self).1)
  | cons word words =>
      cases others with
      | nil => exact absurd same (intercalate_ne_nil (apart word List.mem_cons_self).1)
      | cons other rest =>
          have splitWords := List.splitOn_intercalate separator
            (fun word among => (apart word among).2) (List.cons_ne_nil word words)
          have splitOthers := List.splitOn_intercalate separator
            (fun word among => (othersApart word among).2) (List.cons_ne_nil other rest)
          rw [← splitWords, same, splitOthers]

/-- Coding the words and then joining them is coding their join. -/
theorem flatMap_intercalate {Letter : Type*} (encode : Letter → List Symbol) {letter : Letter}
    (single : encode letter = [separator]) (texts : List (List Letter)) :
    ([letter].intercalate texts).flatMap encode =
      [separator].intercalate (texts.map fun text => text.flatMap encode) := by
  induction texts with
  | nil => rfl
  | cons text texts induction =>
      cases texts with
      | nil => simp
      | cons next rest =>
          rw [List.map_cons] at induction
          simp only [List.map_cons, List.intercalate_cons_cons, List.flatMap_append, induction,
            List.flatMap_singleton, single]

end Separator

end Souk.OrderedCode

import Mathlib

/-!
# Records which grow at their end

A record is a list to which entries are added at the end, so that an entry keeps its position and
positions can serve as names.  The file has the three ways of reading a position in a record which
has grown or whose entry has been replaced, what a replaced entry does to that which is read off the
whole record, and the order between an entry and those which it must precede.
-/

namespace Souk

variable {Entry : Type*} {record late : List Entry} {entry last : Entry} {index position : Nat}

theorem getElem?_concat_eq_some : (record ++ [last])[index]? = some entry ↔
    record[index]? = some entry ∨ index = record.length ∧ last = entry := by
  rw [List.getElem?_append]
  split
  · rename_i inside
    constructor
    · exact Or.inl
    · rintro (found | ⟨rfl, _⟩)
      · exact found
      · exact absurd inside (lt_irrefl _)
  · rename_i outside
    rw [List.getElem?_singleton, List.getElem?_eq_none (not_lt.mp outside)]
    constructor
    · intro found
      split at found
      · exact Or.inr ⟨by omega, Option.some.inj found⟩
      · cases found
    · rintro (impossible | ⟨rfl, rfl⟩)
      · cases impossible
      · simp

theorem getElem?_append_of_eq_some (found : record[index]? = some entry) :
    (record ++ late)[index]? = some entry := by
  rw [List.getElem?_append_left (List.getElem?_eq_some_iff.mp found).1]
  exact found

/-- What a record holds after one of its entries has been replaced. -/
theorem getElem?_set_eq_some {old later : Entry} (found : record[position]? = some old) :
    (record.set position later)[index]? = some entry ↔
      index = position ∧ later = entry ∨ index ≠ position ∧ record[index]? = some entry := by
  have inside : position < record.length := (List.getElem?_eq_some_iff.mp found).1
  by_cases same : position = index
  · subst same
    simp [inside]
  · simp [same, Ne.symm same]

/-- What a list reads off the entries of a record: an entry which is replaced may read as before. -/
theorem filterMap_set_of_same {Seen : Type*} {read : Entry → Option Seen} {old later : Entry}
    (found : record[position]? = some old) (same : read later = read old) :
    (record.set position later).filterMap read = record.filterMap read := by
  obtain ⟨inside, entry⟩ := List.getElem?_eq_some_iff.mp found
  have split : record = record.take position ++ old :: record.drop (position + 1) := by
    rw [← entry, List.getElem_cons_drop, List.take_append_drop]
  conv_rhs => rw [split]
  rw [List.set_eq_take_append_cons_drop, if_pos inside, List.filterMap_append,
    List.filterMap_append, List.filterMap_cons, List.filterMap_cons, same]

theorem map_set_of_same {Seen : Type*} {read : Entry → Seen} {old later : Entry}
    (found : record[position]? = some old) (same : read later = read old) :
    (record.set position later).map read = record.map read := by
  have reads : (some ∘ read) later = (some ∘ read) old := congrArg some same
  simpa only [List.filterMap_eq_map] using filterMap_set_of_same found reads

/-- An entry which reads as something has a position in what is read, which is erased when the entry
is replaced by one that reads as nothing. -/
theorem exists_position_filterMap {Seen : Type*} {read : Entry → Option Seen} {old : Entry}
    {seen : Seen} (found : record[position]? = some old) (reads : read old = some seen) :
    ∃ place, (record.filterMap read)[place]? = some seen ∧
      ∀ later, read later = none →
        (record.set position later).filterMap read = (record.filterMap read).eraseIdx place := by
  obtain ⟨inside, entry⟩ := List.getElem?_eq_some_iff.mp found
  have split : record = record.take position ++ old :: record.drop (position + 1) := by
    rw [← entry, List.getElem_cons_drop, List.take_append_drop]
  have whole : record.filterMap read = (record.take position).filterMap read ++
      seen :: (record.drop (position + 1)).filterMap read := by
    conv_lhs => rw [split]
    rw [List.filterMap_append, List.filterMap_cons_some reads]
  refine ⟨((record.take position).filterMap read).length, by simp [whole], fun later gone => ?_⟩
  rw [whole, List.eraseIdx_append_of_length_le le_rfl, Nat.sub_self, List.eraseIdx_cons_zero,
    List.set_eq_take_append_cons_drop, if_pos inside, List.filterMap_append,
    List.filterMap_cons_none gone]

/-- One entry of the record opens, and nothing which must follow it comes before it. -/
def OpensWith (opens follows : Entry → Prop) (opening : Entry) (record : List Entry) : Prop :=
  ∃ before after, record = before ++ opening :: after ∧
    (∀ entry ∈ before, ¬opens entry ∧ ¬follows entry) ∧ ∀ entry ∈ after, ¬opens entry

variable {opens follows : Entry → Prop} {opening : Entry}

/-- An entry opens a record in which nothing has opened and nothing follows. -/
theorem opensWith_concat (unopened : ∀ entry ∈ record, ¬opens entry ∧ ¬follows entry) :
    OpensWith opens follows opening (record ++ [opening]) :=
  ⟨record, [], rfl, unopened, by simp⟩

/-- The record stays open while nothing opens it again. -/
theorem OpensWith.append (open_record : OpensWith opens follows opening record)
    (unopened : ∀ entry ∈ late, ¬opens entry) :
    OpensWith opens follows opening (record ++ late) := by
  obtain ⟨before, after, rfl, early, rest⟩ := open_record
  refine ⟨before, after ++ late, by simp, early, ?_⟩
  intro entry member
  exact (List.mem_append.mp member).elim (rest entry) (unopened entry)

end Souk

import Souk.Python.JsonEncoder
import Souk.Python.JsonText

/-!
# From `json.dumps` of one peer to `json.loads` of the other

An object is written as the text of a value: keys which are no strings become strings, and only what
the encoder knows can be written at all.  What arrives is that value as it is read back.
-/

namespace Souk.Python

namespace Object

/-- The name of a member: the types which are no strings become strings. -/
def keyText (encoder : Json.Encoder) : Object → Option Str
  | .str key => some key
  | .int value => some (Json.intText value)
  | .float value => some (encoder.floatText value)
  | .bool true => some (Python.str "true")
  | .bool false => some (Python.str "false")
  | .none => some (Python.str "null")
  | .list _ | .dict _ | .enclosing | .other => Option.none

mutual

/-- The value whose text `json.dumps` writes. -/
def written (encoder : Json.Encoder) : Object → Option Value
  | .none => some .null
  | .bool value => some (.bool value)
  | .int value => some (.int value)
  | .float value => some (.float value)
  | .str value => some (.str value)
  | .list items => (writtenItems encoder items).map .list
  | .dict entries => (writtenEntries encoder entries).map .dict
  | .enclosing | .other => Option.none

def writtenItems (encoder : Json.Encoder) : List Object → Option (List Value)
  | [] => some []
  | item :: items => do
      let first ← written encoder item
      let rest ← writtenItems encoder items
      return first :: rest

def writtenEntries (encoder : Json.Encoder) : List (Object × Object) → Option (List (Str × Value))
  | [] => some []
  | (key, value) :: entries => do
      let name ← keyText encoder key
      let first ← written encoder value
      let rest ← writtenEntries encoder entries
      return (name, first) :: rest

end

/-- What `json.loads` returns of the object's text. -/
def received (encoder : Json.Encoder) (object : Object) : Option Value :=
  (object.written encoder).map Json.reread

mutual

/-- A value is written as itself. -/
theorem written_ofValue (encoder : Json.Encoder) : ∀ value : Value,
    (ofValue value).written encoder = some value
  | .null | .bool _ | .int _ | .float _ | .str _ => rfl
  | .list items => by
      rw [ofValue, written, writtenItems_ofItems encoder items, Option.map_some]
  | .dict fields => by
      rw [ofValue, written, writtenEntries_ofFields encoder fields, Option.map_some]

theorem writtenItems_ofItems (encoder : Json.Encoder) : ∀ items : List Value,
    writtenItems encoder (ofItems items) = some items
  | [] => rfl
  | item :: items => by
      rw [ofItems, writtenItems, written_ofValue encoder item, writtenItems_ofItems encoder items]
      rfl

theorem writtenEntries_ofFields (encoder : Json.Encoder) : ∀ fields : List (Str × Value),
    writtenEntries encoder (ofFields fields) = some fields
  | [] => rfl
  | (key, value) :: fields => by
      rw [ofFields, writtenEntries, keyText, written_ofValue encoder value,
        writtenEntries_ofFields encoder fields]
      rfl

end

/-- The members of a dictionary display are written under their names. -/
theorem writtenEntries_record (encoder : Json.Encoder) (fields : List (String × Object)) :
    writtenEntries encoder (fields.map fun field => (.str (Python.str field.1), field.2)) =
      fields.mapM fun field => (field.2.written encoder).map fun value =>
        (Python.str field.1, value) := by
  induction fields with
  | nil => rfl
  | cons field fields induction =>
      rw [List.map_cons, List.mapM_cons, writtenEntries, induction, keyText]
      cases field.2.written encoder <;> rfl

end Object

/-- The text on the wire is read as the object which was written. -/
def Carries (encoder : Json.Encoder) (limits : Json.Limits) (object : Object) (raw : Str) : Prop :=
  ∃ value, object.received encoder = some value ∧ Json.loads limits raw = .ok value

/-- A new key goes to the end. -/
theorem Dict.set_of_notMem {fields : Dict} {key : Str} {value : Value}
    (new : key ∉ fields.map Prod.fst) : Dict.set fields key value = fields ++ [(key, value)] := by
  induction fields with
  | nil => rfl
  | cons field fields induction =>
      obtain ⟨name, old⟩ := field
      simp only [List.map_cons, List.mem_cons, not_or] at new
      rw [Dict.set, if_neg (Ne.symm new.1), induction new.2, List.cons_append]

/-- Members with different names which are read back as they are stay apart. -/
theorem Json.rereadFields_of_nodup {before fields : Dict}
    (kept : ∀ field ∈ fields, rereadStr field.1 = field.1)
    (distinct : (before.map Prod.fst ++ fields.map Prod.fst).Nodup) :
    rereadFields before fields = before ++ fields.map fun field => (field.1, reread field.2) := by
  induction fields generalizing before with
  | nil => simp [rereadFields]
  | cons field fields induction =>
      obtain ⟨name, value⟩ := field
      have same : rereadStr name = name := kept _ List.mem_cons_self
      have new : name ∉ before.map Prod.fst := by
        intro among
        exact List.disjoint_of_nodup_append distinct among List.mem_cons_self
      rw [rereadFields, same, Dict.set_of_notMem new,
        induction (fun later among => kept later (List.mem_cons_of_mem _ among))
          (by simpa using distinct)]
      simp

/-- A conversion of what each call returns is a conversion of the whole. -/
theorem mapM_map_eq {Item Read Seen : Type*} (read : Item → Option Read) (convert : Read → Seen)
    (items : List Item) :
    (items.mapM fun item => (read item).map convert) =
      (items.mapM read).map (List.map convert) := by
  induction items with
  | nil => rfl
  | cons item items induction =>
      rw [List.mapM_cons, List.mapM_cons, induction]
      cases read item with
      | none => rfl
      | some value => cases items.mapM read <;> rfl

/-- The members of a display keep their names. -/
theorem names_of_mapM {Item Read : Type*} {name : Item → Str} {read : Item → Option Read}
    {items : List Item} {members : List (Str × Read)}
    (wrote : (items.mapM fun item => (read item).map fun value => (name item, value)) =
      some members) : members.map Prod.fst = items.map name := by
  induction items generalizing members with
  | nil =>
      obtain rfl : [] = members := by simpa using wrote
      rfl
  | cons item items induction =>
      rw [List.mapM_cons] at wrote
      cases first : read item with
      | none => simp [first] at wrote
      | some value =>
          cases rest : items.mapM fun item => (read item).map fun value => (name item, value) with
          | none => simp [first, rest] at wrote
          | some others =>
              obtain rfl : (name item, value) :: others = members := by
                simpa [first, rest] using wrote
              rw [List.map_cons, List.map_cons, induction rest]

/-- A dictionary display arrives with its members as they arrive, under the names it has. -/
theorem Object.received_record (encoder : Json.Encoder) {fields : List (String × Object)}
    (names : List String) (named : fields.map Prod.fst = names)
    (kept : ∀ name ∈ names, Json.rereadStr (Python.str name) = Python.str name)
    (distinct : names.Nodup) :
    (record fields).received encoder =
      (fields.mapM fun field : String × Object => (field.2.received encoder).map fun value =>
        (Python.str field.1, value)).map .dict := by
  rw [received, record, written, writtenEntries_record]
  have members : (fields.mapM fun field : String × Object =>
      (field.2.received encoder).map fun value => (Python.str field.1, value)) =
      (fields.mapM fun field : String × Object => (field.2.written encoder).map fun value =>
        (Python.str field.1, value)).map
          (List.map fun member : Str × Value => (member.1, Json.reread member.2)) := by
    rw [← mapM_map_eq]
    congr 1
    funext field
    rw [received, Option.map_map, Option.map_map]
    rfl
  rw [members]
  cases wrote : fields.mapM fun field : String × Object =>
    (field.2.written encoder).map fun value =>
      (Python.str field.1, value) with
  | none => rfl
  | some members =>
      have names : members.map Prod.fst = fields.map fun field => Python.str field.1 :=
        names_of_mapM wrote
      simp only [Option.map_some, Json.reread]
      rw [Json.rereadFields_of_nodup, List.nil_append]
      · intro member among
        have displayed : member.1 ∈ fields.map fun field => Python.str field.1 :=
          names ▸ List.mem_map_of_mem among
        obtain ⟨field, field_mem, same⟩ := List.mem_map.mp displayed
        rw [← same]
        exact kept field.1 (named ▸ List.mem_map_of_mem field_mem)
      · rw [List.map_nil, List.nil_append, names]
        have injective : Function.Injective Python.str := fun _ _ same => str_inj.mp same
        simpa [← named, List.map_map, Function.comp_def] using distinct.map injective

/-- What a peer reads off a dictionary display which arrives. -/
theorem Object.read_record (encoder : Json.Encoder) {Read : Type*} (read : Dict → Option Read)
    {fields : List (String × Object)} (names : List String) (named : fields.map Prod.fst = names)
    (kept : ∀ name ∈ names, Json.rereadStr (Python.str name) = Python.str name)
    (distinct : names.Nodup) :
    (((record fields).received encoder).bind Value.asDict?).bind read =
      (fields.mapM fun field : String × Object => (field.2.received encoder).map fun value =>
        (Python.str field.1, value)).bind read := by
  rw [received_record encoder names named kept distinct, Option.bind_map]
  cases fields.mapM fun field : String × Object => (field.2.received encoder).map fun value =>
      (Python.str field.1, value) <;> rfl

/-- A string as it is received. -/
theorem Object.received_str (encoder : Json.Encoder) (text : Str) :
    (Object.str text).received encoder = some (.str (Json.rereadStr text)) := rfl

/-- The first member of a display can be read off what arrives. -/
theorem Object.first_of_received (encoder : Json.Encoder) {name : String} {text : Str}
    {rest : List (String × Object)} {fields : Dict} (names : List String)
    (named : rest.map Prod.fst = names)
    (kept : ∀ other ∈ name :: names, Json.rereadStr (Python.str other) = Python.str other)
    (distinct : (name :: names).Nodup) (same : Json.rereadStr text = text)
    (received : (record ((name, .str text) :: rest)).received encoder = some (.dict fields)) :
    Dict.get fields (Python.str name) = .str text := by
  rw [received_record encoder (name :: names) (by rw [List.map_cons, named]) kept distinct,
    List.mapM_cons] at received
  cases others : rest.mapM fun field : String × Object =>
      (field.2.received encoder).map fun value => (Python.str field.1, value) with
  | none => simp [others] at received
  | some members =>
      have shape : (Python.str name, Value.str text) :: members = fields := by
        simp only [received_str, same, Option.map_some, others] at received
        exact Value.dict.inj (Option.some.inj received)
      simp [← shape, Dict.get]

/-- An encoder for values without floats. -/
def Json.floatless : Json.Encoder := ⟨true, fun _ => []⟩

end Souk.Python

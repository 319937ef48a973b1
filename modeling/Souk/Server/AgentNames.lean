import Souk.Server.WsProvider

/-!
# The names a register frame may carry

An agent name stands in a path segment of every road of the gateway.  The grammar of names is stated
here beside the expression which is meant to recognise it; the two differ at the end of a line.
-/

namespace Souk.Server.WsProvider

open Souk.Python

/-- `[A-Za-z0-9_-]{1,128}` -/
def IsAgentName (name : Str) : Prop :=
  1 ≤ name.length ∧ name.length ≤ 128 ∧ ∀ point ∈ name, isNamePoint point = true

/-- An agent name with a newline behind it. -/
def IsAgentLine (name : Str) : Prop := ∃ body, IsAgentName body ∧ name = body ++ [0x0A]

/-- The entry is an object which validates, with a name of this shape. -/
def EntryNamed (contract : Contract) (Shape : Str → Prop) (entry : Value) : Prop :=
  ∃ fields registration, entry = .dict fields ∧ contract.registration fields = .ok registration ∧
    Shape registration.name

/-- The registration is what the entry validates as. -/
def Validates (contract : Contract) (entry : Value) (registration : Registration) : Prop :=
  ∃ fields, entry = .dict fields ∧ contract.registration fields = .ok registration

/-- The frame has agents, and each of them is an object which validates with a name of this
shape. -/
def FrameNamed (contract : Contract) (Shape : Str → Prop) (frame : Dict) : Prop :=
  ∃ entries, Dict.get frame "agents" = .list entries ∧ entries ≠ [] ∧
    ∀ entry ∈ entries, EntryNamed contract Shape entry

/-- The parser accepts the frames of the grammar, entry by entry, and refuses the others. -/
structure ParsesGrammar (contract : Contract) (frame : Dict) : Prop where
  accepts : (∃ agents, parseRegistration contract frame = .ok agents) ↔
    FrameNamed contract IsAgentName frame
  inOrder : ∀ agents, parseRegistration contract frame = .ok agents →
    ∃ entries, Dict.get frame "agents" = .list entries ∧
      List.Forall₂ (Validates contract) entries agents
  refuses : ¬FrameNamed contract IsAgentName frame →
    ∃ message, parseRegistration contract frame = .error message

/-- Every agent of the frame has a name of the grammar, up to a newline, and one has the newline. -/
def HasAgentLine (contract : Contract) (frame : Dict) : Prop :=
  FrameNamed contract (fun name => IsAgentName name ∨ IsAgentLine name) frame ∧
    ∃ entries, Dict.get frame "agents" = .list entries ∧
      ∃ entry ∈ entries, EntryNamed contract IsAgentLine entry

/-! ## The expression -/

theorem isNamePoint_newline : isNamePoint 0x0A = false := by decide

theorem not_isAgentName_newline (body : Str) : ¬IsAgentName (body ++ [0x0A]) := by
  rintro ⟨_, _, points⟩
  have newline : isNamePoint 0x0A = true := points 0x0A (by simp)
  rw [isNamePoint_newline] at newline
  cases newline

theorem isAgentLine_newline {body : Str} : IsAgentLine (body ++ [0x0A]) ↔ IsAgentName body := by
  constructor
  · rintro ⟨other, named, same⟩
    obtain rfl := List.append_cancel_right same
    exact named
  · intro named
    exact ⟨body, named, rfl⟩

theorem isAgentName_iff {name : Str} :
    IsAgentName name ↔
      (1 ≤ name.length && name.length ≤ 128 && name.all isNamePoint) = true := by
  simp [IsAgentName, and_assoc]

/-- The end of the expression is the end of the name, or the newline in front of it. -/
theorem matchesAgentName_iff {name : Str} :
    matchesAgentName name = true ↔ IsAgentName name ∨ IsAgentLine name := by
  by_cases ends : name.getLast? = some 0x0A
  · obtain ⟨body, rfl⟩ := List.getLast?_eq_some_iff.mp ends
    rw [isAgentLine_newline, or_iff_right (not_isAgentName_newline body), isAgentName_iff]
    simp [matchesAgentName]
  · have noLine : ¬IsAgentLine name := by
      rintro ⟨body, _, rfl⟩
      exact ends (by simp)
    rw [or_iff_left noLine, isAgentName_iff]
    simp [matchesAgentName, ends]

/-! ## The parser -/

/-- What a monadic map returns, item by item. -/
theorem mapM_eq_ok_iff {α β ε : Type} {parse : α → Except ε β} {items : List α}
    {results : List β} :
    items.mapM parse = .ok results ↔
      List.Forall₂ (fun item result => parse item = .ok result) items results := by
  induction items generalizing results with
  | nil =>
      rw [List.mapM_nil, List.forall₂_nil_left_iff]
      exact ⟨fun same => (Except.ok.inj same).symm, fun same => congrArg Except.ok same.symm⟩
  | cons item items induction =>
      rw [List.mapM_cons, List.forall₂_cons_left_iff]
      cases parsed : parse item with
      | error message =>
          constructor
          · intro impossible
            cases impossible
          · rintro ⟨first, _, impossible, _⟩
            cases impossible
      | ok first =>
          cases others : items.mapM parse with
          | error message =>
              constructor
              · intro impossible
                cases impossible
              · rintro ⟨_, rest, _, parsedRest, _⟩
                rw [induction.mpr parsedRest] at others
                cases others
          | ok rest =>
              constructor
              · intro same
                obtain rfl := Except.ok.inj same
                exact ⟨first, rest, rfl, induction.mp others, rfl⟩
              · rintro ⟨other, otherRest, same, parsedRest, rfl⟩
                obtain rfl := Except.ok.inj same
                obtain rfl := Except.ok.inj (others.symm.trans (induction.mpr parsedRest))
                rfl

variable {contract : Contract}

/-- What an entry is parsed to, and when. -/
theorem parseAgent_eq_ok_iff {entry : Value} {registration : Registration} :
    parseAgent contract entry = .ok registration ↔
      Validates contract entry registration ∧
        (IsAgentName registration.name ∨ IsAgentLine registration.name) := by
  rw [← matchesAgentName_iff]
  cases entry with
  | dict fields =>
      have validates : Validates contract (.dict fields) registration ↔
          contract.registration fields = .ok registration := by
        constructor
        · rintro ⟨_, ⟨⟩, validated⟩
          exact validated
        · intro validated
          exact ⟨fields, rfl, validated⟩
      rw [validates]
      cases validated : contract.registration fields with
      | error text => simp [parseAgent, validated]
      | ok other =>
          by_cases recognised : matchesAgentName other.name
          · simp only [parseAgent, validated, recognised, if_true, Except.ok.injEq]
            constructor
            · rintro rfl
              exact ⟨rfl, recognised⟩
            · exact And.left
          · simp only [parseAgent, validated, recognised, Bool.false_eq_true, if_false,
              Except.ok.injEq, reduceCtorEq, false_iff, not_and]
            rintro rfl
            exact recognised
  | null | bool | int | float | str | list =>
      simp [parseAgent, Validates]

/-- What a frame is parsed to, and when. -/
theorem parseRegistration_eq_ok_iff {frame : Dict} {agents : List Registration} :
    parseRegistration contract frame = .ok agents ↔
      ∃ entries, Dict.get frame "agents" = .list entries ∧ entries ≠ [] ∧
        List.Forall₂ (fun entry agent => parseAgent contract entry = .ok agent) entries agents := by
  unfold parseRegistration
  split
  · rename_i entry entries listed
    rw [mapM_eq_ok_iff]
    constructor
    · intro parsed
      exact ⟨entry :: entries, listed, List.cons_ne_nil _ _, parsed⟩
    · rintro ⟨others, same, _, parsed⟩
      obtain rfl := Value.list.inj (same.symm.trans listed)
      exact parsed
  · rename_i unlisted
    simp only [reduceCtorEq, false_iff]
    rintro ⟨entries, listed, filled, _⟩
    obtain ⟨entry, rest, rfl⟩ := List.exists_cons_of_ne_nil filled
    exact unlisted entry rest listed

theorem exists_forall₂_iff {α β : Type} {Related : α → β → Prop} {items : List α} :
    (∃ results, List.Forall₂ Related items results) ↔
      ∀ item ∈ items, ∃ result, Related item result := by
  induction items with
  | nil => simp
  | cons item items induction =>
      rw [List.forall_mem_cons, ← induction]
      constructor
      · rintro ⟨_, first | ⟨related, others⟩⟩
        exact ⟨⟨_, related⟩, _, others⟩
      · rintro ⟨⟨result, related⟩, results, others⟩
        exact ⟨result :: results, .cons related others⟩

theorem entryNamed_iff {Shape : Str → Prop} {entry : Value} :
    EntryNamed contract Shape entry ↔
      ∃ registration, Validates contract entry registration ∧ Shape registration.name := by
  constructor
  · rintro ⟨fields, registration, rfl, validated, shaped⟩
    exact ⟨registration, ⟨fields, rfl, validated⟩, shaped⟩
  · rintro ⟨registration, ⟨fields, rfl, validated⟩, shaped⟩
    exact ⟨fields, registration, rfl, validated, shaped⟩

theorem Validates.unique {entry : Value} {first second : Registration}
    (one : Validates contract entry first) (other : Validates contract entry second) :
    first = second := by
  obtain ⟨fields, rfl, validated⟩ := one
  obtain ⟨_, ⟨⟩, validatedToo⟩ := other
  exact Except.ok.inj (validated.symm.trans validatedToo)

/-- The parser accepts a newline behind the names. -/
theorem parses_iff {frame : Dict} :
    (∃ agents, parseRegistration contract frame = .ok agents) ↔
      FrameNamed contract (fun name => IsAgentName name ∨ IsAgentLine name) frame := by
  simp only [parseRegistration_eq_ok_iff, FrameNamed, entryNamed_iff, ← parseAgent_eq_ok_iff,
    ← exists_forall₂_iff]
  constructor
  · rintro ⟨agents, entries, listed, filled, parsed⟩
    exact ⟨entries, listed, filled, agents, parsed⟩
  · rintro ⟨entries, listed, filled, agents, parsed⟩
    exact ⟨agents, entries, listed, filled, parsed⟩

theorem FrameNamed.weaken {Shape Wider : Str → Prop} {frame : Dict}
    (named : FrameNamed contract Shape frame) (wider : ∀ name, Shape name → Wider name) :
    FrameNamed contract Wider frame := by
  obtain ⟨entries, listed, filled, each⟩ := named
  refine ⟨entries, listed, filled, fun entry member => ?_⟩
  obtain ⟨fields, registration, dict, validated, shaped⟩ := each entry member
  exact ⟨fields, registration, dict, validated, wider _ shaped⟩

/-- Names without a newline behind them are names of the grammar, and no others are. -/
theorem frameNamed_iff_of_recognised {frame : Dict}
    (recognised : FrameNamed contract (fun name => IsAgentName name ∨ IsAgentLine name) frame) :
    FrameNamed contract IsAgentName frame ↔ ¬HasAgentLine contract frame := by
  obtain ⟨entries, listed, filled, each⟩ := recognised
  constructor
  · rintro ⟨others, same, _, named⟩ ⟨_, more, again, entry, member, lined⟩
    obtain rfl := Value.list.inj (same.symm.trans listed)
    obtain rfl := Value.list.inj (again.symm.trans listed)
    obtain ⟨first, validates, isName⟩ := entryNamed_iff.mp (named entry member)
    obtain ⟨second, validatesToo, isLine⟩ := entryNamed_iff.mp lined
    obtain rfl := validates.unique validatesToo
    obtain ⟨body, _, same⟩ := isLine
    exact not_isAgentName_newline body (same ▸ isName)
  · intro unlined
    refine ⟨entries, listed, filled, fun entry member => ?_⟩
    obtain ⟨fields, registration, dict, validated, isName | isLine⟩ := each entry member
    · exact ⟨fields, registration, dict, validated, isName⟩
    · refine absurd ⟨⟨entries, listed, filled, each⟩, entries, listed, entry, member, ?_⟩ unlined
      exact ⟨fields, registration, dict, validated, isLine⟩

/-- The parser keeps to the grammar unless every name of the frame is of the grammar up to a newline
and one has the newline. -/
theorem parsesGrammar_iff (contract : Contract) (frame : Dict) :
    ParsesGrammar contract frame ↔ ¬HasAgentLine contract frame := by
  have within : FrameNamed contract IsAgentName frame →
      FrameNamed contract (fun name => IsAgentName name ∨ IsAgentLine name) frame :=
    fun named => named.weaken fun _ => Or.inl
  constructor
  · rintro ⟨accepts, _, _⟩ lined
    have named : FrameNamed contract IsAgentName frame := accepts.mp (parses_iff.mpr lined.1)
    exact (frameNamed_iff_of_recognised lined.1).mp named lined
  · intro unlined
    refine ⟨?_, ?_, ?_⟩
    · rw [parses_iff]
      constructor
      · intro recognised
        exact (frameNamed_iff_of_recognised recognised).mpr unlined
      · exact within
    · intro agents parsed
      obtain ⟨entries, listed, _, each⟩ := parseRegistration_eq_ok_iff.mp parsed
      exact ⟨entries, listed, each.imp fun _ _ parsedTo => (parseAgent_eq_ok_iff.mp parsedTo).1⟩
    · intro unnamed
      cases parsed : parseRegistration contract frame with
      | error message => exact ⟨message, rfl⟩
      | ok agents =>
          have recognised := parses_iff.mp ⟨agents, parsed⟩
          exact absurd ((frameNamed_iff_of_recognised recognised).mpr unlined) unnamed

/-- An agent whose name ends with its line. -/
def lineEntry : Value := .dict [(str "name", .str (str "probe" ++ [0x0A]))]

/-- A roster of that agent. -/
def lineFrame : Dict := [(str "type", .str (str "register")), (str "agents", .list [lineEntry])]

theorem entryNamed_lineEntry : EntryNamed plainContract IsAgentLine lineEntry :=
  ⟨_, _, rfl, rfl, str "probe", isAgentName_iff.mpr rfl, rfl⟩

/-- The frame is accepted, with a name which no road of the gateway can address. -/
theorem line_not_parsesGrammar : ¬ParsesGrammar plainContract lineFrame := by
  rintro ⟨accepts, _, _⟩
  have recognised : FrameNamed plainContract (fun name => IsAgentName name ∨ IsAgentLine name)
      lineFrame := parses_iff.mp ⟨_, rfl⟩
  have lined : HasAgentLine plainContract lineFrame :=
    ⟨recognised, [lineEntry], rfl, lineEntry, List.mem_cons_self, entryNamed_lineEntry⟩
  exact (frameNamed_iff_of_recognised recognised).mp (accepts.mp ⟨_, rfl⟩) lined

end Souk.Server.WsProvider

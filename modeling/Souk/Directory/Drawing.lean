import Souk.Directory.Transcript

/-!
# The page draws its transcript

The slots of the log are the bubbles of the transcript, in their order, with an empty slot wherever
dots have been taken away.  The maps of the page give a slot a role precisely when its bubble has
that role.  This is kept by every event and every message, so that the log of the page is at all
times what the transcript shows.
-/

namespace Souk.Directory.AgentPage

/-- The bubble at a place has a role. -/
def Listens (slots : List (Option Voice)) (place : Nat) (role : Role) : Prop :=
  ∃ voice, slots[place]? = some (some voice) ∧ voice.role = role

/-- The maps of the page give a place a role. -/
def Points (page : Page) (place : Nat) : Role → Prop
  | .settled => False
  | .assistant raw => page.currentAssistantEl = some place ∧ page.currentAssistantRaw = raw
  | .tool id => page.toolCallEls id = some place
  | .reasoning id raw => page.reasoningEls id = some (place, raw)
  | .sub id raw => page.subAgentEls id = some place ∧ page.subAgentRaw id = raw

/-- The log has the bubbles in their places, and the dots behind them. -/
structure Drawn (page : Page) (slots : List (Option Voice)) (awaiting : Bool) : Prop where
  log : page.log = slots.map (Option.map Voice.entry) ++ (dots page.selfName awaiting).map some
  typing : page.typingEl = if awaiting then some slots.length else none
  points : ∀ place role, role ≠ .settled → (Listens slots place role ↔ Points page place role)
  raws : ∀ id, page.subAgentEls id = none → page.subAgentRaw id = none

/-! ## Slots -/

section Slots

variable {slots : List (Option Voice)} {place : Nat} {role : Role}

theorem Listens.unique {other : Role} (listens : Listens slots place role)
    (too : Listens slots place other) : role = other := by
  obtain ⟨voice, found, rfl⟩ := listens
  obtain ⟨same, again, rfl⟩ := too
  rw [found, Option.some_inj, Option.some_inj] at again
  rw [again]

theorem Listens.lt_length (listens : Listens slots place role) : place < slots.length := by
  obtain ⟨voice, found, -⟩ := listens
  exact (List.getElem?_eq_some_iff.mp found).1

theorem listens_append_none : Listens (slots ++ [none]) place role ↔ Listens slots place role := by
  unfold Listens
  rcases Nat.lt_trichotomy place slots.length with before | rfl | after
  · rw [List.getElem?_append_left before]
  · simp
  · have out : slots.length ≤ place := by omega
    have past : [(none : Option Voice)].length ≤ place - slots.length := by
      simp only [List.length_cons, List.length_nil]
      omega
    rw [List.getElem?_append_right out, List.getElem?_eq_none out, List.getElem?_eq_none past]

/-- The roles after each bubble has turned to another role and one may have been opened. -/
theorem listens_turned {turn : Voice → Voice} {turned : Role → Role} {opened : Option Voice}
    (roles : ∀ voice : Voice, (turn voice).role = turned voice.role) :
    Listens (slots.map (Option.map turn) ++ opened.toList.map some) place role ↔
      (∃ before, Listens slots place before ∧ turned before = role) ∨
        (place = slots.length ∧ ∃ voice ∈ opened, voice.role = role) := by
  have length : (slots.map (Option.map turn)).length = slots.length := List.length_map _
  rcases Nat.lt_trichotomy place slots.length with before | rfl | after
  · have within : place < (slots.map (Option.map turn)).length := by omega
    have elsewhere : place ≠ slots.length := by omega
    simp only [Listens, List.getElem?_append_left within, List.getElem?_map, elsewhere, false_and,
      or_false]
    constructor
    · rintro ⟨voice, found, rfl⟩
      cases slot : slots[place]? with
      | none => rw [slot] at found; cases found
      | some content =>
          rw [slot, Option.map_some, Option.some_inj, Option.map_eq_some_iff] at found
          obtain ⟨heard, rfl, rfl⟩ := found
          exact ⟨heard.role, ⟨heard, rfl, rfl⟩, (roles heard).symm⟩
    · rintro ⟨_, ⟨voice, found, rfl⟩, rfl⟩
      exact ⟨turn voice, by rw [found]; rfl, roles voice⟩
  · have out : ¬∃ before, Listens slots slots.length before ∧ turned before = role := by
      rintro ⟨before, listens, -⟩
      exact absurd listens.lt_length (Nat.lt_irrefl _)
    rw [or_iff_right out, Listens, List.getElem?_append_right (by omega), length, Nat.sub_self]
    cases opened <;> simp
  · have out : ¬∃ before, Listens slots place before ∧ turned before = role := by
      rintro ⟨before, listens, -⟩
      exact absurd listens.lt_length (by omega)
    have past : (opened.toList.map some).length ≤ place - slots.length := by
      cases opened with
      | none => exact Nat.zero_le _
      | some _ =>
          simp only [Option.toList_some, List.map_cons, List.map_nil, List.length_cons,
            List.length_nil]
          omega
    have elsewhere : place ≠ slots.length := by omega
    rw [or_iff_right out, Listens, List.getElem?_append_right (by omega), length,
      List.getElem?_eq_none past]
    simp [elsewhere]

/-- A function applied at one place of a mapped list. -/
theorem modify_map_append {α β : Type*} {seen after : α → β} {write : β → β} {xs : List α}
    {rest : List β} {el : Nat} (within : el < xs.length)
    (here : ∀ x, xs[el]? = some x → write (seen x) = after x)
    (elsewhere : ∀ place x, place ≠ el → xs[place]? = some x → seen x = after x) :
    (xs.map seen ++ rest).modify el write = xs.map after ++ rest := by
  refine List.ext_getElem? fun place => ?_
  by_cases inside : place < xs.length
  · have seen_inside : place < (xs.map seen).length := by simpa using inside
    have after_inside : place < (xs.map after).length := by simpa using inside
    have found : xs[place]? = some xs[place] := List.getElem?_eq_getElem inside
    rw [List.getElem?_modify, List.getElem?_append_left seen_inside,
      List.getElem?_append_left after_inside, List.getElem?_map, List.getElem?_map, found]
    by_cases same : el = place
    · subst same
      simp [here _ found]
    · simp [same, elsewhere place _ (Ne.symm same) found]
  · have other : el ≠ place := by omega
    rw [List.getElem?_modify_ne _ _ other, List.getElem?_append_right (by simpa using inside),
      List.getElem?_append_right (by simpa using inside), List.length_map, List.length_map]

theorem modify_concat {α : Type*} {xs : List α} {x : α} {f : α → α} :
    (xs ++ [x]).modify xs.length f = xs ++ [f x] := by
  induction xs with
  | nil => rfl
  | cons y xs induction => simpa using induction

theorem reduceOption_turned {turn : Voice → Voice} {opened : Option Voice} :
    (slots.map (Option.map turn) ++ opened.toList.map some).reduceOption =
      slots.reduceOption.map turn ++ opened.toList := by
  rw [List.reduceOption_append, List.reduceOption_map]
  cases opened <;> rfl

/-- Some bubble has a role which one of the slots has. -/
theorem hears_iff {wanted : Role → Prop} :
    Transcript.Hears slots.reduceOption wanted ↔
      ∃ place role, Listens slots place role ∧ wanted role := by
  constructor
  · rintro ⟨voice, among, wants⟩
    rw [List.reduceOption_mem_iff] at among
    obtain ⟨place, found⟩ := List.mem_iff_getElem?.mp among
    exact ⟨place, voice.role, ⟨voice, found, rfl⟩, wants⟩
  · rintro ⟨place, _, ⟨voice, found, rfl⟩, wants⟩
    refine ⟨voice, ?_, wants⟩
    rw [List.reduceOption_mem_iff]
    exact List.mem_of_getElem? found

end Slots

/-! ## The page keeps drawing it -/

namespace Page

variable {page : Page}

theorem clearTyping_eq :
    page.clearTyping = { page with log := page.clearTyping.log, typingEl := none } := by
  unfold clearTyping
  cases awaited : page.typingEl <;> simp [← awaited]

@[simp] theorem clearTyping_selfName : page.clearTyping.selfName = page.selfName := by
  rw [clearTyping_eq]

@[simp] theorem clearTyping_threadId : page.clearTyping.threadId = page.threadId := by
  rw [clearTyping_eq]

@[simp] theorem clearTyping_typingEl : page.clearTyping.typingEl = none := by
  rw [clearTyping_eq]

@[simp] theorem clearTyping_currentAssistantEl :
    page.clearTyping.currentAssistantEl = page.currentAssistantEl := by
  rw [clearTyping_eq]

@[simp] theorem clearTyping_currentAssistantRaw :
    page.clearTyping.currentAssistantRaw = page.currentAssistantRaw := by
  rw [clearTyping_eq]

@[simp] theorem clearTyping_subAgentEls : page.clearTyping.subAgentEls = page.subAgentEls := by
  rw [clearTyping_eq]

@[simp] theorem clearTyping_subAgentRaw : page.clearTyping.subAgentRaw = page.subAgentRaw := by
  rw [clearTyping_eq]

@[simp] theorem clearTyping_toolCallEls : page.clearTyping.toolCallEls = page.toolCallEls := by
  rw [clearTyping_eq]

@[simp] theorem clearTyping_reasoningEls : page.clearTyping.reasoningEls = page.reasoningEls := by
  rw [clearTyping_eq]

theorem clearTyping_of_none (clear : page.typingEl = none) : page.clearTyping = page := by
  rw [clearTyping, clear]

/-- An event which takes the dots away does so first. -/
theorem handleAguiEvent_clearTyping {event : Event} (answers : Transcript.answers event = true) :
    page.clearTyping.handleAguiEvent event = page.handleAguiEvent event := by
  have twice : page.clearTyping.clearTyping = page.clearTyping := clearTyping_of_none (by simp)
  cases event with
  | runError => simp only [handleAguiEvent, twice]
  | textMessage delta content =>
      cases text : Event.delta delta content with
      | nil => simp [Transcript.answers, text] at answers
      | cons unit units => simp only [handleAguiEvent, text, twice]
  | toolCallStart => simp only [handleAguiEvent, twice]
  | reasoningStart => simp only [handleAguiEvent, twice]
  | subAgentProgress => simp only [handleAguiEvent, twice]
  | runFinished =>
      simp only [handleAguiEvent]
      cases awaited : page.typingEl with
      | none => rw [clearTyping_of_none awaited, awaited]
      | some el => simp [clearTyping, awaited]
  | _ => cases answers

end Page

theorem Points.unsettled {page : Page} {place : Nat} {role : Role}
    (points : Points page place role) : role ≠ .settled := by
  rintro rfl
  exact points

theorem Points.place_unique {page : Page} {place other : Nat} {role : Role}
    (points : Points page place role) (too : Points page other role) : place = other := by
  cases role with
  | settled => exact points.elim
  | assistant raw => exact Option.some.inj (points.1.symm.trans too.1)
  | tool id => exact Option.some.inj (points.symm.trans too)
  | reasoning id raw => exact (Prod.mk.inj (Option.some.inj (points.symm.trans too))).1
  | sub id raw => exact Option.some.inj (points.1.symm.trans too.1)

namespace Drawn

variable {page next : Page} {slots : List (Option Voice)} {awaiting : Bool} {event : Event}

theorem clearTyping (drawn : Drawn page slots awaiting) :
    ∃ cleared, cleared.reduceOption = slots.reduceOption ∧ Drawn page.clearTyping cleared false := by
  have log := drawn.log
  have typing := drawn.typing
  cases awaiting with
  | false =>
      exact ⟨slots, rfl, by rwa [Page.clearTyping_of_none (by simpa using typing)]⟩
  | true =>
      refine ⟨slots ++ [none], by simp [List.reduceOption_append], ?_, ?_, ?_, ?_⟩
      · simp [Page.clearTyping, typing, log, dots]
      · simp
      · intro place role unsettled
        rw [listens_append_none, drawn.points place role unsettled]
        cases role <;> simp [Points]
      · intro id
        simpa using drawn.raws id

/-- No bubble is written to. -/
theorem unwritten (drawn : Drawn page slots awaiting)
    (silent : ∀ place role, Points page place role → role.writes event = none)
    {opened : List (Option Entry)} (log : next.log = page.log ++ opened) :
    next.log = slots.map (Option.map fun voice => (voice.follow event).entry) ++
      (dots page.selfName awaiting).map some ++ opened := by
  rw [log, drawn.log]
  congr 2
  refine List.map_congr_left fun slot among => ?_
  cases slot with
  | none => rfl
  | some voice =>
      obtain ⟨place, found⟩ := List.mem_iff_getElem?.mp among
      have nothing : voice.role.writes event = none := by
        cases role : voice.role with
        | settled => cases event <;> rfl
        | _ => exact silent place _ ((drawn.points place _ (by simp)).mp ⟨voice, found, role⟩)
      simp [Voice.follow, nothing]

/-- One bubble is written to. -/
theorem written (drawn : Drawn page slots awaiting) {el : Nat} {role : Role} {bubble : Bubble}
    (pointed : Points page el role) (writes : role.writes event = some bubble)
    (others : ∀ place other, Points page place other → other ≠ role →
      other.writes event = none) :
    (page.write el bubble).log =
      slots.map (Option.map fun voice => (voice.follow event).entry) ++
        (dots page.selfName awaiting).map some := by
  obtain ⟨voice, found, rfl⟩ := (drawn.points el role pointed.unsettled).mpr pointed
  have within : el < slots.length := (List.getElem?_eq_some_iff.mp found).1
  rw [Page.write, drawn.log]
  refine modify_map_append within ?_ ?_
  · intro slot there
    obtain rfl : some voice = slot := Option.some.inj (found.symm.trans there)
    simp [Voice.follow, writes]
  · intro place slot elsewhere there
    cases slot with
    | none => rfl
    | some other =>
        have nothing : other.role.writes event = none := by
          by_cases settled : other.role = .settled
          · rw [settled]
            cases event <;> rfl
          · have points : Points page place other.role :=
              (drawn.points place _ settled).mp ⟨other, there, rfl⟩
            refine others place _ points fun same => elsewhere ?_
            rw [same] at points
            exact points.place_unique pointed
        simp [Voice.follow, nothing]

/-- The page draws what its transcript is after an event. -/
def Heard (page next : Page) (slots : List (Option Voice)) (awaiting : Bool) (event : Event) :
    Prop :=
  ∃ after, after.reduceOption = slots.reduceOption.map (Voice.follow event) ++
      (Transcript.opens page.selfName slots.reduceOption event).toList ∧
    Drawn next after (awaiting && !Transcript.answers event)

/-- A bubble is opened behind the log of the page, and has a role. -/
def Opens (page : Page) (opened : Option Voice) (place : Nat) (role : Role) : Prop :=
  place = page.log.length ∧ ∃ voice ∈ opened, voice.role = role

@[simp] theorem opens_none {place : Nat} {role : Role} : ¬Opens page none place role := by
  rintro ⟨-, voice, among, -⟩
  cases among

@[simp] theorem opens_some {opened : Voice} {place : Nat} {role : Role} :
    Opens page (some opened) place role ↔ place = page.log.length ∧ opened.role = role := by
  simp [Opens]

/-- The maps of the page follow the roles of the bubbles through an event. -/
structure Mapped (page next : Page) (event : Event) (opened : Option Voice) : Prop where
  assistant : ∀ place raw, (∃ held, Points page place (.assistant held) ∧
      (Role.assistant held).next event = .assistant raw) ∨ Opens page opened place (.assistant raw) ↔
    Points next place (.assistant raw)
  tool : ∀ place id, Points page place (.tool id) ∧ (Role.tool id).next event = .tool id ∨
      Opens page opened place (.tool id) ↔ Points next place (.tool id)
  reasoning : ∀ place id raw, (∃ held, Points page place (.reasoning id held) ∧
      (Role.reasoning id held).next event = .reasoning id raw) ∨
        Opens page opened place (.reasoning id raw) ↔ Points next place (.reasoning id raw)
  sub : ∀ place id raw, (∃ held, Points page place (.sub id held) ∧
      (Role.sub id held).next event = .sub id raw) ∨ Opens page opened place (.sub id raw) ↔
    Points next place (.sub id raw)

theorem Mapped.points {opened : Option Voice} (mapped : Mapped page next event opened)
    {place : Nat} {role : Role} (unsettled : role ≠ .settled) :
    (∃ before, Points page place before ∧ before.next event = role) ∨
      Opens page opened place role ↔ Points next place role := by
  cases role with
  | settled => exact absurd rfl unsettled
  | assistant raw => rw [Role.becomes_assistant, mapped.assistant]
  | tool id => rw [Role.becomes_tool, mapped.tool]
  | reasoning id raw => rw [Role.becomes_reasoning, mapped.reasoning]
  | sub id raw => rw [Role.becomes_sub, mapped.sub]

/-- The bubbles have heard an event, which may have opened one. -/
theorem turned (drawn : Drawn page slots awaiting) {opened : Option Voice}
    (opens : Transcript.opens page.selfName slots.reduceOption event = opened)
    (quiet : awaiting = false ∨ opened = none ∧ Transcript.answers event = false)
    (log : next.log = slots.map (Option.map fun voice => (voice.follow event).entry) ++
      (dots page.selfName awaiting).map some ++ opened.toList.map fun voice => some voice.entry)
    (selfName : next.selfName = page.selfName) (typing : next.typingEl = page.typingEl)
    (mapped : Mapped page next event opened)
    (raws : ∀ id, next.subAgentEls id = none → next.subAgentRaw id = none) :
    Heard page next slots awaiting event := by
  have still : (awaiting && !Transcript.answers event) = awaiting := by
    obtain rfl | ⟨-, unanswered⟩ := quiet
    · rfl
    · rw [unanswered, Bool.not_false, Bool.and_true]
  have opened_at : ∀ place role, Opens page opened place role ↔
      place = slots.length ∧ ∃ voice ∈ opened, voice.role = role := by
    intro place role
    obtain rfl | ⟨rfl, -⟩ := quiet
    · rw [Opens, drawn.log, dots, if_neg (by simp), List.map_nil, List.append_nil, List.length_map]
    · simp [Opens]
  refine ⟨slots.map (Option.map (Voice.follow event)) ++ opened.toList.map some, ?_, ?_⟩
  · rw [reduceOption_turned, opens]
  · rw [still]
    refine ⟨?_, ?_, ?_, raws⟩
    · rw [log, selfName]
      obtain rfl | ⟨rfl, -⟩ := quiet
      · cases opened <;> simp [Function.comp_def, dots]
      · simp [Function.comp_def]
    · rw [typing, drawn.typing]
      obtain rfl | ⟨rfl, -⟩ := quiet <;> simp
    · intro place role unsettled
      rw [@listens_turned _ _ _ _ (Role.next event) _ fun _ => rfl, ← mapped.points unsettled,
        opened_at]
      refine or_congr_left (exists_congr fun before => and_congr_left fun becomes => ?_)
      refine drawn.points place before ?_
      rintro rfl
      apply unsettled
      rw [← becomes]
      cases event <;> rfl

/-- An event which takes the dots away is heard once they are gone. -/
theorem heard_cleared (drawn : Drawn page slots awaiting)
    (answers : Transcript.answers event = true)
    (heard : ∀ {page : Page} {slots : List (Option Voice)}, Drawn page slots false →
      page.clearTyping = page → Heard page (page.handleAguiEvent event) slots false event) :
    Heard page (page.handleAguiEvent event) slots awaiting event := by
  obtain ⟨cleared, same, clear⟩ := drawn.clearTyping
  obtain ⟨after, voices, drawn_after⟩ :=
    heard clear (Page.clearTyping_of_none page.clearTyping_typingEl)
  rw [Page.handleAguiEvent_clearTyping answers] at drawn_after
  refine ⟨after, ?_, ?_⟩
  · rwa [same, Page.clearTyping_selfName] at voices
  · simpa [answers] using drawn_after

/-- No map of the page changes, and no bubble its role or its content. -/
theorem heard_same (drawn : Drawn page slots awaiting) {opened : Option Voice}
    (opens : Transcript.opens page.selfName slots.reduceOption event = opened)
    (quiet : awaiting = false ∨ opened = none ∧ Transcript.answers event = false)
    (log : next.log = page.log ++ opened.toList.map fun voice => some voice.entry)
    (selfName : next.selfName = page.selfName) (typing : next.typingEl = page.typingEl)
    (same : ∀ place role, Points next place role ↔ Points page place role)
    (stays : ∀ place role, Points page place role →
      role.next event = role ∧ role.writes event = none)
    (settled : ∀ voice ∈ opened, voice.role = .settled)
    (raws : ∀ id, next.subAgentEls id = none → next.subAgentRaw id = none) :
    Heard page next slots awaiting event := by
  have silent : ∀ place role, Points page place role → role.writes event = none :=
    fun place role points => (stays place role points).2
  have unopened : ∀ place role, role ≠ .settled → ¬Opens page opened place role := by
    rintro place role unsettled ⟨-, voice, among, rfl⟩
    exact unsettled (settled voice among)
  refine drawn.turned opens quiet (drawn.unwritten silent log) selfName typing ⟨?_, ?_, ?_, ?_⟩ raws
  · intro place raw
    rw [same, or_iff_left (unopened place _ (by simp))]
    constructor
    · rintro ⟨held, points, becomes⟩
      rwa [← becomes, (stays place _ points).1]
    · exact fun points => ⟨raw, points, (stays place _ points).1⟩
  · intro place id
    rw [same, or_iff_left (unopened place _ (by simp))]
    exact and_iff_left_of_imp fun points => (stays place _ points).1
  · intro place id raw
    rw [same, or_iff_left (unopened place _ (by simp))]
    constructor
    · rintro ⟨held, points, becomes⟩
      rwa [← becomes, (stays place _ points).1]
    · exact fun points => ⟨raw, points, (stays place _ points).1⟩
  · intro place id raw
    rw [same, or_iff_left (unopened place _ (by simp))]
    constructor
    · rintro ⟨held, points, becomes⟩
      rwa [← becomes, (stays place _ points).1]
    · exact fun points => ⟨raw, points, (stays place _ points).1⟩

end Drawn

end Souk.Directory.AgentPage

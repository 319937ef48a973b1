import Souk.AgentSdk.Queries
import Souk.Server.WsProvider

/-!
# Merging the stored history

A provider is handed what its caller sent for one run and asks souk for the last messages of the
thread.  The merge recognizes the overlap by message id and puts the stored messages in front, which
is the order of the conversation only while everything the caller resent is among them.
-/

namespace Souk.PydanticAiAgent

open Souk.Python
open Souk.AgentSdk (SoukQueryFailed)

/-- `souk.link.thread_messages(thread_id, limit=limit)`. -/
abbrev Link := Value → Int → Except SoukQueryFailed Value

/-- `{m.get("id") for m in history if m.get("id")}` -/
def seenIds : List Value → Except Raised (List Value)
  | [] => .ok []
  | message :: messages => do
      let id ← message.getAttr "id"
      if !id.truthy then seenIds messages
      else if id.hashable then return id :: (← seenIds messages)
      else throw .typeError

/-- `[m for m in messages if m.get("id") not in seen]` -/
def notStored (seen : List Value) : List Value → Except Raised (List Value)
  | [] => .ok []
  | message :: messages => do
      let id ← message.getAttr "id"
      if !id.hashable then throw .typeError
      let rest ← notStored seen messages
      return if id.memberOf seen then rest else message :: rest

/-- `with_thread_history`: the run input with the thread's own messages merged in. -/
def withThreadHistory (runInput : Dict) (souk : Option Link) (limit : Option Int) :
    Except Raised Dict := do
  let threadId := Dict.get runInput "threadId"
  match souk, limit with
  | some link, some limit =>
      if limit = 0 ∨ !threadId.truthy then return runInput
      match link threadId limit with
      | .error _ => return runInput
      | .ok history =>
          let messages ← history.iterate
          let seen ← seenIds messages
          let sent ← ((Dict.get runInput "messages").orElse (.list [])).iterate
          let tail ← notStored seen sent
          if !history.truthy then return runInput
          return Dict.set runInput "messages" (.list (messages ++ tail))
  | _, _ => return runInput

/-! ## Messages and their order -/

/-- A message with its id. -/
structure Message where
  fields : Dict
  id : Str
  hasId : Dict.get fields "id" = .str id

namespace Message

/-- The message on the wire. -/
def value (message : Message) : Value := .dict message.fields

@[simp]
theorem getAttr_id (message : Message) : message.value.getAttr "id" = .ok (.str message.id) := by
  rw [value, Value.getAttr, message.hasId]

@[simp]
theorem truthy_id (message : Message) : (Value.str message.id).truthy = decide (message.id ≠ []) :=
  rfl

end Message

/-- The ids by which stored messages are recognized. -/
def recognized (history : List Message) : List Str :=
  (history.map Message.id).filter fun id => id ≠ []

theorem seenIds_messages (history : List Message) :
    seenIds (history.map Message.value) = .ok ((recognized history).map Value.str) := by
  induction history with
  | nil => rfl
  | cons message messages induction =>
      rw [List.map_cons, seenIds, Message.getAttr_id]
      simp only [bind, Except.bind, Message.truthy_id, induction]
      by_cases empty : message.id = [] <;>
        simp [empty, recognized, Value.hashable, pure, Except.pure]

theorem str_memberOf {id : Str} {ids : List Str} :
    (Value.str id).memberOf (ids.map Value.str) = decide (id ∈ ids) := by
  rw [Value.memberOf, Bool.eq_iff_iff, List.any_eq_true, decide_eq_true_iff]
  constructor
  · rintro ⟨other, among, same⟩
    obtain rfl := (Value.same_str_iff other id).mp same
    obtain ⟨found, inIds, equal⟩ := List.mem_map.mp among
    exact Value.str.inj equal ▸ inIds
  · intro inIds
    exact ⟨.str id, List.mem_map_of_mem inIds, (Value.same_str_iff _ id).mpr rfl⟩

theorem notStored_messages (ids : List Str) (sent : List Message) :
    notStored (ids.map Value.str) (sent.map Message.value) =
      .ok ((sent.filter fun message => message.id ∉ ids).map Message.value) := by
  induction sent with
  | nil => rfl
  | cons message messages induction =>
      rw [List.map_cons, notStored, Message.getAttr_id]
      have hashable : (Value.str message.id).hashable = true := rfl
      simp only [bind, Except.bind, hashable, induction, str_memberOf]
      by_cases known : message.id ∈ ids <;> simp [known, pure, Except.pure]

theorem Message.value_injective : Function.Injective Message.value := by
  rintro ⟨fields, id, hasId⟩ ⟨other, otherId, otherHasId⟩ same
  obtain rfl : fields = other := Value.dict.inj same
  obtain rfl : id = otherId := Value.str.inj (hasId.symm.trans otherHasId)
  rfl

/-- The messages of the merge: the history, and then what was sent and is not recognized in it. -/
def merge (history sent : List Message) : List Message :=
  history ++ sent.filter fun message => message.id ∉ recognized history

/-- souk's answer to the query for the last messages of a thread. -/
def gatewayAnswer (thread : List Message) : Link := fun _ limit =>
  .ok (.list (Server.WsProvider.lastMessages (thread.map Message.value) (some limit.toNat)))

/-- The last `limit` messages of a thread. -/
def lastOf (thread : List Message) (limit : Int) : List Message :=
  thread.drop (thread.length - limit.toNat)

/-- A run input with these messages, merged with what souk answers. -/
theorem withThreadHistory_merge {runInput : Dict} {thread sent : List Message} {limit : Int}
    (positive : 1 ≤ limit) (asked : (Dict.get runInput "threadId").truthy = true)
    (given : Dict.get runInput "messages" = .list (sent.map Message.value)) :
    ∃ merged, withThreadHistory runInput (some (gatewayAnswer thread)) (some limit) = .ok merged ∧
      Dict.get merged "messages" =
        .list ((merge (lastOf thread limit) sent).map Message.value) := by
  have answered : gatewayAnswer thread (Dict.get runInput "threadId") limit =
      .ok (.list ((lastOf thread limit).map Message.value)) := by
    simp [gatewayAnswer, Server.WsProvider.lastMessages, lastOf, List.map_drop]
  have sentItems : ((Dict.get runInput "messages").orElse (.list [])).iterate =
      .ok (sent.map Message.value) := by
    rw [given]
    cases sent <;> rfl
  have nonzero : limit ≠ 0 := by omega
  have historyItems : (Value.list ((lastOf thread limit).map Message.value)).iterate =
      .ok ((lastOf thread limit).map Message.value) := rfl
  have tail := notStored_messages (recognized (lastOf thread limit)) sent
  unfold withThreadHistory
  simp only [nonzero, asked, answered, sentItems, historyItems, seenIds_messages, tail, bind,
    Except.bind, pure, Except.pure, Bool.not_true, Bool.false_eq_true, or_self, if_false]
  cases stored : lastOf thread limit with
  | nil => exact ⟨runInput, rfl, by simp [merge, recognized, given]⟩
  | cons first rest =>
      refine ⟨_, rfl, ?_⟩
      rw [Dict.get, Dict.lookup_set_self, Option.getD_some, ← List.map_append]
      rfl

/-- What the merge is for: nothing twice, nothing lost, and the order of the conversation. -/
structure KeepsConversation (thread history sent unstored messages : List Message) : Prop where
  once : (messages.map Message.id).Nodup
  sent : ∀ message ∈ sent, message ∈ messages
  history : ∀ message ∈ history, message ∈ messages
  ordered : messages.Sublist (thread ++ unstored)

/-- Every stored message which was sent is recognized in the history, and no other is sent twice. -/
def Recognizable (history resent unstored : List Message) : Prop :=
  (∀ message ∈ resent, message ∈ history ∧ message.id ≠ []) ∧
    (unstored.map Message.id).Nodup

section Merging

variable {thread history early resent unstored : List Message}

theorem mem_recognized {history : List Message} {id : Str} :
    id ∈ recognized history ↔ id ∈ history.map Message.id ∧ id ≠ [] := by
  simp [recognized]

/-- What was sent and is not recognized in the history. -/
def unrecognized (history sent : List Message) : List Message :=
  sent.filter fun message => message.id ∉ recognized history

/-- Messages which the thread does not hold are not recognized, and come last. -/
theorem merge_append (fresh : ∀ message ∈ unstored, message.id ∉ history.map Message.id) :
    merge history (resent ++ unstored) = history ++ unrecognized history resent ++ unstored := by
  have kept : (unstored.filter fun message => message.id ∉ recognized history) = unstored := by
    rw [List.filter_eq_self]
    intro message among
    simpa using fun known => absurd (mem_recognized.mp known).1 (fresh message among)
  rw [merge, List.filter_append, kept, unrecognized, List.append_assoc]

/-- Where everything resent is recognized, the merge is the history and what is not stored. -/
theorem merge_of_recognizable (fresh : ∀ message ∈ unstored, message.id ∉ history.map Message.id)
    (recognizable : ∀ message ∈ resent, message ∈ history ∧ message.id ≠ []) :
    merge history (resent ++ unstored) = history ++ unstored := by
  have nothing : unrecognized history resent = [] := by
    rw [unrecognized, List.filter_eq_nil_iff]
    intro message among
    have known := mem_recognized.mpr
      ⟨List.mem_map_of_mem (recognizable message among).1, (recognizable message among).2⟩
    simpa using known
  rw [merge_append fresh, nothing, List.append_nil]

/-- A thread does not hold at its end what it does not hold. -/
theorem fresh_history
    (fresh : ∀ message ∈ unstored, message.id ∉ (early ++ history).map Message.id) :
    ∀ message ∈ unstored, message.id ∉ history.map Message.id := by
  intro message among known
  apply fresh message among
  rw [List.map_append]
  exact List.mem_append_right _ known

/-- A message of a thread whose id the end of the thread has is in the end. -/
theorem mem_of_id_mem (distinct : ((early ++ history).map Message.id).Nodup) {message : Message}
    (stored : message ∈ early ++ history) (known : message.id ∈ history.map Message.id) :
    message ∈ history := by
  obtain ⟨other, among, same⟩ := List.mem_map.mp known
  have equal := List.inj_on_of_nodup_map distinct (List.mem_append_right early among) stored same
  exact equal ▸ among

/-- A message resent from before the history would stand after it in the merge, out of order. -/
theorem resent_mem_history (distinct : ((early ++ history).map Message.id).Nodup)
    (nonempty : history ≠ []) (subsequence : resent.Sublist (early ++ history))
    (fresh : ∀ message ∈ unstored, message.id ∉ (early ++ history).map Message.id)
    (ordered : (merge history (resent ++ unstored)).Sublist (early ++ history ++ unstored)) :
    ∀ message ∈ resent, message ∈ history := by
  intro message among
  by_contra older
  have message_late : message ∈ unrecognized history resent := by
    refine List.mem_filter.mpr ⟨among, ?_⟩
    simpa using fun known => older
      (mem_of_id_mem distinct (subsequence.subset among) (mem_recognized.mp known).1)
  -- Without the messages which are not stored, the merge is a subsequence of the thread.
  have stored : (history ++ unrecognized history resent).Sublist (early ++ history) := by
    have all : ∀ messages ⊆ early ++ history,
        (messages.filter fun message => message.id ∈ (early ++ history).map Message.id) =
          messages := by
      intro messages inside
      rw [List.filter_eq_self]
      intro other other_mem
      exact decide_eq_true (List.mem_map_of_mem (inside other_mem))
    have none : (unstored.filter fun message =>
        message.id ∈ (early ++ history).map Message.id) = [] := by
      rw [List.filter_eq_nil_iff]
      intro other other_mem
      simpa using fresh other other_mem
    have resent_stored : history ++ unrecognized history resent ⊆ early ++ history :=
      List.append_subset.mpr ⟨List.subset_append_right _ _,
        (List.filter_sublist.trans subsequence).subset⟩
    rw [merge_append (fresh_history fresh)] at ordered
    have kept := ordered.filter fun message => message.id ∈ (early ++ history).map Message.id
    rwa [List.filter_append, List.filter_append _ unstored, none, List.append_nil, List.append_nil,
      all _ resent_stored, all _ (List.Subset.refl _)] at kept
  obtain ⟨front, back, split, front_early, back_history⟩ := List.sublist_append_iff.mp stored
  rcases List.append_eq_append_iff.mp split with ⟨more, rfl, _⟩ | ⟨more, _, rfl⟩
  · obtain ⟨first, first_mem⟩ := List.exists_mem_of_ne_nil history nonempty
    have twice := (List.nodup_append.mp (distinct.of_map _)).2.2
    exact twice first (front_early.subset (List.mem_append_left _ first_mem)) first first_mem rfl
  · exact older (back_history.subset (List.mem_append_right _ message_late))

/-- The merge keeps the conversation precisely when everything resent is recognized. -/
theorem merge_keeps_iff (distinct : ((early ++ history).map Message.id).Nodup)
    (nonempty : early ≠ [] → history ≠ []) (subsequence : resent.Sublist (early ++ history))
    (fresh : ∀ message ∈ unstored, message.id ∉ (early ++ history).map Message.id) :
    KeepsConversation (early ++ history) history (resent ++ unstored) unstored
        (merge history (resent ++ unstored)) ↔ Recognizable history resent unstored := by
  constructor
  · intro keeps
    have once := keeps.once
    rw [merge_append (fresh_history fresh), List.map_append, List.map_append] at once
    obtain ⟨stored_once, unstored_once, _⟩ := List.nodup_append.mp once
    refine ⟨fun message among => ?_, unstored_once⟩
    have stored := subsequence.subset among
    have in_history : message ∈ history := by
      by_cases empty : history = []
      · have nothing : early = [] := by
          by_contra some_early
          exact nonempty some_early empty
        simp [empty, nothing] at stored
      · exact resent_mem_history distinct empty subsequence fresh keeps.ordered message among
    refine ⟨in_history, fun nameless => ?_⟩
    have again : message ∈ unrecognized history resent := by
      refine List.mem_filter.mpr ⟨among, ?_⟩
      simpa using fun known => (mem_recognized.mp known).2 nameless
    exact (List.nodup_append.mp stored_once).2.2 _ (List.mem_map_of_mem in_history) _
      (List.mem_map_of_mem again) rfl
  · rintro ⟨recognizable, once⟩
    rw [merge_of_recognizable (fresh_history fresh) recognizable]
    have end_distinct := (List.nodup_append.mp (List.map_append ▸ distinct)).2.1
    refine ⟨?_, ?_, ?_, ?_⟩
    · rw [List.map_append, List.nodup_append]
      refine ⟨end_distinct, once, ?_⟩
      rintro id stored other unstored_id rfl
      obtain ⟨message, among, rfl⟩ := List.mem_map.mp unstored_id
      exact fresh_history fresh message among stored
    · intro message sent
      refine (List.mem_append.mp sent).elim (fun old => ?_) (List.mem_append_right _)
      exact List.mem_append_left _ (recognizable message old).1
    · exact fun message among => List.mem_append_left _ among
    · exact (List.sublist_append_right early history).append (List.Sublist.refl unstored)

end Merging

/-- `with_thread_history` keeps the conversation of a thread, asked for its last messages on a run
input which resends some of the thread and adds messages it does not hold, precisely when everything
resent is recognized among those last messages. -/
theorem withThreadHistory_keeps_iff {runInput : Dict} {thread resent unstored : List Message}
    {limit : Int} (positive : 1 ≤ limit)
    (asked : (Dict.get runInput "threadId").truthy = true)
    (given : Dict.get runInput "messages" = .list ((resent ++ unstored).map Message.value))
    (distinct : (thread.map Message.id).Nodup) (subsequence : resent.Sublist thread)
    (fresh : ∀ message ∈ unstored, message.id ∉ thread.map Message.id) :
    (∃ merged messages,
      withThreadHistory runInput (some (gatewayAnswer thread)) (some limit) = .ok merged ∧
        Dict.get merged "messages" = .list (messages.map Message.value) ∧
        KeepsConversation thread (lastOf thread limit) (resent ++ unstored) unstored messages) ↔
      Recognizable (lastOf thread limit) resent unstored := by
  have split : thread = thread.take (thread.length - limit.toNat) ++ lastOf thread limit :=
    (List.take_append_drop _ _).symm
  have nonempty : thread.take (thread.length - limit.toNat) ≠ [] → lastOf thread limit ≠ [] := by
    intro some_early
    have older : thread ≠ [] := by
      rintro rfl
      simp at some_early
    have length_pos := List.length_pos_of_ne_nil older
    rw [lastOf, Ne, List.drop_eq_nil_iff]
    omega
  obtain ⟨merged, returned, messages⟩ :=
    @withThreadHistory_merge runInput thread _ limit positive asked given
  have exact_merge := merge_keeps_iff (split ▸ distinct) nonempty (split ▸ subsequence)
    (split ▸ fresh)
  rw [← split] at exact_merge
  rw [← exact_merge]
  constructor
  · rintro ⟨other, kept, same, shown, keeps⟩
    obtain rfl := Except.ok.inj (returned.symm.trans same)
    have equal := Value.list.inj (shown.symm.trans messages)
    exact Message.value_injective.list_map equal ▸ keeps
  · exact fun keeps => ⟨merged, _, returned, messages, keeps⟩

/-- A message with this id. -/
def messageOf (id : Str) : Message := ⟨[("id", .str id)], id, rfl⟩

/-- A thread of two messages. -/
def shortThread : List Message := [messageOf "a", messageOf "b"]

/-- A run input which resends these messages of the thread. -/
def resending (sent : List Message) : Dict :=
  [("threadId", .str "t"), ("messages", .list (sent.map Message.value))]

theorem shortThread_ids : shortThread.map Message.id = [str "a", str "b"] := rfl

/-- The last message of the thread is resent, with one the thread does not hold yet. -/
theorem resending_last_keeps_iff :
    (∃ merged messages,
      withThreadHistory (resending ([messageOf "b"] ++ [messageOf "c"]))
          (some (gatewayAnswer shortThread)) (some 1) = .ok merged ∧
        Dict.get merged "messages" = .list (messages.map Message.value) ∧
        KeepsConversation shortThread (lastOf shortThread 1) ([messageOf "b"] ++ [messageOf "c"])
          [messageOf "c"] messages) ↔
      Recognizable (lastOf shortThread 1) [messageOf "b"] [messageOf "c"] :=
  have unheld : ∀ message ∈ [messageOf "c"], message.id ∉ shortThread.map Message.id := by
    rw [shortThread_ids]
    exact List.forall_mem_singleton.mpr (by decide)
  withThreadHistory_keeps_iff (by decide) rfl rfl (by rw [shortThread_ids]; decide)
    (List.Sublist.cons _ (List.Sublist.refl _)) unheld

/-- A message resent from before the history comes after it, where the agent answers it. -/
theorem resending_first_scrambles :
    ¬∃ merged messages,
      withThreadHistory (resending [messageOf "a"]) (some (gatewayAnswer shortThread))
          (some 1) = .ok merged ∧
        Dict.get merged "messages" = .list (messages.map Message.value) ∧
        KeepsConversation shortThread (lastOf shortThread 1) [messageOf "a"] [] messages := by
  rintro ⟨merged, messages, returned, shown, keeps⟩
  have scrambled : withThreadHistory (resending [messageOf "a"]) (some (gatewayAnswer shortThread))
      (some 1) = .ok [("threadId", .str "t"),
        ("messages", .list ([messageOf "b", messageOf "a"].map Message.value))] := rfl
  obtain rfl := Except.ok.inj (scrambled.symm.trans returned)
  obtain rfl : [messageOf "b", messageOf "a"] = messages :=
    Message.value_injective.list_map (Value.list.inj shown)
  have ordered : [str "b", str "a"].Sublist [str "a", str "b"] := keeps.ordered.map Message.id
  revert ordered
  decide

end Souk.PydanticAiAgent

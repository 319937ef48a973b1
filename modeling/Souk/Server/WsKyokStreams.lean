import Souk.Server.WsKyok

/-!
# Answers reach the completion they were accepted for

The invariant of one `/ws/kyok` connection.  Everything queued under a request id is, in order,
the payloads its stream has yielded, at most one terminal item it has taken, and what still waits
on its queue.  Every step keeps it, so it holds after any interleaving of completions, inbound
frames, consumers and the teardown.
-/

namespace Souk.Server.WsKyok

open Souk.Python

variable {Chunk : Type}

/-- Everything queued under one request id, in order. -/
def queuedUnder (queued : List (Str × Answer)) (requestId : Str) : List Answer :=
  queued.filterMap fun entry => if entry.1 = requestId then some entry.2 else none

@[simp]
theorem queuedUnder_append (early late : List (Str × Answer)) (requestId : Str) :
    queuedUnder (early ++ late) requestId =
      queuedUnder early requestId ++ queuedUnder late requestId := by
  simp [queuedUnder]

@[simp]
theorem queuedUnder_self (requestId : Str) (item : Answer) :
    queuedUnder [(requestId, item)] requestId = [item] := by
  simp [queuedUnder]

theorem queuedUnder_other {requestId other : Str} (different : requestId ≠ other)
    (item : Answer) : queuedUnder [(requestId, item)] other = [] := by
  simp [queuedUnder, different]

theorem queuedUnder_fresh {queued : List (Str × Answer)} {requestId : Str}
    (fresh : ∀ entry ∈ queued, entry.1 ≠ requestId) : queuedUnder queued requestId = [] := by
  rw [queuedUnder, List.filterMap_eq_nil_iff]
  intro entry entry_mem
  simp [fresh entry entry_mem]

/-- What a stream in a given phase has taken from its queue besides chunks. -/
def TakenIn : StreamPhase → List Answer → Prop
  | .created, taken | .waiting, taken | .suspended, taken => taken = []
  | .returned, taken => taken = [.done]
  | .raised _, _ | .closed, _ => True

/-- A stream accounts for everything queued under its request id. -/
def Accounted (validate : Dict → Option Chunk) (queued : List (Str × Answer))
    (stream : AnswerStream Chunk) : Prop :=
  ∃ (payloads : List Dict) (taken : List Answer),
    queuedUnder queued stream.requestId = payloads.map .chunk ++ taken ++ stream.queue ∧
      payloads.map validate = stream.yielded.map some ∧ TakenIn stream.phase taken

/-- A phase change which takes nothing from the queue. -/
theorem Accounted.rephase {validate : Dict → Option Chunk} {queued : List (Str × Answer)}
    {stream : AnswerStream Chunk} (accounted : Accounted validate queued stream)
    {phase : StreamPhase} (allowed : ∀ taken, TakenIn stream.phase taken → TakenIn phase taken) :
    Accounted validate queued { stream with phase } := by
  obtain ⟨payloads, taken, history, validated, now⟩ := accounted
  exact ⟨payloads, taken, history, validated, allowed taken now⟩

/-- A waiting stream takes an item which ends it. -/
theorem Accounted.takeLast {validate : Dict → Option Chunk} {queued : List (Str × Answer)}
    {stream : AnswerStream Chunk} {item : Answer} {rest : List Answer} {phase : StreamPhase}
    (accounted : Accounted validate queued stream) (waiting : stream.phase = .waiting)
    (queue_eq : stream.queue = item :: rest) (allowed : TakenIn phase [item]) :
    Accounted validate queued { stream with queue := rest, phase } := by
  obtain ⟨payloads, taken, history, validated, now⟩ := accounted
  obtain rfl : taken = [] := by simpa [waiting, TakenIn] using now
  refine ⟨payloads, [item], ?_, validated, allowed⟩
  simpa [queue_eq] using history

/-- A waiting stream takes a chunk which validates, and yields it. -/
theorem Accounted.takeChunk {validate : Dict → Option Chunk} {queued : List (Str × Answer)}
    {stream : AnswerStream Chunk} {data : Dict} {rest : List Answer} {chunk : Chunk}
    (accounted : Accounted validate queued stream) (waiting : stream.phase = .waiting)
    (queue_eq : stream.queue = .chunk data :: rest) (valid : validate data = some chunk) :
    Accounted validate queued
      { stream with queue := rest, yielded := stream.yielded ++ [chunk], phase := .suspended } := by
  obtain ⟨payloads, taken, history, validated, now⟩ := accounted
  obtain rfl : taken = [] := by simpa [waiting, TakenIn] using now
  refine ⟨payloads ++ [data], [], ?_, ?_, rfl⟩
  · simpa [queue_eq] using history
  · simp [validated, valid]

/-- The invariant of a connection. -/
structure Invariant (validate : Dict → Option Chunk) (connection : Connection Chunk) : Prop where
  distinct : (connection.streams.map AnswerStream.requestId).Nodup
  table : ∀ requestId index, connection.answers.lookup requestId = some index →
    (connection.streams.map AnswerStream.requestId)[index]? = some requestId
  issued : ∀ entry ∈ connection.queued,
    entry.1 ∈ connection.streams.map AnswerStream.requestId
  accounted : ∀ stream ∈ connection.streams, Accounted validate connection.queued stream

namespace Connection

@[simp]
theorem put_requestIds (connection : Connection Chunk) (requestId : Str) (index : Nat)
    (item : Answer) :
    (connection.put requestId index item).streams.map AnswerStream.requestId =
      connection.streams.map AnswerStream.requestId := by
  apply List.ext_getElem?
  intro position
  simp only [put, List.getElem?_map, List.getElem?_modify]
  by_cases here : index = position
  · subst here
    cases connection.streams[index]? <;> simp
  · simp [here]

end Connection

namespace Invariant

variable {validate : Dict → Option Chunk} {connection : Connection Chunk}

theorem send (invariant : Invariant validate connection) (frame : OutboundFrame) :
    Invariant validate (connection.send frame) :=
  ⟨invariant.distinct, invariant.table, invariant.issued, invariant.accounted⟩

/-- Two streams of a connection with one request id are one stream. -/
theorem index_unique (invariant : Invariant validate connection) {left right : Nat}
    {requestId : Str}
    (left_id : (connection.streams.map AnswerStream.requestId)[left]? = some requestId)
    (right_id : (connection.streams.map AnswerStream.requestId)[right]? = some requestId) :
    left = right := by
  obtain ⟨left_lt, _⟩ := List.getElem?_eq_some_iff.mp left_id
  exact (List.getElem?_inj left_lt invariant.distinct).mp (left_id.trans right_id.symm)

/-- Queueing an item on the stream of its own request id. -/
theorem put (invariant : Invariant validate connection) {requestId : Str} {index : Nat}
    (own : (connection.streams.map AnswerStream.requestId)[index]? = some requestId)
    (item : Answer) : Invariant validate (connection.put requestId index item) where
  distinct := by simpa using invariant.distinct
  table := by
    intro other position found
    rw [Connection.put_requestIds]
    exact invariant.table other position found
  issued := by
    intro entry entry_mem
    rw [Connection.put_requestIds]
    rcases List.mem_append.mp entry_mem with old | new
    · exact invariant.issued entry old
    · obtain rfl : entry = (requestId, item) := by simpa using new
      exact List.mem_of_getElem? own
  accounted := by
    intro stream stream_mem
    obtain ⟨position, found⟩ := List.mem_iff_getElem?.mp stream_mem
    simp only [Connection.put, List.getElem?_modify] at found
    by_cases here : index = position
    · subst here
      simp only [if_true, Option.map_eq_map, Option.map_eq_some_iff] at found
      obtain ⟨before, before_at, rfl⟩ := found
      obtain ⟨payloads, taken, history, validated, phase⟩ :=
        invariant.accounted before (List.mem_of_getElem? before_at)
      have before_id : before.requestId = requestId := by
        simpa [before_at] using own
      refine ⟨payloads, taken, ?_, validated, phase⟩
      simp only [Connection.put, queuedUnder_append, before_id, queuedUnder_self]
      rw [← before_id, history]
      simp [List.append_assoc]
    · have unchanged : connection.streams[position]? = some stream := by
        simpa [here] using found
      have different : requestId ≠ stream.requestId := by
        intro same
        apply here
        apply invariant.index_unique own
        simp [unchanged, same]
      obtain ⟨payloads, taken, history, validated, phase⟩ :=
        invariant.accounted stream (List.mem_of_getElem? unchanged)
      refine ⟨payloads, taken, ?_, validated, phase⟩
      simpa [Connection.put, queuedUnder_other different] using history

/-- Replacing a stream by a later state of itself. -/
theorem setStream (invariant : Invariant validate connection) {index : Nat}
    {before after : AnswerStream Chunk} (found : connection.streams[index]? = some before)
    (same_id : after.requestId = before.requestId)
    (accounted : Accounted validate connection.queued after) :
    Invariant validate (connection.setStream index after) := by
  have same_ids : (connection.setStream index after).streams.map AnswerStream.requestId =
      connection.streams.map AnswerStream.requestId := by
    obtain ⟨index_lt, value⟩ := List.getElem?_eq_some_iff.mp found
    have bound : index < (connection.streams.map AnswerStream.requestId).length := by
      simpa using index_lt
    have own : (connection.streams.map AnswerStream.requestId)[index] = before.requestId := by
      rw [List.getElem_map, value]
    rw [Connection.setStream, List.map_set, same_id, ← own, List.set_getElem_self]
  refine ⟨same_ids ▸ invariant.distinct, ?_, ?_, ?_⟩
  · rw [same_ids]
    exact invariant.table
  · rw [same_ids]
    exact invariant.issued
  · intro stream stream_mem
    rcases List.mem_or_eq_of_mem_set stream_mem with old | rfl
    · exact invariant.accounted stream old
    · exact accounted

/-- Dropping entries of the table. -/
theorem dropEntries (invariant : Invariant validate connection)
    {answers : AList fun _ : Str => Nat}
    (kept : ∀ requestId index, answers.lookup requestId = some index →
      connection.answers.lookup requestId = some index) :
    Invariant validate { connection with answers } :=
  ⟨invariant.distinct, fun requestId index found =>
    invariant.table requestId index (kept requestId index found),
    invariant.issued, invariant.accounted⟩

theorem endStream (invariant : Invariant validate connection) {index : Nat}
    {before after : AnswerStream Chunk} {phase : StreamPhase}
    (found : connection.streams[index]? = some before)
    (same_id : after.requestId = before.requestId)
    (accounted : Accounted validate connection.queued { after with phase }) :
    Invariant validate (connection.endStream index after phase) := by
  have replaced : Invariant validate (connection.setStream index { after with phase }) :=
    invariant.setStream found same_id accounted
  refine replaced.dropEntries ?_
  intro requestId position kept
  have different : requestId ≠ after.requestId := by
    rintro rfl
    rw [AList.lookup_erase] at kept
    cases kept
  rwa [AList.lookup_erase_ne different] at kept

theorem complete (invariant : Invariant validate connection) {requestId : Str}
    (fresh : requestId ∉ connection.streams.map AnswerStream.requestId) (request : Dict) :
    Invariant validate (connection.complete requestId request) where
  distinct := by
    simpa [Connection.complete, List.nodup_append] using
      ⟨invariant.distinct, fun stream stream_mem same =>
        fresh (List.mem_map.mpr ⟨stream, stream_mem, same⟩)⟩
  table := by
    intro other index found
    simp only [Connection.complete, List.map_append]
    by_cases same : other = requestId
    · subst same
      obtain rfl : connection.streams.length = index := by
        simpa [Connection.complete] using found
      simp
    · have old : connection.answers.lookup other = some index := by
        rwa [Connection.complete, AList.lookup_insert_ne same] at found
      have old_id := invariant.table other index old
      rw [List.getElem?_append_left (List.getElem?_eq_some_iff.mp old_id).1]
      exact old_id
  issued := by
    intro entry entry_mem
    rw [Connection.complete, List.map_append]
    exact List.mem_append_left _ (invariant.issued entry entry_mem)
  accounted := by
    intro stream stream_mem
    rcases List.mem_append.mp stream_mem with old | new
    · exact invariant.accounted stream old
    · obtain rfl := List.mem_singleton.mp new
      have nothing_queued : queuedUnder connection.queued requestId = [] :=
        queuedUnder_fresh fun entry entry_mem same => fresh (same ▸ invariant.issued entry entry_mem)
      exact ⟨[], [], by simp [Connection.complete, nothing_queued], rfl, rfl⟩

theorem failPending (invariant : Invariant validate connection) :
    Invariant validate connection.failPending := by
  have folded : ∀ (entries : List (Sigma fun _ : Str => Nat)) (state : Connection Chunk),
      Invariant validate state →
      (∀ entry ∈ entries,
        (state.streams.map AnswerStream.requestId)[entry.2]? = some entry.1) →
      Invariant validate (entries.foldl
        (fun state entry => state.put entry.1 entry.2 (.failure .disconnected)) state) := by
    intro entries
    induction entries with
    | nil => exact fun _ kept _ => kept
    | cons entry entries induction =>
        intro state kept own
        refine induction _ (kept.put (own entry List.mem_cons_self) _) fun later later_mem => ?_
        rw [Connection.put_requestIds]
        exact own later (List.mem_cons_of_mem _ later_mem)
  refine (folded connection.answers.entries connection invariant ?_).dropEntries ?_
  · intro entry entry_mem
    exact invariant.table entry.1 entry.2 (AList.mem_lookup_iff.mpr entry_mem)
  · intro requestId index found
    simp at found

theorem teardown (invariant : Invariant validate connection) :
    Invariant validate connection.teardown :=
  ⟨invariant.failPending.distinct, invariant.failPending.table, invariant.failPending.issued,
    invariant.failPending.accounted⟩

theorem takeItem (invariant : Invariant validate connection) {index : Nat}
    {stream : AnswerStream Chunk} {item : Answer} {rest : List Answer}
    (found : connection.streams[index]? = some stream) (waiting : stream.phase = .waiting)
    (queue_eq : stream.queue = item :: rest) :
    Invariant validate
      (connection.takeItem validate index { stream with queue := rest } item) := by
  have accounted := invariant.accounted stream (List.mem_of_getElem? found)
  cases item with
  | done => exact invariant.endStream found rfl (accounted.takeLast waiting queue_eq rfl)
  | failure error =>
      exact invariant.endStream found rfl (accounted.takeLast waiting queue_eq trivial)
  | chunk data =>
      simp only [Connection.takeItem]
      split
      · rename_i chunk valid
        exact invariant.setStream found rfl (accounted.takeChunk waiting queue_eq valid)
      · exact invariant.endStream found rfl (accounted.takeLast waiting queue_eq trivial)

theorem opened (funduqPublicKey answer : Str) :
    Invariant validate (Connection.opened funduqPublicKey answer) :=
  ⟨List.nodup_nil, by simp [Connection.opened], by simp [Connection.opened],
    by simp [Connection.opened]⟩

/-- Every step of a connection keeps the invariant. -/
theorem step (invariant : Invariant validate connection) {limits : Json.Limits} {action : Action}
    {next : Connection Chunk}
    (taken : (machine validate limits).step connection action = some next) :
    Invariant validate next := by
  cases moves_of_step taken with
  | completed fresh request => exact invariant.complete fresh request
  | torn => exact invariant.teardown
  | ignored => exact invariant
  | replied frame => exact invariant.send frame
  | fed _ _ _ _ _ _ found => exact invariant.put (invariant.table _ _ found) _
  | @resumed _ stream found idle =>
      have accounted := invariant.accounted stream (List.mem_of_getElem? found)
      refine invariant.setStream found rfl (accounted.rephase fun taken now => ?_)
      rcases idle with phase_eq | phase_eq <;> simpa [phase_eq, TakenIn] using now
  | took found waiting queue_eq => exact invariant.takeItem found waiting queue_eq
  | @raised _ _ stream found | @closed _ stream found =>
      have accounted := invariant.accounted stream (List.mem_of_getElem? found)
      exact invariant.endStream found rfl (accounted.rephase fun _ _ => trivial)
  | @dropped _ stream found =>
      have accounted := invariant.accounted stream (List.mem_of_getElem? found)
      exact invariant.setStream found rfl (accounted.rephase fun _ _ => trivial)

/-- The invariant holds at the end of every run from an open connection. -/
theorem run {limits : Json.Limits} {actions : List Action} {final : Connection Chunk}
    {funduqPublicKey answer : Str}
    (execution : (machine validate limits).run (.opened funduqPublicKey answer) actions =
      some final) :
    Invariant validate final :=
  Machine.run_invariant (fun kept taken => kept.step taken) (opened funduqPublicKey answer)
    execution

end Invariant
end Souk.Server.WsKyok

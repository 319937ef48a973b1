import Souk.Library.Records
import Souk.PodProbeAgent.Run

/-!
# The streams of a pod probe

On a connection which carries every run id once, the frames written for a run are its `ack`, its
events and its `finish`, in this order: what stands on the wire and what the goroutine has left to
write make up the stream of the run at all times.
-/

namespace Souk.PodProbeAgent

open Souk.Python

/-- The frames written for a run id. -/
def framesOf (runId : Str) (wire : List ProbeFrame) : List ProbeFrame :=
  wire.filter fun frame => frame.runId? = some runId

/-- The seven frames which the provider protocol asks for under a run with this answer. -/
def stream (run : RunFrame) (text : Str) : List ProbeFrame :=
  [.ack run.runId,
    .event run.runId (.runStarted run.threadId run.runId),
    .event run.runId (.textMessageStart (run.runId ++ str "-msg")),
    .event run.runId (.textMessageContent (run.runId ++ str "-msg") text),
    .event run.runId (.textMessageEnd (run.runId ++ str "-msg")),
    .event run.runId (.runFinished run.threadId run.runId),
    .finish run.runId]

/-- What the read loop and the goroutine write between them is the stream. -/
theorem stream_eq (run : RunFrame) (text : Str) :
    stream run text = .ack run.runId :: startedFrame run :: answerFrames run text := rfl

/-- The run id of a run frame, well-formed or not. -/
def Inbound.offeredId : Inbound → Option Str
  | .run offered => some offered.runId
  | .badRun runId => some runId
  | .unparseable | .cancel _ | .ignored => none

/-- The run id of the run frame which is received, accepted or not. -/
def offeredId : ProbeAction → Option Str
  | .receive message | .ackFails message => (inbound message).offeredId
  | .start | .readFails _ | .advance _ | .answer _ _ => none

/-- The frames are those which a goroutine has written where it stands. -/
def Goroutine.HasWritten (goroutine : Goroutine) (frames : List ProbeFrame) : Prop :=
  match goroutine.point with
  | .starting => frames = [.ack goroutine.run.runId]
  | .answering => frames = [.ack goroutine.run.runId, startedFrame goroutine.run]
  | .writing left => ∃ text, frames ++ left = stream goroutine.run text
  | .removing | .ended => ∃ text, frames = stream goroutine.run text

/-! ## The frames of one run -/

section Frames

variable {wire : List ProbeFrame} {runId : Str} {frame : ProbeFrame}

theorem framesOf_append_self (named : frame.runId? = some runId) :
    framesOf runId (wire ++ [frame]) = framesOf runId wire ++ [frame] := by
  simp [framesOf, List.filter_append, named]

theorem framesOf_append_other (named : frame.runId? ≠ some runId) :
    framesOf runId (wire ++ [frame]) = framesOf runId wire := by
  simp [framesOf, List.filter_append, named]

theorem framesOf_eq_nil (absent : ∀ frame ∈ wire, frame.runId? ≠ some runId) :
    framesOf runId wire = [] := by
  simpa [framesOf, List.filter_eq_nil_iff] using absent

theorem runId?_of_mem_stream {run : RunFrame} {text : Str} (member : frame ∈ stream run text) :
    frame.runId? = some run.runId := by
  simp only [stream, List.mem_cons, List.not_mem_nil, or_false] at member
  obtain rfl | rfl | rfl | rfl | rfl | rfl | rfl := member <;> rfl

end Frames

namespace Probe

/-- The runs which have been accepted. -/
def runs (probe : Probe) : List RunFrame :=
  probe.goroutines.map Goroutine.run ++
    match probe.loop with
    | .acked run => [run]
    | _ => []

theorem runs_of_acked {probe : Probe} {run : RunFrame} (acked : probe.loop = .acked run) :
    probe.runs = probe.goroutines.map Goroutine.run ++ [run] := by
  rw [runs, acked]

theorem runs_of_reading {probe : Probe} (reading : probe.loop = .reading) :
    probe.runs = probe.goroutines.map Goroutine.run := by
  rw [runs, reading, List.append_nil]

/-- Of the run ids received so far, each accepted one has its part of the stream on the wire. -/
structure InStream (received : List Str) (probe : Probe) : Prop where
  distinct : (probe.runs.map RunFrame.runId).Nodup
  known : ∀ run ∈ probe.runs, run.runId ∈ received
  wire : ∀ frame ∈ probe.wire, ∀ runId, frame.runId? = some runId → runId ∈ received
  origin : ∀ runId event, .event runId event ∈ probe.wire →
    ∃ goroutine ∈ probe.goroutines, goroutine.run.runId = runId
  written : ∀ goroutine ∈ probe.goroutines,
    goroutine.HasWritten (framesOf goroutine.run.runId probe.wire)
  acked : ∀ run, probe.loop = .acked run → framesOf run.runId probe.wire = [.ack run.runId]

/-- What the wire holds: of every accepted run a part of its stream, which is the whole of it where
its goroutine has ended, and no event which is not of the stream of one run.  A goroutine which has
not ended has its next step. -/
structure Streams (probe : Probe) : Prop where
  begun : ∀ goroutine ∈ probe.goroutines, ∃ text,
    framesOf goroutine.run.runId probe.wire <+: stream goroutine.run text
  whole : ∀ goroutine ∈ probe.goroutines, goroutine.live = false → ∃ text,
    framesOf goroutine.run.runId probe.wire = stream goroutine.run text
  acked : ∀ run, probe.loop = .acked run → framesOf run.runId probe.wire = [.ack run.runId]
  events : ∀ runId event, .event runId event ∈ probe.wire →
    ∃ goroutine ∈ probe.goroutines, ∃ text, .event runId event ∈ stream goroutine.run text
  apart : (probe.goroutines.map fun goroutine => messageId goroutine.run).Nodup
  goesOn : ∀ index goroutine, probe.goroutines[index]? = some goroutine →
    goroutine.live = true → ∃ action next, step probe action = some next ∧
      (action = .advance index ∨ ∃ outcome, action = .answer index outcome)

section Steps

variable {received : List Str} {probe next : Probe} {action : ProbeAction}

theorem InStream.mono (inStream : InStream received probe) (later : List Str) :
    InStream (received ++ later) probe where
  distinct := inStream.distinct
  known run member := List.mem_append_left later (inStream.known run member)
  wire frame member runId named :=
    List.mem_append_left later (inStream.wire frame member runId named)
  origin := inStream.origin
  written := inStream.written
  acked := inStream.acked

theorem InStream.goroutine_known (inStream : InStream received probe) {goroutine : Goroutine}
    (member : goroutine ∈ probe.goroutines) : goroutine.run.runId ∈ received := by
  apply inStream.known
  exact List.mem_append_left _ (List.mem_map_of_mem member)

/-- Nothing is written yet for an id which has not been received. -/
theorem InStream.framesOf_fresh (inStream : InStream received probe) {runId : Str}
    (fresh : runId ∉ received) : framesOf runId probe.wire = [] :=
  framesOf_eq_nil fun frame member named => fresh (inStream.wire frame member runId named)

/-- A frame under an id which has not been received touches no stream. -/
theorem InStream.write_fresh (inStream : InStream received probe) {frame : ProbeFrame}
    (eventless : ∀ runId event, frame ≠ .event runId event)
    (fresh : ∀ runId, frame.runId? = some runId → runId ∉ received) :
    InStream (received ++ frame.runId?.toList) (probe.write frame) where
  distinct := inStream.distinct
  known run member := List.mem_append_left _ (inStream.known run member)
  wire other member runId named := by
    obtain early | new := List.mem_append.mp member
    · exact List.mem_append_left _ (inStream.wire other early runId named)
    · obtain rfl := List.mem_singleton.mp new
      exact List.mem_append_right _ (by simp [named])
  origin runId event member := by
    obtain early | new := List.mem_append.mp member
    · exact inStream.origin runId event early
    · exact absurd (List.mem_singleton.mp new).symm (eventless runId event)
  written goroutine member := by
    have other : frame.runId? ≠ some goroutine.run.runId := fun same =>
      fresh _ same (inStream.goroutine_known member)
    rw [write, framesOf_append_other other]
    exact inStream.written goroutine member
  acked run acked := by
    have accepted : run ∈ probe.runs := by
      rw [@runs_of_acked probe run acked]
      exact List.mem_append_right _ (List.mem_singleton_self run)
    have other : frame.runId? ≠ some run.runId := fun same =>
      fresh _ same (inStream.known run accepted)
    rw [write, framesOf_append_other other]
    exact inStream.acked run acked

/-- An `ack` under a new id begins a stream. -/
theorem InStream.accept (inStream : InStream received probe) (reading : probe.loop = .reading)
    {run : RunFrame} (fresh : run.runId ∉ received) :
    InStream (received ++ [run.runId])
      { probe.write (.ack run.runId) with loop := .acked run } := by
  have wrote : InStream (received ++ [run.runId]) (probe.write (.ack run.runId)) := by
    refine @InStream.write_fresh _ _ inStream (.ack run.runId) nofun ?_
    rintro runId ⟨⟩
    exact fresh
  have before : (probe.write (.ack run.runId)).runs = probe.goroutines.map Goroutine.run :=
    runs_of_reading reading
  refine ⟨?_, ?_, wrote.wire, wrote.origin, wrote.written, ?_⟩
  · rw [runs_of_acked rfl, List.map_append]
    refine List.nodup_append_comm.mp (List.nodup_cons.mpr ⟨?_, before ▸ wrote.distinct⟩)
    intro member
    obtain ⟨other, accepted, same⟩ := List.mem_map.mp member
    have known : other.runId ∈ received :=
      inStream.known other (by rw [runs_of_reading reading]; exact accepted)
    exact fresh (same ▸ known)
  · intro other member
    rw [runs_of_acked rfl] at member
    obtain accepted | new := List.mem_append.mp member
    · exact wrote.known other (before ▸ accepted)
    · obtain rfl := List.mem_singleton.mp new
      exact List.mem_append_right _ (List.mem_singleton_self _)
  · rintro _ ⟨⟩
    rw [write, framesOf_append_self rfl, inStream.framesOf_fresh fresh, List.nil_append]

/-- A goroutine begins where the read loop has written its `ack`. -/
theorem InStream.start (inStream : InStream received probe) {run : RunFrame}
    (acked : probe.loop = .acked run) (cancels : CancelSet) :
    InStream received { probe with
      loop := .reading
      cancels := cancels
      goroutines := probe.goroutines ++ [⟨run, .starting, false⟩] } := by
  have same : runs { probe with
      loop := .reading
      cancels := cancels
      goroutines := probe.goroutines ++ [⟨run, .starting, false⟩] } = probe.runs := by
    rw [runs_of_reading rfl, runs_of_acked acked, List.map_append]
    rfl
  refine ⟨same ▸ inStream.distinct, same ▸ inStream.known, inStream.wire, ?_, ?_, nofun⟩
  · intro runId event among
    obtain ⟨goroutine, member, named⟩ := inStream.origin runId event among
    exact ⟨goroutine, List.mem_append_left _ member, named⟩
  intro goroutine member
  obtain old | new := List.mem_append.mp member
  · exact inStream.written goroutine old
  · obtain rfl := List.mem_singleton.mp new
    exact inStream.acked run acked

theorem eventless_of_replies {parsed : Inbound} {frame : ProbeFrame}
    (replies : Replies parsed frame) (runId : Str) (event : RunEvent) :
    frame ≠ .event runId event := by
  cases replies <;> nofun

theorem offeredId_of_replies {parsed : Inbound} {frame : ProbeFrame}
    (replies : Replies parsed frame) : parsed.offeredId = frame.runId? := by
  cases replies <;> rfl

theorem InStream.nodup_goroutines (inStream : InStream received probe) :
    (probe.goroutines.map fun goroutine => goroutine.run.runId).Nodup := by
  have distinct := inStream.distinct
  rw [runs, List.map_append, List.map_map] at distinct
  exact distinct.of_append_left

/-- Two goroutines have two run ids. -/
theorem InStream.apart (inStream : InStream received probe) {first second : Nat}
    {one other : Goroutine} (foundOne : probe.goroutines[first]? = some one)
    (foundOther : probe.goroutines[second]? = some other) (differ : first ≠ second) :
    one.run.runId ≠ other.run.runId := by
  intro same
  refine differ ((List.getElem?_inj ?_ inStream.nodup_goroutines).mp ?_)
  · rw [List.length_map]
    exact (List.getElem?_eq_some_iff.mp foundOne).1
  · rw [List.getElem?_map, List.getElem?_map, foundOne, foundOther, Option.map_some,
      Option.map_some, same]

theorem InStream.apart_acked (inStream : InStream received probe) {run : RunFrame}
    (acked : probe.loop = .acked run) {goroutine : Goroutine}
    (member : goroutine ∈ probe.goroutines) : run.runId ≠ goroutine.run.runId := by
  have distinct := inStream.distinct
  rw [runs_of_acked acked, List.map_append] at distinct
  intro same
  have among : run.runId ∈ (probe.goroutines.map Goroutine.run).map RunFrame.runId := by
    rw [same]
    exact List.mem_map_of_mem (List.mem_map_of_mem member)
  exact (List.nodup_append.mp distinct).2.2 _ among _ (List.mem_singleton_self _) rfl

/-- A goroutine which goes on, with the frames it writes, keeps to its own stream. -/
theorem InStream.replace (inStream : InStream received probe) {index : Nat}
    {goroutine after : Goroutine} (found : probe.goroutines[index]? = some goroutine)
    (run : after.run = goroutine.run) (cancels : CancelSet) {written : List ProbeFrame}
    (own : ∀ frame ∈ written, frame.runId? = some goroutine.run.runId)
    (hasWritten : after.HasWritten (framesOf goroutine.run.runId probe.wire ++ written)) :
    InStream received { probe with
      goroutines := probe.goroutines.set index after
      cancels := cancels
      wire := probe.wire ++ written } := by
  have member : goroutine ∈ probe.goroutines := List.mem_of_getElem? found
  have others {runId : Str} (differ : runId ≠ goroutine.run.runId) :
      framesOf runId (probe.wire ++ written) = framesOf runId probe.wire := by
    have foreign : framesOf runId written = [] := by
      apply framesOf_eq_nil
      intro frame among named
      exact differ (Option.some.inj (named.symm.trans (own frame among)))
    rw [framesOf, List.filter_append]
    exact (congrArg _ foreign).trans (List.append_nil _)
  have same : runs { probe with
      goroutines := probe.goroutines.set index after
      cancels := cancels
      wire := probe.wire ++ written } = probe.runs := by
    have kept : (probe.goroutines.set index after).map Goroutine.run =
        probe.goroutines.map Goroutine.run := by
      rw [← List.filterMap_eq_map]
      exact @filterMap_set_of_same _ _ _ _ (some ∘ Goroutine.run) _ _ found (congrArg some run)
    rw [runs, runs, kept]
  have survives {other : Goroutine} (there : other ∈ probe.goroutines) :
      ∃ kept ∈ probe.goroutines.set index after, kept.run = other.run := by
    obtain ⟨position, placed⟩ := List.mem_iff_getElem?.mp there
    by_cases here : position = index
    · subst here
      obtain rfl := Option.some.inj (found.symm.trans placed)
      have replaced : (probe.goroutines.set position after)[position]? = some after :=
        (getElem?_set_eq_some found).mpr (.inl ⟨rfl, rfl⟩)
      exact ⟨after, List.mem_of_getElem? replaced, run⟩
    · have kept : (probe.goroutines.set index after)[position]? = some other :=
        (getElem?_set_eq_some found).mpr (.inr ⟨here, placed⟩)
      exact ⟨other, List.mem_of_getElem? kept, rfl⟩
  refine ⟨same ▸ inStream.distinct, same ▸ inStream.known, ?_, ?_, ?_, ?_⟩
  · intro frame among runId named
    obtain early | new := List.mem_append.mp among
    · exact inStream.wire frame early runId named
    · obtain rfl := Option.some.inj ((own frame new).symm.trans named)
      exact inStream.goroutine_known member
  · intro runId event among
    obtain early | new := List.mem_append.mp among
    · obtain ⟨other, there, named⟩ := inStream.origin runId event early
      obtain ⟨kept, stays, sameRun⟩ := survives there
      exact ⟨kept, stays, sameRun ▸ named⟩
    · obtain ⟨kept, stays, sameRun⟩ := survives member
      exact ⟨kept, stays, sameRun ▸ Option.some.inj (own _ new).symm⟩
  · intro other among
    obtain ⟨position, placed⟩ := List.mem_iff_getElem?.mp among
    obtain ⟨rfl, rfl⟩ | ⟨elsewhere, before⟩ := (getElem?_set_eq_some found).mp placed
    · have ownFrames : framesOf goroutine.run.runId written = written :=
        List.filter_eq_self.mpr fun frame member => by simpa using own frame member
      rw [run, framesOf, List.filter_append]
      rw [← ownFrames] at hasWritten
      exact hasWritten
    · rw [others (inStream.apart before found elsewhere)]
      exact inStream.written other (List.mem_of_getElem? before)
  · intro accepted acked
    rw [others (inStream.apart_acked acked member)]
    exact inStream.acked accepted acked

theorem InStream.advance (inStream : InStream received probe) {index : Nat}
    {goroutine : Goroutine} (found : probe.goroutines[index]? = some goroutine)
    (advances : Advances probe index goroutine next) : InStream received next := by
  have before := inStream.written goroutine (List.mem_of_getElem? found)
  have silent {after : Goroutine} (run : after.run = goroutine.run) (cancels : CancelSet)
      (hasWritten : after.HasWritten (framesOf goroutine.run.runId probe.wire)) :
      InStream received { probe with
        goroutines := probe.goroutines.set index after
        cancels := cancels } := by
    have replaced := @InStream.replace _ _ inStream _ _ after found run cancels [] (by simp)
      (by rw [List.append_nil]; exact hasWritten)
    rw [List.append_nil] at replaced
    exact replaced
  cases advances with
  | @writes frame point writes =>
      refine @InStream.replace _ _ inStream _ _ { goroutine with point } found rfl probe.cancels
        [frame] ?_ ?_
      · intro frame among
        obtain rfl := List.mem_singleton.mp among
        cases writes with
        | starts => rfl
        | next writing =>
            rw [Goroutine.HasWritten, writing] at before
            obtain ⟨text, whole⟩ := before
            apply @runId?_of_mem_stream _ _ text
            rw [← whole]
            exact List.mem_append_right _ List.mem_cons_self
      · cases writes with
        | starts starting =>
            rw [Goroutine.HasWritten, starting] at before
            exact congrArg (· ++ [startedFrame goroutine.run]) before
        | next writing =>
            rw [Goroutine.HasWritten, writing] at before
            obtain ⟨text, whole⟩ := before
            refine ⟨text, ?_⟩
            rw [List.append_assoc]
            exact whole
  | answered text answering =>
      rw [Goroutine.HasWritten, answering] at before
      have hasWritten : framesOf goroutine.run.runId probe.wire ++ answerFrames goroutine.run text =
          stream goroutine.run text := by
        rw [before, stream_eq]
        rfl
      exact @silent { goroutine with point := .writing (answerFrames goroutine.run text) } rfl
        probe.cancels ⟨text, hasWritten⟩
  | finished finished =>
      rw [Goroutine.HasWritten, finished] at before
      obtain ⟨text, whole⟩ := before
      exact @silent { goroutine with point := .removing, cancelled := true } rfl probe.cancels
        ⟨text, (List.append_nil _).symm.trans whole⟩
  | removed removing =>
      rw [Goroutine.HasWritten, removing] at before
      exact @silent { goroutine with point := .ended } rfl _ before

/-- What a cancel frame changes is no part of a stream. -/
theorem InStream.cancel (inStream : InStream received probe) (runId : Str) :
    InStream received (probe.cancel runId) := by
  unfold Probe.cancel
  split
  · exact inStream
  · split
    · exact inStream
    · rename_i index _ goroutine found
      have before := inStream.written goroutine (List.mem_of_getElem? found)
      have replaced := @InStream.replace _ _ inStream _ _ { goroutine with cancelled := true } found
        rfl probe.cancels [] (by simp) (by rw [List.append_nil]; exact before)
      rw [List.append_nil] at replaced
      exact replaced

/-- A step keeps to the streams, if it brings no run id a second time. -/
theorem InStream.step (inStream : InStream received probe)
    (fresh : ∀ runId, offeredId action = some runId → runId ∉ received)
    (taken : Probe.step probe action = some next) :
    InStream (received ++ (offeredId action).toList) next := by
  cases moves_of_step taken with
  | @replied message frame replies =>
      have named : offeredId (.receive message) = frame.runId? := offeredId_of_replies replies
      rw [named] at fresh ⊢
      exact inStream.write_fresh (eventless_of_replies replies) fresh
  | @acked message run reading offered =>
      have named : offeredId (.receive message) = some run.runId := by
        rw [offeredId, offered, Inbound.offeredId]
      rw [named]
      exact inStream.accept reading (fresh _ named)
  | cancelled => exact (inStream.cancel _).mono _
  | idle => exact inStream.mono _
  | started acked => exact (inStream.start acked _).mono _
  | returned error reading =>
      have same : runs { probe with loop := .returned error } = probe.runs := by
        rw [runs_of_reading reading]
        exact List.append_nil _
      have returned : InStream received { probe with loop := .returned error } :=
        ⟨same ▸ inStream.distinct, same ▸ inStream.known, inStream.wire, inStream.origin,
          inStream.written, nofun⟩
      exact returned.mono _
  | advanced _ found advances => exact (inStream.advance found advances).mono _

end Steps

/-! ## Runs -/

section Runs

variable {received : List Str} {probe final : Probe}

/-- What a goroutine has written is a part of its stream. -/
theorem begun_of_hasWritten {goroutine : Goroutine} {frames : List ProbeFrame}
    (hasWritten : goroutine.HasWritten frames) : ∃ text, frames <+: stream goroutine.run text := by
  unfold Goroutine.HasWritten at hasWritten
  split at hasWritten
  · exact ⟨[], hasWritten ▸ ⟨_, (stream_eq _ _).symm⟩⟩
  · exact ⟨[], hasWritten ▸ ⟨_, (stream_eq _ _).symm⟩⟩
  · obtain ⟨text, whole⟩ := hasWritten
    exact ⟨text, _, whole⟩
  · obtain ⟨text, rfl⟩ := hasWritten
    exact ⟨text, List.prefix_rfl⟩
  · obtain ⟨text, rfl⟩ := hasWritten
    exact ⟨text, List.prefix_rfl⟩

theorem exists_step_of_live {index : Nat} {goroutine : Goroutine}
    (found : probe.goroutines[index]? = some goroutine) (live : goroutine.live = true) :
    ∃ action next, step probe action = some next ∧
      (action = .advance index ∨ ∃ outcome, action = .answer index outcome) := by
  cases point : goroutine.point with
  | starting =>
      exact ⟨.advance index, _, by rw [step, found, Option.bind_some, advance, point],
        .inl rfl⟩
  | answering =>
      exact ⟨.answer index (.ok []), _, by rw [step, found, Option.bind_some, point],
        .inr ⟨_, rfl⟩⟩
  | writing left =>
      cases left with
      | nil =>
          exact ⟨.advance index, _, by rw [step, found, Option.bind_some, advance, point],
            .inl rfl⟩
      | cons frame left =>
          exact ⟨.advance index, _, by rw [step, found, Option.bind_some, advance, point],
            .inl rfl⟩
  | removing =>
      exact ⟨.advance index, _, by rw [step, found, Option.bind_some, advance, point],
        .inl rfl⟩
  | ended =>
      rw [Goroutine.live, point] at live
      cases live

theorem InStream.streams (inStream : InStream received probe) : probe.Streams where
  begun goroutine member := begun_of_hasWritten (inStream.written goroutine member)
  whole goroutine member ended := by
    have hasWritten := inStream.written goroutine member
    unfold Goroutine.HasWritten at hasWritten
    unfold Goroutine.live at ended
    split at ended
    · rename_i point
      rw [point] at hasWritten
      exact hasWritten
    · cases ended
  acked := inStream.acked
  events runId event among := by
    obtain ⟨goroutine, member, rfl⟩ := inStream.origin runId event among
    obtain ⟨text, begun⟩ := begun_of_hasWritten (inStream.written goroutine member)
    refine ⟨goroutine, member, text, begun.subset ?_⟩
    exact List.mem_filter.mpr ⟨among, by simp [ProbeFrame.runId?]⟩
  apart := by
    have messageIds : (probe.goroutines.map fun goroutine => messageId goroutine.run) =
        (probe.goroutines.map fun goroutine => goroutine.run.runId).map (· ++ str "-msg") := by
      rw [List.map_map]
      rfl
    rw [messageIds]
    exact inStream.nodup_goroutines.map fun _ _ => List.append_cancel_right
  goesOn _ _ found live := exists_step_of_live found live

end Runs

/-! Two runs on one connection, of which the first is cancelled and fails. -/

end Probe
end Souk.PodProbeAgent

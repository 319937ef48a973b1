import Souk.Library.Records
import Souk.PodProbeAgent.Run

/-!
# Cancelling the runs of a pod probe

The table of cancel functions goes by run id.  As long as no run is started under an id which has a
goroutine at work, the entry of an id belongs to the one goroutine which is live under it.
-/

namespace Souk.PodProbeAgent.Probe

open Souk.Python

/-- At most one goroutine is live for each run id. -/
def OnePerRun (probe : Probe) : Prop :=
  ∀ ⦃first second : Nat⦄ ⦃one other : Goroutine⦄, probe.goroutines[first]? = some one →
    probe.goroutines[second]? = some other → one.live = true → other.live = true →
      one.run.runId = other.run.runId → first = second

/-- The action is the arrival of a cancel frame for a run id. -/
def Cancels (action : ProbeAction) (runId : Str) : Prop :=
  ∃ message, action = .receive message ∧ inbound message = .cancel runId

/-- Behind the step at most one goroutine is live for each run id, and a cancel frame has cancelled
the context of the one it names. -/
structure Cancellable (probe : Probe) (action : ProbeAction) : Prop where
  single : ∀ next, step probe action = some next → next.OnePerRun
  reached : ∀ {next : Probe} {runId : Str} {index : Nat} {goroutine : Goroutine},
    step probe action = some next → Cancels action runId →
      probe.goroutines[index]? = some goroutine → goroutine.live = true →
        goroutine.run.runId = runId →
          ∃ after, next.goroutines[index]? = some after ∧ after.cancelled = true

/-- No run is started under the id of a goroutine which is live. -/
def Unoccupied (probe : Probe) : ProbeAction → Prop
  | .start => ∀ run, probe.loop = .acked run → ∀ goroutine ∈ probe.goroutines,
      goroutine.live = true → goroutine.run.runId ≠ run.runId
  | _ => True

/-- A live goroutine has the entry of its run id. -/
def Tabled (probe : Probe) : Prop :=
  ∀ ⦃index : Nat⦄ ⦃goroutine : Goroutine⦄, probe.goroutines[index]? = some goroutine →
    goroutine.live = true → probe.cancels.lookup goroutine.run.runId = some index

section Steps

variable {probe next : Probe} {action : ProbeAction}

theorem Tabled.onePerRun (tabled : probe.Tabled) : probe.OnePerRun := by
  intro first second one other foundOne foundOther liveOne liveOther same
  have entry : probe.cancels.lookup one.run.runId = some first := tabled foundOne liveOne
  rw [same, tabled foundOther liveOther] at entry
  exact (Option.some.inj entry).symm

/-- A goroutine which takes a step is live; at its last one its entry goes. -/
structure Replaces (probe : Probe) (index : Nat) (goroutine : Goroutine) (next : Probe)
    (after : Goroutine) : Prop where
  goroutines : next.goroutines = probe.goroutines.set index after
  run : after.run = goroutine.run
  live : goroutine.live = true
  cancels : next.cancels = probe.cancels ∨
    next.cancels = probe.cancels.remove goroutine.run.runId ∧ after.live = false

theorem live_of_writes {goroutine : Goroutine} {frame : ProbeFrame} {point : RunPoint}
    (writes : Writes goroutine frame point) : goroutine.live = true := by
  cases writes with
  | starts starting => rw [Goroutine.live, starting]
  | next writing => rw [Goroutine.live, writing]

theorem exists_replaces {index : Nat} {goroutine : Goroutine}
    (advances : Advances probe index goroutine next) :
    ∃ after, Replaces probe index goroutine next after := by
  cases advances with
  | writes writes => exact ⟨_, rfl, rfl, live_of_writes writes, .inl rfl⟩
  | answered text answering =>
      exact ⟨_, rfl, rfl, by rw [Goroutine.live, answering], .inl rfl⟩
  | finished finished => exact ⟨_, rfl, rfl, by rw [Goroutine.live, finished], .inl rfl⟩
  | removed removing => exact ⟨_, rfl, rfl, by rw [Goroutine.live, removing], .inr ⟨rfl, rfl⟩⟩

theorem Tabled.advance (tabled : probe.Tabled) {index : Nat} {goroutine : Goroutine}
    (found : probe.goroutines[index]? = some goroutine)
    (advances : Advances probe index goroutine next) : next.Tabled := by
  obtain ⟨after, goroutines, run, live, cancels⟩ := exists_replaces advances
  intro other member foundOther liveOther
  rw [goroutines] at foundOther
  obtain ⟨rfl, rfl⟩ | ⟨elsewhere, foundOther⟩ := (getElem?_set_eq_some found).mp foundOther
  · obtain kept | ⟨_, ended⟩ := cancels
    · rw [kept, run]
      exact tabled found live
    · rw [ended] at liveOther
      cases liveOther
  · have entry := tabled foundOther liveOther
    obtain kept | ⟨removed, _⟩ := cancels
    · rw [kept]
      exact entry
    · have apart : member.run.runId ≠ goroutine.run.runId := by
        intro sameRun
        exact elsewhere (tabled.onePerRun foundOther found liveOther live sameRun)
      rw [removed, CancelSet.lookup_remove_of_ne _ apart]
      exact entry

/-- What a cancel frame does to the goroutine which has the entry, and to no other. -/
theorem getElem?_cancel {runId : Str} {index : Nat} :
    (probe.cancel runId).goroutines[index]? = probe.goroutines[index]?.map fun goroutine =>
      if probe.cancels.lookup runId = some index then { goroutine with cancelled := true }
      else goroutine := by
  unfold cancel
  split
  · rename_i missing
    simp [missing]
  · rename_i entry named
    split
    · rename_i dangling
      by_cases same : index = entry
      · subst same
        simp [dangling]
      · simp [named, Ne.symm same]
    · rename_i goroutine found
      by_cases same : index = entry
      · subst same
        have inside := (List.getElem?_eq_some_iff.mp found).1
        rw [setGoroutine, List.getElem?_set_self inside, found, named]
        simp
      · simp [setGoroutine, named, Ne.symm same]

theorem cancels_cancel (runId : Str) : (probe.cancel runId).cancels = probe.cancels := by
  unfold cancel
  repeat' split
  all_goals rfl

theorem Tabled.cancel (tabled : probe.Tabled) (runId : Str) : (probe.cancel runId).Tabled := by
  intro index after found live
  rw [getElem?_cancel] at found
  obtain ⟨goroutine, before, rfl⟩ := Option.map_eq_some_iff.mp found
  rw [cancels_cancel]
  by_cases named : probe.cancels.lookup runId = some index
  · rw [if_pos named] at live ⊢
    have entry := tabled before live
    exact entry
  · rw [if_neg named] at live ⊢
    exact tabled before live

/-- A new goroutine takes the entry of an id nobody uses. -/
theorem Tabled.start (tabled : probe.Tabled) {run : RunFrame}
    (unoccupied : ∀ goroutine ∈ probe.goroutines, goroutine.live = true →
      goroutine.run.runId ≠ run.runId) :
    Tabled { probe with
      loop := .reading
      cancels := probe.cancels.add run.runId probe.goroutines.length
      goroutines := probe.goroutines ++ [⟨run, .starting, false⟩] } := by
  intro index goroutine found live
  obtain old | ⟨rfl, rfl⟩ := getElem?_concat_eq_some.mp found
  · have apart := unoccupied goroutine (List.mem_of_getElem? old) live
    exact (CancelSet.lookup_add_of_ne _ _ apart).trans (tabled old live)
  · exact CancelSet.lookup_add_self _ _ _

theorem Tabled.step (tabled : probe.Tabled) (unoccupied : probe.Unoccupied action)
    (taken : Probe.step probe action = some next) : next.Tabled := by
  cases moves_of_step taken with
  | replied | acked | idle | returned => exact tabled
  | cancelled => exact tabled.cancel _
  | started acked => exact tabled.start (unoccupied _ acked)
  | advanced _ found advances => exact tabled.advance found advances

/-- A run which is started under the id of a live goroutine makes two of them. -/
theorem unoccupied_of_onePerRun
    (single : ∀ next, Probe.step probe action = some next → next.OnePerRun) :
    probe.Unoccupied action := by
  cases action with
  | start =>
      intro run acked goroutine member live same
      obtain ⟨index, inside, found⟩ := List.mem_iff_getElem.mp member
      have taken : Probe.step probe .start = some { probe with
          loop := .reading
          cancels := probe.cancels.add run.runId probe.goroutines.length
          goroutines := probe.goroutines ++ [⟨run, .starting, false⟩] } := by
        rw [Probe.step, acked]
      have foundOld : (probe.goroutines ++ [⟨run, .starting, false⟩])[index]? = some goroutine := by
        rw [List.getElem?_append_left inside, List.getElem?_eq_getElem inside, found]
      have equal := single _ taken foundOld List.getElem?_concat_length live rfl same
      omega
  | receive | ackFails | readFails | advance | answer => trivial

theorem cancellable_iff (tabled : probe.Tabled) :
    probe.Cancellable action ↔ probe.Unoccupied action := by
  constructor
  · intro cancellable
    exact unoccupied_of_onePerRun cancellable.single
  · intro unoccupied
    refine ⟨fun next taken => (tabled.step unoccupied taken).onePerRun, ?_⟩
    rintro next runId index goroutine taken ⟨message, rfl, cancelled⟩ found live rfl
    have entry := tabled found live
    obtain rfl : next = probe.cancel goroutine.run.runId := by
      simp only [Probe.step, cancelled, receive] at taken
      split at taken
      · exact (Option.some.inj taken).symm
      · cases taken
    refine ⟨{ goroutine with cancelled := true }, ?_, rfl⟩
    rw [getElem?_cancel, found, Option.map_some, if_pos entry]

end Steps

/-- Every run can be cancelled throughout the life of a connection exactly when no run is started
under an id with a live goroutine. -/
theorem cancellable_iff_unoccupied (actions : List ProbeAction) :
    machine.Along Cancellable attached actions ↔ machine.Along Unoccupied attached actions :=
  @Machine.along_iff_along _ _ machine _ _ Tabled (fun _ => True)
    (fun tabled _ unoccupied taken => tabled.step unoccupied taken)
    (fun tabled _ => cancellable_iff tabled) _ _ nofun fun _ _ => trivial

/-! A run which is offered again while its goroutine is at work. -/

def runMessage : Option Value :=
  some (.dict [("type", .str "run"), ("runId", .str "r"), ("threadId", .str "t")])

def cancelMessage : Option Value := some (.dict [("type", .str "cancel"), ("runId", .str "r")])

/-- The run is offered twice, and the first goroutine runs to its end. -/
def offeredTwice : List ProbeAction :=
  [.receive runMessage, .start, .receive runMessage, .start, .advance 0, .answer 0 (.ok [])] ++
    List.replicate 7 (.advance 0)

def afterOfferedTwice : Probe := (machine.run attached offeredTwice).getD attached

theorem run_offeredTwice : machine.run attached offeredTwice = some afterOfferedTwice := (rfl)

/-- The first goroutine has taken the entry of the second with it, and the cancel frame cancels
nothing. -/
theorem offeredTwice_not_cancellable :
    ¬machine.Along Cancellable attached (offeredTwice ++ [.receive cancelMessage]) := by
  intro along
  have cancellable := (along.of_append run_offeredTwice).1
  obtain ⟨after, found, cancelled⟩ :=
    @Cancellable.reached _ _ cancellable _ (str "r") 1 _ rfl ⟨_, rfl, rfl⟩ rfl rfl rfl
  obtain rfl := Option.some.inj found
  cases cancelled

end Souk.PodProbeAgent.Probe

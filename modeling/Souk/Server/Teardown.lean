import Souk.Library.Machine

/-!
# The teardown of a provider socket

The handler of `/ws/provider` starts a writer and a watcher and reads until the socket is gone.  Its
`finally` detaches the connection, then cancels and awaits the tasks one after the other.  An
`await` takes up what became of the task: a cancellation is suppressed, any other exception leaves
the loop over the tasks.  `ProviderLink` has both tasks end with the read loop; here is when they
do.
-/

namespace Souk.Server.WsProvider

/-- Where an `asyncio` task stands. -/
inductive TaskState where
  | running
  /-- `cancel()` has been called, and the task has not ended. -/
  | cancelling
  | returned
  | cancelled
  /-- An exception has left it, from a read of core or from a send. -/
  | failed
  deriving DecidableEq

namespace TaskState

/-- `task.done()` -/
def done : TaskState → Bool
  | running | cancelling => false
  | returned | cancelled | failed => true

/-- `task.cancel()`, which leaves alone a task which has ended. -/
def cancel : TaskState → TaskState
  | running => cancelling
  | state => state

end TaskState

/-- The tasks of a socket beside its handler. -/
inductive TaskName where
  | watcher
  | writer
  deriving DecidableEq

/-- Where the handler stands. -/
inductive HandlerPoint where
  | reading
  /-- Awaiting a task with others left behind it; `interrupted` if the handler has been cancelled
  since the task ended. -/
  | awaiting (task : TaskName) (left : List TaskName) (interrupted : Bool)
  | ended

/-- How the read loop ends. -/
inductive ReadLoopExit where
  | disconnected
  | raised
  | cancelled

/-- The handler with its tasks. -/
structure SocketTasks where
  handler : HandlerPoint
  watcher : TaskState
  writer : TaskState
  /-- Core holds the connection, as far as this handler has to do with it. -/
  attached : Bool

namespace SocketTasks

/-- The state of a task. -/
def task (tasks : SocketTasks) : TaskName → TaskState
  | .watcher => tasks.watcher
  | .writer => tasks.writer

/-- Replace the state of a task. -/
def setTask (tasks : SocketTasks) (name : TaskName) (state : TaskState) : SocketTasks :=
  match name with
  | .watcher => { tasks with watcher := state }
  | .writer => { tasks with writer := state }

/-- The tasks when both have been created. -/
def opened : SocketTasks := ⟨.reading, .running, .running, true⟩

/-- `for task in …`: cancel the first task and await it, which raises at once what it has failed
with. -/
def cancelTasks : List TaskName → SocketTasks → SocketTasks
  | [], tasks => { tasks with handler := .ended }
  | name :: left, tasks =>
      let tasks := tasks.setTask name (tasks.task name).cancel
      match tasks.task name with
      | .running | .cancelling => { tasks with handler := .awaiting name left false }
      | .failed => { tasks with handler := .ended }
      | .returned | .cancelled => cancelTasks left tasks

/-- The `finally` of the handler. -/
def teardown (tasks : SocketTasks) : SocketTasks :=
  cancelTasks [.watcher, .writer] { tasks with attached := false }

/-- What can happen. -/
inductive Action where
  | exits (exit : ReadLoopExit)
  | returns (name : TaskName)
  /-- A task ends with an exception which is no cancellation, also where it has been cancelled. -/
  | fails (name : TaskName)
  /-- A cancellation leaves the task. -/
  | cancelled (name : TaskName)
  /-- The handler is cancelled while it awaits a task. -/
  | interrupt
  /-- The handler goes on from its `await`. -/
  | resumes

/-- One step of the handler, of a task, or of whoever cancels the handler. -/
def step (tasks : SocketTasks) : Action → Option SocketTasks
  | .exits _ =>
      match tasks.handler with
      | .reading => some tasks.teardown
      | _ => none
  | .returns name =>
      match tasks.task name with
      | .running => some (tasks.setTask name .returned)
      | _ => none
  | .fails name =>
      match tasks.task name with
      | .running | .cancelling => some (tasks.setTask name .failed)
      | _ => none
  | .cancelled name =>
      match tasks.task name with
      | .cancelling => some (tasks.setTask name .cancelled)
      | _ => none
  | .interrupt =>
      match tasks.handler with
      | .awaiting name left interrupted =>
          -- A cancellation goes to the task which is awaited, as long as it has not ended.
          some { tasks with
            handler := .awaiting name left (interrupted || (tasks.task name).done) }
      | _ => none
  | .resumes =>
      match tasks.handler with
      | .awaiting name left interrupted =>
          if (tasks.task name).done then
            if tasks.task name = .failed ∧ interrupted = false then
              some { tasks with handler := .ended }
            else some (cancelTasks left tasks)
          else none
      | _ => none

/-- The handler with its tasks as a machine. -/
def machine : Machine SocketTasks Action where
  step := step

/-- Once the read loop has ended the connection is detached, and once the handler has ended neither
task is left. -/
structure Complete (tasks : SocketTasks) : Prop where
  detached : tasks.handler ≠ .reading → tasks.attached = false
  ended : tasks.handler = .ended → tasks.watcher.done = true ∧ tasks.writer.done = true

/-- Where the handler takes up that the watcher has failed, the writer has ended. -/
def Clean (tasks : SocketTasks) : Action → Prop
  | .exits _ => tasks.handler = .reading → tasks.watcher = .failed → tasks.writer.done = true
  | .resumes => ∀ left, tasks.handler = .awaiting .watcher left false →
      tasks.watcher = .failed → tasks.writer.done = true
  | _ => True

/-- Where the handler stands when every step was clean. -/
def Sound (tasks : SocketTasks) : Prop :=
  match tasks.handler with
  | .reading => True
  | .awaiting .watcher left _ => left = [.writer] ∧ tasks.attached = false
  | .awaiting .writer left _ =>
      left = [] ∧ tasks.attached = false ∧ tasks.watcher.done = true
  | .ended => tasks.attached = false ∧ tasks.watcher.done = true ∧ tasks.writer.done = true

/-! ## The loop over the tasks -/

section Loop

variable {tasks next : SocketTasks}

theorem Sound.complete (sound : tasks.Sound) : tasks.Complete := by
  obtain ⟨handler, watcher, writer, attached⟩ := tasks
  cases handler with
  | reading => exact ⟨fun outside => absurd rfl outside, nofun⟩
  | awaiting task left interrupted =>
      cases task with
      | watcher => exact ⟨fun _ => sound.2, nofun⟩
      | writer => exact ⟨fun _ => sound.2.1, nofun⟩
  | ended => exact ⟨fun _ => sound.1, fun _ => sound.2⟩

/-- The end of the loop: the writer is cancelled and awaited. -/
theorem sound_cancelWriter (detached : tasks.attached = false)
    (watched : tasks.watcher.done = true) : (cancelTasks [.writer] tasks).Sound := by
  obtain ⟨handler, watcher, writer, attached⟩ := tasks
  cases writer with
  | running | cancelling => exact ⟨rfl, detached, watched⟩
  | returned | cancelled | failed => exact ⟨detached, watched, rfl⟩

/-- The whole loop, when the watcher has not failed or the writer is gone anyway. -/
theorem sound_teardown (clean : tasks.watcher = .failed → tasks.writer.done = true) :
    tasks.teardown.Sound := by
  obtain ⟨handler, watcher, writer, attached⟩ := tasks
  cases watcher with
  | running | cancelling => exact ⟨rfl, rfl⟩
  | returned | cancelled => exact sound_cancelWriter rfl rfl
  | failed => exact ⟨rfl, rfl, clean rfl⟩

/-- A watcher which has failed ends the loop in front of the writer. -/
theorem teardown_of_failed (failed : tasks.watcher = .failed) :
    tasks.teardown.handler = .ended ∧ tasks.teardown.writer = tasks.writer := by
  obtain ⟨handler, watcher, writer, attached⟩ := tasks
  obtain rfl := failed
  exact ⟨rfl, rfl⟩

theorem not_complete_of_writer (ended : tasks.handler = .ended)
    (left : ¬tasks.writer.done = true) : ¬tasks.Complete := by
  intro complete
  exact left (complete.ended ended).2

end Loop

/-! ## Steps and runs -/

section Steps

variable {tasks next : SocketTasks} {action : Action}

/-- A task which ends keeps the handler where it stands. -/
theorem Sound.setTask (sound : tasks.Sound) {name : TaskName} {state : TaskState}
    (done : state.done = true) : (tasks.setTask name state).Sound := by
  obtain ⟨handler, watcher, writer, attached⟩ := tasks
  rcases handler with _ | ⟨_ | _, left, interrupted⟩ | _ <;> cases name
  · trivial
  · trivial
  · exact sound
  · exact sound
  · exact ⟨sound.1, sound.2.1, done⟩
  · exact sound
  · exact ⟨sound.1, done, sound.2.2⟩
  · exact ⟨sound.1, sound.2.1, done⟩

theorem Sound.step (sound : tasks.Sound) (clean : tasks.Clean action)
    (taken : SocketTasks.step tasks action = some next) : next.Sound := by
  cases action with
  | exits exit =>
      simp only [SocketTasks.step] at taken
      split at taken
      · rename_i reading
        obtain rfl := Option.some.inj taken
        exact sound_teardown (clean reading)
      · cases taken
  | returns name | fails name | cancelled name =>
      simp only [SocketTasks.step] at taken
      split at taken <;> cases taken <;> exact sound.setTask rfl
  | interrupt =>
      obtain ⟨handler, watcher, writer, attached⟩ := tasks
      rcases handler with _ | ⟨_ | _, left, interrupted⟩ | _ <;> cases taken <;> exact sound
  | resumes =>
      simp only [SocketTasks.step] at taken
      split at taken
      · rename_i name left interrupted awaiting
        split at taken
        · rename_i done
          have place := sound
          rw [Sound, awaiting] at place
          cases name with
          | watcher =>
              obtain ⟨rfl, detached⟩ := place
              split at taken
              · rename_i raising
                obtain ⟨failed, rfl⟩ := raising
                obtain rfl := Option.some.inj taken
                exact ⟨detached, done, clean _ awaiting failed⟩
              · obtain rfl := Option.some.inj taken
                exact sound_cancelWriter detached done
          | writer =>
              obtain ⟨rfl, detached, watched⟩ := place
              split at taken <;> obtain rfl := Option.some.inj taken
              · exact ⟨detached, watched, done⟩
              · exact ⟨detached, watched, done⟩
        · cases taken
      · cases taken

/-- The writer is left behind where the handler takes up the failure of the watcher. -/
theorem not_complete_of_not_clean (unclean : ¬tasks.Clean action)
    (taken : SocketTasks.step tasks action = some next) : ¬next.Complete := by
  cases action with
  | exits exit =>
      simp only [Clean, Classical.not_imp] at unclean
      obtain ⟨reading, failed, left⟩ := unclean
      simp only [SocketTasks.step, reading] at taken
      obtain rfl := Option.some.inj taken
      obtain ⟨ended, writer⟩ := teardown_of_failed failed
      exact not_complete_of_writer ended (writer ▸ left)
  | resumes =>
      simp only [Clean, not_forall] at unclean
      obtain ⟨others, awaiting, failed, left⟩ := unclean
      have raising : tasks.task .watcher = .failed ∧ false = false := ⟨failed, rfl⟩
      simp only [SocketTasks.step, awaiting, raising.1, TaskState.done, if_true, and_self] at taken
      obtain rfl := Option.some.inj taken
      exact not_complete_of_writer rfl left
  | returns | fails | cancelled | interrupt => exact absurd trivial unclean

theorem clean_of_refused (refused : SocketTasks.step tasks action = none) :
    tasks.Clean action := by
  cases action with
  | exits exit =>
      intro reading
      simp [SocketTasks.step, reading] at refused
  | resumes =>
      intro left awaiting failed
      simp [SocketTasks.step, awaiting, task, failed, TaskState.done] at refused
  | returns | fails | cancelled | interrupt => trivial

/-- The teardown is complete throughout a run exactly when the handler never takes up a failure of
the watcher before the writer has ended. -/
theorem complete_iff_clean (actions : List Action) :
    machine.Throughout Complete opened actions ↔ machine.Along Clean opened actions :=
  Machine.throughout_iff_along Sound.step (fun _ => not_complete_of_not_clean)
    (fun _ => clean_of_refused) Sound.complete trivial

/-- A read of core fails in the watcher, and the peer disconnects: the writer is left behind. -/
theorem failed_watcher_not_complete :
    ¬machine.Throughout Complete opened [.fails .watcher, .exits .disconnected] := by
  intro throughout
  have torn := (throughout.2 _ rfl).2 _ rfl
  exact Bool.false_ne_true (torn.ended rfl).2

end Steps

end SocketTasks
end Souk.Server.WsProvider

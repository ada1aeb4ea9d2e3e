import AiAnalytics.App.State.Models
import AiAnalytics.Lib.Machine

/-!
# Cancelling a run

One run in the repository, its execution and the cancellation requests made for it. The execution
creates the record and writes it once more, with a terminal status. `request_cancellation` reads the
record, refuses if its status is terminal, and later writes back the record it read with status
`cancel_requested`. Other parties act between any two calls of the repository or of Redis.
-/

namespace AiAnalytics.App

open Lib

variable {Float : Type}

inductive ExecutionPhase where
  | notStarted
  | executing
  | finished
deriving DecidableEq, Repr

inductive CancellationError where
  | runNotFound
  | runAlreadyTerminal (status : RunStatus)
  | stateError (error : StateError)
deriving DecidableEq, Repr

inductive CancellationCall (Float : Type) where
  | checked (run : Run Float)
  | flagged (run : Run Float)
  | written (run : Run Float)
  | returned (run : Run Float)
  | raised (error : CancellationError)

structure CancelRequestedEvent (Float : Type) where
  runId : String
  conversationId : String
  sequence : Int := 0
  status : RunStatus := .cancelRequested
  evalRunId : Option (PyValue Float)

structure RunState (Float : Type) where
  stored : Option (Run Float)
  phase : ExecutionPhase
  cancelFlag : Bool
  calls : List (CancellationCall Float)
  published : List (CancelRequestedEvent Float)

def RunState.init : RunState Float :=
  { stored := none
    phase := .notStarted
    cancelFlag := false
    calls := []
    published := [] }

def createRun (stored : Option (Run Float)) (run : Run Float) : Except StateError (Run Float) :=
  match stored with
  | some _ => .error (.runExists run.runId)
  | none => .ok run

def updateRun (stored : Option (Run Float)) (run : Run Float) : Except StateError (Run Float) :=
  match stored with
  | some _ => .ok run
  | none => .error (.runNotFound run.runId)

def requestCancellation (stored : Option (Run Float)) : CancellationCall Float :=
  match stored with
  | none => .raised .runNotFound
  | some run =>
      if run.status.Terminal then .raised (.runAlreadyTerminal run.status) else .checked run

def Run.cancelRequested (run : Run Float) : Run Float := { run with status := .cancelRequested }

def RunState.setCall (state : RunState Float) (id : Nat) (call : CancellationCall Float) :
    RunState Float :=
  { state with calls := state.calls.set id call }

inductive RunLabel (Float : Type) where
  | prepare (run : Run Float)
  | finish (run : Run Float)
  | cancelRead
  | cancelFlag (id : Nat) (redis : Bool)
  | cancelWrite (id : Nat)
  | cancelPublish (id : Nat)

def runStep (state : RunState Float) : RunLabel Float → Option (RunState Float)
  | .prepare run =>
      if state.phase = .notStarted ∧ run.status = .inProgress then
        match createRun state.stored run with
        | .ok created => some { state with stored := some created, phase := .executing }
        | .error _ => none
      else none
  | .finish run =>
      if state.phase = .executing ∧ run.status.Terminal then
        match updateRun state.stored run with
        | .ok updated => some { state with stored := some updated, phase := .finished }
        | .error _ => none
      else none
  | .cancelRead => some { state with calls := state.calls ++ [requestCancellation state.stored] }
  | .cancelFlag id redis =>
      match state.calls[id]? with
      | some (.checked run) =>
          some { state.setCall id (.flagged run) with cancelFlag := state.cancelFlag || redis }
      | _ => none
  | .cancelWrite id =>
      match state.calls[id]? with
      | some (.flagged run) =>
          match updateRun state.stored run.cancelRequested with
          | .ok updated => some { state.setCall id (.written updated) with stored := some updated }
          | .error error => some (state.setCall id (.raised (.stateError error)))
      | _ => none
  | .cancelPublish id =>
      match state.calls[id]? with
      | some (.written run) =>
          some { state.setCall id (.returned run) with
            published := state.published ++
              [{ runId := run.runId, conversationId := run.conversationId,
                 evalRunId := run.metadata.lookup "eval_run_id" }] }
      | _ => none

def runMachine : Machine (RunState Float) (RunLabel Float) := { step := runStep }

/-! ## The numbers of a run's events

Three components number the events of one run: `prepare_run` for `run.received`, the execution for
its own events by a local count, and `request_cancellation` for `run.cancel_requested`. The loop's
`emit` and the `_Emitter` of the deep-agents run count alike: an event is published under the count,
and then the count goes up. What the publisher is handed is published. -/

section EventNumbers

/-- The number of `run.received`. -/
def receivedSequence : Int := 1

/-- What `execute` hands to either strategy. -/
def initialEvtSequence : Int := 1

structure RunFeed (Float : Type) where
  run : RunState Float := .init
  received : Bool := false
  evtSequence : Option Int := none
  sequences : List Int := []

def RunFeed.publish (feed : RunFeed Float) (sequence : Int) : RunFeed Float :=
  { feed with sequences := feed.sequences ++ [sequence] }

inductive FeedStep (Float : Type) where
  | record (label : RunLabel Float)
  | received
  | execute
  | emit

def recordStep (feed : RunFeed Float) (label : RunLabel Float) : Option (RunFeed Float) :=
  (runStep feed.run label).map fun run =>
    { feed with
      run
      sequences := feed.sequences ++
        (run.published.drop feed.run.published.length).map (·.sequence) }

def feedStep (feed : RunFeed Float) : FeedStep Float → Option (RunFeed Float)
  | .record label =>
      -- the terminal record is written by the execution
      if (label matches .finish _) && feed.evtSequence.isNone then none else recordStep feed label
  | .received =>
      if feed.run.stored.isSome && !feed.received then
        some { feed.publish receivedSequence with received := true }
      else none
  | .execute =>
      if feed.received && feed.evtSequence.isNone then
        some { feed with evtSequence := some initialEvtSequence }
      else none
  | .emit =>
      match feed.evtSequence with
      | some sequence => some { feed.publish sequence with evtSequence := some (sequence + 1) }
      | none => none

def feedMachine : Machine (RunFeed Float) (FeedStep Float) := { step := feedStep }

end EventNumbers

end AiAnalytics.App

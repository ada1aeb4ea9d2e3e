import AiAnalytics.App.Events.EventStream

/-!
# The reader of the benchmark replayer

`_await_run_completion_sse` collects the type and the data of each frame and returns what the first
frame that ends the run says. The time that passes until a frame is dispatched is a parameter.
-/

namespace AiAnalytics.Benchmarks

open Lib App.Loop App.Events

variable {Float : Type} (json : FrameJson Float)

def terminalTypes : List String :=
  ["run.completed", "run.failed", "run.budget_exceeded", "run.cancelled"]

structure RunOutcome (Float : Type) where
  status : List Char
  tokensIn : PyValue Float
  tokensOut : PyValue Float
  serverTtft : Option Float
  error : PyValue Float

structure FrameState (Float : Type) where
  currentEventType : List Char := []
  currentData : List Char := []
  clientTtft : Option Float := none

def rawData (data : List Char) : PyValue Float :=
  match json.loads data with
  | .ok value => value
  | .error _ => .dict []

def payloadOf (raw : PyValue Float) : Dict Float :=
  match raw with
  | .dict entries => match entries.lookup "payload" with
    | some (.dict payload) => payload
    | _ => entries
  | _ => []

def withoutRun : Nat → List Char → List Char
  | _, [] => []
  | skipped + 1, _ :: text => withoutRun skipped text
  | 0, c :: text =>
    if "run.".toList.isPrefixOf (c :: text) then withoutRun 3 text else c :: withoutRun 0 text

def statusOf (eventType : List Char) : List Char :=
  if eventType = "run.completed".toList then "completed".toList else withoutRun 0 eventType

def serverTtftOf (clientTtft : Option Float) (sttft : PyValue Float) :
    Except (PyError Unit) (Option Float) :=
  match sttft with
  | .none => .ok clientTtft
  | value => match json.float value with
    | .ok x => .ok (some x)
    | .error .valueError | .error .typeError => .ok clientTtft
    | .error error => .error error

def outcomeOf (clientTtft : Option Float) (eventType : List Char) (payload : Dict Float) :
    Except (PyError Unit) (RunOutcome Float) := do
  let telemetry := (payload.lookup "telemetry").getD (.dict [])
  let sttft ← telemetry.get "ttft_ms" .none
  let serverTtft ← serverTtftOf json clientTtft sttft
  return {
    status := statusOf eventType
    tokensIn := (payload.lookup "input_tokens").getD (.int 0)
    tokensOut := (payload.lookup "output_tokens").getD (.int 0)
    serverTtft
    error := ((payload.lookup "error").getD .none).orElse json.num
      ((payload.lookup "reason").getD .none) }

def tellsDelta (eventType data : List Char) (payload : Dict Float) : Bool :=
  decide (eventType ∈ ["answer.delta".toList, "step.crewai_writer".toList]) ||
    (payload.lookup "delta").isSome || contains "delta".toList data

def isTerminal (eventType : List Char) : Bool :=
  decide (eventType ∈ terminalTypes.map String.toList)

def FrameState.readLine (state : FrameState Float) (raw : List Char) : FrameState Float :=
  if "event:".toList.isPrefixOf raw then { state with currentEventType := strip (raw.drop 6) }
  else if "data:".toList.isPrefixOf raw then
    let rest := raw.drop 5
    let chunk := if [' '].isPrefixOf rest then rest.drop 1 else rest
    { state with
      currentData := if state.currentData = [] then chunk
        else state.currentData ++ ['\n'] ++ chunk }
  else state

def FrameState.ttftAfter (state : FrameState Float) (elapsed : Float) (payload : Dict Float) :
    Option Float :=
  match state.clientTtft with
  | some time => some time
  | none =>
    if tellsDelta state.currentEventType state.currentData payload then some elapsed else none

def FrameState.close (state : FrameState Float) : Except (PyError Unit) (RunOutcome Float) :=
  if state.currentData = [] then .error (.raised ())
  else
    let raw := rawData json state.currentData
    let eventType := if state.currentEventType = [] then raw.entry "event_type" .none
      else .str (String.ofList state.currentEventType)
    match eventType with
    | .str text =>
        if isTerminal text.toList then outcomeOf json state.clientTtft text.toList (payloadOf raw)
        else .error (.raised ())
    | _ => .error (.raised ())

def awaitLines (elapsed : Nat → Float) (state : FrameState Float) :
    List (List Char) → Except (PyError Unit) (RunOutcome Float)
  | [] => state.close json
  | raw :: lines =>
      if strip raw ≠ [] then awaitLines elapsed (state.readLine raw) lines
      else if state.currentEventType = [] ∨ state.currentData = [] then
        awaitLines elapsed { clientTtft := state.clientTtft } lines
      else
        let payload := payloadOf (rawData json state.currentData)
        let clientTtft := state.ttftAfter (elapsed lines.length) payload
        if isTerminal state.currentEventType then outcomeOf json clientTtft state.currentEventType
          payload
        else awaitLines elapsed { clientTtft } lines

def awaitRunCompletionSse (elapsed : Nat → Float) (text : List Char) :
    Except (PyError Unit) (RunOutcome Float) :=
  awaitLines json elapsed {} (splitLines text)

end AiAnalytics.Benchmarks

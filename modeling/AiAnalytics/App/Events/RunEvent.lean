import AiAnalytics.Lib.Json
import AiAnalytics.Lib.PyOps
import AiAnalytics.Lib.SseText

/-!
# Run events and their codecs

`RunEvent` with the dictionary of texts that the Redis stream stores and the frame that goes to the
client. An optional id is what the dictionary holds under its name.
-/

namespace AiAnalytics.App.Events

open Lib

variable {Float : Type}

structure EventLibrary (Float : Type) where
  num : NumOps Float
  floats : JsonFloats Float
  str : PyValue Float → String
  /-- The value of a decimal digit of any script -/
  digit : Char → Option Nat
  /-- `int(x)`; `none` where it raises. -/
  intOfFloat : Float → Option Int

structure RunEvent (Float : Type) where
  eventType : String
  runId : String
  conversationId : String
  sequence : Int
  payload : PyValue Float
  eventId : String
  stepId : PyValue Float := .none
  llmCallId : PyValue Float := .none
  toolCallId : PyValue Float := .none
  queryId : PyValue Float := .none
  timestamp : String
  evalRunId : PyValue Float := .none

section Conversions

variable (lib : EventLibrary Float)

/-- `str(value)` -/
def EventLibrary.strOf (value : PyValue Float) : String :=
  match value with
  | .str s => s
  | value => lib.str value

def EventLibrary.intOf : PyValue Float → Option Int
  | .bool b => some (if b then 1 else 0)
  | .int n => some n
  | .float x => lib.intOfFloat x
  | .decimal d => some d.toInt
  | .str s => readInt lib.digit s.toList
  | _ => none

end Conversions

section Codecs

variable (lib : EventLibrary Float)

def EventLibrary.optionalText (name : String) (value : PyValue Float) : List (String × String) :=
  if value.truthy lib.num then [(name, lib.strOf value)] else []

def RunEvent.toDict (event : RunEvent Float) : Option (List (String × String)) := do
  let sequence ← intText event.sequence
  let payload ← jsonDumps lib.floats event.payload
  some <|
    [("event_id", event.eventId), ("event_type", event.eventType), ("run_id", event.runId),
      ("conversation_id", event.conversationId), ("sequence", String.ofList sequence),
      ("timestamp", event.timestamp), ("payload", String.ofList payload)] ++
      lib.optionalText "step_id" event.stepId ++ lib.optionalText "llm_call_id" event.llmCallId ++
      lib.optionalText "tool_call_id" event.toolCallId ++ lib.optionalText "query_id"
        event.queryId ++
      lib.optionalText "eval_run_id" event.evalRunId

def EventLibrary.readPayload : PyValue Float → PyValue Float
  | .str text => (jsonLoads lib.floats text.toList).getD (.dict [])
  | .dict entries => .dict entries
  | _ => .dict []

def RunEvent.fromDict (data : List (String × PyValue Float)) : Option (RunEvent Float) := do
  let get (name : String) (default : PyValue Float) : PyValue Float :=
    (data.lookup name).getD default
  let sequence ← lib.intOf (get "sequence" (.int 0))
  some {
    eventId := lib.strOf (get "event_id" (.str ""))
    eventType := lib.strOf (get "event_type" (.str ""))
    runId := lib.strOf (get "run_id" (.str ""))
    conversationId := lib.strOf (get "conversation_id" (.str ""))
    sequence
    stepId := get "step_id" .none
    llmCallId := get "llm_call_id" .none
    toolCallId := get "tool_call_id" .none
    queryId := get "query_id" .none
    evalRunId := get "eval_run_id" .none
    payload := lib.readPayload (get "payload" (.str "\x7b\x7d"))
    timestamp := lib.strOf (get "timestamp" (.str "")) }

def RunEvent.envelope (event : RunEvent Float) : List (String × PyValue Float) :=
  [("event_id", .str event.eventId), ("event_type", .str event.eventType),
    ("run_id", .str event.runId),
    ("conversation_id", .str event.conversationId), ("sequence", .int event.sequence),
    ("step_id", event.stepId),
    ("llm_call_id", event.llmCallId), ("tool_call_id", event.toolCallId),
    ("query_id", event.queryId),
    ("timestamp", .str event.timestamp), ("payload", event.payload)] ++
    if event.evalRunId.truthy lib.num then [("eval_run_id", event.evalRunId)] else []

def RunEvent.toSse (event : RunEvent Float) : Option (List Char) := do
  let data ← jsonDumps lib.floats (.dict (event.envelope lib))
  some ("id: ".toList ++ event.eventId.toList ++ "\nevent: ".toList ++ event.eventType.toList ++
    "\ndata: ".toList ++ data ++ "\n\n".toList)

end Codecs

end AiAnalytics.App.Events

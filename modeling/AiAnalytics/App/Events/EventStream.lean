import AiAnalytics.App.Jobs.JobSystem
import AiAnalytics.App.Orchestration.Loop
import AiAnalytics.Lib.PyOps

/-!
# The event stream of a run

`event_generator` of `GET /api/runs/{run_id}/events`: it reads the Redis stream that all runs share,
and once the run has ended it falls back on the in-memory log of the publisher and on the durable
steps. Runs, jobs and steps are stored, events are published and the stream is read in any order,
and Redis may fail at any read. Time stamps of events are left out there.

An event goes over the wire as a frame: its id, its type and one line of JSON. Which JSON that is
stays a parameter.
-/

namespace AiAnalytics.App.Events

open Lib App.Loop

variable {Float : Type}

section Ids

/-- `evt_{uuid4().hex[:16]}` -/
structure EventId where
  digits : List (Fin 16)
  length_eq : digits.length = 16
deriving DecidableEq

def EventId.text (id : EventId) : String :=
  "evt_" ++ String.ofList (id.digits.map fun digit : Fin 16 => Nat.digitChar digit.val)

structure StreamId where
  ms : Nat
  seq : Nat
deriving DecidableEq, Repr

instance : LT StreamId where
  lt first second := first.ms < second.ms ∨ first.ms = second.ms ∧ first.seq < second.seq

instance (first second : StreamId) : Decidable (first < second) :=
  inferInstanceAs (Decidable (_ < _ ∨ _ = _ ∧ _ < _))

def number? (digits : List Char) : Option Nat :=
  let value := digits.foldl (fun value digit => 10 * value + (digit.toNat - '0'.toNat)) 0
  if digits ≠ [] ∧ digits.all Char.isDigit ∧ value < 2 ^ 64 then some value else none

def StreamId.parse (text : String) : Option StreamId :=
  match text.toList.splitOn '-' with
  | [ms, seq] => do some ⟨← number? ms, ← number? seq⟩
  | _ => none

def lastEventId : Option String → String
  | none | some "" => "0-0"
  | some text => text

def lastStreamId (header : Option String) : String :=
  if '-' ∈ (lastEventId header).toList then lastEventId header else "0-0"

end Ids

section Events

inductive SseEventType where
  | runReceived
  | cancelRequested
  | loop (eventType : RunEventType)
  | step (stepType : StepType)
  | jobStarted
  | jobCompleted
  | jobFailed
deriving DecidableEq, Repr

def SseEventType.endsRun : SseEventType → Bool
  | .loop eventType => eventType.endsWith.isSome
  | _ => false

def SseEventType.ends : SseEventType → Bool
  | .jobCompleted | .jobFailed => true
  | eventType => eventType.endsRun

inductive Subject where
  | run
  | job
deriving DecidableEq, Repr

def SseEventType.subject : SseEventType → Subject
  | .jobStarted | .jobCompleted | .jobFailed => .job
  | _ => .run

structure SseEvent (Float : Type) where
  eventId : EventId
  eventType : SseEventType
  runId : String
  conversationId : PyValue Float
  sequence : Int
  payload : Dict Float
  stepId : Option String := none
  llmCallId : Option String := none
  toolCallId : Option String := none
  queryId : Option String := none
  evalRunId : Option (PyValue Float) := none

end Events

section Durable

abbrev Draft (Float : Type) := EventId → SseEvent Float

def declineOutcomes : List String :=
  ["unsupported", "clarification_required", "no_tool", "no_visible_output"]

def RunStep.declined (step : RunStep Float) : Option String :=
  match step.stepType, step.metadata.lookup "outcome" with
  | .answer, some (.str outcome) => if outcome ∈ declineOutcomes then some outcome else none
  | _, _ => none

variable (run : Run Float)

def rebuiltEvent (eventType : SseEventType) (sequence : Int) (payload : Dict Float) : Draft Float :=
  fun eventId =>
    { eventId, eventType, runId := run.runId, conversationId := .str run.conversationId, sequence
      payload }

def stepPayload (step : RunStep Float) : Dict Float :=
  [("status", .str (match step.status with
      | .completed => "completed"
      | .failed => "failed")),
    ("input_summary", orNone .str step.inputSummary),
    ("output_summary", orNone .str step.outputSummary),
    ("duration_ms", orNone .int step.durationMs), ("metadata", .dict step.metadata)]

def contextReducedPayload (step : RunStep Float) : Dict Float :=
  [("query_id", orNone .str step.queryId),
    ("row_count", (step.metadata.lookup "row_count").getD .none),
    ("working_context", (step.metadata.lookup "working_context").getD (.dict []))]

def rebuiltStep (sequence : Int) (step : RunStep Float) : Draft Float := fun eventId =>
  let event : SseEvent Float :=
    match step.stepType with
    | .contextReduced =>
        rebuiltEvent run (.loop .contextReduced) sequence (contextReducedPayload step) eventId
    | stepType => rebuiltEvent run (.step stepType) sequence (stepPayload step) eventId
  { event with
    stepId := some step.stepId, llmCallId := step.llmCallId, toolCallId := step.toolCallId
    queryId := step.queryId }

def terminalFacts : Dict Float :=
  ["reason", "retryable", "error", "provider_error", "tool_error"].filterMap fun key =>
    match run.metadata.lookup key with
    | none | some .none => none
    | some value => some (key, value)

/-- `{**first, **second}` -/
def merged (first second : Dict Float) : Dict Float :=
  (first.map fun entry => (entry.1, (second.lookup entry.1).getD entry.2)) ++
    second.filter fun entry => (first.lookup entry.1).isNone

def rebuiltTerminal (sequence : Int) (telemetry : Dict Float) : Draft Float :=
  rebuiltEvent run (.loop (terminalEvent run.status)) sequence
    (merged
      (merged
        [("status", .str (statusText run.status)), ("input_tokens", .int run.inputTokens),
          ("output_tokens", .int run.outputTokens),
          ("total_tokens", .int (run.inputTokens + run.outputTokens)),
          ("estimated_cost_usd", .float run.estimatedCostUsd),
          ("failure_code", orNone .str run.failureCode),
          ("latency_ms", (telemetry.lookup "end_to_end_latency_ms").getD .none),
          ("telemetry", .dict telemetry)]
        telemetry)
      (terminalFacts run))

/-- `None` where the end cannot be rebuilt: telemetry that is no dictionary raises. -/
def storedTelemetry : Option (Dict Float) :=
  match run.metadata.lookup "telemetry" with
  | none => some []
  | some (.dict telemetry) => some telemetry
  | some _ => none

def rebuiltFrom : Int → List (RunStep Float) → List (Draft Float)
  | sequence, [] => ((storedTelemetry run).map (rebuiltTerminal run (sequence + 1))).toList
  | sequence, step :: steps =>
      match RunStep.declined step with
      | some outcome =>
          rebuiltEvent run (.loop .runDeclined) (sequence + 1)
              [("outcome", .str outcome), ("reason", (step.metadata.lookup "reason").getD .none),
                ("tool_source", (step.metadata.lookup "tool_source").getD .none)] ::
            rebuiltStep run (sequence + 2) step :: rebuiltFrom (sequence + 2) steps
      | none => rebuiltStep run (sequence + 1) step :: rebuiltFrom (sequence + 1) steps

def rebuilt (steps : List (RunStep Float)) : List (Draft Float) :=
  rebuiltEvent run .runReceived 1 [("status", .str "in_progress")] :: rebuiltFrom run 1 steps

def rebuiltJob (runId : String) (job : Jobs.Job (Dict Float)) : Draft Float := fun eventId =>
  { eventId
    eventType := if job.status = .completed then .jobCompleted else .jobFailed
    runId
    conversationId := (job.params.lookup "conversation_id").getD (.str runId)
    sequence := 1
    payload :=
      [("job_id", .str runId),
        ("status", .str (if job.status = .completed then "COMPLETED" else "FAILED")),
        ("artifact_url", orNone .str job.artifactUrl), ("error", orNone .str job.error)] }

end Durable

section Types

def stepTypeText : StepType → String
  | .llmProposal => "llm_proposal"
  | .answer => "answer"
  | .validationError => "validation_error"
  | .toolCall => "tool_call"
  | .observationScan => "observation_scan"
  | .contextReduced => "context_reduced"
  | .groundingCheck => "grounding_check"
  | .crewai role => "crewai_" ++ role.lower
  | .llmFinalAnswer => "llm_final_answer"

def runEventText : RunEventType → String
  | .contextLoading => "context.loading"
  | .llmStarted => "llm.started"
  | .llmCompleted => "llm.completed"
  | .runDeclined => "run.declined"
  | .toolRequested => "tool.requested"
  | .toolStarted => "tool.started"
  | .toolFailed => "tool.failed"
  | .toolCompleted => "tool.completed"
  | .contextReduced => "context.reduced"
  | .answerDelta => "answer.delta"
  | .answerCompleted => "answer.completed"
  | .answerAudio => "answer.audio"
  | .runCompleted => "run.completed"
  | .runFailed => "run.failed"
  | .runBudgetExceeded => "run.budget_exceeded"
  | .runCancelled => "run.cancelled"

def SseEventType.text : SseEventType → String
  | .runReceived => "run.received"
  | .cancelRequested => "run.cancel_requested"
  | .loop eventType => runEventText eventType
  | .step stepType => "step." ++ stepTypeText stepType
  | .jobStarted => "job.started"
  | .jobCompleted => "job.completed"
  | .jobFailed => "job.failed"

end Types

section Encoding

structure FrameJson (Float : Type) where
  num : NumOps Float
  /-- `json.dumps(value)`; `none` where it raises. -/
  dumps : PyValue Float → Option (List Char)
  loads : List Char → Except (PyError Unit) (PyValue Float)
  /-- `float(value)` -/
  float : PyValue Float → Except (PyError Unit) Float

structure FrameJson.Lawful (json : FrameJson Float) : Prop where
  ne_nil : ∀ value text, json.dumps value = some text → text ≠ []
  oneLine : ∀ value text, json.dumps value = some text → ∀ c ∈ text, isLineBreak c = false
  loads_dumps : ∀ value text, json.dumps value = some text → json.loads text = .ok value

structure PublishedEvent (Float : Type) extends SseEvent Float where
  timestamp : String

def PublishedEvent.envelope (num : NumOps Float) (event : PublishedEvent Float) : Dict Float :=
  [("event_id", .str event.eventId.text), ("event_type", .str event.eventType.text),
    ("run_id", .str event.runId),
    ("conversation_id", event.conversationId), ("sequence", .int event.sequence),
    ("step_id", orNone .str event.stepId), ("llm_call_id", orNone .str event.llmCallId),
    ("tool_call_id", orNone .str event.toolCallId), ("query_id", orNone .str event.queryId),
    ("timestamp", .str event.timestamp), ("payload", .dict event.payload)] ++
    match event.evalRunId with
    | some evalRunId => if evalRunId.truthy num then [("eval_run_id", evalRunId)] else []
    | none => []

def PublishedEvent.frameLines (event : PublishedEvent Float) (data : List Char) :
    List (List Char) :=
  ["id: ".toList ++ event.eventId.text.toList, "event: ".toList ++ event.eventType.text.toList,
    "data: ".toList ++ data, []]

def PublishedEvent.toSse (json : FrameJson Float) (event : PublishedEvent Float) :
    Option (List Char) :=
  (json.dumps (.dict (event.envelope json.num))).map fun data =>
    (event.frameLines data).flatMap fun line => line ++ ['\n']

def wireText (json : FrameJson Float) : List (PublishedEvent Float) → Option (List Char)
  | [] => some []
  | event :: events => do some ((← event.toSse json) ++ (← wireText json events))

end Encoding

end AiAnalytics.App.Events

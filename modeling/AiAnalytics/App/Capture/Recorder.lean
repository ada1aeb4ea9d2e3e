import AiAnalytics.App.Orchestration.LoopState
import AiAnalytics.Lib.Json
import AiAnalytics.Lib.PyLibrary

/-!
# The capture recorder

`CaptureRecorder` builds the records of a run from the stored run and its steps: one for each model
call that the run's metadata lists, one for each tool step. What `capture_run` hands to the sink is
all of them, or nothing if one cannot be built.
-/

namespace AiAnalytics.App.Capture

open Lib App.Loop

variable {Float : Type}

section Settings

structure CaptureSettings where
  includeContent : Bool := false
  maxFieldBytes : Int := 4096
  executionMode : String := "unverified"

structure RecorderLibrary (Float : Type) where
  num : NumOps Float
  floats : JsonFloats Float
  /-- The value of a decimal digit of any script -/
  digit : Char → Option Nat
  /-- `hashlib.sha256(text.encode("utf-8")).hexdigest()` -/
  sha256 : String → String

structure CaptureRecorder (Float : Type) where
  lib : RecorderLibrary Float
  settings : CaptureSettings
  tenantId : String := "default"
  traceId : Option String := none
  providerClient : Option String := none

variable (recorder : CaptureRecorder Float)

def CaptureRecorder.sha256Hex (text : Option String) : PyValue Float :=
  orNone (fun text => .str (recorder.lib.sha256 text)) text

def truncatedMark : String := "…[truncated]"

def takeBytes : Nat → List Char → List Char
  | _, [] => []
  | n, c :: text => if c.utf8Size ≤ n then c :: takeBytes (n - c.utf8Size) text else []

def CaptureRecorder.cap (text : String) : String :=
  let limit := recorder.settings.maxFieldBytes
  if (text.utf8ByteSize : Int) ≤ limit then text
  else
    let kept := if limit < 0 then text.utf8ByteSize + limit else limit
    String.ofList (takeBytes kept.toNat text.toList) ++ truncatedMark

end Settings

section Calls

def field (call : Dict Float) (key : String) : PyValue Float := (call.lookup key).getD .none

def usage (call : Dict Float) (key : String) : PyValue Float :=
  match field call "usage_known" with
  | .bool false => .none
  | _ => field call key

def cost (num : NumOps Float) (call : Dict Float) : PyValue Float × PyValue Float × PyValue Float :=
  if (field call "cost_kind").isNone = false then
    (field call "result_cost_usd", field call "cost_kind", field call "pricing_version")
  else if (field call "cost_usd").truthy num then
    (field call "cost_usd", .str "estimated", field call "pricing_version")
  else (.none, .str "unknown", field call "pricing_version")

/-- `_ROLE_BY_STEP.get(step.step_type, "answer")` -/
def roleByStep : StepType → String
  | .llmProposal => "planner"
  | .llmFinalAnswer => "answer"
  | _ => "answer"

def stepByCall (steps : List (RunStep Float)) :
    PyValue Float → Except (PyError Empty) (Option (RunStep Float))
  | .list _ | .dict _ => .error .typeError
  | .str id => .ok (steps.reverse.find? fun step => step.llmCallId = some id ∧ id ≠ "")
  | _ => .ok none

variable (recorder : CaptureRecorder Float)

def CaptureRecorder.base (run : Run Float) : Dict Float :=
  [("schema_version", .str "capture.v1"), ("run_id", .str run.runId),
    ("turn_id", orNone .str run.messageId),
    ("tenant_id", .str recorder.tenantId), ("trace_id", orNone .str recorder.traceId),
    ("conversation_id", .str run.conversationId),
    ("prompt_config_version", orNone .str run.promptVersion),
    ("run_status", .str (statusText run.status)), ("run_started_at", .str run.startedAt),
    ("execution_mode", .str (if recorder.providerClient = some "LocalFakeLLMClient" then "scripted"
      else recorder.settings.executionMode)),
    ("provider_client", orNone .str recorder.providerClient)] ++
    if (field run.metadata "eval_run_id").truthy recorder.lib.num then
      [("eval_run_id", field run.metadata "eval_run_id")]
    else []

def reasoningKeys : List String :=
  ["reasoning_present", "reasoning_chars", "output_basis", "outcome"]

def CaptureRecorder.modelRecord (run : Run Float) (step : Option (RunStep Float)) (stepNumber : Int)
    (question answer : Option String) (call : Dict Float) : Dict Float :=
  let num := recorder.lib.num
  let role :=
    (field call "role").orElse num
      (.str ((step.map fun step => roleByStep step.stepType).getD "answer"))
  let content (text : Option String) : PyValue Float :=
    if recorder.settings.includeContent then orNone (fun text => .str (recorder.cap text)) text
      else .none
  recorder.base run ++
    [("record_type", .str "model_call"), ("call_id", field call "llm_call_id"),
      ("step", .int stepNumber),
      ("role", role), ("model_alias", field call "model_alias"),
      ("provider_model_id", field call "model_id"),
      ("input_tokens", usage call "input_tokens"), ("output_tokens", usage call "output_tokens"),
      ("reasoning_tokens", usage call "reasoning_tokens"), ("ttft_ms", field call "ttft_ms"),
      ("latency_ms", field call "latency_ms"), ("finish_reason", field call "finish_reason"),
      ("error", field call "error_code"),
      ("fallback_used", .bool ((field call "fallback_used").truthy num)),
      ("cost_usd", (cost num call).1), ("cost_kind", (cost num call).2.1),
      ("pricing_version", (cost num call).2.2),
      ("tool_source", field call "tool_source"),
      ("prompt_template_id", field call "prompt_template_id"),
      ("prompt_template_version", field call "prompt_template_version"),
      ("prompt_sha256", field call "prompt_sha256"),
      ("question_sha256", recorder.sha256Hex question),
      ("answer_sha256", if role.eqStr "answer" then recorder.sha256Hex answer else .none),
      ("question", content question), ("answer", if role.eqStr "answer" then content answer
        else .none)] ++
    if (field call "output_basis").truthy num then reasoningKeys.map fun key =>
      (key, field call key) else []

def CaptureRecorder.modelRecords (run : Run Float) (steps : List (RunStep Float))
    (question answer : Option String) :
    Int → List (PyValue Float) → Except (PyError Empty) (List (Dict Float))
  | _, [] => .ok []
  | nextStep, .dict call :: calls => do
      let step ← stepByCall steps (field call "llm_call_id")
      let records ← CaptureRecorder.modelRecords run steps question answer
        (if step.isSome then nextStep else nextStep + 1) calls
      return recorder.modelRecord run step ((step.map RunStep.sequence).getD nextStep) question
        answer call :: records
  | _, _ :: _ => .error .attributeError

/-- `run.metadata.get("llm_calls", [])`, iterated over: a text gives texts, a dictionary its
keys. -/
def listedCalls (run : Run Float) : Except (PyError Empty) (List (PyValue Float)) :=
  match (run.metadata.lookup "llm_calls").getD (.list []) with
  | .list calls => .ok calls
  | .str text => .ok (text.toList.map fun c => .str (String.ofList [c]))
  | .dict entries => .ok (entries.map fun entry => .str entry.1)
  | _ => .error .typeError

end Calls

section Tools

variable (recorder : CaptureRecorder Float)

def CaptureRecorder.parsed (summary : Option String) : Option (PyValue Float) :=
  match summary with
  | none | some "" => none
  | some text => jsonLoads recorder.lib.floats text.toList

/-- `sorted(parsed)` -/
def CaptureRecorder.argumentKeys (summary : Option String) : PyValue Float :=
  match recorder.parsed summary with
  | some (.dict entries) => .list ((sortedTexts (entries.map Prod.fst)).map .str)
  | _ => .none

def CaptureRecorder.arguments (summary : Option String) : PyValue Float :=
  match summary with
  | none | some "" => .none
  | some text => match jsonLoads recorder.lib.floats text.toList with
      | none => .str (recorder.cap text)
      | some parsed =>
          if (jsonDumps recorder.lib.floats parsed).any (·.length ≤ 2048) then parsed
            else .str (recorder.cap text)

def CaptureRecorder.rowCount (summary : String) : PyValue Float :=
  if "rows=".toList <+: summary.toList then
    orNone .int (readInt recorder.lib.digit ((summary.toList.takeWhile (· ≠ ',')).drop 5))
  else .none

def CaptureRecorder.toolRecord (run : Run Float) (step : RunStep Float) : Dict Float :=
  let summary := step.outputSummary.getD ""
  recorder.base run ++
    [("record_type", .str "tool_call"),
      ("call_id", .str (match step.toolCallId with
        | none | some "" => step.stepId
        | some id => id)),
      ("step", .int step.sequence), ("tool_name", orNone .str step.toolName),
      ("tool_call_id", orNone .str step.toolCallId),
      ("arguments_sha256", recorder.sha256Hex step.inputSummary),
      ("argument_keys", recorder.argumentKeys step.inputSummary),
      ("arguments", if recorder.settings.includeContent then recorder.arguments step.inputSummary
        else .none),
      ("query_id", orNone .str step.queryId),
      ("status", .str (match step.status with
        | .completed => "completed"
        | .failed => "failed")),
      ("row_count", recorder.rowCount summary), ("latency_ms", orNone .int step.durationMs),
      ("error", if step.status = .failed then .str summary else .none)]

def CaptureRecorder.build (run : Run Float) (steps : List (RunStep Float))
    (question answer : Option String) : Except (PyError Empty) (List (Dict Float)) := do
  let calls ← listedCalls run
  let nextStep := (steps.map RunStep.sequence).max?.getD 0 + 1
  let records ← recorder.modelRecords run steps question answer nextStep calls
  return records ++ (steps.filter fun step => step.stepType = .toolCall).map
    (recorder.toolRecord run)

def CaptureRecorder.captureRun (run : Option (Run Float)) (steps : List (RunStep Float))
    (question answer : Option String) : List (Dict Float) :=
  match run.map fun run => recorder.build run steps question answer with
  | some (.ok records) => records
  | _ => []

end Tools

end AiAnalytics.App.Capture

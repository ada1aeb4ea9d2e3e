import AiAnalytics.App.Orchestration.LoopState

/-!
# The job worker

`process_one_job` takes one message of the queue: it reads or creates the job, marks it as running,
computes the report and marks the job as completed or failed. The repository, the consumer and the
publisher do what they are asked for. How the accesses of several workers interleave is the subject
of `JobSystem`; here it is what one message can hold. Logging is left out.
-/

namespace AiAnalytics.App.JobWorker

open Lib Lib.Prog
open App.Loop (Dict PyFault orNone)

variable {Float : Type}

section Records

structure Job (Float : Type) where
  jobType : String := "create_full_report"
  status : String := "PENDING"
  createdAt : String
  startedAt : Option String := none
  completedAt : Option String := none
  params : PyValue Float := .dict []
  result : Option (PyValue Float) := none
  artifactUrl : Option String := none
  error : Option String := none
  metadata : Dict Float := []

def Job.Terminal (job : Job Float) : Prop := job.status = "COMPLETED" ∨ job.status = "FAILED"

instance : DecidablePred (@Job.Terminal Float) := fun job =>
  inferInstanceAs (Decidable (job.status = _ ∨ job.status = _))

structure JobMessage (Float : Type) where
  jobId : Option String := none
  jobType : Option String := none
  status : Option String := none
  createdAt : Option String := none
  params : Option (PyValue Float) := none

structure JobEvent (Float : Type) where
  eventType : String
  runId : String
  conversationId : PyValue Float
  sequence : Int
  payload : Dict Float

structure WorkerConfig (Float : Type) where
  loads : String → Except PyFault (PyValue Float)
  publishes : Bool := true
  copies : Bool := true

structure WorkerState (Float : Type) where
  jobs : String → Option (Job Float)
  events : List (JobEvent Float) := []
  acked : List String := []

inductive WorkerCall (Float : Type) where
  | utcnow
  | reportId
  | getDatasetProfile
  | writeArtifact (jobId : String) (report : Dict Float)
  | setCopy (jobId : String) (job : Job Float)

def WorkerReply : WorkerCall Float → Type
  | .utcnow | .reportId => String
  | .getDatasetProfile => Except PyFault (PyValue Float)
  | .writeArtifact _ _ | .setCopy _ _ => Option PyFault

abbrev WorkerM (Float α : Type) := Prog (WorkerCall Float) WorkerReply (WorkerState Float) PyFault α

abbrev WorkerLog (Float : Type) := List (Exchange (@WorkerReply Float))

end Records

section Stores

variable (cfg : WorkerConfig Float)

def WorkerState.putJob (state : WorkerState Float) (jobId : String) (job : Job Float) :
    WorkerState Float :=
  { state with jobs := Function.update state.jobs jobId (some job) }

def orRaise {α : Type} : Except PyFault α → WorkerM Float α
  | .ok a => pure a
  | .error fault => throw fault

def createJob (jobId : String) (job : Job Float) : WorkerM Float PUnit := do
  let state ← get
  raiseIf ((state.jobs jobId).isSome = true)
    ⟨"DuplicateEntityError", "Job " ++ jobId ++ " already exists"⟩
  modify fun state => state.putJob jobId job

def updateJob (jobId : String) (job : Job Float) : WorkerM Float PUnit := do
  let state ← get
  raiseIf ((state.jobs jobId).isNone = true)
    ⟨"EntityNotFoundError", "Job " ++ jobId ++ " not found"⟩
  modify fun state => state.putJob jobId job

/-- `_update_job`: the copy in Redis is written if it can be. -/
def updateJobAndCopy (jobId : String) (job : Job Float) : WorkerM Float PUnit := do
  updateJob jobId job
  if cfg.copies then do
    let _ ← ask (.setCopy jobId job : WorkerCall Float)
    pure ()
  else pure ()

def publish (event : JobEvent Float) : WorkerM Float PUnit :=
  modify fun state => { state with events := state.events ++ if cfg.publishes then [event] else [] }

def ack (messageId : String) : WorkerM Float PUnit :=
  modify fun state => { state with acked := state.acked ++ [messageId] }

end Stores

section Values

/-- `type(v).__name__` -/
def typeName : PyValue Float → String
  | .none => "NoneType"
  | .bool _ => "bool"
  | .int _ => "int"
  | .float _ => "float"
  | .decimal _ => "decimal.Decimal"
  | .str _ => "str"
  | .list _ => "list"
  | .dict _ => "dict"

def entriesOf : PyValue Float → Except PyFault (Dict Float)
  | .dict entries => .ok entries
  | value =>
      .error ⟨"AttributeError", "'" ++ typeName value ++ "' object has no attribute 'get'"⟩

def getOr (entries : Dict Float) (key : String) (default : PyValue Float) : PyValue Float :=
  (entries.lookup key).getD default

end Values

section Processing

variable (cfg : WorkerConfig Float)

def decodeParams (message : JobMessage Float) : Except PyFault (PyValue Float) :=
  match message.params.getD (.str "{}") with
  | .str text => cfg.loads text
  | value => .ok value

def resolveJob (jobId : String) (message : JobMessage Float) : WorkerM Float (Job Float) := do
  let state ← get
  match state.jobs jobId with
  | some job => pure job
  | none => do
      let params ← orRaise (decodeParams cfg message)
      let now : String ← ask (.utcnow : WorkerCall Float)
      let job : Job Float :=
        { jobType := message.jobType.getD "create_full_report"
          status := message.status.getD "PENDING"
          createdAt := message.createdAt.getD now
          params }
      createJob jobId job
      pure job

def Job.running (job : Job Float) (startedAt : String) : Job Float :=
  { jobType := job.jobType, status := "RUNNING", createdAt := job.createdAt
    startedAt := some startedAt, params := job.params, metadata := job.metadata }

def Job.completed (job : Job Float) (jobId startedAt completedAt : String) (report : Dict Float) :
    Job Float :=
  { jobType := job.jobType, status := "COMPLETED", createdAt := job.createdAt
    startedAt := some startedAt, completedAt := some completedAt, params := job.params
    result := some (.dict report), artifactUrl := some ("/api/jobs/" ++ jobId ++ "/artifact")
    metadata := job.metadata }

def Job.failed (job : Job Float) (startedAt completedAt : String) (fault : PyFault) : Job Float :=
  { jobType := job.jobType, status := "FAILED", createdAt := job.createdAt
    startedAt := some startedAt, completedAt := some completedAt, params := job.params
    error := some fault.message, metadata := job.metadata }

def datasetSummary (profile : Dict Float) : Dict Float :=
  [("row_count", getOr profile "row_count" .none),
    ("zone_row_count", getOr profile "zone_row_count" .none),
    ("timing_ms", getOr profile "timing_ms" .none),
    ("duckdb_settings", getOr profile "duckdb_settings" (.dict []))]

def reportData (jobId reportId completedAt : String) (profile : Dict Float) : Dict Float :=
  [("report_id", .str ("rep_" ++ reportId)), ("job_id", .str jobId),
    ("title", .str "NYC Yellow Taxi Daily-Zone Analytics Report"),
    ("generated_at", .str completedAt), ("dataset_summary", .dict (datasetSummary profile)),
    ("daily_zone_rows", getOr profile "daily_zone_rows" (.list []))]

/-- The `try` block. -/
def makeReport (messageId jobId : String) (job : Job Float) (startedAt : String)
    (conversationId : PyValue Float) : WorkerM Float (Option (Job Float)) :=
  if job.jobType = "create_full_report" then do
    let reply : Except PyFault (PyValue Float) ← ask (.getDatasetProfile : WorkerCall Float)
    let profile ← orRaise reply
    let reportId : String ← ask (.reportId : WorkerCall Float)
    let completedAt : String ← ask (.utcnow : WorkerCall Float)
    let entries ← orRaise (entriesOf profile)
    let report := reportData jobId reportId completedAt entries
    let _ ← ask (.writeArtifact jobId report : WorkerCall Float)
    let completed := job.completed jobId startedAt completedAt report
    updateJobAndCopy cfg jobId completed
    publish cfg
      { eventType := "job.completed", runId := jobId, conversationId, sequence := 2
        payload :=
          [("job_id", .str jobId), ("status", .str "COMPLETED"),
            ("artifact_url", orNone .str completed.artifactUrl),
            ("summary", .dict (datasetSummary entries))] }
    ack messageId
    pure (some completed)
  else throw ⟨"ValueError", "Unsupported job_type: " ++ job.jobType⟩

/-- The `except` clause. -/
def failJob (messageId jobId : String) (job : Job Float) (startedAt : String)
    (conversationId : PyValue Float) (fault : PyFault) : WorkerM Float (Option (Job Float)) := do
  let completedAt : String ← ask (.utcnow : WorkerCall Float)
  let failed := job.failed startedAt completedAt fault
  updateJobAndCopy cfg jobId failed
  publish cfg
    { eventType := "job.failed", runId := jobId, conversationId, sequence := 2
      payload :=
        [("job_id", .str jobId), ("status", .str "FAILED"), ("error", .str fault.message)] }
  ack messageId
  pure (some failed)

/-- From the transition to `RUNNING` on. -/
def executeJob (messageId jobId : String) (job : Job Float) :
    WorkerM Float (Option (Job Float)) := do
  let startedAt : String ← ask (.utcnow : WorkerCall Float)
  updateJobAndCopy cfg jobId (job.running startedAt)
  let entries ← orRaise (entriesOf job.params)
  let conversationId := getOr entries "conversation_id" (.str jobId)
  publish cfg
    { eventType := "job.started", runId := jobId, conversationId, sequence := 1
      payload :=
        [("job_id", .str jobId), ("status", .str "RUNNING"), ("job_type", .str job.jobType)] }
  tryCatch (makeReport cfg messageId jobId job startedAt conversationId)
    (failJob cfg messageId jobId job startedAt conversationId)

def processOneJob (messageId : String) (message : JobMessage Float) :
    WorkerM Float (Option (Job Float)) :=
  match message.jobId.filter (· ≠ "") with
  | none => do
      ack messageId
      pure none
  | some jobId => do
      let job ← resolveJob cfg jobId message
      if job.Terminal then do
        ack messageId
        pure (some job)
      else executeJob cfg messageId jobId job

/-- The messages of one `read_jobs`, in the loop of `run`. -/
def processJobs : List (String × JobMessage Float) → WorkerM Float PUnit
  | [] => pure ()
  | (messageId, message) :: jobs => do
      let _ ← processOneJob cfg messageId message
      processJobs jobs

end Processing

end AiAnalytics.App.JobWorker

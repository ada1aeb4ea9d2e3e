import AiAnalytics.Lib.Machine
import Mathlib.Data.List.Basic
import Mathlib.Logic.Function.Basic

/-!
# Asynchronous jobs

A job is created in the repository, queued on a Redis stream and copied to a Redis key; workers of
one consumer group take it from the stream, and update both copies; status requests read both, and
write the Redis copy back to the repository. Every access to a store is one step, so that the
processes interleave at any of them. A key's value is JSON text that decodes to the fields it was
made of. The values of JSON objects are a parameter.
-/

namespace AiAnalytics.App.Jobs

open Lib

variable {Json : Type}

section Records

inductive JobStatus where
  | pending
  | running
  | completed
  | failed
deriving DecidableEq, Repr

def JobStatus.Terminal (status : JobStatus) : Prop := status = .completed ∨ status = .failed

instance : DecidablePred JobStatus.Terminal := fun status =>
  inferInstanceAs (Decidable (status = _ ∨ status = _))

structure Job (Json : Type) where
  jobType : String := "create_full_report"
  status : JobStatus := .pending
  createdAt : String
  startedAt : Option String := none
  completedAt : Option String := none
  params : Json
  result : Option Json := none
  artifactUrl : Option String := none
  error : Option String := none
  metadata : Json

structure JobCopy (Json : Type) where
  jobType : String
  status : JobStatus
  createdAt : String
  startedAt : Option String
  completedAt : Option String
  params : Json
  result : Option Json
  artifactUrl : Option String
  error : Option String

structure JobMessage (Json : Type) where
  jobType : String
  status : JobStatus
  createdAt : String
  params : Json

def Job.copy (job : Job Json) : JobCopy Json :=
  { jobType := job.jobType, status := job.status, createdAt := job.createdAt
    startedAt := job.startedAt, completedAt := job.completedAt, params := job.params
    result := job.result, artifactUrl := job.artifactUrl, error := job.error }

def Job.message (job : Job Json) : JobMessage Json :=
  { jobType := job.jobType, status := job.status, createdAt := job.createdAt, params := job.params }

variable [EmptyCollection Json]

def JobCopy.job (copy : JobCopy Json) : Job Json :=
  { jobType := copy.jobType, status := copy.status, createdAt := copy.createdAt
    startedAt := copy.startedAt, completedAt := copy.completedAt, params := copy.params
    result := copy.result, artifactUrl := copy.artifactUrl, error := copy.error
    metadata := ∅ }

def JobMessage.job (message : JobMessage Json) : Job Json :=
  { jobType := message.jobType, status := message.status, createdAt := message.createdAt
    params := message.params, metadata := ∅ }

def submittedJob (jobType createdAt : String) (params : Json) : Job Json :=
  { jobType, createdAt, params, metadata := ∅ }

omit [EmptyCollection Json]

def Job.running (job : Job Json) (startedAt : String) : Job Json :=
  { jobType := job.jobType, status := .running, createdAt := job.createdAt
    startedAt := some startedAt, params := job.params, metadata := job.metadata }

inductive Outcome (Json : Type) where
  | reported (completedAt : String) (report : Json)
  | raised (completedAt : String) (error : String)

def Job.finished (job : Job Json) (jobId startedAt : String) : Outcome Json → Job Json
  | .reported completedAt report =>
      { jobType := job.jobType, status := .completed, createdAt := job.createdAt
        startedAt := some startedAt, completedAt := some completedAt, params := job.params
        result := some report, artifactUrl := some ("/api/jobs/" ++ jobId ++ "/artifact")
        metadata := job.metadata }
  | .raised completedAt error =>
      { jobType := job.jobType, status := .failed, createdAt := job.createdAt
        startedAt := some startedAt, completedAt := some completedAt, params := job.params
        error := some error, metadata := job.metadata }

end Records

section System

inductive Submitting where
  | created
  | queued
  | returned
deriving DecidableEq, Repr

inductive Stage (Json : Type) where
  | create (job : Job Json)
  | start (job : Job Json)
  | copyRunning (job : Job Json) (startedAt : String)
  | work (job : Job Json) (startedAt : String)
  | copyFinal (job : Job Json)
  | ack

structure Worker (Json : Type) where
  current : Option (String × Stage Json) := none
  batch : List (String × JobMessage Json) := []

structure Reader (Json : Type) where
  jobId : String
  found : Bool
  copy : Option (JobCopy Json) := none

structure JobSystem (Json : Type) where
  repo : String → Option (Job Json) := fun _ => none
  redis : String → Option (JobCopy Json) := fun _ => none
  submissions : String → Option (Job Json × Submitting) := fun _ => none
  stream : List (String × JobMessage Json) := []
  /-- How many entries the group has been given. -/
  delivered : Nat := 0
  workers : String → Option (Worker Json) := fun _ => none
  readers : Nat → Option (Reader Json) := fun _ => none

inductive JobStep (Json : Type) where
  | submit (jobId : String) (job : Job Json)
  | xadd (jobId : String) (reached : Bool)
  | setCopy (jobId : String) (reached : Bool)
  | startWorker (name : String)
  | crash (name : String)
  | readJobs (name : String)
  | begin (name : String)
  | createJob (name : String)
  | storeRunning (name startedAt : String)
  | copyRunning (name : String) (reached : Bool)
  | storeFinal (name : String) (outcome : Outcome Json)
  | copyFinal (name : String) (reached : Bool)
  | ack (name : String)
  | readRepo (reader : Nat) (jobId : String)
  | readCopy (reader : Nat)
  | writeRepo (reader : Nat)
  | expire (jobId : String)

namespace JobSystem

variable (system : JobSystem Json)

def putJob (jobId : String) (job : Job Json) : JobSystem Json :=
  { system with repo := Function.update system.repo jobId (some job) }

def putCopy (jobId : String) (copy : JobCopy Json) (reached : Bool) : JobSystem Json :=
  if reached then { system with redis := Function.update system.redis jobId (some copy) }
    else system

def putSubmission (jobId : String) (job : Job Json) (stage : Submitting) : JobSystem Json :=
  { system with submissions := Function.update system.submissions jobId (some (job, stage)) }

def putWorker (name : String) (worker : Option (Worker Json)) : JobSystem Json :=
  { system with workers := Function.update system.workers name worker }

def putReader (number : Nat) (reader : Option (Reader Json)) : JobSystem Json :=
  { system with readers := Function.update system.readers number reader }

end JobSystem

def readCount : Nat := 10

variable [EmptyCollection Json]

def JobSystem.advance (system : JobSystem Json) (name : String) (worker : Worker Json)
    (jobId : String) (stage : Stage Json) : JobSystem Json :=
  system.putWorker name (some { worker with current := some (jobId, stage) })

def beginStage (system : JobSystem Json) (jobId : String) (message : JobMessage Json) :
    Stage Json :=
  match system.repo jobId with
  | none => .create message.job
  | some job => if job.status.Terminal then .ack else .start job

/-- One step on a message. An exception outside the `try` of `process_one_job` ends the worker. -/
def stageStep (system : JobSystem Json) (name : String) (worker : Worker Json) (jobId : String) :
    Stage Json → JobStep Json → Option (JobSystem Json)
  | .create job, .createJob _ =>
      match system.repo jobId with
      | some _ => some (system.putWorker name none)
      | none =>
          some ((system.putJob jobId job).advance name worker jobId
            (if job.status.Terminal then .ack else .start job))
  | .start job, .storeRunning _ startedAt =>
      match system.repo jobId with
      | none => some (system.putWorker name none)
      | some _ =>
          some ((system.putJob jobId (job.running startedAt)).advance name worker jobId
            (.copyRunning job startedAt))
  | .copyRunning job startedAt, .copyRunning _ reached =>
      some ((system.putCopy jobId (job.running startedAt).copy reached).advance name worker jobId
        (.work job startedAt))
  | .work job startedAt, .storeFinal _ outcome =>
      -- any other type of job raises, and so does a profile that cannot be read
      if (outcome matches .reported ..) && job.jobType ≠ "create_full_report" then none
      else
        match system.repo jobId with
        | none => some (system.putWorker name none)
        | some _ =>
            some ((system.putJob jobId (job.finished jobId startedAt outcome)).advance name worker
              jobId (.copyFinal (job.finished jobId startedAt outcome)))
  | .copyFinal job, .copyFinal _ reached =>
      some ((system.putCopy jobId job.copy reached).advance name worker jobId .ack)
  | .ack, .ack _ => some (system.putWorker name (some { worker with current := none }))
  | _, _ => none

def JobStep.worker : JobStep Json → Option String
  | .createJob name | .storeRunning name _ | .copyRunning name _ | .storeFinal name _
  | .copyFinal name _ | .ack name => some name
  | _ => none

/-- `_resolve_job` writes the copy back; a failed write is passed over. -/
def writeBack (system : JobSystem Json) (reader : Reader Json) (copy : JobCopy Json) :
    JobSystem Json :=
  match reader.found, system.repo reader.jobId with
  | true, some _ | false, none => system.putJob reader.jobId copy.job
  | _, _ => system

def jobStep (system : JobSystem Json) (step : JobStep Json) : Option (JobSystem Json) :=
  match step with
  | .submit jobId job =>
      if job.status = .pending ∧ system.repo jobId = none then
        some ((system.putJob jobId job).putSubmission jobId job .created)
      else none
  | .xadd jobId reached =>
      match system.submissions jobId with
      | some (job, .created) =>
          -- an exception of `xadd` also skips the copy
          if reached then
            some { system.putSubmission jobId job .queued with
              stream := system.stream ++ [(jobId, job.message)] }
          else some (system.putSubmission jobId job .returned)
      | _ => none
  | .setCopy jobId reached =>
      match system.submissions jobId with
      | some (job, .queued) =>
          some ((system.putCopy jobId job.copy reached).putSubmission jobId job .returned)
      | _ => none
  | .startWorker name =>
      match system.workers name with
      | none => some (system.putWorker name (some {}))
      | some _ => none
  | .crash name => (system.workers name).map fun _ => system.putWorker name none
  | .readJobs name =>
      match system.workers name with
      | some ⟨none, []⟩ =>
          let batch := (system.stream.drop system.delivered).take readCount
          some { system.putWorker name (some { batch }) with
            delivered := system.delivered + batch.length }
      | _ => none
  | .begin name =>
      match system.workers name with
      | some ⟨none, (jobId, message) :: batch⟩ =>
          some (system.advance name { batch } jobId (beginStage system jobId message))
      | _ => none
  | .readRepo number jobId =>
      match system.readers number, system.repo jobId with
      | none, some job =>
          if job.status.Terminal then some system
          else some (system.putReader number (some { jobId, found := true }))
      | none, none => some (system.putReader number (some { jobId, found := false }))
      | some _, _ => none
  | .readCopy number =>
      match system.readers number with
      | some ⟨jobId, found, none⟩ =>
          match system.redis jobId with
          | none => some (system.putReader number none)
          | some copy => some (system.putReader number (some { jobId, found, copy := some copy }))
      | _ => none
  | .writeRepo number =>
      match system.readers number with
      | some ⟨jobId, found, some copy⟩ =>
          some ((writeBack system ⟨jobId, found, some copy⟩ copy).putReader number none)
      | _ => none
  | .expire jobId =>
      some { system with redis := Function.update system.redis jobId none }
  | step => do
      let name ← step.worker
      let worker ← system.workers name
      let (jobId, stage) ← worker.current
      stageStep system name worker jobId stage step

def jobMachine : Machine (JobSystem Json) (JobStep Json) := { step := jobStep }

end System

end AiAnalytics.App.Jobs

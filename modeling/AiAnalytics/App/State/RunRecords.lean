import AiAnalytics.App.State.Messages

/-!
# The runs of the DynamoDB repository

`create_run` writes a run in two puts: its record, and an item under its conversation by which
`list_runs` finds it. Every access to the table may fail, and how it does is an argument. Items of
other kinds have other keys and are left out.
-/

namespace AiAnalytics.App.RunRecords

open Lib

variable {Float : Type}

section Table

structure RunRecord (Float : Type) where
  runId : String
  conversationId : String
  messageId : Option String
  status : RunStatus
  model : Option String
  promptVersion : Option String
  startedAt : String
  completedAt : Option String
  inputTokens : Int
  outputTokens : Int
  estimatedCostUsd : Decimal
  failureCode : Option String
  metadata : PyValue Float

structure RunIndexItem where
  pk : List Char
  sk : List Char
  runId : String
  conversationId : String

structure RunTable (Float : Type) where
  conversations : List String := []
  records : List (RunRecord Float) := []
  index : List RunIndexItem := []

structure RunDatabase (Float : Type) where
  number : Int → Decimal
  decimal : Decimal → Decimal
  returned : PyValue Float → PyValue Float
  size : RunIndexItem → Nat

def runRecord (ops : FloatOps Float) (run : Run Float) : RunRecord Float :=
  { runId := run.runId, conversationId := run.conversationId, messageId := run.messageId
    status := run.status, model := run.model, promptVersion := run.promptVersion
    startedAt := run.startedAt, completedAt := run.completedAt, inputTokens := run.inputTokens
    outputTokens := run.outputTokens, estimatedCostUsd := ops.toDecimal run.estimatedCostUsd
    failureCode := run.failureCode, metadata := toDecimal ops (.dict run.metadata) }

/-- `RUN#{started_at}#{run_id}` -/
def runIndexKey (run : Run Float) : List Char :=
  "RUN#".toList ++ run.startedAt.toList ++ '#' :: run.runId.toList

def runIndexItem (run : Run Float) : RunIndexItem :=
  { pk := conversationKey run.conversationId, sk := runIndexKey run
    runId := run.runId, conversationId := run.conversationId }

def metadataEntries : PyValue Float → List (String × PyValue Float)
  | .dict entries => entries
  | _ => []

def RunRecord.decode (ops : FloatOps Float) (db : RunDatabase Float) (record : RunRecord Float) :
    Run Float :=
  { runId := record.runId, conversationId := record.conversationId, messageId := record.messageId
    status := record.status, model := record.model, promptVersion := record.promptVersion
    startedAt := record.startedAt, completedAt := record.completedAt
    inputTokens := (db.number record.inputTokens).toInt
    outputTokens := (db.number record.outputTokens).toInt
    estimatedCostUsd := ops.ofDecimal (db.decimal record.estimatedCostUsd)
    failureCode := record.failureCode
    metadata := metadataEntries (fromDecimal ops (db.returned record.metadata)) }

end Table

section Accesses

inductive TableFault where
  | client (code text : String)
  | raised (exception message : String)
deriving DecidableEq, Repr

/-- A put is carried out, or it fails. A failed one may have been applied. -/
inductive PutOutcome where
  | carriedOut
  | failed (fault : TableFault) (applied : Bool)
deriving DecidableEq, Repr

inductive RunStoreError where
  | conversationNotFound (conversationId : String)
  | runExists (runId : String)
  | stateError (message : String)
  | raised (exception message : String)
deriving DecidableEq, Repr

def TableFault.stateError (context : String) : TableFault → RunStoreError
  | .client _ text => .stateError (context ++ text)
  | .raised exception message => .raised exception message

def conditionFailedCode : String := "ConditionalCheckFailedException"

def conditionFailed : TableFault :=
  .client conditionFailedCode
    "An error occurred (ConditionalCheckFailedException) when calling the PutItem operation: The conditional request failed"

def access {α : Type} (context : String) (fault : Option TableFault) (value : α) :
    Except RunStoreError α :=
  match fault with
  | none => .ok value
  | some fault => .error (fault.stateError context)

/-- A put on the condition that its key is free; `stored` is the table with the item. -/
def conditionalPut (outcome : PutOutcome) (free : Bool) (table stored : RunTable Float) :
    Except TableFault Unit × RunTable Float :=
  match outcome with
  | .carriedOut => if free then (.ok (), stored) else (.error conditionFailed, table)
  | .failed fault applied => (.error fault, if applied && free then stored else table)

end Accesses

section Repository

variable (ops : FloatOps Float) (db : RunDatabase Float)

namespace RunTable

variable (table : RunTable Float)

def recordFree (run : Run Float) : Bool := !table.records.any fun record => record.runId = run.runId

def indexFree (run : Run Float) : Bool :=
  !table.index.any fun item => item.pk = conversationKey run.conversationId ∧
    item.sk = runIndexKey run

def putRecord (run : Run Float) : RunTable Float :=
  { table with records := table.records ++ [runRecord ops run] }

def putIndex (run : Run Float) : RunTable Float :=
  { table with index := table.index ++ [runIndexItem run] }

/-- The first page of the conversation's items whose sort key begins with `RUN#`. -/
def queryRuns (conversationId : String) : List RunIndexItem :=
  let items := table.index.filter fun item =>
    item.pk = conversationKey conversationId ∧ "RUN#".toList.isPrefixOf item.sk
  takeRunPage pageLimit (items.insertionSort fun a b => a.sk ≤ b.sk)
where
  takeRunPage : Nat → List RunIndexItem → List RunIndexItem
    | _, [] => []
    | budget, item :: items =>
        if db.size item ≤ budget then item :: takeRunPage (budget - db.size item) items else []

def getRun (fault : Option TableFault) (runId : String) :
    Except RunStoreError (Option (Run Float)) :=
  access "Failed to get run: " fault
    ((table.records.find? fun record => record.runId = runId).map (·.decode ops db))

def readRuns :
    List (Option TableFault) → List RunIndexItem → Except RunStoreError (List (Run Float))
  | _, [] => .ok []
  | faults, item :: items => do
      let run ← table.getRun ops db (faults.head?.getD none) item.runId
      let runs ← readRuns faults.tail items
      pure (run.toList ++ runs)

def listRuns (fault : Option TableFault) (faults : List (Option TableFault))
    (conversationId : String) : Except RunStoreError (List (Run Float)) := do
  let items ← access "Failed to list conversation runs: " fault (table.queryRuns db conversationId)
  table.readRuns ops db faults items

end RunTable

structure CreateOutcomes where
  conversation : Option TableFault := none
  record : PutOutcome := .carriedOut
  index : PutOutcome := .carriedOut

def recordError (run : Run Float) (fault : TableFault) : RunStoreError :=
  match fault with
  | .client code text =>
      if code = conditionFailedCode then .runExists run.runId
      else .stateError ("Failed to create run: " ++ text)
  | .raised exception message => .raised exception message

def createIndex (outcomes : CreateOutcomes) (table : RunTable Float) (run : Run Float) :
    Except RunStoreError (Run Float) × RunTable Float :=
  let put := conditionalPut outcomes.index (table.indexFree run) table (table.putIndex run)
  match put.1 with
  | .ok () => (.ok run, put.2)
  | .error fault => (.error (fault.stateError "Failed to index conversation run: "), put.2)

def createRecord (outcomes : CreateOutcomes) (table : RunTable Float) (run : Run Float) :
    Except RunStoreError (Run Float) × RunTable Float :=
  let put := conditionalPut outcomes.record (table.recordFree run) table (table.putRecord ops run)
  match put.1 with
  | .ok () => createIndex outcomes put.2 run
  | .error fault => (.error (recordError run fault), put.2)

def createRun (outcomes : CreateOutcomes) (table : RunTable Float) (run : Run Float) :
    Except RunStoreError (Run Float) × RunTable Float :=
  match access "Failed to get conversation: " outcomes.conversation
      (decide (run.conversationId ∈ table.conversations)) with
  | .error error => (.error error, table)
  | .ok false => (.error (.conversationNotFound run.conversationId), table)
  | .ok true => createRecord ops outcomes table run

end Repository

end AiAnalytics.App.RunRecords

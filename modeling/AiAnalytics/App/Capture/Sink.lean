import AiAnalytics.Lib.ByteLines
import AiAnalytics.Lib.Machine
import AiAnalytics.Lib.PyOps
import Mathlib.Logic.Function.Basic

/-!
# The capture sink

Records of calls are appended to one file of JSON lines by any number of sinks, each of which knows
the keys in the file up to an offset. A write holds both locks from the first step to the last, so
what it reads and decides is one step; its line reaches the file in any number of pieces, and the
process can be killed, or the file system can fail, between any two of them.
-/

namespace AiAnalytics.App.Capture

open Lib

variable {Float : Type}

section Reading

structure CaptureJson (Float : Type) where
  str : PyValue Float → String
  /-- The bytes of `json.dumps(record, sort_keys=True, separators=(",", ":"))`; `none` where it
  raises. -/
  dumps : PyValue Float → Option Bytes
  loads : Bytes → Except (PyError Empty) (PyValue Float)

def isValueError : PyError Empty → Bool
  | .valueError | .unicodeDecodeError => true
  | _ => false

abbrev CaptureKey := String × String

variable (json : CaptureJson Float)

def CaptureJson.dedupeKey (record : PyValue Float) : Except (PyError Empty) CaptureKey := do
  let runId ← record.get "run_id" (.str "")
  let callId ← record.get "call_id" (.str "")
  return (json.str runId, json.str callId)

/-- `dedupe_key(json.loads(line))` -/
def CaptureJson.keyOfLine (line : Bytes) : Except (PyError Empty) CaptureKey :=
  json.loads line >>= json.dedupeKey

def CaptureJson.seeLines (seen : List CaptureKey) : List Bytes → List CaptureKey × Bool
  | [] => (seen, true)
  | line :: lines => match json.keyOfLine line with
    | .ok key => CaptureJson.seeLines (key :: seen) lines
    | .error error => if isValueError error then CaptureJson.seeLines seen lines else (seen, false)

structure JsonlCaptureSink where
  seen : List CaptureKey := []
  offset : Nat := 0
  dropped : Nat := 0

def JsonlCaptureSink.refreshSeen (sink : JsonlCaptureSink) (file : Bytes) :
    JsonlCaptureSink × Bool :=
  let read := complete (file.drop sink.offset)
  let result := json.seeLines sink.seen (byteLines read)
  ({ sink with
      seen := result.1,
      offset := if result.2 then sink.offset + read.length else sink.offset },
   result.2)

end Reading

section Writing

inductive DropCause where
  /-- An exception on a line of the file. -/
  | content
  /-- The record is no dictionary or cannot be written as JSON. -/
  | record
  | fileSystem
deriving DecidableEq, Repr

inductive WriteResult (Float : Type) where
  | written (record : PyValue Float)
  | duplicate (record : PyValue Float)
  | dropped (record : PyValue Float) (cause : DropCause)

structure PendingWrite (Float : Type) where
  sink : Nat
  record : PyValue Float
  key : CaptureKey
  rest : Bytes

structure CaptureWorld (Float : Type) where
  file : Bytes
  sinks : Nat → JsonlCaptureSink := fun _ => {}
  holder : Option (PendingWrite Float) := none
  log : List (WriteResult Float) := []

inductive CaptureEvent (Float : Type) where
  /-- `write` takes the locks, reads the file and looks for the key. -/
  | enter (sink : Nat) (record : PyValue Float)
  /-- Some more bytes of the line reach the file. -/
  | append (count : Nat)
  /-- The file is closed and the key is added. -/
  | finish
  /-- Opening, writing or closing the file raises. -/
  | fault
  /-- An exception before the file has been read. -/
  | refuse (sink : Nat) (record : PyValue Float)
  /-- The process of the sink ends; its number stands for a new sink from then on. -/
  | kill (sink : Nat)

namespace CaptureWorld

variable (json : CaptureJson Float)

def setSink (world : CaptureWorld Float) (number : Nat) (sink : JsonlCaptureSink) :
    CaptureWorld Float :=
  { world with sinks := Function.update world.sinks number sink }

def report (world : CaptureWorld Float) (result : WriteResult Float) : CaptureWorld Float :=
  { world with log := result :: world.log }

def drop (world : CaptureWorld Float) (number : Nat) (record : PyValue Float) (cause : DropCause) :
    CaptureWorld Float :=
  let sink := world.sinks number
  (world.setSink number { sink with dropped := sink.dropped + 1 }).report (.dropped record cause)

def enter (world : CaptureWorld Float) (number : Nat) (record : PyValue Float) :
    CaptureWorld Float :=
  let refreshed := (world.sinks number).refreshSeen json world.file
  let next := world.setSink number refreshed.1
  if refreshed.2 = false then next.drop number record .content
  else match json.dedupeKey record with
    | .error _ => next.drop number record .record
    | .ok key =>
        if key ∈ refreshed.1.seen then next.report (.duplicate record)
        else match json.dumps record with
          | none => next.drop number record .record
          | some line => { next with holder := some ⟨number, record, key, line ++ [lineFeed]⟩ }

def finish (world : CaptureWorld Float) (pending : PendingWrite Float) : CaptureWorld Float :=
  let sink := world.sinks pending.sink
  { (world.setSink pending.sink { sink with seen := pending.key :: sink.seen }).report
      (.written pending.record) with
    holder := none }

end CaptureWorld

def captureStep (json : CaptureJson Float) (world : CaptureWorld Float) :
    CaptureEvent Float → Option (CaptureWorld Float)
  | .enter number record =>
    if world.holder.isSome then none else some (world.enter json number record)
  | .append count => world.holder.map fun pending =>
      { world with
        file := world.file ++ pending.rest.take count
        holder := some { pending with rest := pending.rest.drop count } }
  | .finish =>
    world.holder.bind fun pending => if pending.rest = [] then some (world.finish pending) else none
  | .fault => world.holder.map fun pending =>
      { world.drop pending.sink pending.record .fileSystem with holder := none }
  | .refuse number record => some (world.drop number record .fileSystem)
  | .kill number => some
      { world.setSink number {} with
        holder := world.holder.filter fun pending => pending.sink ≠ number }

def captureMachine (json : CaptureJson Float) :
    Machine (CaptureWorld Float) (CaptureEvent Float) where
  step := captureStep json

end Writing

end AiAnalytics.App.Capture

import AiAnalytics.App.Events.EventStream
import AiAnalytics.Lib.Machine

/-!
# Reading the event stream

One open stream beside everything that writes what it reads. Each access of the generator to Redis,
to the publisher's log or to the repository is one step, so that writers act between any two of
them. -/

namespace AiAnalytics.App.Events

open Lib App.Loop

variable {Float : Type}

section Generator

structure StreamConfig where
  runId : String
  subject : Subject := .run
  inMemory : Bool := false

inductive StreamStage (Float : Type) where
  | reading
  | fallback
  | replaying (run : Run Float)
  | rebuilding (run : Run Float)
  | jobCheck
  | closed
  | left

structure EventStream (Float : Type) where
  emittedEventIds : List EventId := []
  delivered : List (SseEvent Float) := []
  /-- `last_stream_id`, where Redis can read it. -/
  position : Option StreamId
  client : Bool := true
  stage : StreamStage Float := .reading

def openStream (header : Option String) (client : Bool) : EventStream Float :=
  { position := StreamId.parse (lastStreamId header), client }

namespace EventStream

variable (view : EventStream Float)

def deliver (event : SseEvent Float) : EventStream Float :=
  { view with
    emittedEventIds := view.emittedEventIds ++ [event.eventId]
    delivered := view.delivered ++ [event] }

def deliverNew (event : SseEvent Float) : EventStream Float :=
  if event.eventId ∈ view.emittedEventIds then view else view.deliver event

def readMessages (runId : String) :
    EventStream Float → List (StreamId × SseEvent Float) → EventStream Float
  | view, [] => view
  | view, (id, event) :: messages =>
      let view := { view with position := some id }
      if event.runId = runId ∧ event.eventId ∉ view.emittedEventIds then
        if event.eventType.endsRun then { view.deliver event with stage := .closed }
        else readMessages runId (view.deliver event) messages
      else readMessages runId view messages

end EventStream

def xreadCount : Nat := 50

def xread (stream : List (StreamId × SseEvent Float)) (position : StreamId) :
    List (StreamId × SseEvent Float) :=
  (stream.filter fun entry => position < entry.1).take xreadCount

def readStream (cfg : StreamConfig) (stream : List (StreamId × SseEvent Float))
    (view : EventStream Float) (reached : Bool) : EventStream Float :=
  match view.client && reached, view.position with
  | true, some position =>
      let batch := xread stream position
      if batch = [] ∧ view.emittedEventIds = [] then { view with stage := .fallback }
      else view.readMessages cfg.runId batch
  | _, _ => { view with client := false, stage := .fallback }

def replayLog (cfg : StreamConfig) (log : List (SseEvent Float)) (run : Run Float)
    (view : EventStream Float) : EventStream Float :=
  let unseen := log.filter fun event =>
    event.runId = cfg.runId ∧ event.eventId ∉ view.emittedEventIds
  let view := (log.filter (·.runId = cfg.runId)).foldl EventStream.deliverNew view
  { view with
    stage := if unseen.any (·.eventType.endsRun) then .closed else .rebuilding run }

def EventStream.deliverAll (view : EventStream Float) (events : List (SseEvent Float)) :
    EventStream Float :=
  events.foldl EventStream.deliver view

end Generator

section World

structure EventWorld (Float : Type) where
  run : Option (Run Float) := none
  job : Option (Jobs.Job (Dict Float)) := none
  steps : List (RunStep Float) := []
  stream : List (StreamId × SseEvent Float) := []
  lastId : StreamId := ⟨0, 0⟩
  log : List (SseEvent Float) := []
  /-- All events that were published, and the ids that have been given out. -/
  published : List (SseEvent Float) := []
  taken : List EventId := []
  view : Option (EventStream Float) := none

inductive EventStep (Float : Type) where
  | storeRun (run : Run Float)
  | storeJob (job : Jobs.Job (Dict Float))
  | storeStep (step : RunStep Float)
  | publish (event : SseEvent Float) (redis : Option StreamId)
  | trim (count : Nat)
  | openStream (header : Option String) (client : Bool)
  | read (reached : Bool)
  | checkRun
  | replay
  | rebuild (ids : List EventId)
  | checkJob (eventId : EventId)
  | leave

variable (cfg : StreamConfig)

def Publishable (world : EventWorld Float) (event : SseEvent Float) : Prop :=
  event.eventId ∉ world.taken ∧
    (event.runId = cfg.runId → event.eventType.subject = cfg.subject ∧
      (event.eventType = .runReceived →
        ∀ old ∈ world.published, old.runId = cfg.runId → old.eventType ≠ .runReceived))

instance (world : EventWorld Float) (event : SseEvent Float) :
    Decidable (Publishable cfg world event) :=
  inferInstanceAs (Decidable (_ ∧ (_ → _ ∧ (_ → ∀ old ∈ world.published, _ → _))))

def EventWorld.emit (world : EventWorld Float) (event : SseEvent Float) : EventWorld Float :=
  { world with published := world.published ++ [event], taken := world.taken ++ [event.eventId] }

def publishStep (world : EventWorld Float) (event : SseEvent Float) :
    Option StreamId → EventWorld Float
  | none =>
      if cfg.inMemory then { world.emit event with log := world.log ++ [event] }
      else world.emit event
  | some id => { world.emit event with stream := world.stream ++ [(id, event)], lastId := id }

def EventWorld.show (world : EventWorld Float) (view : EventStream Float) : EventWorld Float :=
  { world with view := some view }

def viewStep (world : EventWorld Float) (view : EventStream Float) :
    StreamStage Float → EventStep Float → Option (EventWorld Float)
  | .reading, .read reached => some (world.show (readStream cfg world.stream view reached))
  | .reading, .leave => some (world.show { view with stage := .left })
  | .fallback, .checkRun =>
      match world.run with
      | some run =>
          if run.status.Terminal then
            some (world.show { view with
              stage := if cfg.inMemory then .replaying run else .rebuilding run })
          else some (world.show { view with stage := .jobCheck })
      | none => some (world.show { view with stage := .jobCheck })
  | .replaying run, .replay => some (world.show (replayLog cfg world.log run view))
  | .rebuilding run, .rebuild ids =>
      let drafts := rebuilt run world.steps
      if ids.length = drafts.length ∧ ids.Nodup ∧ ∀ id ∈ ids, id ∉ world.taken then
        let view := view.deliverAll (List.zipWith (· ·) drafts ids)
        some { world.show { view with
            stage := if (storedTelemetry run).isSome then .closed else .left } with
          taken := world.taken ++ ids }
      else none
  | .jobCheck, .checkJob eventId =>
      match world.job with
      | some job =>
          if job.status.Terminal then
            if eventId ∈ world.taken then none
            else
              let view := view.deliverAll [rebuiltJob cfg.runId job eventId]
              some { world.show { view with stage := .closed } with
                taken := world.taken ++ [eventId] }
          else some (world.show { view with stage := .reading })
      | none => some (world.show { view with stage := .reading })
  | _, _ => none

def eventStep (world : EventWorld Float) (step : EventStep Float) : Option (EventWorld Float) :=
  match step with
  | .storeRun run =>
      if cfg.subject = .run ∧ run.runId = cfg.runId then some { world with run := some run }
      else none
  | .storeJob job => if cfg.subject = .job then some { world with job := some job } else none
  | .storeStep step => some { world with steps := world.steps ++ [step] }
  | .publish event redis =>
      if Publishable cfg world event ∧ ∀ id ∈ redis, world.lastId < id then
        some (publishStep cfg world event redis)
      else none
  | .trim count => some { world with stream := world.stream.drop count }
  | .openStream header client =>
      match world.view with
      | none => some (world.show (openStream header client))
      | some _ => none
  | step => world.view.bind fun view => viewStep cfg world view view.stage step

def eventMachine : Machine (EventWorld Float) (EventStep Float) := { step := eventStep cfg }

end World

end AiAnalytics.App.Events

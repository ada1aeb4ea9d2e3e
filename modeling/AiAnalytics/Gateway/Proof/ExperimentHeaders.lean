import AiAnalytics.Gateway.Handler
import AiAnalytics.Gateway.Proof.Placeability

/-!
# Experiment headers without their flags

With both flags off no header that is meant for experiments has a say: each of the places where one
is read gives what it gives without the header, and the handler is the same program.
-/

namespace AiAnalytics.Gateway.Handler

open Lib Lib.Prog

variable {Float : Type} {cfg : HandlerConfig Float} {ctx : Context Float}

structure Production (cfg : HandlerConfig Float) : Prop where
  controls : cfg.getenv "ALLOW_EXPERIMENT_CONTROLS" ≠ some "1"
  forced : cfg.getenv "ALLOW_FORCED_PLACEMENT" ≠ some "1"

section Gates

theorem pick_unforced {ops : FloatOps Float} {rng : Rng} {settings : PlacementSettings Float}
    {request : PlacementRequest} {workers : List (WorkerSnapshot Float)} {now : Float}
    {policy : String}
    (hforced : settings.allowForced = false) :
    pick ops rng settings request workers now policy =
      pick ops rng settings { request with forcedWorker := none } workers now policy := by
  have hnone : given none = none := rfl
  rw [pick, pick, hforced, hnone]
  cases given request.forcedWorker with
  | none => rfl
  | some forced => rfl

theorem pickWorker_eq (h : Production cfg) (forceWorker policy : Option String) (estTokens : Int) :
    pickWorker cfg ctx forceWorker policy estTokens = pickWorker cfg ctx none policy estTokens := by
  have hforced : decide (cfg.getenv "ALLOW_FORCED_PLACEMENT" = some "1") = false :=
    decide_eq_false h.forced
  have hpick (rng : Rng) (rrIndex limit : Int) (snapshots : List (WorkerSnapshot Float))
      (now : Float) :
      pick cfg.ops rng
          { cfg.placement with rrIndex, allowForced := false, batchSlotLimit := some limit }
          ⟨ctx.headers.prefixId, estTokens, ctx.klass, forceWorker⟩ snapshots now
          ((given policy).getD cfg.placementPolicy) =
        pick cfg.ops rng
          { cfg.placement with rrIndex, allowForced := false, batchSlotLimit := some limit }
          ⟨ctx.headers.prefixId, estTokens, ctx.klass, none⟩ snapshots now
          ((given policy).getD cfg.placementPolicy) :=
    pick_unforced rfl
  simp only [pickWorker, hforced, hpick]

theorem hopDecision_eq (h : Production cfg) (decision : PlacementDecision Float) (allowed : Bool)
    (override experimentCase : Option String) :
    hopDecision cfg.lib cfg.getenv decision allowed override experimentCase =
      hopDecision cfg.lib cfg.getenv decision allowed none none := by
  simp only [hopDecision, h.controls, false_and, if_false]

theorem prepare_eq (h : Production cfg) (body : Payload Float) (decision : PlacementDecision Float)
    (remaining : Option Float) (override experimentCase : Option String) :
    prepare cfg body decision remaining override experimentCase =
      prepare cfg body decision remaining none none := by
  simp only [prepare, prepareHop, hopDecision_eq h _ _ override experimentCase]

theorem experimentControls_eq (h : Production cfg) (policy admission quotaMode : Option String) :
    experimentControls cfg.getenv policy admission quotaMode = some {} :=
  if_pos h.controls

theorem noteControls_eq (h : Production cfg) (controls : Controls) (admissionMode : Option String) :
    noteControls cfg controls admissionMode = noteControls cfg controls none := by
  cases admissionMode with
  | none => rfl
  | some mode => simp only [noteControls, noteAdmissionMode, h.controls, false_and, if_false]

end Gates

/-! ### The stages -/

section Stages

theorem granted_eq (h : Production cfg) (experiment : ExperimentHeaders)
    (decision : PlacementDecision Float) (estTokens : Int) (deadlineAt : Option Float)
    (queueEnter waitS : Float) :
    granted cfg ctx experiment decision estTokens deadlineAt queueEnter waitS =
      granted cfg ctx {} decision estTokens deadlineAt queueEnter waitS := by
  simp only [granted, rebind, prepare_eq h _ _ _ experiment.kvHopMode experiment.kvHopCase]

theorem enqueue_eq (h : Production cfg) (experiment : ExperimentHeaders)
    (decision : PlacementDecision Float) (estTokens : Int) (now : Float) :
    enqueue cfg ctx experiment decision estTokens now = enqueue cfg ctx {} decision estTokens
      now := by
  simp only [enqueue, granted_eq h experiment]

theorem placed_eq (h : Production cfg) (experiment : ExperimentHeaders)
    (decision : PlacementDecision Float) (estTokens : Int) (now : Float) :
    placed cfg ctx experiment decision estTokens now = placed cfg ctx {} decision estTokens
      now := by
  simp only [placed, enqueue_eq h experiment]

theorem place_eq (h : Production cfg) (experiment : ExperimentHeaders) (controls : Controls)
    (estTokens : Int) (now : Float) :
    place cfg ctx experiment controls estTokens now = place cfg ctx {} controls estTokens now := by
  simp only [place, pickWorker_eq h experiment.forceWorker, placed_eq h experiment]

theorem serveGuarded_eq (h : Production cfg) (experiment : ExperimentHeaders) (controls : Controls)
    (body : Payload Float) :
    serveGuarded cfg ctx experiment controls body = serveGuarded cfg ctx {} controls body := by
  simp only [serveGuarded, place_eq h experiment]

theorem guarded_eq (h : Production cfg) (experiment : ExperimentHeaders) (controls : Controls) :
    guarded cfg ctx experiment controls = guarded cfg ctx {} controls := by
  simp only [guarded, serveGuarded_eq h experiment]

theorem serveCompletion_eq (h : Production cfg) (request : Request Float) :
    serveCompletion cfg request = serveCompletion cfg { request with experiment := {} } := by
  simp only [serveCompletion, serveParsed, begin, experimentControls_eq h,
    noteControls_eq h _ request.experiment.admissionMode, guarded_eq h request.experiment]

theorem serveRequest_eq (h : Production cfg) (request : Request Float) :
    serveRequest cfg request = serveRequest cfg { request with experiment := {} } := by
  simp only [serveRequest, serveCompletion_eq h request]

end Stages

/-- **Experiment headers cannot influence production.** Against any world that answers the handler's
calls with its clocks, its draws, the state of the gateway and the other requests in it, two
requests that differ in experiment headers only make the same calls with the same data, get the same
response, and leave the same world. -/
theorem experiment_headers_inert {World : Type}
    (hcontrols : cfg.getenv "ALLOW_EXPERIMENT_CONTROLS" ≠ some "1")
    (hforced : cfg.getenv "ALLOW_FORCED_PLACEMENT" ≠ some "1") (headers : RequestHeaders)
    (json : Except Serve.Interruption (Option (PyValue Float)))
    (experiment other : ExperimentHeaders)
    (answer : (call : HandlerCall Float) → World → HandlerReply call × World)
    (locals : Locals Float) (world : World) :
    (serveRequest cfg ⟨headers, experiment, json⟩).execute answer locals world =
      (serveRequest cfg ⟨headers, other, json⟩).execute answer locals world := by
  have hproduction : Production cfg := ⟨hcontrols, hforced⟩
  rw [serveRequest_eq hproduction ⟨headers, experiment, json⟩,
    serveRequest_eq hproduction ⟨headers, other, json⟩]

section Sample

def plainLibrary : PyLibrary ℚ where
  num := exactFloats.toNumOps
  str _ := ""
  fromisoformat _ := none
  yearMonth _ := ""
  digit c := if c.isDigit then some (c.toNat - '0'.toNat) else none
  casefold text := text
  isFinite _ := true
  jsonFloat _ := 1
  round4 x := x
  trueDiv := exactFloats.trueDiv

def sampleHandler : HandlerConfig ℚ where
  ops := exactFloats
  lib := plainLibrary
  loads _ := none
  ms seconds := ⌊seconds * 1000⌋
  getenv _ := none
  admission := sampleConfig
  quota := {}
  placement := sampleSettings
  placementPolicy := "least_loaded"
  overflow :=
    { enabled := true, provider := "p", model := "m", url := "https://overflow", timeoutS := 60 }
  workerUrl worker := "http://" ++ worker
  minHopBudgetS := 3 / 2

def idleWorker : WorkerSnapshot ℚ :=
  { id := "worker_a", observedAt := some 10, kvFreeRatio := 1, healthy := true,
    dispatchGraceS := 2 }

def attemptAnswered : (call : AttemptCall ℚ) → AttemptReply call
  | .monotonic => (11 : ℚ)
  | .metric _ | .log _ _ => ()
  | .send _ => OverflowReply.status 200 (.ok .none)
  | .leave | .close => .ok ()

def answered : (call : HandlerCall ℚ) → HandlerReply call
  | .monotonic | .time => (11 : ℚ)
  | .quotaAcquire _ _ _ => .ok ()
  | .servingSnapshots => [idleWorker]
  | .nextRr | .noteDispatch _ => (0 : Int)
  | .draw => firstOnly
  | .queueAcquire _ _ _ _ => QueueReply.granted 0
  | .warmContext _ => ((0 : Int), (0 : Int))
  | .send _ _ _ => WorkerReply.status 200 (some "") (some .none)
  | .readErrorBody => .ok ""
  | .leave | .close => .ok ()
  | .attempt _ call => attemptAnswered call
  | .relay => ⟨[], .finished⟩
  | .startStream | .runBackground => true
  | .metric _ | .log _ _ | .leaseRelease _ | .countQueued | .recordPrefix _ _ _ | .addPending _ _
  | .ticketRelease
  | .addInflight _ _ _ | .noteFinish _ _ | .markCold _ _ => ()

def counting (answer : (call : HandlerCall ℚ) → HandlerReply call) (call : HandlerCall ℚ)
    (calls : Nat) : HandlerReply call × Nat :=
  (answer call, calls + 1)

def helloBody : PyValue ℚ := .dict [("messages", .list [.dict [("content", .str "hello")]])]

def allControls : ExperimentHeaders :=
  ⟨some "worker_b", some "round_robin", some "off", some "off", some "on",
    some "same_worker_local_reuse"⟩

theorem experiment_headers_inert_example :
    (serveRequest sampleHandler ⟨{}, allControls, .ok (some helloBody)⟩).execute (counting answered)
      {} 0 =
      (serveRequest sampleHandler ⟨{}, {}, .ok (some helloBody)⟩).execute (counting answered)
      {} 0 :=
  experiment_headers_inert (by simp [sampleHandler]) (by simp [sampleHandler]) _ _ _ _ _ _ _

end Sample

end AiAnalytics.Gateway.Handler

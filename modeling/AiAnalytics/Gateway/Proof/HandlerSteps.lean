import AiAnalytics.Gateway.Handler
import AiAnalytics.Lib.Frames

/-!
# The steps that neither send nor share

Most of the handler neither sends the body anywhere, nor counts a dispatch, nor takes part in an
overflow attempt: it is `Silent`. Most of that does not touch what requests share either, and leaves
alone the variables that say what the handler holds: it is within every frame that is `Plain`.
-/

namespace AiAnalytics.Gateway.Handler

open Lib Lib.Prog
open Serve (ServeState Interruption)

variable {Float : Type} {α β : Type}

abbrev HandlerLog (Float : Type) := List (Exchange (@HandlerReply Float))

section Frames

def replay (held : ServeState) : (call : HandlerCall Float) → HandlerReply call → ServeState
  | .quotaAcquire _ _ _, .ok () => held.takeLease
  | .leaseRelease refund, _ => held.releaseLease refund
  | .addPending _ n, _ => held.addPending n
  | .queueAcquire _ _ _ _, .granted _ => held.takeTicket
  | .ticketRelease, _ => held.releaseTicket
  | .addInflight _ n tokens, _ =>
      { held with
        ledger :=
          { held.ledger with
            inflight := held.ledger.inflight + n
            inflightTokens := held.ledger.inflightTokens + tokens } }
  | .noteDispatch _, token =>
      { held with
        ledger :=
          { held.ledger with
            recentDispatches := held.ledger.recentDispatches ++ [Int.toNat token]
            dispatches := held.ledger.dispatches + 1 } }
  | .noteFinish _ token, _ => held.noteFinish token.toNat
  | _, _ => held

def SilentCall : HandlerCall Float → Prop
  | .send _ _ _ | .noteDispatch _ | .attempt _ _ => False
  | _ => True

def UnsharedCall (c : HandlerCall Float) : Prop := ∀ state reply, replay state c reply = state

def silentFrame : Frame (HandlerCall Float) (Locals Float) where
  change locals next := next.body = locals.body
  call := SilentCall

def quietFrame : Frame (HandlerCall Float) (Locals Float) where
  change locals next :=
    next.body = locals.body ∧ next.lease = locals.lease ∧ next.freed = locals.freed ∧
      next.finished = locals.finished ∧ next.overflowDone = locals.overflowDone
  call := UnsharedCall

class Plain (frame : Frame (HandlerCall Float) (Locals Float)) : Prop where
  change : ∀ locals next, quietFrame.change locals next → frame.change locals next
  call : ∀ c, SilentCall c → UnsharedCall c → frame.call c

instance : Plain (quietFrame : Frame (HandlerCall Float) (Locals Float)) :=
  ⟨fun _ _ h => h, fun _ _ h => h⟩

instance : Plain (silentFrame : Frame (HandlerCall Float) (Locals Float)) :=
  ⟨fun _ _ h => h.1, fun _ h _ => h⟩

abbrev Silent (m : HandlerM Float α) : Prop := Framed silentFrame m

end Frames

section Plain

variable {frame : Frame (HandlerCall Float) (Locals Float)} [Plain frame] {m : HandlerM Float α}
  {cfg : HandlerConfig Float} {ctx : Context Float}

theorem calm_call {c : HandlerCall Float} (hsilent : SilentCall c) (hunshared : UnsharedCall c) :
    Calm frame (ask c : HandlerM Float (HandlerReply c)) :=
  calm_ask (Plain.call c hsilent hunshared)

theorem framed_call {c : HandlerCall Float} (hsilent : SilentCall c)
    (hunshared : UnsharedCall c) : Framed frame (ask c : HandlerM Float (HandlerReply c)) :=
  (calm_call hsilent hunshared).framed

theorem calm_update {f : Locals Float → Locals Float}
    (hf : ∀ locals, quietFrame.change locals (f locals)) :
    Calm frame (modify f : HandlerM Float PUnit) :=
  calm_modify fun locals => Plain.change _ _ (hf locals)

theorem calm_metric {m : Metric Float} : Calm frame (metric m) := calm_call trivial fun _ _ => rfl

theorem calm_log {event : LogEvent Float} : Calm frame (log event) :=
  calm_bind calm_get fun _ => calm_call trivial fun _ _ => rfl

theorem calm_setCorrelation {entries : List (String × String)} :
    Calm frame (setCorrelation entries : HandlerM Float Unit) :=
  calm_update fun _ => ⟨rfl, rfl, rfl, rfl, rfl⟩

theorem calm_setLogField {name : String} {value : LogValue Float} :
    Calm frame (setLogField name value) :=
  calm_update fun _ => ⟨rfl, rfl, rfl, rfl, rfl⟩

omit [Plain frame] in
theorem calm_onlyIf {condition : Bool} {m : HandlerM Float Unit} (hm : Calm frame m) :
    Calm frame (onlyIf condition m) := by
  cases condition
  · exact calm_pure
  · exact hm

omit [Plain frame] in
theorem framed_orRaise {a : Option α} : Framed frame (orRaise a : HandlerM Float α) := by
  cases a
  · exact framed_throw
  · exact framed_pure

omit [Plain frame] in
theorem framed_orInterrupted {reply : Except Interruption α} :
    Framed frame (orInterrupted reply : HandlerM Float α) := by
  cases reply
  · exact framed_throw
  · exact framed_pure

theorem framed_close : Framed frame (close : HandlerM Float Unit) :=
  framed_bind (framed_call trivial fun _ _ => rfl) fun _ => framed_orInterrupted

theorem framed_leave : Framed frame (leave : HandlerM Float Unit) :=
  framed_bind (framed_call trivial fun _ _ => rfl) fun _ => framed_orInterrupted

theorem framed_timed {stage : String} {klass : WorkloadClass} (hm : Framed frame m) :
    Framed frame (timed stage klass m) := by
  apply framed_bind
  · exact framed_tryCatch (framed_bind hm fun _ => framed_pure) fun _ => framed_pure
  · intro outcome
    apply framed_bind calm_metric.framed
    intro _
    cases outcome
    · exact framed_throw
    · exact framed_pure

theorem calm_noteOom {dispatched : Dispatched} {status : Nat} {text : String} :
    Calm frame (noteOom dispatched status text : HandlerM Float Unit) := by
  unfold noteOom
  split
  · exact calm_bind calm_metric fun _ => calm_bind (calm_call trivial fun _ _ => rfl) fun _ =>
      calm_setCorrelation
  · exact calm_pure

theorem calm_noteControls {controls : Controls} {mode : Option String} :
    Calm frame (noteControls cfg controls mode) := by
  apply calm_bind
  · cases given controls.policy
    · exact calm_pure
    · exact calm_bind calm_setCorrelation fun _ => calm_setLogField
  · intro _
    apply calm_bind
    · unfold noteAdmissionMode
      split
      · exact calm_pure
      · split
        · exact calm_bind calm_setCorrelation fun _ => calm_setLogField
        · exact calm_pure
    · exact fun _ => calm_onlyIf calm_setLogField

theorem calm_remainingTime {deadlineAt : Option Float} :
    Calm frame (remainingTime cfg deadlineAt) := by
  cases deadlineAt
  · exact calm_pure
  · exact calm_bind (calm_call trivial fun _ _ => rfl) fun _ => calm_pure

theorem calm_hopDeadline {remaining : Option Float} : Calm frame (hopDeadline cfg remaining) := by
  cases remaining
  · exact calm_pure
  · exact calm_bind (calm_call trivial fun _ _ => rfl) fun _ => calm_pure

theorem framed_prepare {body : Payload Float} {decision : PlacementDecision Float}
    {remaining : Option Float} {override experimentCase : Option String} :
    Framed frame (prepare cfg body decision remaining override experimentCase) := by
  apply framed_ite framed_pure
  apply framed_bind framed_orRaise
  intro _
  exact framed_bind calm_hopDeadline.framed fun _ => framed_bind framed_get fun _ => framed_pure

omit [Plain frame] in
theorem framed_absoluteDeadline {now : Float} : Framed frame (absoluteDeadline cfg ctx now) := by
  unfold absoluteDeadline
  split
  · exact framed_pure
  · exact framed_bind framed_orRaise fun _ => framed_pure

theorem framed_admission {controls : Controls} {estTokens : Int} {now : Float} :
    Framed frame (admission cfg ctx controls estTokens now) := by
  apply framed_ite framed_pure
  refine framed_bind (framed_call trivial fun _ _ => rfl) fun _ => ?_
  apply framed_bind framed_orRaise
  intro answer
  cases answer <;> exact framed_pure

theorem framed_pickWorker {forceWorker policy : Option String} {estTokens : Int} :
    Framed frame (pickWorker cfg ctx forceWorker policy estTokens) := by
  refine framed_bind (framed_call trivial fun _ _ => rfl) fun _ => ?_
  refine framed_bind (framed_call trivial fun _ _ => rfl) fun _ => ?_
  apply framed_bind framed_orRaise
  intro _
  refine framed_bind (framed_call trivial fun _ _ => rfl) fun _ => ?_
  exact framed_bind (framed_call trivial fun _ _ => rfl) fun _ => framed_pure

theorem calm_relayed : Calm frame (relayed cfg ctx) := by
  refine calm_bind (calm_call trivial fun _ _ => rfl) fun _ => ?_
  refine calm_bind (calm_onlyIf (calm_bind calm_get fun locals => ?_)) fun _ => calm_pure
  cases locals.ttftSeen
  · exact calm_bind (calm_update fun _ => ⟨rfl, rfl, rfl, rfl, rfl⟩) fun _ =>
      calm_bind (calm_call trivial fun _ _ => rfl) fun _ => calm_metric
  · exact calm_pure

theorem calm_overflowFate {reason : String} {fate : RelayFate} :
    Calm frame (overflowFate cfg reason fate) := by
  have hrecord (outcome : String) (failure : Option (String × String)) :
      Calm frame (recordStream cfg reason outcome failure) := by
    apply calm_bind calm_metric
    intro _
    apply calm_bind
    · cases failure
      · exact calm_pure
      · exact calm_metric
    · exact fun _ => calm_log
  cases fate with
  | finished => exact calm_bind (hrecord _ _) fun _ => calm_pure
  | failed => exact calm_bind (hrecord _ _) fun _ => calm_pure
  | interrupted => exact calm_pure

end Plain

section Silent

variable {cfg : HandlerConfig Float} {ctx : Context Float}

theorem silent_ask {c : HandlerCall Float} (hc : SilentCall c) :
    Silent (ask c : HandlerM Float (HandlerReply c)) :=
  framed_ask hc

theorem silent_modify {f : Locals Float → Locals Float}
    (hf : ∀ locals, (f locals).body = locals.body) : Silent (modify f : HandlerM Float PUnit) :=
  framed_modify hf

theorem silent_releaseLease {refund : Bool} :
    Silent (releaseLease refund : HandlerM Float Unit) := by
  apply framed_bind framed_get
  intro locals
  cases locals.lease with
  | held => exact silent_ask trivial
  | none => exact framed_pure
  | noLease => exact framed_pure

theorem silent_reject {refusal : Refusal Float} : Silent (reject ctx refusal) := by
  apply framed_bind silent_releaseLease
  intro _
  apply framed_bind calm_metric.framed
  intro _
  apply framed_bind calm_log.framed
  exact fun _ => framed_bind framed_get fun _ => framed_pure

theorem silent_freeWorker {dispatched : Dispatched} : Silent (freeWorker ctx dispatched) := by
  apply framed_bind framed_get
  intro locals
  apply framed_ite framed_pure
  refine framed_bind (silent_modify fun _ => rfl) fun _ => ?_
  apply framed_bind calm_metric.framed
  intro _
  refine framed_bind (silent_ask trivial) fun _ => ?_
  refine framed_bind (silent_ask trivial) fun _ => ?_
  exact framed_bind (silent_ask trivial) fun _ => calm_log.framed

theorem silent_finish {status : Nat} : Silent (finish ctx status : HandlerM Float Unit) := by
  apply framed_bind framed_get
  intro locals
  apply framed_ite framed_pure
  refine framed_bind (silent_modify fun _ => rfl) ?_
  exact fun _ => framed_bind silent_releaseLease fun _ => calm_metric.framed

theorem silent_once {status : Nat} : Silent (once ctx status : HandlerM Float Unit) := by
  apply framed_bind framed_get
  intro locals
  apply framed_ite framed_pure
  refine framed_bind (silent_modify fun _ => rfl) ?_
  exact fun _ => framed_bind silent_releaseLease fun _ => calm_metric.framed

theorem silent_release {dispatched : Dispatched} {status : Nat} :
    Silent (release ctx dispatched status) :=
  framed_bind silent_freeWorker fun _ => silent_finish

theorem silent_postedContent {status : Nat} {text : String} {json : Option (PyValue Float)} :
    Silent (postedContent ctx status text json) := by
  apply framed_bind silent_finish
  intro _
  apply framed_bind framed_get
  intro _
  exact framed_ite (framed_bind framed_orRaise fun _ => framed_pure) framed_pure

theorem silent_admitRequest {controls : Controls} {estTokens : Int} {now : Float} :
    Silent (admitRequest cfg ctx controls estTokens now) := by
  apply framed_ite
  · exact framed_bind (silent_modify fun _ => rfl) fun _ => framed_admission
  · refine framed_bind (silent_ask trivial) fun answer => ?_
    cases answer with
    | error => exact framed_pure
    | ok => exact framed_bind (silent_modify fun _ => rfl) fun _ => framed_admission

theorem silent_relaySource {source : Source} : Silent (relaySource cfg ctx source) := by
  cases source with
  | worker =>
      apply framed_bind calm_relayed.framed
      intro _
      apply framed_bind silent_release
      exact fun _ => framed_bind framed_leave fun _ => framed_bind framed_close fun _ => framed_pure
  | overflow =>
      apply framed_bind calm_relayed.framed
      intro _
      apply framed_bind calm_overflowFate.framed
      intro _
      refine framed_bind (silent_ask trivial) fun _ => ?_
      apply framed_bind framed_orInterrupted
      intro _
      apply framed_bind framed_close
      exact fun _ => framed_bind silent_once fun _ => framed_pure

theorem silent_cleanup {source : Source} :
    Silent (cleanup ctx source : HandlerM Float Unit) := by
  cases source with
  | worker => exact framed_bind silent_release fun _ => framed_close
  | overflow => exact framed_bind silent_once fun _ => framed_close

theorem silent_sendBody {response : Response Float} : Silent (sendBody cfg ctx response) := by
  cases response with
  | json => exact framed_pure
  | stream source =>
      refine framed_bind (silent_ask trivial) fun (started : Bool) => ?_
      apply framed_bind
      · cases started
        · exact framed_pure
        · exact silent_relaySource
      · intro _
        refine framed_bind (silent_ask trivial) fun (background : Bool) => ?_
        refine framed_bind ?_ fun _ => framed_pure
        cases background
        · exact framed_pure
        · exact silent_cleanup

end Silent

end AiAnalytics.Gateway.Handler

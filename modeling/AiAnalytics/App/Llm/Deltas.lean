import AiAnalytics.App.Llm.Governed

/-!
# The deltas of a streamed answer

What `emit_visible` hands to the callback while an answer is streamed, also by an attempt that ends
in an exception: what was shown before it stays shown. The callback itself is taken not to raise.
-/

namespace AiAnalytics.App

open Lib

variable {Float : Type}

section Response

variable (rt : PyRuntime Float)

def StreamState.showChunk (state : StreamState Float) (chunk : PyValue Float) :
    Raising Float (StreamState Float) := do
  let modelId ← chunk.get "model" state.modelId
  let choices ← chunk.get "choices" (.list [])
  { state with modelId }.addChoices rt choices

def shownByLines : List String → StreamState Float → List (PyValue Float)
  | [], state => state.accumulated
  | line :: lines, state =>
      match sseLine line with
      | .skipped => shownByLines lines state
      | .done => state.accumulated
      | .data text => match rt.loadsText text with
          | .error .jsonDecodeError => shownByLines lines state
          | .error _ => state.accumulated
          | .ok chunk =>
              match state.addChunk rt chunk, state.showChunk rt chunk with
              | .ok next, _ => shownByLines lines next
              | .error _, .ok shown => shown.accumulated
              | .error _, .error _ => state.accumulated

/-- The texts shown of a response with status 200. A document is shown after all of it has been
read, and the end of the lines is flushed unless the connection breaks off before it. -/
def shownByResponse (client : Client Float) (response : OkResponse) : List (PyValue Float) :=
  let start : StreamState Float := { modelId := .str client.modelId }
  if contains "application/json".toList response.contentType.toList then
    match response.failure, streamDocument rt response start with
    | none, .ok state => state.accumulated
    | _, _ => []
  else
    match streamLines rt response.lines start, response.failure with
    | .ok (state, false), some _ => state.accumulated
    | .ok (state, _), _ => (state.flush rt).accumulated
    | .error _, _ => shownByLines rt response.lines start

def shownDeltas (client : Client Float) : HttpOutcome → List (PyValue Float)
  | .ok response => shownByResponse rt client response
  | _ => []

end Response

section Governed

variable {α : Type} (num : NumOps Float) (fields : ResultFields Float α)
  (call : Payload → HttpOutcome → Raising Float α) (shown : HttpOutcome → List (PyValue Float))
  (attempts : Nat → Attempt Float)

def attemptDeltas (attempt : Attempt Float) : List (PyValue Float) :=
  match attempt.reservation with
  | .refused => []
  | _ => shown attempt.outcome

def loopDeltas (payloadFor : String → Payload) : Nat → String → List String → List (PyValue Float)
  | index, _, [] => attemptDeltas shown (attempts index)
  | index, modelAlias, next :: rest =>
      attemptDeltas shown (attempts index) ++
        match (attemptAlias num fields call (attempts index) (payloadFor modelAlias)
          (0 < index)).2 with
        | .ok _ => []
        | .error error =>
            if mayFallBack error then loopDeltas payloadFor (index + 1) next rest else []

def governedDeltas (policy : ModelPolicy) (tenantId : String) (payload : Payload) :
    List (PyValue Float) :=
  match policy.resolve payload.role tenantId with
  | none => []
  | some rp =>
      loopDeltas num fields call shown attempts (attemptPayload payload rp) 0 rp.modelAlias
        (policy.allowedFallbacks rp tenantId)

end Governed

section Answer

variable (rt : PyRuntime Float) (pricing : PricingTable Float) (answerAlias : String)

def streamedAnswer (policy : ModelPolicy) (tenantId : String) (attempts : Nat → Attempt Float)
    (payload : Payload) : Raising Float (LLMResult Float) :=
  (governed rt.num completionFields policy tenantId
    (streamCompletion rt (liteLLMClient rt pricing answerAlias)) attempts payload).2

def answerDeltas (policy : ModelPolicy) (tenantId : String) (attempts : Nat → Attempt Float)
    (payload : Payload) : List (PyValue Float) :=
  governedDeltas rt.num completionFields
    (streamCompletion rt (liteLLMClient rt pricing answerAlias))
    (shownDeltas rt (liteLLMClient rt pricing answerAlias)) attempts policy tenantId payload

end Answer

end AiAnalytics.App

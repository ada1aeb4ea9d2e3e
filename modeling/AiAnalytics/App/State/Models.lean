import AiAnalytics.Lib.PyValue

/-!
# Durable records

The records of the application's state repository that the development is about. Time stamps are ISO
texts; they are stored and returned, never compared.
-/

namespace AiAnalytics.App

open Lib

structure Message (Float : Type) where
  messageId : String
  conversationId : String
  sequence : Int
  role : String
  content : String
  createdAt : String
  metadata : PyValue Float

inductive RunStatus where
  | inProgress
  | cancelRequested
  | completed
  | failed
  | budgetExceeded
  | cancelled
deriving DecidableEq, Repr

def RunStatus.Terminal (status : RunStatus) : Prop :=
  status = .completed ∨ status = .failed ∨ status = .budgetExceeded ∨ status = .cancelled

instance : DecidablePred RunStatus.Terminal := fun status =>
  inferInstanceAs (Decidable (status = _ ∨ status = _ ∨ status = _ ∨ status = _))

structure Run (Float : Type) where
  runId : String
  conversationId : String
  messageId : Option String := none
  status : RunStatus := .inProgress
  model : Option String := none
  promptVersion : Option String := none
  startedAt : String
  completedAt : Option String := none
  inputTokens : Int := 0
  outputTokens : Int := 0
  estimatedCostUsd : Float
  failureCode : Option String := none
  metadata : List (String × PyValue Float) := []

inductive StateError where
  | conversationNotFound (conversationId : String)
  | messageExists (messageId : String)
  | runNotFound (runId : String)
  | runExists (runId : String)
deriving DecidableEq, Repr

end AiAnalytics.App

import AiAnalytics.Lib.Machine
import Mathlib.Logic.Function.Basic
import Mathlib.Data.List.Nodup

/-!
# The numbers of a conversation's messages

`prepare_run` counts the stored messages and numbers the user message with the next number; the run
then numbers its own messages from there, as a local count. Each store is one call to the
repository, so the runs on a conversation interleave at their counts and stores.
-/

namespace AiAnalytics.App.Loop

open Lib

inductive Store where
  | tool
  | last
deriving DecidableEq, Repr

def Store.after (nextSeq : Int) : Store → Int
  | .tool => nextSeq + 1
  | .last => nextSeq

def numbersFrom : Int → List Store → List Int
  | _, [] => []
  | nextSeq, store :: stores => nextSeq :: numbersFrom (store.after nextSeq) stores

def numberAfter : Int → List Store → Int
  | nextSeq, [] => nextSeq
  | nextSeq, store :: stores => numberAfter (store.after nextSeq) stores

structure RunNumbers where
  nextSeq : Int
  prepared : Bool := false
deriving DecidableEq, Repr

/-- The stored messages by their numbers, in the order in which they were stored. -/
structure Conversation where
  numbers : List Int := []
  runs : String → Option RunNumbers := fun _ => none

inductive ConversationStep where
  | count (run : String)
  | storeUser (run : String)
  | store (run : String) (store : Store)

def Conversation.put (conversation : Conversation) (run : String) (numbers : RunNumbers) :
    Conversation :=
  { conversation with runs := Function.update conversation.runs run (some numbers) }

def Conversation.append (conversation : Conversation) (number : Int) : Conversation :=
  { conversation with numbers := conversation.numbers ++ [number] }

def conversationStep (conversation : Conversation) : ConversationStep → Option Conversation
  | .count run =>
      match conversation.runs run with
      | none => some (conversation.put run { nextSeq := conversation.numbers.length + 1 })
      | some _ => none
  | .storeUser run =>
      match conversation.runs run with
      | some ⟨nextSeq, false⟩ =>
          some ((conversation.append nextSeq).put run { nextSeq := nextSeq + 1, prepared := true })
      | _ => none
  | .store run store =>
      match conversation.runs run with
      | some ⟨nextSeq, true⟩ =>
          some ((conversation.append nextSeq).put run
            { nextSeq := store.after nextSeq, prepared := true })
      | _ => none

def conversationMachine : Machine Conversation ConversationStep := { step := conversationStep }

end AiAnalytics.App.Loop

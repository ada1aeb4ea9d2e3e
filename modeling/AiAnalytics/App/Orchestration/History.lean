import AiAnalytics.Lib.Regex
import Mathlib.Algebra.GroupWithZero.Nat

/-!
# Turns of a conversation as history

An earlier turn is given to the agent as a user message and an assistant message. What its tools
returned stands before the assistant's answer, each observation in a block that marks it as data.
-/

namespace AiAnalytics.App.DeepAgents

open Lib

def truncatedMarker : List Char := "[truncated]".toList

def untrustedTag : List Char := "untrusted_tool_data".toList

/-- `_TAG_RE` -/
def tagPattern : Regex :=
  .seq (.char (· = '<')) (.group "1" (.seq (.star (.char isSpace)) (.seq (.opt (.char (· = '/')))
    (.seq (.star (.char isSpace)) (.word untrustedTag)))))

def clip (text : List Char) (cap : Int) : List Char × Nat :=
  if (text.length : Int) ≤ cap then (text, 0)
    else (text.take cap.toNat ++ ' ' :: truncatedMarker, 1)

def neutralize (text : List Char) : List Char :=
  tagPattern.sub (fun found => "&lt;".toList ++ found.group "1") text

def replaceChar (old : Char) (new : String) (text : List Char) : List Char :=
  text.flatMap fun c => if c = old then new.toList else [c]

def attr (value : List Char) : List Char :=
  replaceChar '\n' " " (replaceChar '>' "&gt;" (replaceChar '<' "&lt;" (replaceChar '"' "&quot;"
    (replaceChar '&' "&amp;" (neutralize value)))))

structure Obs where
  tool : List Char
  queryId : Option (List Char)
  arguments : Option (List Char)
  content : List Char

structure Turn where
  user : List Char
  observations : List Obs
  assistant : List Char

structure TurnCaps where
  userCap : Int
  textCap : Int
  argsCap : Int
  resultCap : Int
  maxObs : Int

structure CutCounts where
  assistantText : Nat
  arguments : Nat
  toolResults : Nat
  observationsDropped : Nat
  userText : Nat
deriving DecidableEq

section Rendering

variable (caps : TurnCaps)

def included (observations : List Obs) : List Obs :=
  if caps.maxObs < observations.length then
    if 0 < caps.maxObs then observations.drop (observations.length - caps.maxObs.toNat) else []
  else observations

def tagAttribute (name : String) (value : List Char) : List Char :=
  ' ' :: name.toList ++ "=\"".toList ++ attr value ++ ['"']

def attrs (obs : Obs) : List Char :=
  "source=\"mcp\"".toList ++ tagAttribute "tool" obs.tool ++
    (match obs.queryId with
      | some queryId => if queryId = [] then [] else tagAttribute "query_id" queryId
      | none => []) ++
    match obs.arguments with
      | some arguments => tagAttribute "arguments" (clip arguments caps.argsCap).1
      | none => []

def block (obs : Obs) : List Char :=
  '<' :: untrustedTag ++ ' ' :: attrs caps obs ++ ">\n".toList ++ neutralize
    (clip obs.content caps.resultCap).1 ++ "\n</".toList ++ untrustedTag ++ ['>']

def cutCounts (turn : Turn) : CutCounts where
  assistantText := (clip turn.assistant caps.textCap).2
  arguments := ((included caps turn.observations).map fun obs =>
    obs.arguments.elim 0 fun arguments => (clip arguments caps.argsCap).2).sum
  toolResults :=
    ((included caps turn.observations).map fun obs => (clip obs.content caps.resultCap).2).sum
  observationsDropped := (turn.observations.length - caps.maxObs).toNat
  userText := (clip turn.user caps.userCap).2

def renderTurn (turn : Turn) : List Char × List Char × CutCounts :=
  let blocks := (included caps turn.observations).map (block caps)
  let answer := (clip turn.assistant caps.textCap).1
  ((clip turn.user caps.userCap).1, ['\n'].intercalate (blocks ++ [answer]), cutCounts caps turn)

end Rendering

end AiAnalytics.App.DeepAgents

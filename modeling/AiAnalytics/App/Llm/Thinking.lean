import AiAnalytics.Lib.PyText

/-!
# Reasoning and visible text

`split_thinking` separates the `<think>` blocks of a whole answer, `ThinkingSplitter` those of an
answer that arrives in chunks. Both work on lists of characters.
-/

namespace AiAnalytics.App

open Lib

def thinkOpen : List Char := "<think>".toList

def thinkClose : List Char := "</think>".toList

/-- The loop of `split_thinking`: every turn but the last takes an opening tag out of the text, so
its length is fuel enough. The result is the reasoning and the visible text. -/
def splitThinkingLoop : Nat → List Char → List Char × List Char
  | 0, remaining => ([], remaining)
  | fuel + 1, remaining =>
      match splitAtTag thinkOpen remaining with
      | none => ([], remaining)
      | some (visible, afterOpen) =>
          match splitAtTag thinkClose afterOpen with
          | none => (afterOpen, visible)
          | some (reasoning, rest) =>
              let later := splitThinkingLoop fuel rest
              (reasoning ++ later.1, visible ++ later.2)

def splitThinking (text : List Char) : List Char × List Char :=
  splitThinkingLoop text.length text

structure ThinkingSplitter where
  inThink : Bool := false
  pending : List Char := []
  reasoningText : List Char := []
deriving DecidableEq

def ThinkingSplitter.tag (splitter : ThinkingSplitter) : List Char :=
  if splitter.inThink then thinkClose else thinkOpen

def ThinkingSplitter.pass (splitter : ThinkingSplitter) (released : List Char) :
    List Char × ThinkingSplitter :=
  if splitter.inThink then
    ([], { splitter with reasoningText := splitter.reasoningText ++ released })
  else (released, splitter)

def ThinkingSplitter.feedLoop : Nat → ThinkingSplitter → List Char × ThinkingSplitter
  | 0, splitter => ([], splitter)
  | fuel + 1, splitter =>
      match splitAtTag splitter.tag splitter.pending with
      | none =>
          let keep := splitter.tag.length - 1
          let count := splitter.pending.length - keep
          { splitter with pending := splitter.pending.drop count }.pass
              (splitter.pending.take count)
      | some (released, rest) =>
          let (visible, passed) := { splitter with pending := rest }.pass released
          let (later, final) := feedLoop fuel { passed with inThink := !splitter.inThink }
          (visible ++ later, final)

def ThinkingSplitter.feed (splitter : ThinkingSplitter) (chunk : List Char) :
    List Char × ThinkingSplitter :=
  if chunk = [] then ([], splitter)
  else
    let pending := splitter.pending ++ chunk
    feedLoop (pending.length + 1) { splitter with pending }

def ThinkingSplitter.flush (splitter : ThinkingSplitter) : List Char × ThinkingSplitter :=
  { splitter with pending := [] }.pass splitter.pending

end AiAnalytics.App

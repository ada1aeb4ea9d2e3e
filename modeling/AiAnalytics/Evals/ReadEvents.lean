import AiAnalytics.Lib.PyText

/-!
# The reader of the live evaluation driver

`read_events` reads the lines of an event stream until a frame names an event that ends the run. The
texts are ASCII, so that decoding does not change them.
-/

namespace AiAnalytics.Evals

open Lib

/-- `TERMINAL` -/
def terminalTypes : List String := ["run.completed", "run.failed", "run.cancelled"]

def readlines : List Char → List (List Char)
  | [] => []
  | c :: text =>
      if c = '\n' then [c] :: readlines text
      else match readlines text with
        | [] => [[c]]
        | line :: lines => (c :: line) :: lines

inductive StreamEnding where
  | closed
  | deadline
  /-- An exception, before the deadline or not. -/
  | error (shown : List Char) (inTime : Bool)

/-- `line.rstrip("\r\n")` -/
def stripLineEnd (line : List Char) : List Char :=
  (line.reverse.dropWhile fun c => c = '\r' ∨ c = '\n').reverse

def frameEvent (frame : List (List Char)) : List Char :=
  match frame.find? fun line => "event:".toList.isPrefixOf line with
  | some line => strip (line.drop 6)
  | none => []

def readFrames (raw : List Char) (frame : List (List Char)) :
    List (List Char) → List Char × Option (List Char)
  | [] => (raw, none)
  | line :: lines =>
      if strip line ≠ [] then readFrames (raw ++ line) (frame ++ [stripLineEnd line]) lines
      else if frameEvent frame ∈ terminalTypes.map String.toList then
        (raw ++ line, some (frameEvent frame))
      else readFrames (raw ++ line) [] lines

def readEvents (lines : List (List Char)) (ending : StreamEnding) : List Char × List Char :=
  match readFrames [] [] lines with
  | (raw, some terminal) => (raw, terminal)
  | (raw, none) => match ending with
    | .closed =>
      (raw ++ "[driver] stream closed without terminal event\n".toList, "stream_error".toList)
    | .deadline => (raw, "timeout".toList)
    | .error shown inTime =>
        (raw ++ "[driver] stream error: ".toList ++ shown ++ ['\n'],
          if inTime then "stream_error".toList else "timeout".toList)

end AiAnalytics.Evals

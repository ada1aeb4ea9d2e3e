import Mathlib.Data.List.Basic

/-!
# Server-sent events

How the reader of an event stream takes its text apart: into lines, fields, and messages that an
empty line ends. What stands behind the last line's end is not read.
-/

namespace AiAnalytics.Lib

def sseLines : List Char → List (List Char)
  | [] => []
  | '\r' :: '\n' :: rest => [] :: sseLines rest
  | c :: rest =>
      if c = '\n' ∨ c = '\r' then [] :: sseLines rest
      else match sseLines rest with
        | [] => []
        | line :: lines => (c :: line) :: lines

def sseField (line : List Char) : List Char × List Char :=
  (line.takeWhile fun c => c ≠ ':',
    match (line.dropWhile fun c => c ≠ ':').drop 1 with
    | ' ' :: value => value
    | value => value)

structure SseMessage where
  id : List Char
  event : List Char
  data : List (List Char)
deriving DecidableEq

def SseMessage.readLine (message : SseMessage) (line : List Char) : SseMessage :=
  let (name, value) := sseField line
  if name = "data".toList then { message with data := message.data ++ [value] }
  else if name = "event".toList then { message with event := value }
  else if name = "id".toList ∧ Char.ofNat 0 ∉ value then { message with id := value }
  else message

def sseMessagesFrom : SseMessage → List (List Char) → List SseMessage
  | _, [] => []
  | message, line :: lines =>
      if line = [] then
        (if message.data = [] then [] else [message]) ++ sseMessagesFrom ⟨message.id, [], []⟩ lines
      else sseMessagesFrom (message.readLine line) lines

def sseMessages (text : List Char) : List SseMessage := sseMessagesFrom ⟨[], [], []⟩ (sseLines text)

def OnOneLine (text : List Char) : Prop := '\n' ∉ text ∧ '\r' ∉ text

instance (text : List Char) : Decidable (OnOneLine text) := inferInstanceAs (Decidable (_ ∧ _))

variable {line rest : List Char}

theorem sseLines_feed (rest : List Char) : sseLines ('\n' :: rest) = [] :: sseLines rest := by
  rw [sseLines, if_pos (.inl rfl)]
  rintro other ⟨⟩

theorem sseLines_line (h : OnOneLine line) (rest : List Char) :
    sseLines (line ++ '\n' :: rest) = line :: sseLines rest := by
  induction line with
  | nil => exact sseLines_feed rest
  | cons c line ih =>
      obtain ⟨hfeed, hreturn⟩ := h
      rw [List.mem_cons, not_or] at hfeed hreturn
      rw [List.cons_append, sseLines, ih ⟨hfeed.2, hreturn.2⟩]
      · exact if_neg fun hbreak => hbreak.elim (fun hc => hfeed.1 hc.symm) fun hc =>
          hreturn.1 hc.symm
      · intro other hc
        exact absurd hc.symm hreturn.1

theorem onOneLine_append {text : List Char} (h : OnOneLine line) (h' : OnOneLine text) :
    OnOneLine (line ++ text) :=
  ⟨fun hmem => (List.mem_append.mp hmem).elim h.1 h'.1, fun hmem =>
    (List.mem_append.mp hmem).elim h.2 h'.2⟩

theorem sseField_append {name : List Char} (h : ':' ∉ name) (value : List Char) :
    sseField (name ++ ':' :: ' ' :: value) = (name, value) := by
  have hname : ∀ c ∈ name, decide (c ≠ ':') = true := by
    intro c hc
    refine decide_eq_true ?_
    rintro rfl
    exact h hc
  rw [sseField, List.takeWhile_append_of_pos hname, List.dropWhile_append_of_pos hname]
  simp

section Fields

variable (message : SseMessage) (value : List Char)

theorem readLine_id :
    message.readLine ("id: ".toList ++ value) =
      if Char.ofNat 0 ∈ value then message else { message with id := value } := by
  have hfield : sseField ("id: ".toList ++ value) = ("id".toList, value) :=
    sseField_append (by decide : ':' ∉ "id".toList) value
  have hread : message.readLine ("id: ".toList ++ value) =
      if "id".toList = "id".toList ∧ Char.ofNat 0 ∉ value then { message with id := value }
        else message := by
    rw [SseMessage.readLine, hfield]
    rfl
  rw [hread]
  by_cases hnull : Char.ofNat 0 ∈ value
  · rw [if_pos hnull, if_neg fun hnone => hnone.2 hnull]
  · rw [if_neg hnull, if_pos ⟨rfl, hnull⟩]

theorem readLine_event :
    message.readLine ("event: ".toList ++ value) = { message with event := value } := by
  have hfield : sseField ("event: ".toList ++ value) = ("event".toList, value) :=
    sseField_append (by decide : ':' ∉ "event".toList) value
  rw [SseMessage.readLine, hfield]
  rfl

theorem readLine_data :
    message.readLine ("data: ".toList ++ value) =
      { message with data := message.data ++ [value] } := by
  have hfield : sseField ("data: ".toList ++ value) = ("data".toList, value) :=
    sseField_append (by decide : ':' ∉ "data".toList) value
  rw [SseMessage.readLine, hfield]
  rfl

end Fields

theorem sseMessagesFrom_line (message : SseMessage) (h : line ≠ []) (lines : List (List Char)) :
    sseMessagesFrom message (line :: lines) = sseMessagesFrom (message.readLine line) lines := by
  rw [sseMessagesFrom, if_neg h]

theorem sseMessages_frame {id event data : List Char} (hid : OnOneLine id)
    (hevent : OnOneLine event) (hdata : OnOneLine data) :
    sseMessages ("id: ".toList ++ id ++ "\nevent: ".toList ++ event ++ "\ndata: ".toList ++ data ++
      "\n\n".toList) = [⟨if Char.ofNat 0 ∈ id then [] else id, event, [data]⟩] := by
  have hframe : "id: ".toList ++ id ++ "\nevent: ".toList ++ event ++ "\ndata: ".toList ++ data ++
      "\n\n".toList = "id: ".toList ++ id ++ '\n' :: ("event: ".toList ++ event ++ '\n' ::
        ("data: ".toList ++ data ++ '\n' :: ['\n'])) := by
    simp
  have hidLine : "id: ".toList ++ id ≠ [] := List.cons_ne_nil _ _
  have heventLine : "event: ".toList ++ event ≠ [] := List.cons_ne_nil _ _
  have hdataLine : "data: ".toList ++ data ≠ [] := List.cons_ne_nil _ _
  rw [sseMessages, hframe, sseLines_line (onOneLine_append (by decide) hid),
    sseLines_line (onOneLine_append (by decide) hevent),
    sseLines_line (onOneLine_append (by decide) hdata),
    sseMessagesFrom_line _ hidLine, sseMessagesFrom_line _ heventLine,
    sseMessagesFrom_line _ hdataLine,
    readLine_id, readLine_event, readLine_data]
  split_ifs <;> rfl

end AiAnalytics.Lib

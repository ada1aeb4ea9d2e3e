import AiAnalytics.App.Llm.Thinking
import AiAnalytics.Lib.TagSearch

/-!
# Streamed and whole answers are separated alike

`Separates` is what both code paths compute: from one tag to the next, the text belongs to the side
it is on. A splitter has always settled a first part of the text fed so far; what it has yet to
separate is its pending text and whatever still comes. That is the invariant of `feed`, for any text
still to come, so the cuts between the chunks do not matter.
-/

namespace AiAnalytics.App

open Lib

section Separation

def sideTag (inThink : Bool) : List Char := if inThink then thinkClose else thinkOpen

def onSide (inThink : Bool) (text : List Char) : List Char × List Char :=
  if inThink then (text, []) else ([], text)

def joinParts (first later : List Char × List Char) : List Char × List Char :=
  (first.1 ++ later.1, first.2 ++ later.2)

inductive Separates : Bool → List Char → List Char × List Char → Prop
  | last {inThink text} (hnone : splitAtTag (sideTag inThink) text = none) :
      Separates inThink text (onSide inThink text)
  | tag {inThink text released rest parts}
      (hfound : splitAtTag (sideTag inThink) text = some (released, rest))
      (hrest : Separates (!inThink) rest parts) :
      Separates inThink text (joinParts (onSide inThink released) parts)

theorem sideTag_ne_nil (inThink : Bool) : sideTag inThink ≠ [] := by cases inThink <;> decide

theorem joinParts_assoc (a b c : List Char × List Char) :
    joinParts (joinParts a b) c = joinParts a (joinParts b c) := by simp [joinParts]

theorem joinParts_nil (parts : List Char × List Char) : joinParts ([], []) parts = parts := rfl

theorem joinParts_onSide (inThink : Bool) (first later : List Char) :
    joinParts (onSide inThink first) (onSide inThink later) = onSide inThink (first ++ later) := by
  cases inThink <;> simp [joinParts, onSide]

theorem Separates.unique {inThink : Bool} {text : List Char} {parts parts' : List Char × List Char}
    (h : Separates inThink text parts) (h' : Separates inThink text parts') : parts = parts' := by
  induction h generalizing parts' with
  | last hnone =>
      cases h' with
      | last => rfl
      | tag hfound => rw [hnone] at hfound; cases hfound
  | tag hfound hrest ih =>
      cases h' with
      | last hnone => rw [hfound] at hnone; cases hnone
      | tag hfound' hrest' =>
          rw [hfound] at hfound'
          cases hfound'
          rw [ih hrest']

theorem Separates.prepend {inThink : Bool} {released kept more : List Char}
    {parts : List Char × List Char} (hkept : (sideTag inThink).length ≤ kept.length + 1)
    (hnone : splitAtTag (sideTag inThink) (released ++ kept) = none)
    (h : Separates inThink (kept ++ more) parts) :
    Separates inThink (released ++ kept ++ more) (joinParts (onSide inThink released) parts) := by
  have hsearch := splitAtTag_append_of_none hkept hnone more
  cases h with
  | last hlast =>
      rw [hlast, Option.map_none] at hsearch
      rw [joinParts_onSide, ← List.append_assoc]
      exact .last hsearch
  | tag hfound hrest =>
      rw [hfound, Option.map_some] at hsearch
      rw [← joinParts_assoc, joinParts_onSide]
      exact .tag hsearch hrest

theorem separates_splitThinkingLoop {fuel : Nat} {text : List Char} (hfuel : text.length ≤ fuel) :
    Separates false text (splitThinkingLoop fuel text) := by
  induction fuel generalizing text with
  | zero =>
      obtain rfl := List.length_eq_zero_iff.mp (Nat.le_zero.mp hfuel)
      exact .last rfl
  | succ fuel ih =>
      rw [splitThinkingLoop]
      cases hopen : splitAtTag thinkOpen text with
      | none => exact .last hopen
      | some opened =>
          obtain ⟨visible, afterOpen⟩ := opened
          have hafter : afterOpen.length < text.length :=
            length_lt_of_splitAtTag (sideTag_ne_nil false) hopen
          cases hclose : splitAtTag thinkClose afterOpen with
          | none =>
              have hlast : Separates true afterOpen (afterOpen, []) := .last hclose
              have hall : Separates false text (joinParts (onSide false visible) (afterOpen, [])) :=
                .tag hopen hlast
              simpa [joinParts, onSide, hclose] using hall
          | some closed =>
              obtain ⟨reasoning, rest⟩ := closed
              have hrest : rest.length < afterOpen.length :=
                length_lt_of_splitAtTag (sideTag_ne_nil true) hclose
              have hlater : Separates false rest (splitThinkingLoop fuel rest) := ih (by omega)
              have hinside : Separates true afterOpen
                  (joinParts (onSide true reasoning) (splitThinkingLoop fuel rest)) :=
                .tag hclose hlater
              have hall : Separates false text (joinParts (onSide false visible)
                  (joinParts (onSide true reasoning) (splitThinkingLoop fuel rest))) :=
                .tag hopen hinside
              simpa [joinParts, onSide, hclose] using hall

theorem separates_splitThinking (text : List Char) : Separates false text (splitThinking text) :=
  separates_splitThinkingLoop le_rfl

end Separation

namespace ThinkingSplitter

variable {splitter : ThinkingSplitter}

def Waiting (splitter : ThinkingSplitter) : Prop :=
  splitAtTag (sideTag splitter.inThink) splitter.pending = none

structure Settles (splitter : ThinkingSplitter) (visible : List Char) (next : ThinkingSplitter) :
    Prop where
  parts : ∃ reasoning, next.reasoningText = splitter.reasoningText ++ reasoning ∧
    ∀ more parts, Separates next.inThink (next.pending ++ more) parts →
      Separates splitter.inThink (splitter.pending ++ more) (joinParts (reasoning, visible) parts)
  waiting : next.Waiting

def feedAll : List (List Char) → ThinkingSplitter → List Char × ThinkingSplitter
  | [], splitter => ([], splitter)
  | chunk :: chunks, splitter =>
      let (visible, next) := splitter.feed chunk
      let (later, final) := feedAll chunks next
      (visible ++ later, final)

theorem tag_eq (splitter : ThinkingSplitter) : splitter.tag = sideTag splitter.inThink := rfl

theorem pass_eq (splitter : ThinkingSplitter) (released : List Char) :
    splitter.pass released = ((onSide splitter.inThink released).2,
      { splitter with
        reasoningText := splitter.reasoningText ++ (onSide splitter.inThink released).1 }) := by
  obtain ⟨inThink, pending, reasoningText⟩ := splitter
  cases inThink <;> simp [pass, onSide]

theorem settles_hold (hnone : splitter.Waiting) {count : Nat}
    (hcount : count = splitter.pending.length - (splitter.tag.length - 1)) :
    Settles splitter
      ({ splitter with pending := splitter.pending.drop count }.pass
        (splitter.pending.take count)).1
      ({ splitter with pending := splitter.pending.drop count }.pass
        (splitter.pending.take count)).2 := by
  rw [pass_eq]
  have hjoin := List.take_append_drop count splitter.pending
  have hsearch : splitAtTag (sideTag splitter.inThink)
      (splitter.pending.take count ++ splitter.pending.drop count) = none := by
    rw [hjoin]
    exact hnone
  refine ⟨⟨_, rfl, fun more parts hparts => ?_⟩, ?_⟩
  · rw [tag_eq] at hcount
    by_cases hzero : count = 0
    · subst hzero
      simpa [onSide, joinParts_nil] using hparts
    · have hkept : (sideTag splitter.inThink).length ≤ (splitter.pending.drop count).length +
          1 := by
        rw [List.length_drop]
        omega
      have hall := hparts.prepend hkept hsearch
      rwa [hjoin] at hall
  · exact splitAtTag_none_of_append hsearch

theorem settles_tag {visible released rest : List Char} {passed next : ThinkingSplitter}
    (hfound : splitAtTag splitter.tag splitter.pending = some (released, rest))
    (hpassed : passed = ({ splitter with pending := rest }.pass released).2)
    (hnext : Settles { passed with inThink := !splitter.inThink } visible next) :
    Settles splitter (({ splitter with pending := rest }.pass released).1 ++ visible) next := by
  rw [pass_eq] at hpassed ⊢
  subst hpassed
  obtain ⟨⟨reasoning, hreasoning, hparts⟩, hwaiting⟩ := hnext
  refine ⟨⟨(onSide splitter.inThink released).1 ++ reasoning, ?_, ?_⟩, hwaiting⟩
  · rw [hreasoning, List.append_assoc]
  · intro more parts hmore
    have hall := Separates.tag (splitAtTag_append_of_some hfound more) (hparts more parts hmore)
    rwa [← joinParts_assoc] at hall

theorem settles_feedLoop {fuel : Nat} (hfuel : splitter.pending.length < fuel) :
    Settles splitter (feedLoop fuel splitter).1 (feedLoop fuel splitter).2 := by
  induction fuel generalizing splitter with
  | zero => cases hfuel
  | succ fuel ih =>
      rw [feedLoop]
      cases hsearch : splitAtTag splitter.tag splitter.pending with
      | none => exact settles_hold hsearch rfl
      | some found =>
          obtain ⟨released, rest⟩ := found
          have hrest : rest.length < splitter.pending.length :=
            length_lt_of_splitAtTag (sideTag_ne_nil splitter.inThink) hsearch
          refine settles_tag hsearch rfl (ih ?_)
          rw [pass_eq]
          exact lt_of_lt_of_le hrest (Nat.le_of_lt_succ hfuel)

theorem settles_feed (splitter : ThinkingSplitter) (chunk : List Char) :
    ∃ reasoning, (splitter.feed chunk).2.reasoningText = splitter.reasoningText ++ reasoning ∧
      ∀ more parts,
        Separates (splitter.feed chunk).2.inThink ((splitter.feed chunk).2.pending ++ more) parts →
        Separates splitter.inThink (splitter.pending ++ (chunk ++ more))
          (joinParts (reasoning, (splitter.feed chunk).1) parts) := by
  by_cases hchunk : chunk = []
  · subst hchunk
    exact ⟨[], by simp [feed], fun more parts hparts => by simpa [feed, joinParts] using hparts⟩
  · rw [feed, if_neg hchunk]
    let loaded : ThinkingSplitter := { splitter with pending := splitter.pending ++ chunk }
    have hloop : Settles loaded (feedLoop (loaded.pending.length + 1) loaded).1
        (feedLoop (loaded.pending.length + 1) loaded).2 := settles_feedLoop (Nat.lt_succ_self _)
    obtain ⟨reasoning, hreasoning, hparts⟩ := hloop.parts
    refine ⟨reasoning, hreasoning, fun more parts hmore => ?_⟩
    rw [← List.append_assoc]
    exact hparts more parts hmore

theorem waiting_feed (hwaiting : splitter.Waiting) (chunk : List Char) :
    (splitter.feed chunk).2.Waiting := by
  by_cases hchunk : chunk = []
  · simpa [feed, hchunk] using hwaiting
  · rw [feed, if_neg hchunk]
    exact (settles_feedLoop (Nat.lt_succ_self _)).waiting

theorem settles_feedAll (hwaiting : splitter.Waiting) (chunks : List (List Char)) :
    (feedAll chunks splitter).2.Waiting ∧
      ∃ reasoning,
        (feedAll chunks splitter).2.reasoningText = splitter.reasoningText ++ reasoning ∧
        ∀ parts, Separates (feedAll chunks splitter).2.inThink (feedAll chunks splitter).2.pending
            parts →
          Separates splitter.inThink (splitter.pending ++ chunks.flatten)
            (joinParts (reasoning, (feedAll chunks splitter).1) parts) := by
  induction chunks generalizing splitter with
  | nil =>
      refine ⟨hwaiting, [], by simp [feedAll], fun parts hparts => ?_⟩
      simpa [feedAll, joinParts] using hparts
  | cons chunk chunks ih =>
      obtain ⟨reasoning, hreasoning, hchunk⟩ := settles_feed splitter chunk
      obtain ⟨hlast, later, hlater, hchunks⟩ := ih (waiting_feed hwaiting chunk)
      refine ⟨hlast, reasoning ++ later, ?_, fun parts hparts => ?_⟩
      · rw [feedAll, hlater, hreasoning, List.append_assoc]
      · have hall := hchunk _ _ (hchunks parts hparts)
        rw [← joinParts_assoc] at hall
        exact hall

theorem flush_eq (splitter : ThinkingSplitter) :
    splitter.flush.1 = (onSide splitter.inThink splitter.pending).2 ∧
      splitter.flush.2.reasoningText =
        splitter.reasoningText ++ (onSide splitter.inThink splitter.pending).1 := by
  rw [flush, pass_eq]
  exact ⟨rfl, rfl⟩

/-- **Streaming separates like the whole answer.** However a text is cut into chunks, the visible
text handed out for the chunks and by the final flush is the visible part of the whole text, and the
reasoning kept is its reasoning part. -/
theorem feed_chunks_separate_like_whole (chunks : List (List Char)) :
    (feedAll chunks {}).1 ++ (feedAll chunks {}).2.flush.1 = (splitThinking chunks.flatten).2 ∧
      (feedAll chunks {}).2.flush.2.reasoningText = (splitThinking chunks.flatten).1 := by
  have hstart : ({} : ThinkingSplitter).Waiting := by unfold Waiting; decide
  obtain ⟨hwaiting, reasoning, hreasoning, hseparates⟩ := settles_feedAll hstart chunks
  have hstreamed := hseparates _ (.last hwaiting)
  have heq := (separates_splitThinking chunks.flatten).unique hstreamed
  obtain ⟨hvisible, hkept⟩ := flush_eq (feedAll chunks {}).2
  rw [hvisible, hkept, hreasoning, heq]
  exact ⟨rfl, rfl⟩

/-- What could still begin a tag is handed out by the flush. -/
example :
    let fed := feedAll ["a<th".toList, "ink>b</t".toList, "hink>c<".toList] {}
    fed.1 = "a".toList ∧ fed.2.flush.1 = "c<".toList := by decide

end ThinkingSplitter

end AiAnalytics.App

import AiAnalytics.App.Orchestration.BuildHistory

/-!
# The budget of the history

The turns that are kept are the newest ones. The budget holds as soon as the newest turn is within
it, and that one exceeds it only where its caps are all at zero.
-/

namespace AiAnalytics.App.DeepAgents

open Lib

variable {limits : HistoryLimits} {turn : Turn} {turns : List Turn} {caps : TurnCaps}
  {maxTotalChars : Int}

section Search

theorem searchCap_fits (fits : Int → Bool) {lo hi : Int} (h : fits lo = true) :
    fits (searchCap fits lo hi) = true := by
  induction lo, hi using searchCap.induct fits with
  | case1 lo hi hlt mid hmid ih =>
      rw [searchCap, if_pos hlt]
      dsimp only
      rw [if_pos hmid]
      exact ih hmid
  | case2 lo hi hlt mid hmid ih =>
      rw [searchCap, if_pos hlt]
      dsimp only
      rw [if_neg hmid]
      exact ih h
  | case3 lo hi hlt =>
      rw [searchCap, if_neg hlt]
      exact h

def zeroed (keys : List ShrunkCap) (caps : TurnCaps) : TurnCaps :=
  keys.foldl (fun caps key => caps.withCap key 0) caps

theorem shrink_cases (turn : Turn) (maxTotalChars : Int) (keys : List ShrunkCap) (caps : TurnCaps) :
    fitsUnder turn maxTotalChars (shrink turn maxTotalChars keys caps) = true ∨
      shrink turn maxTotalChars keys caps = zeroed keys caps := by
  induction keys generalizing caps with
  | nil => exact .inr rfl
  | cons key keys ih =>
      rw [shrink]
      by_cases hzero : fitsUnder turn maxTotalChars (caps.withCap key 0) = true
      · rw [if_pos hzero]
        exact .inl (searchCap_fits (fun cap => fitsUnder turn maxTotalChars (caps.withCap key cap))
          hzero)
      · rw [if_neg hzero]
        exact ih (caps.withCap key 0)

def HistoryLimits.zeroCaps (limits : HistoryLimits) : TurnCaps :=
  { limits.caps with resultCap := 0, argsCap := 0, textCap := 0 }

theorem shrunkCaps_cases (limits : HistoryLimits) (turn : Turn) :
    (size (renderTurn (shrunkCaps limits turn) turn) : Int) ≤ limits.maxTotalChars ∨
      shrunkCaps limits turn = limits.zeroCaps := by
  rcases shrink_cases turn limits.maxTotalChars [.resultCap, .argsCap, .textCap]
    limits.caps with hfits | hzero
  · exact .inl (of_decide_eq_true hfits)
  · exact .inr hzero

theorem shrink_other (turn : Turn) (maxTotalChars : Int) (keys : List ShrunkCap) (caps : TurnCaps) :
    (shrink turn maxTotalChars keys caps).userCap = caps.userCap ∧
      (shrink turn maxTotalChars keys caps).maxObs = caps.maxObs := by
  induction keys generalizing caps with
  | nil => exact ⟨rfl, rfl⟩
  | cons key keys ih =>
      rw [shrink]
      split_ifs
      · cases key <;> exact ⟨rfl, rfl⟩
      · obtain ⟨huser, hobs⟩ := ih (caps.withCap key 0)
        cases key <;> exact ⟨huser, hobs⟩

end Search

section Turns

variable {included : List Rendered}

theorem includeTurns_older (limits : HistoryLimits) (turns : List Turn) (total : Nat)
    (hincluded : included ≠ []) : ∃ kept, kept <+: turns ∧
    (includeTurns limits turns included total).1 = (kept.map (renderTurn limits.caps)).reverse ++
      included ∧ (includeTurns limits turns included total).2 =
        total + (kept.map fun turn => size (renderTurn limits.caps turn)).sum ∧
      (kept = [] ∨ ((includeTurns limits turns included total).2 : Int) ≤
      limits.maxTotalChars) := by
  induction turns generalizing included total with
  | nil => exact ⟨[], List.prefix_rfl, rfl, rfl, .inl rfl⟩
  | cons turn turns ih =>
      rw [includeTurns]
      dsimp only
      rw [if_neg (by simp [hincluded])]
      by_cases hlarge : limits.maxTotalChars < total + size (renderTurn limits.caps turn)
      · rw [if_pos hlarge]
        exact ⟨[], List.nil_prefix, rfl, rfl, .inl rfl⟩
      · rw [if_neg hlarge]
        obtain ⟨kept, hkept, hincluded', htotal, hfits⟩ :=
          ih (total + size (renderTurn limits.caps turn))
            (List.cons_ne_nil (renderTurn limits.caps turn) included)
        refine ⟨turn :: kept, List.cons_prefix_cons.mpr ⟨rfl, hkept⟩, ?_, ?_, .inr ?_⟩
        · rw [hincluded', List.map_cons, List.reverse_cons, List.append_assoc]
          rfl
        · rw [htotal, List.map_cons, List.sum_cons, Nat.add_assoc]
        · rcases hfits with rfl | hfits
          · rw [htotal, List.map_nil, List.sum_nil]
            push_cast
            omega
          · exact hfits

def newestCaps (limits : HistoryLimits) (newest : Turn) : TurnCaps :=
  if limits.maxTotalChars < size (renderTurn limits.caps newest) then shrunkCaps limits newest
    else limits.caps

theorem newestCaps_cases (limits : HistoryLimits) (newest : Turn) :
    (size (renderTurn (newestCaps limits newest) newest) : Int) ≤ limits.maxTotalChars ∨
      newestCaps limits newest = limits.zeroCaps := by
  rw [newestCaps]
  split_ifs with hlarge
  · exact shrunkCaps_cases limits newest
  · exact .inl (Int.not_lt.mp hlarge)

theorem newestCaps_other (limits : HistoryLimits) (newest : Turn) :
    (newestCaps limits newest).userCap = limits.maxUserChars ∧
      (newestCaps limits newest).maxObs = limits.maxObservations := by
  rw [newestCaps]
  split_ifs
  · exact shrink_other newest limits.maxTotalChars _ limits.caps
  · exact ⟨rfl, rfl⟩

theorem includeTurns_newest (limits : HistoryLimits) (newest : Turn) (older : List Turn) :
    includeTurns limits (newest :: older) [] 0 =
      includeTurns limits older [renderTurn (newestCaps limits newest) newest]
        (size (renderTurn (newestCaps limits newest) newest)) := by
  rw [includeTurns, newestCaps]
  dsimp only
  rw [Nat.cast_zero, zero_add, Nat.zero_add, Nat.zero_add]
  by_cases hlarge : limits.maxTotalChars < size (renderTurn limits.caps newest)
  · rw [if_pos ⟨rfl, hlarge⟩, if_pos hlarge]
  · rw [if_neg fun h => hlarge h.2, if_neg hlarge, if_neg hlarge]

end Turns

section Budget

def totalChars (messages : List ChatMessage) : Nat :=
  (messages.map fun message => message.content.length).sum

def ShownAs (limits : HistoryLimits) (turn : Turn) (rendered : Rendered) : Prop :=
  ∃ caps : TurnCaps, caps.userCap = limits.maxUserChars ∧ caps.maxObs = limits.maxObservations ∧
    rendered = renderTurn caps turn

/-- What the budget makes of the turns: the newest of them, within the bounds on their number and
their size. -/
structure WithinBudget (limits : HistoryLimits) (turns kept : List Turn)
    (messages : List ChatMessage) : Prop where
  newest : kept <:+ turns
  atMost : (kept.length : Int) ≤ limits.maxTurns
  some_kept : turns ≠ [] → kept ≠ []
  rendered : ∃ rendered, messages = rendered.flatMap turnMessages ∧
    List.Forall₂ (ShownAs limits) kept rendered
  /-- Only the newest turn exceeds the budget, alone and with nothing left to cut. -/
  budget : (totalChars messages : Int) ≤ limits.maxTotalChars ∨ ∃ turn, kept = [turn] ∧
    limits.maxTotalChars < size (renderTurn limits.zeroCaps turn)

theorem totalChars_turns (rendered : List Rendered) :
    totalChars (rendered.flatMap turnMessages) = (rendered.map size).sum := by
  induction rendered with
  | nil => rfl
  | cons first rest ih =>
      rw [List.flatMap_cons, totalChars, List.map_append, List.sum_append, List.map_cons,
        List.sum_cons]
      rw [totalChars] at ih
      rw [ih]
      simp [turnMessages, size]

theorem candidateTurns_suffix (maxTurns : Int) (turns : List Turn) :
    candidateTurns maxTurns turns <:+ turns := by
  rw [candidateTurns]
  split_ifs
  · exact List.drop_suffix _ _
  · exact List.nil_suffix

theorem length_candidateTurns {maxTurns : Int} (h : 0 < maxTurns) (turns : List Turn) :
    ((candidateTurns maxTurns turns).length : Int) ≤ maxTurns := by
  rw [candidateTurns, if_pos h, List.length_drop]
  omega

theorem candidateTurns_ne_nil {maxTurns : Int} (h : 0 < maxTurns) (hturns : turns ≠ []) :
    candidateTurns maxTurns turns ≠ [] := by
  have hpos := List.length_pos_iff.mpr hturns
  rw [candidateTurns, if_pos h, ← List.length_pos_iff, List.length_drop]
  omega

theorem includeTurns_shown (limits : HistoryLimits) (turns : List Turn) : ∃ kept, kept <+: turns ∧
    (turns ≠ [] → kept ≠ []) ∧
    List.Forall₂ (ShownAs limits) kept.reverse (includeTurns limits turns [] 0).1 ∧
      (includeTurns limits turns [] 0).2 = ((includeTurns limits turns [] 0).1.map size).sum ∧
      (kept = [] ∨ ((includeTurns limits turns [] 0).2 : Int) ≤ limits.maxTotalChars ∨
        ∃ turn, kept = [turn] ∧ limits.maxTotalChars < size (renderTurn limits.zeroCaps turn)) := by
  cases turns with
  | nil => exact ⟨[], List.prefix_rfl, absurd rfl, .nil, rfl, .inl rfl⟩
  | cons newest older =>
      obtain ⟨huser, hobs⟩ := newestCaps_other limits newest
      have hnewest := newestCaps_cases limits newest
      rw [includeTurns_newest]
      generalize newestCaps limits newest = caps at huser hobs hnewest
      obtain ⟨kept, hkept, hincluded, htotal, hfits⟩ := includeTurns_older limits older
        (size (renderTurn caps newest)) (List.cons_ne_nil (renderTurn caps newest) [])
      refine ⟨newest :: kept, List.cons_prefix_cons.mpr ⟨rfl, hkept⟩, fun _ => List.cons_ne_nil _ _,
        ?_, ?_, .inr ?_⟩
      · rw [hincluded, ← List.map_reverse, List.reverse_cons]
        refine List.rel_append ?_ (.cons ⟨_, huser, hobs, rfl⟩ .nil)
        exact List.forall₂_map_right_iff.mpr (List.forall₂_same.mpr fun turn _ =>
          ⟨limits.caps, rfl, rfl, rfl⟩)
      · rw [hincluded, htotal, List.map_append, List.sum_append, List.map_reverse, List.sum_reverse,
          List.map_map, List.map_singleton, List.sum_singleton, Nat.add_comm]
        rfl
      · rcases hfits with rfl | hfits
        · rw [htotal, List.map_nil, List.sum_nil, Nat.add_zero]
          rcases hnewest with hfits | rfl
          · exact .inl hfits
          · by_cases hover : limits.maxTotalChars < size (renderTurn limits.zeroCaps newest)
            · exact .inr ⟨newest, rfl, hover⟩
            · exact .inl (Int.not_lt.mp hover)
        · exact .inl hfits

theorem includeTurns_within (hbudget : 0 ≤ limits.maxTotalChars) (hmax : 0 < limits.maxTurns)
    (turns : List Turn) : ∃ kept, WithinBudget limits turns kept
        ((includeTurns limits (candidateTurns limits.maxTurns turns).reverse [] 0).1.flatMap
        turnMessages) ∧
      (includeTurns limits (candidateTurns limits.maxTurns turns).reverse [] 0).2 = totalChars
        ((includeTurns limits (candidateTurns limits.maxTurns turns).reverse [] 0).1.flatMap
        turnMessages) := by
  obtain ⟨kept, hkept, hsome, hshown, htotal, hfits⟩ :=
    includeTurns_shown limits (candidateTurns limits.maxTurns turns).reverse
  have hsuffix : kept.reverse <:+ candidateTurns limits.maxTurns turns := by
    rw [← List.reverse_reverse (candidateTurns _ _)]
    exact List.reverse_suffix.mpr hkept
  have hle := hsuffix.length_le
  have hlength := length_candidateTurns hmax turns
  refine ⟨kept.reverse, ⟨hsuffix.trans (candidateTurns_suffix _ _), by omega, fun hturns => ?_,
    ⟨_, rfl, hshown⟩, ?_⟩, ?_⟩
  · rw [Ne, List.reverse_eq_nil_iff]
    exact hsome (List.reverse_ne_nil_iff.mpr (candidateTurns_ne_nil hmax hturns))
  · rw [totalChars_turns, ← htotal]
    rcases hfits with rfl | hfits | ⟨turn, rfl, hover⟩
    · refine .inl ?_
      rw [List.reverse_nil, List.forall₂_nil_left_iff] at hshown
      rw [htotal, hshown]
      exact hbudget
    · exact .inl hfits
    · exact .inr ⟨turn, rfl, hover⟩
  · rw [totalChars_turns, htotal]

/-- Every history under a positive number of turns keeps its budget. -/
theorem history_budget_kept {Float : Type} (fmt : PyFormat Float) (num : NumOps Float)
    (stored : List (Message Float)) (conversationId currentMessageId : String)
    (hbudget : 0 ≤ limits.maxTotalChars) (hmax : 0 < limits.maxTurns) :
    ∃ kept, WithinBudget limits (historyTurns fmt num
      (priorMessages stored conversationId currentMessageId)) kept
        (buildHistoryMessages fmt num stored conversationId currentMessageId limits).messages ∧
      (buildHistoryMessages fmt num stored conversationId currentMessageId
      limits).metadata.totalChars =
        totalChars (buildHistoryMessages fmt num stored conversationId currentMessageId
        limits).messages :=
  includeTurns_within hbudget hmax _

def textFormat : PyFormat Unit :=
  { repr := fun _ => "", fixed4 := fun _ => "", dumps := fun _ _ _ => "\x7b\x7d" }

def noFloats : NumOps Unit where
  ofInt _ := none
  zero := ()
  isZero _ := true
  isPositive _ := false
  add _ _ := ()
  sub _ _ := ()
  mul _ _ := ()
  div _ _ := ()

def said (sequence : Int) (role content : String) : Message Unit :=
  { messageId := "m" ++ toString sequence, conversationId := "c1", sequence, role, content
    createdAt := "2026-01-01T00:00:00Z", metadata := .dict [] }

def twoQuestions : List (Message Unit) :=
  [said 1 "user" "top zones", said 2 "assistant" "JFK leads.", said 3 "user" "and then",
    said 4 "assistant" "Midtown.", said 5 "user" "now"]

theorem history_budget_kept_newest :
    (∃ kept, WithinBudget { maxTotalChars := 20 }
      (historyTurns textFormat noFloats (priorMessages twoQuestions "c1" "m5"))
        kept (buildHistoryMessages textFormat noFloats twoQuestions "c1" "m5"
          { maxTotalChars := 20 }).messages ∧
      (buildHistoryMessages textFormat noFloats twoQuestions "c1" "m5"
        { maxTotalChars := 20 }).metadata.totalChars =
        totalChars (buildHistoryMessages textFormat noFloats twoQuestions "c1" "m5"
          { maxTotalChars := 20 }).messages) ∧
    (buildHistoryMessages textFormat noFloats twoQuestions "c1" "m5"
      { maxTotalChars := 20 }).messages =
      [⟨.user, "and then".toList⟩, ⟨.assistant, "Midtown.".toList⟩] :=
  ⟨history_budget_kept textFormat noFloats twoQuestions "c1" "m5" (by decide) (by decide), by rfl⟩

end Budget

end AiAnalytics.App.DeepAgents

import AiAnalytics.App.Orchestration.Proof.HistoryBudget
import AiAnalytics.App.Orchestration.Proof.UntrustedBlocks
import Mathlib.Order.Bounds.Basic
import Mathlib.Tactic.Ring

/-!
# The search for a cap

A text that is cut by one character gets a marker of twelve. So a larger cap makes a turn shorter
wherever the texts that it no longer cuts had been marked for less than the other texts gain, and
the search may stop short there. -/

namespace AiAnalytics.App.DeepAgents

open Lib

section Search

theorem searchCap_isGreatest (fits : Int → Bool) {lo hi : Int} (hle : lo ≤ hi)
    (hlo : fits lo = true)
    (hmono : ∀ m n, lo ≤ m → m ≤ n → n ≤ hi → fits n = true → fits m = true) :
    IsGreatest {cap | lo ≤ cap ∧ cap ≤ hi ∧ fits cap = true} (searchCap fits lo hi) := by
  induction lo, hi using searchCap.induct fits with
  | case1 lo hi hlt mid hmid ih =>
      have hlower : lo ≤ mid := by omega
      have hupper : mid ≤ hi := by omega
      obtain ⟨⟨hfrom, hto, hfits⟩, hgreatest⟩ :=
        ih hupper hmid fun m n hm => hmono m n (hlower.trans hm)
      rw [searchCap, if_pos hlt]
      dsimp only
      rw [if_pos hmid]
      refine ⟨⟨hlower.trans hfrom, hto, hfits⟩, fun cap hcap => ?_⟩
      by_cases hbelow : cap < mid
      · exact hbelow.le.trans hfrom
      · exact hgreatest ⟨Int.not_lt.mp hbelow, hcap.2⟩
  | case2 lo hi hlt mid hmid ih =>
      have hlower : lo ≤ mid - 1 := by omega
      have hupper : mid - 1 ≤ hi := by omega
      obtain ⟨⟨hfrom, hto, hfits⟩, hgreatest⟩ :=
        ih hlower hlo fun m n hm hmn hn => hmono m n hm hmn (hn.trans hupper)
      rw [searchCap, if_pos hlt]
      dsimp only
      rw [if_neg hmid]
      refine ⟨⟨hfrom, hto.trans hupper, hfits⟩, fun cap hcap => hgreatest ⟨hcap.1, ?_, hcap.2.2⟩⟩
      by_contra habove
      exact hmid (hmono mid cap (by omega) (by omega) hcap.2.1 hcap.2.2)
  | case3 lo hi hlt =>
      rw [searchCap, if_neg hlt]
      exact ⟨⟨le_rfl, hle, hlo⟩, fun cap hcap => hcap.2.1.trans (Int.not_lt.mp hlt)⟩

end Search

section Cutting

def written : ShrunkCap → List Char → List Char
  | .resultCap => neutralize
  | .argsCap => attr
  | .textCap => id

theorem tagAfter_truncated (text : List Char) :
    tagAfter (text ++ ' ' :: truncatedMarker) = tagAfter text := by
  have hbar := tagAfter_bar bar_bracket (text ++ [' ']) "truncated]".toList
  rw [List.append_assoc, List.singleton_append] at hbar
  have hmarker : truncatedMarker = '[' :: "truncated]".toList := by decide
  rw [hmarker, hbar, tagAfter_space (by decide)]

theorem neutralize_truncated (text : List Char) :
    neutralize (text ++ ' ' :: truncatedMarker) = neutralize text ++ ' ' :: truncatedMarker := by
  rw [neutralize_eq, neutralize_eq]
  induction text with
  | nil => decide
  | cons c text ih =>
    rw [List.cons_append, neutralized, neutralized, tagAfter_truncated, ih, List.append_assoc]

theorem replaceChar_append (old : Char) (new : String) (text more : List Char) :
    replaceChar old new (text ++ more) = replaceChar old new text ++ replaceChar old new more :=
  List.flatMap_append

theorem written_truncated (key : ShrunkCap) (text : List Char) :
    written key (text ++ ' ' :: truncatedMarker) = written key text ++ ' ' :: truncatedMarker := by
  cases key with
  | resultCap => exact neutralize_truncated text
  | argsCap =>
      simp only [written, attr, neutralize_truncated, replaceChar_append]
      congr 1
  | textCap => rfl

def width (key : ShrunkCap) (text : List Char) (n : ℕ) : Int := (written key (text.take n)).length

def shownLength (key : ShrunkCap) (text : List Char) (cap : Int) : ℕ :=
  (written key (clip text cap).1).length

theorem shownLength_whole {key : ShrunkCap} {text : List Char} {n : ℕ} (h : text.length ≤ n) :
    (shownLength key text n : Int) = width key text n := by
  rw [shownLength, clip, if_pos (by omega), width, List.take_of_length_le h]

theorem shownLength_cut {key : ShrunkCap} {text : List Char} {n : ℕ} (h : n < text.length) :
    (shownLength key text n : Int) = width key text n + 12 := by
  have hmarker : (' ' :: truncatedMarker).length = 12 := by decide
  rw [shownLength, clip, if_neg (by omega), Int.toNat_natCast, written_truncated,
    List.length_append, hmarker, width]
  push_cast
  ring

def stepOf (key : ShrunkCap) (n : ℕ) (text : List Char) : Int :=
  if n + 1 ≤ text.length then
    width key text (n + 1) - width key text n - (if text.length = n + 1 then 12 else 0)
  else 0

theorem shownLength_succ (key : ShrunkCap) (text : List Char) (n : ℕ) :
    (shownLength key text (n + 1) : Int) = shownLength key text n + stepOf key n text := by
  have hcast : ((n : Int) + 1) = ((n + 1 : ℕ) : Int) := by push_cast; rfl
  rw [stepOf, hcast]
  rcases Nat.lt_trichotomy text.length (n + 1) with hshort | hlast | hlong
  · rw [if_neg (by omega), shownLength_whole (by omega), shownLength_whole (by omega), width, width,
      List.take_of_length_le (by omega), List.take_of_length_le (by omega), add_zero]
  · rw [if_pos (by omega), if_pos hlast, shownLength_whole (by omega), shownLength_cut (by omega)]
    ring
  · rw [if_pos (by omega), if_neg (by omega), shownLength_cut hlong, shownLength_cut (by omega)]
    ring

end Cutting

section Sizes

variable {caps : TurnCaps} {turn : Turn}

def obsTexts (key : ShrunkCap) (obs : Obs) : List (List Char) :=
  match key with
  | .resultCap => [obs.content]
  | .argsCap => obs.arguments.toList
  | .textCap => []

def cutTexts (caps : TurnCaps) (turn : Turn) (key : ShrunkCap) : List (List Char) :=
  (included caps turn.observations).flatMap (obsTexts key) ++
    match key with
    | .textCap => [turn.assistant]
    | .resultCap | .argsCap => []

theorem included_withCap (key : ShrunkCap) (cap : Int) (observations : List Obs) :
    included (caps.withCap key cap) observations = included caps observations := by
  cases key <;> rfl

theorem attrs_congr {caps caps' : TurnCaps} {obs : Obs}
    (h : obs.arguments.isSome = true → caps.argsCap = caps'.argsCap) :
    attrs caps obs = attrs caps' obs := by
  unfold attrs
  cases harguments : obs.arguments with
  | none => rfl
  | some arguments => rw [h (by rw [harguments]; rfl)]

theorem attrs_arguments {obs : Obs} {arguments : List Char} (h : obs.arguments = some arguments) :
    ∃ before, ∀ caps, attrs caps obs = before ++ attr (clip arguments caps.argsCap).1 ++ ['"'] := by
  unfold attrs
  rw [h]
  simp only [tagAttribute, ← List.append_assoc]
  exact ⟨_, fun caps => rfl⟩

theorem block_withCap (caps : TurnCaps) (key : ShrunkCap) (obs : Obs) : ∃ before after, ∀ cap,
    block (caps.withCap key cap) obs =
      before ++ ((obsTexts key obs).map fun text => written key (clip text cap).1).flatten ++
      after := by
  cases key with
  | resultCap =>
      refine ⟨'<' :: untrustedTag ++ ' ' :: attrs caps obs ++ ">\n".toList,
        "\n</".toList ++ untrustedTag ++ ['>'],
        fun cap => ?_⟩
      have hattrs : attrs (caps.withCap .resultCap cap) obs = attrs caps obs :=
        attrs_congr fun _ => rfl
      have hcap : (caps.withCap .resultCap cap).resultCap = cap := rfl
      rw [block, hattrs, hcap]
      simp only [obsTexts, written, List.map_cons, List.map_nil, List.flatten_cons,
        List.flatten_nil, List.append_nil, List.append_assoc, List.cons_append]
  | argsCap =>
      cases harguments : obs.arguments with
      | none =>
          refine ⟨block caps obs, [], fun cap => ?_⟩
          have hattrs : attrs (caps.withCap .argsCap cap) obs = attrs caps obs :=
            attrs_congr (by simp [harguments])
          have hcap : (caps.withCap .argsCap cap).resultCap = caps.resultCap := rfl
          rw [block, hattrs, hcap, ← block, obsTexts, harguments, Option.toList_none, List.map_nil,
            List.flatten_nil, List.append_nil, List.append_nil]
      | some arguments =>
          obtain ⟨before, hattrs⟩ := attrs_arguments harguments
          refine ⟨'<' :: untrustedTag ++ ' ' :: before, ['"'] ++ ">\n".toList ++
            neutralize (clip obs.content caps.resultCap).1 ++ "\n</".toList ++ untrustedTag ++
              ['>'], fun cap => ?_⟩
          have hargs : (caps.withCap .argsCap cap).argsCap = cap := rfl
          have hcap : (caps.withCap .argsCap cap).resultCap = caps.resultCap := rfl
          rw [block, hcap, hattrs, hargs]
          simp only [obsTexts, harguments, Option.toList_some, List.map_cons, List.map_nil,
            List.flatten_cons,
            List.flatten_nil, List.append_nil, written, List.append_assoc, List.cons_append,
            List.nil_append]
  | textCap =>
      refine ⟨block caps obs, [], fun cap => ?_⟩
      rw [obsTexts, List.map_nil, List.flatten_nil, List.append_nil, List.append_nil]
      rfl

theorem length_block (caps : TurnCaps) (key : ShrunkCap) (obs : Obs) : ∃ rest, ∀ cap,
    (block (caps.withCap key cap) obs).length =
      rest + ((obsTexts key obs).map fun text => shownLength key text cap).sum := by
  obtain ⟨before, after, hblock⟩ := block_withCap caps key obs
  refine ⟨before.length + after.length, fun cap => ?_⟩
  have hsum : ((obsTexts key obs).map fun text => written key (clip text cap).1).flatten.length =
      ((obsTexts key obs).map fun text => shownLength key text cap).sum := by
    rw [List.length_flatten, List.map_map]
    rfl
  rw [hblock, List.length_append, List.length_append, hsum, Nat.add_right_comm]

theorem length_joined (blocks : List (List Char)) (answer : List Char) :
    (['\n'].intercalate (blocks ++ [answer])).length =
      (blocks.map fun block => block.length + 1).sum + answer.length := by
  induction blocks with
  | nil => simp
  | cons block blocks ih =>
      have hrest : blocks ++ [answer] ≠ [] :=
        List.append_ne_nil_of_right_ne_nil _ (List.cons_ne_nil _ _)
      rw [List.cons_append, List.intercalate_cons_of_ne_nil hrest, List.length_append,
        List.length_append, ih]
      simp only [List.map_cons, List.sum_cons, List.length_singleton]
      omega

theorem size_withCap (caps : TurnCaps) (turn : Turn) (key : ShrunkCap) : ∃ rest, ∀ cap,
    size (renderTurn (caps.withCap key cap) turn) =
      rest + ((cutTexts caps turn key).map fun text => shownLength key text cap).sum := by
  have hblocks (observations : List Obs) : ∃ rest, ∀ cap,
      ((observations.map (block (caps.withCap key cap))).map fun block => block.length + 1).sum =
        rest + ((observations.flatMap (obsTexts key)).map fun text =>
          shownLength key text cap).sum := by
    induction observations with
    | nil => exact ⟨0, fun cap => rfl⟩
    | cons obs observations ih =>
        obtain ⟨first, hfirst⟩ := length_block caps key obs
        obtain ⟨rest, hrest⟩ := ih
        refine ⟨first + rest + 1, fun cap => ?_⟩
        rw [List.map_cons, List.map_cons, List.sum_cons, hrest, hfirst, List.flatMap_cons,
          List.map_append, List.sum_append]
        omega
  obtain ⟨rest, hrest⟩ := hblocks (included caps turn.observations)
  have hsize (cap : Int) : size (renderTurn (caps.withCap key cap) turn) =
      (clip turn.user caps.userCap).1.length +
        (rest + (((included caps turn.observations).flatMap (obsTexts key)).map fun text =>
          shownLength key text cap).sum +
            (clip turn.assistant (caps.withCap key cap).textCap).1.length) := by
    rw [← hrest, ← length_joined, size, renderTurn, included_withCap]
    cases key <;> rfl
  generalize (clip turn.user caps.userCap).1.length = user at hsize
  cases key with
  | textCap =>
      refine ⟨user + rest, fun cap => ?_⟩
      rw [hsize, cutTexts, List.map_append, List.sum_append, List.map_singleton,
        List.sum_singleton, ← Nat.add_assoc, ← Nat.add_assoc, ← Nat.add_assoc]
      rfl
  | resultCap | argsCap =>
      refine ⟨user + rest + (clip turn.assistant caps.textCap).1.length, fun cap => ?_⟩
      rw [hsize, cutTexts, List.append_nil, TurnCaps.withCap, ← Nat.add_assoc, ← Nat.add_assoc,
        Nat.add_right_comm]

end Sizes

section Exact

variable {caps : TurnCaps} {turn : Turn} {key : ShrunkCap}

/-- Wherever texts are no longer cut, what the longer texts gain there is worth their markers. -/
def MarkersPaid (key : ShrunkCap) (texts : List (List Char)) (hi : Int) : Prop :=
  ∀ n : ℕ, (n : Int) + 1 ≤ hi → 12 * (texts.countP fun text => text.length = n + 1 : Int) ≤
    ((texts.filter fun text => n + 1 ≤ text.length).map fun text =>
      width key text (n + 1) - width key text n).sum

theorem sum_stepOf (key : ShrunkCap) (n : ℕ) (texts : List (List Char)) :
    (texts.map (stepOf key n)).sum =
      ((texts.filter fun text => n + 1 ≤ text.length).map fun text =>
        width key text (n + 1) - width key text n).sum - 12 * (texts.countP fun text =>
          text.length = n + 1 : Int) := by
  induction texts with
  | nil => rfl
  | cons text texts ih =>
      rw [List.map_cons, List.sum_cons, ih, stepOf, List.filter_cons, List.countP_cons]
      rcases Nat.lt_trichotomy text.length (n + 1) with hshort | hlast | hlong
      · simp [show ¬ n + 1 ≤ text.length by omega, hshort.ne]
      · simp only [hlast, le_refl, if_true, decide_true, List.map_cons, List.sum_cons, Nat.cast_add,
          Nat.cast_one]
        ring
      · simp only [hlong.le, hlong.ne', if_true, if_false, decide_true, decide_false, List.map_cons,
          List.sum_cons, Nat.cast_add, Bool.false_eq_true, Nat.cast_zero]
        ring

theorem size_succ (caps : TurnCaps) (turn : Turn) (key : ShrunkCap) (n : ℕ) :
    (size (renderTurn (caps.withCap key (n + 1)) turn) : Int) =
      size (renderTurn (caps.withCap key n) turn) +
      ((cutTexts caps turn key).map (stepOf key n)).sum := by
  obtain ⟨rest, hrest⟩ := size_withCap caps turn key
  rw [hrest, hrest]
  generalize cutTexts caps turn key = texts
  rw [Nat.cast_add, Nat.cast_add, add_assoc, add_right_inj]
  induction texts with
  | nil => rfl
  | cons text texts ih =>
      simp only [List.map_cons, List.sum_cons, Nat.cast_add]
      rw [ih, shownLength_succ]
      ring

/-- A smaller cap never gives a longer turn, up to the cap from which the search starts. -/
def SizeMonotone (caps : TurnCaps) (turn : Turn) (key : ShrunkCap) : Prop :=
  ∀ m n, 0 ≤ m → m ≤ n → n ≤ caps.cap key →
    size (renderTurn (caps.withCap key m) turn) ≤ size (renderTurn (caps.withCap key n) turn)

theorem sizeMonotone_iff (caps : TurnCaps) (turn : Turn) (key : ShrunkCap) :
    SizeMonotone caps turn key ↔ MarkersPaid key (cutTexts caps turn key) (caps.cap key) := by
  have hstep (n : ℕ) :
      size (renderTurn (caps.withCap key n) turn) ≤
        size (renderTurn (caps.withCap key (n + 1)) turn) ↔
      12 * ((cutTexts caps turn key).countP fun text => text.length = n + 1 : Int) ≤
        (((cutTexts caps turn key).filter fun text => n + 1 ≤ text.length).map fun text =>
          width key text (n + 1) - width key text n).sum := by
    have hsucc := size_succ caps turn key n
    rw [sum_stepOf] at hsucc
    omega
  constructor
  · intro hmono n hn
    exact (hstep n).mp (hmono n (n + 1) (Int.natCast_nonneg n) (by omega) hn)
  · intro hpaid m n hm hmn
    obtain ⟨m, rfl⟩ := Int.eq_ofNat_of_zero_le hm
    induction n, hmn using Int.leInduction with
    | base => exact fun _ => le_rfl
    | succ n hmn ih =>
        intro hn
        obtain ⟨n, rfl⟩ := Int.eq_ofNat_of_zero_le (hm.trans hmn)
        exact (ih (by omega)).trans ((hstep n).mpr (hpaid n hn))

def FittingCaps (caps : TurnCaps) (turn : Turn) (key : ShrunkCap) (maxTotalChars : Int) : Set Int :=
  {cap | 0 ≤ cap ∧ cap ≤ max 0 (caps.cap key) ∧
    fitsUnder turn maxTotalChars (caps.withCap key cap) = true}

def SearchExact (caps : TurnCaps) (turn : Turn) (key : ShrunkCap) (maxTotalChars : Int) : Prop :=
  fitsUnder turn maxTotalChars (caps.withCap key 0) = true →
    IsGreatest (FittingCaps caps turn key maxTotalChars)
      (searchCap (fun cap => fitsUnder turn maxTotalChars (caps.withCap key cap)) 0 (caps.cap key))

theorem SizeMonotone.searchExact (hmono : SizeMonotone caps turn key) (maxTotalChars : Int) :
    SearchExact caps turn key maxTotalChars := by
  intro hzero
  by_cases hcap : 0 ≤ caps.cap key
  · rw [FittingCaps, max_eq_right hcap]
    refine searchCap_isGreatest _ hcap hzero fun m n hm hmn hn hfits => ?_
    have hsize := hmono m n hm hmn hn
    have hfits := of_decide_eq_true hfits
    exact decide_eq_true (le_trans (by exact_mod_cast hsize) hfits)
  · rw [FittingCaps, max_eq_left (by omega), searchCap, if_neg (by omega)]
    exact ⟨⟨le_rfl, le_rfl, hzero⟩, fun cap hcap => hcap.2.1⟩

/-- **The cap search.** It is exact, over a range where smaller caps never give longer turns,
exactly if the markers of the texts in the turn are paid for. -/
theorem capSearch_exact_iff (caps : TurnCaps) (turn : Turn) (key : ShrunkCap)
    (maxTotalChars : Int) : SearchExact caps turn key maxTotalChars ∧ SizeMonotone caps turn key ↔
      MarkersPaid key (cutTexts caps turn key) (caps.cap key) := by
  rw [← sizeMonotone_iff]
  exact ⟨fun h => h.2, fun hmono => ⟨hmono.searchExact maxTotalChars, hmono⟩⟩

def twoResults : Turn where
  user := []
  observations :=
    [⟨"tool".toList, none, none, List.replicate 14 'a'⟩,
      ⟨"tool".toList, none, none, List.replicate 40 'b'⟩]
  assistant := []

def smallCaps : TurnCaps :=
  { userCap := 1000, textCap := 1500, argsCap := 500, resultCap := 20, maxObs := 2 }

set_option maxRecDepth 4000 in
theorem fits_twoResults :
    [0, 5, 7, 8, 9, 10, 14].map
        (fun cap => fitsUnder twoResults 182 (smallCaps.withCap .resultCap cap)) =
      [true, true, true, true, false, false, true] := by
  decide

/-- Both results are cut to eight characters, although at fourteen the first one stays whole and the
turn fits. -/
theorem capSearch_misses :
    ¬ ∀ (caps : TurnCaps) (turn : Turn) (key : ShrunkCap) (maxTotalChars : Int),
    SearchExact caps turn key maxTotalChars ∧ SizeMonotone caps turn key := by
  intro hclaim
  obtain ⟨h0, h5, h7, h8, h9, h10, h14⟩ : _ ∧ _ ∧ _ ∧ _ ∧ _ ∧ _ ∧ _ := by
    simpa only [List.map_cons, List.map_nil, List.cons.injEq, and_true] using fits_twoResults
  have hsearch :
      searchCap (fun cap => fitsUnder twoResults 182 (smallCaps.withCap .resultCap cap)) 0 20 =
        8 := by
    simp [searchCap, h5, h7, h8, h9, h10]
  obtain ⟨-, hgreatest⟩ := (hclaim smallCaps twoResults .resultCap 182).1 h0
  have hle := hgreatest ⟨by decide, by decide, h14⟩
  have hcap : smallCaps.cap .resultCap = 20 := rfl
  rw [hcap, hsearch] at hle
  exact absurd hle (by decide)

end Exact

end AiAnalytics.App.DeepAgents

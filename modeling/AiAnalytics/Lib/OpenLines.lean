import AiAnalytics.Lib.PyText
import Mathlib.Data.List.DropRight

/-!
# The open last line of a text

What is appended to a text continues the line that stands open at its end, and leaves the lines
before it alone. -/

namespace AiAnalytics.Lib

variable {text line rest : List Char} {c : Char}

def openLine (text : List Char) : List Char := text.rtakeWhile fun c => !isLineBreak c

def closedPart (text : List Char) : List Char := text.rdropWhile fun c => !isLineBreak c

theorem closedPart_append_openLine (text : List Char) : closedPart text ++ openLine text = text :=
  List.rdropWhile_append_rtakeWhile

theorem not_isLineBreak_openLine (text : List Char) :
    ∀ c ∈ openLine text, isLineBreak c = false := by
  intro c hc
  simpa using List.mem_rtakeWhile_imp hc

def ClosedText (text : List Char) : Prop := ∀ h : text ≠ [], isLineBreak (text.getLast h) = true

theorem closedText_closedPart (text : List Char) : ClosedText (closedPart text) := by
  intro h
  have hlast := List.rdropWhile_last_not _ _ h
  simpa [closedPart] using hlast

theorem ClosedText.of_cons (h : ClosedText (c :: text)) : ClosedText text := by
  intro hne
  have hlast := h (List.cons_ne_nil c text)
  rwa [List.getLast_cons hne] at hlast

theorem splitLines_eq_nil_iff : splitLines text = [] ↔ text = [] := by
  constructor
  · intro h
    cases text with
    | nil => rfl
    | cons c text =>
        unfold splitLines at h
        split at h
        · assumption
        · cases h
        · split_ifs at h
          split at h <;> cases h
  · rintro rfl
    rfl

theorem splitLines_append (h : ClosedText text) (hrest : ∀ tail, rest ≠ '\n' :: tail) :
    splitLines (text ++ rest) = splitLines text ++ splitLines rest := by
  induction text using splitLines.induct with
  | case1 => rfl
  | case2 text ih =>
      have htext : ClosedText text := h.of_cons.of_cons
      rw [List.cons_append, List.cons_append, splitLines, splitLines, ih htext, List.cons_append]
  | case3 c text hpair hbreak ih =>
      have hpair' : ∀ tail, c = '\r' → text ++ rest = '\n' :: tail → False := by
        intro tail hc htail
        cases text with
        | nil => exact hrest tail htail
        | cons d text =>
            obtain ⟨rfl, -⟩ := List.cons.inj htail
            exact hpair text hc rfl
      rw [List.cons_append, splitLines.eq_3 c _ hpair', splitLines.eq_3 c _ hpair, if_pos hbreak,
        if_pos hbreak, ih h.of_cons, List.cons_append]
  | case4 c text hpair hbreak hnone ih =>
      -- without a break at its end the text would not be closed
      have htext : text = [] := splitLines_eq_nil_iff.mp hnone
      subst htext
      exact absurd (h (List.cons_ne_nil c [])) hbreak
  | case5 c text hpair hbreak first others hsome ih =>
      have hopen : isLineBreak c = false := Bool.eq_false_iff.mpr hbreak
      rw [List.cons_append, splitLines_cons hopen, splitLines_cons hopen, ih h.of_cons, hsome]
      rfl

theorem splitLines_of_oneLine (h : ∀ c ∈ text, isLineBreak c = false) (hne : text ≠ []) :
    splitLines text = [text] := by
  induction text with
  | nil => exact absurd rfl hne
  | cons c text ih =>
      obtain ⟨hc, htext⟩ := List.forall_mem_cons.mp h
      rw [splitLines_cons hc]
      cases text with
      | nil => rfl
      | cons d text => rw [ih htext (List.cons_ne_nil d text)]

theorem splitLines_eq_closed_open (text : List Char) :
    splitLines text = splitLines (closedPart text) ++ if openLine text = [] then []
      else [openLine text] := by
  have hopen := not_isLineBreak_openLine text
  have hsplit : splitLines text = splitLines (closedPart text) ++ splitLines (openLine text) := by
    conv_lhs => rw [← closedPart_append_openLine text]
    refine splitLines_append (closedText_closedPart text) fun tail htail => ?_
    have hbreak := hopen '\n' (by rw [htail]; exact List.mem_cons_self)
    exact absurd hbreak (by decide)
  rw [hsplit]
  split_ifs with hempty
  · rw [hempty]
    rfl
  · rw [splitLines_of_oneLine hopen hempty]

theorem splitLines_append_line (hline : ∀ c ∈ line, isLineBreak c = false) (hne : line ≠ [])
    (rest : List Char) : splitLines (text ++ (line ++ '\n' :: rest)) =
      splitLines (closedPart text) ++ (openLine text ++ line) :: splitLines rest := by
  have hopen := not_isLineBreak_openLine text
  have hall : ∀ c ∈ openLine text ++ line, isLineBreak c = false :=
    List.forall_mem_append.mpr ⟨hopen, hline⟩
  have hsplit : text ++ (line ++ '\n' :: rest) =
      closedPart text ++ (openLine text ++ line ++ '\n' :: rest) := by
    conv_lhs => rw [← closedPart_append_openLine text]
    simp only [List.append_assoc]
  rw [hsplit, splitLines_append (closedText_closedPart text), splitLines_line hall]
  intro tail htail
  obtain ⟨c, others, hcons⟩ :=
    List.exists_cons_of_ne_nil (List.append_ne_nil_of_right_ne_nil (openLine text) hne)
  rw [hcons, List.cons_append] at htail
  obtain rfl := (List.cons.inj htail).1
  exact absurd (hall '\n' (by rw [hcons]; exact List.mem_cons_self)) (by decide)

theorem strip_eq_nil_iff : strip text = [] ↔ ∀ c ∈ text, isSpace c = true := by
  rw [strip, List.reverse_eq_nil_iff, List.dropWhile_eq_nil_iff]
  simp only [List.mem_reverse]
  constructor
  · intro h c hc
    by_cases hdrop : c ∈ text.dropWhile isSpace
    · exact h c hdrop
    · have hsplit := List.takeWhile_append_dropWhile (p := isSpace) (l := text)
      rw [← hsplit] at hc
      exact List.mem_takeWhile_imp ((List.mem_append.mp hc).resolve_right hdrop)
  · intro h c hc
    exact h c ((List.dropWhile_sublist _).subset hc)

end AiAnalytics.Lib

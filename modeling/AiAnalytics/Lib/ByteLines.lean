import Mathlib.Data.List.DropRight
import Mathlib.Tactic.Common

/-!
# Lines of a file of bytes

`bytes.splitlines` ends a line at a line feed, at a carriage return and at the two together. A file
that is only appended to is read up to its last line feed: what stands before it stays as it is.
-/

namespace AiAnalytics.Lib

abbrev Bytes := List UInt8

def lineFeed : UInt8 := 10

def carriageReturn : UInt8 := 13

def consLine (b : UInt8) : List Bytes → List Bytes
  | [] => [[b]]
  | line :: lines => (b :: line) :: lines

def splitLinesFrom : Bool → Bytes → List Bytes
  | _, [] => []
  | afterReturn, b :: rest =>
      if b = lineFeed then
        if afterReturn then splitLinesFrom false rest else [] :: splitLinesFrom false rest
      else if b = carriageReturn then [] :: splitLinesFrom true rest
      else consLine b (splitLinesFrom false rest)

/-- `data.splitlines()` -/
def byteLines (data : Bytes) : List Bytes := splitLinesFrom false data

/-- `data[: data.rfind(b"\n") + 1]` -/
def complete (data : Bytes) : Bytes := data.rdropWhile (· ≠ lineFeed)

def unlines (lines : List Bytes) : Bytes := lines.flatMap fun line => line ++ [lineFeed]

def Closed (data : Bytes) : Prop := ∀ b, data.getLast? = some b → b = lineFeed ∨ b = carriageReturn

structure OneLine (line : Bytes) : Prop where
  ne_nil : line ≠ []
  feed : lineFeed ∉ line
  carriage : carriageReturn ∉ line

variable {data rest line : Bytes} {lines : List Bytes} {b : UInt8}

section Complete

theorem complete_concat (data : Bytes) (b : UInt8) :
    complete (data ++ [b]) = if b = lineFeed then data ++ [b] else complete data := by
  by_cases hb : b = lineFeed <;> simp [complete, hb]

theorem complete_nil : complete [] = [] := rfl

theorem complete_prefix (data : Bytes) : complete data <+: data := List.rdropWhile_prefix _ _

theorem complete_complete (data : Bytes) : complete (complete data) = complete data :=
  List.rdropWhile_idempotent _ _

theorem complete_append (hdata : complete data = data) (rest : Bytes) :
    complete (data ++ rest) = data ++ complete rest := by
  induction rest using List.reverseRecOn with
  | nil => simp [hdata, complete_nil]
  | append_singleton rest b ih =>
      rw [← List.append_assoc, complete_concat, complete_concat, ih]
      by_cases hb : b = lineFeed <;> simp [hb]

theorem complete_append_of_not_mem (hrest : lineFeed ∉ rest) (data : Bytes) :
    complete (data ++ rest) = complete data := by
  induction rest using List.reverseRecOn with
  | nil => rw [List.append_nil]
  | append_singleton rest b ih =>
      have hb : b ≠ lineFeed := fun h => hrest (by simp [h])
      rw [← List.append_assoc, complete_concat, if_neg hb]
      exact ih fun h => hrest (List.mem_append_left _ h)

theorem complete_append_unlines (hlines : lines ≠ []) (data : Bytes) :
    complete (data ++ unlines lines) = data ++ unlines lines := by
  induction lines using List.reverseRecOn with
  | nil => exact absurd rfl hlines
  | append_singleton lines line _ =>
      simp only [unlines, List.flatMap_append, List.flatMap_singleton]
      rw [← List.append_assoc, ← List.append_assoc, complete_concat, if_pos rfl]

theorem complete_append_eq (data rest : Bytes) :
    ∃ more, complete (data ++ rest) = complete data ++ complete more := by
  obtain ⟨tail, htail⟩ := complete_prefix data
  refine ⟨tail ++ rest, ?_⟩
  conv_lhs => rw [← htail, List.append_assoc]
  exact complete_append (complete_complete data) _

end Complete

section Lines

theorem closed_nil : Closed [] := by
  intro b hb
  simp at hb

theorem closed_concat : Closed (data ++ [b]) ↔ b = lineFeed ∨ b = carriageReturn := by
  simp [Closed]

theorem eq_lineFeed_of_complete (h : complete (data ++ [b]) = data ++ [b]) : b = lineFeed := by
  by_contra hb
  rw [complete_concat, if_neg hb] at h
  have hstart := complete_prefix data
  have hshort := hstart.length_le
  rw [h, List.length_append, List.length_singleton] at hshort
  omega

theorem closed_of_complete (h : complete data = data) : Closed data := by
  cases data using List.reverseRecOn with
  | nil => exact closed_nil
  | append_singleton data b => exact closed_concat.mpr (.inl (eq_lineFeed_of_complete h))

def endsInReturn (before : Bool) (data : Bytes) : Bool :=
  (data.getLast?.map fun b => decide (b = carriageReturn)).getD before

theorem endsInReturn_cons (before : Bool) (b : UInt8) (data : Bytes) :
    endsInReturn before (b :: data) = endsInReturn (b = carriageReturn) data := by
  unfold endsInReturn
  rw [List.getLast?_cons]
  cases data.getLast? <;> rfl

theorem closed_of_cons (h : Closed (b :: data)) (hne : data ≠ []) : Closed data := by
  intro c hc
  refine h c ?_
  cases data with
  | nil => exact absurd rfl hne
  | cons d data => simpa using hc

theorem consLine_append (h : lines ≠ []) (more : List Bytes) :
    consLine b (lines ++ more) = consLine b lines ++ more := by
  cases lines with
  | nil => exact absurd rfl h
  | cons line lines => rfl

theorem splitLinesFrom_ne_nil (hdata : data ≠ []) : splitLinesFrom false data ≠ [] := by
  cases data with
  | nil => exact absurd rfl hdata
  | cons b data =>
      unfold splitLinesFrom
      by_cases hfeed : b = lineFeed
      · simp [hfeed]
      by_cases hreturn : b = carriageReturn
      · rw [if_neg hfeed, if_pos hreturn]
        exact List.cons_ne_nil _ _
      · rw [if_neg hfeed, if_neg hreturn]
        cases splitLinesFrom false data <;> simp [consLine]

theorem splitLinesFrom_append (hclosed : Closed data) (before : Bool) (rest : Bytes) :
    splitLinesFrom before (data ++ rest) =
      splitLinesFrom before data ++ splitLinesFrom (endsInReturn before data) rest := by
  induction data generalizing before with
  | nil => simp [splitLinesFrom, endsInReturn]
  | cons b data ih =>
      rw [List.cons_append, endsInReturn_cons]
      have htail : Closed data := by
        by_cases hdata : data = []
        · exact hdata ▸ closed_nil
        · exact closed_of_cons hclosed hdata
      have ih := fun before => ih htail before
      have hdistinct : lineFeed ≠ carriageReturn := by decide
      by_cases hfeed : b = lineFeed
      · subst hfeed
        cases before <;> simp [splitLinesFrom, ih, hdistinct]
      by_cases hreturn : b = carriageReturn
      · subst hreturn
        simp [splitLinesFrom, ih, hdistinct.symm]
      · simp only [splitLinesFrom, hfeed, hreturn, if_false, decide_false, ih]
        have hdata : data ≠ [] := by
          rintro rfl
          rcases hclosed b rfl with h | h
          · exact hfeed h
          · exact hreturn h
        exact consLine_append (splitLinesFrom_ne_nil hdata) _

theorem splitLinesFrom_of_head (hrest : rest.head? ≠ some lineFeed) (before : Bool) :
    splitLinesFrom before rest = splitLinesFrom false rest := by
  cases rest with
  | nil => rfl
  | cons b rest =>
      have hb : b ≠ lineFeed := by simpa using hrest
      simp [splitLinesFrom, hb]

theorem byteLines_append (hclosed : Closed data) (hrest : rest.head? ≠ some lineFeed) :
    byteLines (data ++ rest) = byteLines data ++ byteLines rest := by
  unfold byteLines
  rw [splitLinesFrom_append hclosed, splitLinesFrom_of_head hrest]

theorem byteLines_append_of_complete (h : complete data = data) (rest : Bytes) :
    byteLines (data ++ rest) = byteLines data ++ byteLines rest := by
  unfold byteLines
  rw [splitLinesFrom_append (closed_of_complete h)]
  have hends : endsInReturn false data = false := by
    cases data using List.reverseRecOn with
    | nil => rfl
    | append_singleton data b =>
        have hb := eq_lineFeed_of_complete h
        simp [endsInReturn, hb, lineFeed, carriageReturn]
  rw [hends]

theorem byteLines_line (hline : OneLine line) : byteLines (line ++ [lineFeed]) = [line] := by
  obtain ⟨-, hfeeds, hreturns⟩ := hline
  unfold byteLines
  induction line with
  | nil => rfl
  | cons b line ih =>
      have hfeed : b ≠ lineFeed := fun h => hfeeds (by simp [h])
      have hreturn : b ≠ carriageReturn := fun h => hreturns (by simp [h])
      have hrest := ih (fun h => hfeeds (List.mem_cons_of_mem _ h)) fun h =>
        hreturns (List.mem_cons_of_mem _ h)
      simp only [List.cons_append, splitLinesFrom, hfeed, hreturn, if_false, hrest, consLine]

theorem byteLines_unlines (hlines : ∀ line ∈ lines, OneLine line) :
    byteLines (unlines lines) = lines := by
  induction lines with
  | nil => rfl
  | cons line lines ih =>
      have hcomplete : complete (line ++ [lineFeed]) = line ++ [lineFeed] := by
        rw [complete_concat, if_pos rfl]
      have hrest := ih fun other hother => hlines other (List.mem_cons_of_mem _ hother)
      have hunlines : unlines (line :: lines) = line ++ [lineFeed] ++ unlines lines := rfl
      rw [hunlines, byteLines_append_of_complete hcomplete,
        byteLines_line (hlines line List.mem_cons_self), hrest]
      rfl

theorem head?_unlines (hlines : ∀ line ∈ lines, OneLine line) :
    (unlines lines).head? ≠ some lineFeed := by
  cases lines with
  | nil => simp [unlines]
  | cons line lines =>
      obtain ⟨hne, hfeed, -⟩ := hlines line List.mem_cons_self
      cases line with
      | nil => exact absurd rfl hne
      | cons b line =>
          intro h
          simp only [unlines, List.flatMap_cons, List.cons_append, List.head?_cons,
            Option.some.injEq] at h
          exact hfeed (by simp [h])

theorem byteLines_append_unlines (hclosed : Closed data) (hlines : ∀ line ∈ lines, OneLine line) :
    byteLines (data ++ unlines lines) = byteLines data ++ lines := by
  rw [byteLines_append hclosed (head?_unlines hlines), byteLines_unlines hlines]

end Lines

end AiAnalytics.Lib

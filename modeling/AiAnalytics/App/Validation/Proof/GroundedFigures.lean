import AiAnalytics.App.Validation.Proof.NumberTokens
import Mathlib.Tactic.Linarith

/-!
# Figures quoted from the evidence

A figure that an answer quotes is read without its sign and times the suffix after it. Where neither
changes it, it lies within its own rounding of the cell that it quotes.
-/

namespace AiAnalytics.App.Validation

open Lib Lib.Regex

section Figures

structure Figure where
  negative : Bool := false
  money : Bool := false
  whole : List Char
  fraction : List Char := []
  whole_head : ∃ c rest, whole = c :: rest ∧ c.isDigit = true
  whole_rest : ∀ c ∈ whole, c.isDigit = true ∨ c = ','
  fraction_digits : ∀ c ∈ fraction, c.isDigit = true

namespace Figure

variable (figure : Figure)

def sign : List Char := if figure.negative then ['-'] else []

def dollar : List Char := if figure.money then ['$'] else []

def numeral : List Char :=
  figure.whole ++ if figure.fraction = [] then [] else '.' :: figure.fraction

def text : List Char := figure.sign ++ (figure.dollar ++ figure.numeral)

def magnitude : ℚ :=
  Nat.ofDigitChars 10 (figure.whole.filter (· ≠ ',') ++ figure.fraction) 0 / 10 ^
    figure.fraction.length

def value : ℚ := if figure.negative then -figure.magnitude else figure.magnitude

/-- The figure is `v`, rounded to its number of decimals. -/
def Quotes (v : ℚ) : Prop := |figure.value - v| ≤ 1 / 2 * (1 / 10 ^ figure.fraction.length)

variable (classes : CharClasses) (post : List Char)

def commas : List Char := if figure.fraction = [] then post.takeWhile (· = ',') else []

def rest : List Char := if figure.fraction = [] then post.dropWhile (· = ',') else post

structure Ends : Prop where
  digit : ∀ c ∈ (figure.rest post).head?, (classes.digit c).isSome = false
  point : figure.fraction = [] → fractionOf classes (figure.rest post) = []

def suffix : List Char :=
  (suffixFound classes ⟨(figure.numeral ++ figure.commas post).getLast?, figure.rest post⟩).text

def token : Token :=
  let scale := suffixScale (figure.suffix classes post)
  let percent := suffixKey (figure.suffix classes post) = ['%']
  let plain := figure.fraction = [] ∧
    (1900 ≤ figure.magnitude ∧ figure.magnitude ≤ 2100 ∧ ',' ∉ figure.whole ++ figure.commas post ∨
      scale = 1 ∧ figure.magnitude ≤ 31)
  { text := strip (figure.dollar ++ figure.numeral ++ figure.commas post ++
        figure.suffix classes post)
    value := figure.magnitude * scale
    tolerance := 1 / 2 * (1 / 10 ^ figure.fraction.length) * scale
    percent
    mustCheck := figure.money ∨ percent ∨ ¬ plain }

end Figure

end Figures

section Reading

variable {classes : CharClasses} {figure : Figure} {post : List Char}

theorem inRun_of_digit {c : Char} (h : c.isDigit = true) : inRun classes c = true := by
  simp [inRun, digit_of_isDigit h]

theorem Figure.inRun_whole : ∀ c ∈ figure.whole, inRun classes c = true := by
  intro c hc
  rcases figure.whole_rest c hc with hdigit | rfl
  · exact inRun_of_digit hdigit
  · simp [inRun]

theorem digitsValue_eq {text : List Char} (h : ∀ c ∈ text, c.isDigit = true) :
    digitsValue classes text = Nat.ofDigitChars 10 text 0 := by
  rw [digitsValue, Nat.ofDigitChars_eq_foldl]
  refine List.foldl_ext _ _ _ fun n c hc => ?_
  rw [digit_of_isDigit (h c hc)]
  rfl

theorem takeWhile_of_head {p : Char → Bool} {text : List Char} (h : ∀ c ∈ text.head?, p c = false) :
    text.takeWhile p = [] ∧ text.dropWhile p = text := by
  cases text with
  | nil => exact ⟨rfl, rfl⟩
  | cons c text => simp [h c rfl]

theorem not_inRun_point : inRun classes '.' = false := by
  have hpoint : classes.digit '.' = none := digit_eq_none (by decide) (by decide)
  simp [inRun, hpoint]

theorem Figure.takeWhile_post (hfraction : figure.fraction = []) (h : figure.Ends classes post) :
    post.takeWhile (inRun classes) = figure.commas post ∧
      post.dropWhile (inRun classes) = figure.rest post := by
  have hcommas : ∀ c ∈ post.takeWhile (· = ','), inRun classes c = true := by
    intro c hc
    have hcomma : c = ',' := by simpa using List.mem_takeWhile_imp hc
    simp [inRun, hcomma]
  have hhead : ∀ c ∈ (post.dropWhile (· = ',')).head?, inRun classes c = false := by
    intro c hc
    have hdigit := h.digit c (by simpa [Figure.rest, hfraction] using hc)
    have hcomma : c ≠ ',' := by
      have hfalse := List.head?_dropWhile_not (fun c => decide (c = ',')) post
      rw [Option.mem_def.mp hc] at hfalse
      simpa using hfalse
    simp [inRun, hdigit, hcomma]
  obtain ⟨htake, hdrop⟩ := takeWhile_of_head hhead
  have hpost := List.takeWhile_append_dropWhile (p := fun c => decide (c = ',')) (l := post)
  constructor
  · rw [← hpost, List.takeWhile_append_of_pos hcommas, htake, List.append_nil, hpost]
    simp [Figure.commas, hfraction]
  · rw [← hpost, List.dropWhile_append_of_pos hcommas, hdrop, hpost]
    simp [Figure.rest, hfraction]

theorem Figure.numeralOf_numeral (h : figure.Ends classes post) :
    numeralOf classes (figure.numeral ++ post) = figure.numeral ++ figure.commas post := by
  have hwhole : ∀ c ∈ figure.whole, inRun classes c = true := figure.inRun_whole
  by_cases hfraction : figure.fraction = []
  · obtain ⟨htake, hdrop⟩ := Figure.takeWhile_post hfraction h
    simp only [numeral, hfraction, if_true, List.append_nil, numeralOf]
    rw [List.takeWhile_append_of_pos hwhole, List.dropWhile_append_of_pos hwhole, htake, hdrop,
      h.point hfraction, List.append_nil]
  · obtain ⟨d, digits, hdigits⟩ := List.exists_cons_of_ne_nil hfraction
    have hisSome : ∀ c ∈ d :: digits, (classes.digit c).isSome = true := fun c hc => by
      rw [digit_of_isDigit (figure.fraction_digits c (hdigits ▸ hc))]
      rfl
    obtain ⟨hd, hrest⟩ := List.forall_mem_cons.mp hisSome
    have hpost : post.takeWhile (fun c => (classes.digit c).isSome) = [] :=
      (takeWhile_of_head fun c hc => h.digit c (by simpa [rest, hfraction] using hc)).1
    have hpoint : inRun classes '.' = false := not_inRun_point
    have hnumeral : figure.numeral = figure.whole ++ '.' :: d :: digits := by
      simp [numeral, hdigits]
    have hcommas : figure.commas post = [] := by simp [commas, hfraction]
    rw [hnumeral, hcommas, List.append_nil, numeralOf, List.append_assoc,
      List.takeWhile_append_of_pos hwhole,
      List.dropWhile_append_of_pos hwhole, List.cons_append, List.cons_append,
      List.takeWhile_cons_of_neg (by simp [hpoint]), List.dropWhile_cons_of_neg (by simp [hpoint]),
      List.append_nil,
      fractionOf, if_pos hd, List.takeWhile_append_of_pos hrest, hpost, List.append_nil]

theorem Figure.drop_numeral :
    (figure.numeral ++ post).drop (figure.numeral ++ figure.commas post).length =
      figure.rest post := by
  rw [List.length_append, List.drop_length_add_append]
  by_cases hfraction : figure.fraction = []
  · simp only [commas, rest, hfraction, if_true]
    exact drop_length_takeWhile _ _
  · simp [commas, rest, hfraction]

theorem Figure.numeral_ne_nil : figure.numeral ≠ [] := by
  obtain ⟨c, rest, hwhole, -⟩ := figure.whole_head
  simp [numeral, hwhole]

def Figure.found (figure : Figure) (classes : CharClasses) (post : List Char) : Found :=
  Found.append ⟨figure.dollar ++ (figure.numeral ++ figure.commas post),
      (if figure.dollar = [] then [] else [("money", figure.dollar)]) ++
        [("num", figure.numeral ++ figure.commas post)]⟩
    (suffixFound classes ⟨(figure.numeral ++ figure.commas post).getLast?, figure.rest post⟩)

theorem Figure.first_number {prev : Option Char} (hprev : prev.any (bars classes) = false)
    (h : figure.Ends classes post) :
    (numberPattern classes).first ⟨prev, figure.dollar ++ (figure.numeral ++ post)⟩ =
      some (figure.found classes post) := by
  obtain ⟨c, more, hwhole, hdigit⟩ := figure.whole_head
  have hcons : ∃ text, figure.numeral ++ post = c :: text := by simp [numeral, hwhole]
  obtain ⟨text, htext⟩ := hcons
  have hdollar : figure.dollar = [] ∨ figure.dollar = ['$'] := by
    unfold dollar
    split <;> simp
  have hc : (classes.digit c).isSome = true := by rw [digit_of_isDigit hdigit]; rfl
  have hplace (prev : Option Char) :
      Place.after ⟨prev, figure.numeral ++ post⟩ (figure.numeral ++ figure.commas post) =
      ⟨(figure.numeral ++ figure.commas post).getLast?, figure.rest post⟩ := by
    have hne : figure.numeral ++ figure.commas post ≠ [] := by simp [numeral_ne_nil]
    simp only [Place.after, drop_numeral, List.getLast?_eq_some_getLast hne, Option.some_or]
  rw [htext, Validation.first_number hprev hdollar hc, ← htext]
  simp only [numberFound, found, numeralOf_numeral h, hplace]

end Reading

section Tokens

variable {classes : CharClasses} {figure : Figure} {post : List Char}

theorem fractionDigits_of_no_point {text : List Char} (h : ∀ c ∈ text, c ≠ '.') :
    fractionDigits text = [] := by
  rw [fractionDigits, List.dropWhile_eq_nil_iff.mpr fun c hc => by simpa using h c hc]
  rfl

theorem fractionDigits_point {text digits : List Char} (h : ∀ c ∈ text, c ≠ '.') :
    fractionDigits (text ++ '.' :: digits) = digits := by
  rw [fractionDigits, List.dropWhile_append_of_pos fun c hc => by simpa using h c hc]
  simp

theorem takeWhile_point {text digits : List Char} (h : ∀ c ∈ text, c ≠ '.') :
    (text ++ '.' :: digits).takeWhile (· ≠ '.') = text := by
  rw [List.takeWhile_append_of_pos fun c hc => by simpa using h c hc]
  simp

theorem ne_point_of_mem_whole : ∀ c ∈ figure.whole, c ≠ '.' := by
  rintro _ hc rfl
  rcases figure.whole_rest _ hc with hdigit | hcomma
  · cases hdigit
  · cases hcomma

theorem ne_point_of_mem_commas : ∀ c ∈ figure.commas post, c ≠ '.' := by
  intro c hc
  unfold Figure.commas at hc
  split at hc
  · have hcomma : c = ',' := by simpa using List.mem_takeWhile_imp hc
    rw [hcomma]
    decide
  · cases hc

theorem Figure.fractionDigits_raw :
    fractionDigits (figure.numeral ++ figure.commas post) = figure.fraction := by
  by_cases hfraction : figure.fraction = []
  · simp only [numeral, hfraction, if_true, List.append_nil]
    exact fractionDigits_of_no_point
      (List.forall_mem_append.mpr ⟨ne_point_of_mem_whole, ne_point_of_mem_commas⟩)
  · simp only [numeral, commas, hfraction, if_false, List.append_nil]
    exact fractionDigits_point ne_point_of_mem_whole

theorem Figure.filter_raw : (figure.numeral ++ figure.commas post).filter (· ≠ ',') =
    figure.whole.filter (· ≠ ',') ++ if figure.fraction = [] then []
      else '.' :: figure.fraction := by
  have hdigits : figure.fraction.filter (· ≠ ',') = figure.fraction := by
    refine List.filter_eq_self.mpr fun c hc => ?_
    have hdigit := figure.fraction_digits c hc
    by_contra hcomma
    obtain rfl : c = ',' := by simpa using hcomma
    cases hdigit
  have hcommas : (figure.commas post).filter (· ≠ ',') = [] := by
    refine List.filter_eq_nil_iff.mpr fun c hc => ?_
    unfold commas at hc
    split at hc
    · have hcomma : c = ',' := by simpa using List.mem_takeWhile_imp hc
      simp [hcomma]
    · cases hc
  rw [List.filter_append, hcommas, List.append_nil, numeral, List.filter_append]
  by_cases hfraction : figure.fraction = []
  · simp [hfraction]
  · rw [if_neg hfraction, List.filter_cons_of_pos (by simp), hdigits]

theorem Figure.readFloat_raw :
    readFloat classes ((figure.numeral ++ figure.commas post).filter (· ≠ ',')) =
      figure.magnitude := by
  have hpoint : ∀ c ∈ figure.whole.filter (· ≠ ','), c ≠ '.' :=
    fun c hc => ne_point_of_mem_whole c (List.mem_of_mem_filter hc)
  have hdigits : ∀ c ∈ figure.whole.filter (· ≠ ',') ++ figure.fraction, c.isDigit = true := by
    refine List.forall_mem_append.mpr ⟨fun c hc => ?_, figure.fraction_digits⟩
    obtain ⟨hmem, hcomma⟩ := List.mem_filter.mp hc
    exact (figure.whole_rest c hmem).resolve_right (by simpa using hcomma)
  have hparts : ((figure.numeral ++ figure.commas post).filter (· ≠ ',')).takeWhile (· ≠ '.') =
        figure.whole.filter (· ≠ ',') ∧
      fractionDigits ((figure.numeral ++ figure.commas post).filter (· ≠ ',')) =
        figure.fraction := by
    rw [filter_raw]
    by_cases hfraction : figure.fraction = []
    · rw [if_pos hfraction, List.append_nil, fractionDigits_of_no_point hpoint, hfraction]
      exact ⟨List.takeWhile_eq_self_iff.mpr fun c hc => by simpa using hpoint c hc, rfl⟩
    · rw [if_neg hfraction]
      exact ⟨takeWhile_point hpoint, fractionDigits_point hpoint⟩
  rw [readFloat, hparts.1, hparts.2, digitsValue_eq hdigits, magnitude]

theorem group_suffixFound (place : Place) :
    (suffixFound classes place).group "suffix" = (suffixFound classes place).text ∧
      (suffixFound classes place).group "money" = [] := by
  rcases suffixFound_eq place with hnone | ⟨found, -, hsome⟩
  · rw [hnone]
    exact ⟨rfl, rfl⟩
  · rw [hsome]
    exact ⟨rfl, rfl⟩

theorem Figure.magnitude_nonneg : 0 ≤ figure.magnitude := by
  unfold magnitude
  positivity

theorem Figure.groups_found :
    (figure.found classes post).group "num" = figure.numeral ++ figure.commas post ∧
    (figure.found classes post).group "suffix" = figure.suffix classes post ∧
      ((figure.found classes post).group "money" ≠ [] ↔ figure.money = true) := by
  have hgroups : (suffixFound classes ⟨(figure.numeral ++ figure.commas post).getLast?,
    figure.rest post⟩).group
      "suffix" = _ ∧ _ := group_suffixFound _
  unfold found suffix
  generalize suffixFound classes ⟨(figure.numeral ++ figure.commas post).getLast?,
    figure.rest post⟩ = sfx at hgroups ⊢
  obtain ⟨hsuffix, hmoney⟩ := hgroups
  simp only [Found.group] at hsuffix hmoney
  cases hdollar : figure.money <;>
    simp [Found.group, Found.append, dollar, hdollar, hsuffix, hmoney, List.lookup_cons]

theorem Figure.tokenOf_found :
    tokenOf classes (figure.found classes post) = figure.token classes post := by
  have hnum : (figure.found classes post).group "num" = figure.numeral ++ figure.commas post :=
    groups_found.1
  have hsuffix : (figure.found classes post).group "suffix" = figure.suffix classes post :=
    groups_found.2.1
  have hmoney : (figure.found classes post).group "money" ≠ [] ↔ figure.money = true :=
    groups_found.2.2
  have hempty : figure.fraction.length = 0 ↔ figure.fraction = [] := List.length_eq_zero_iff
  have htext : (figure.found classes post).text =
      figure.dollar ++ figure.numeral ++ figure.commas post ++ figure.suffix classes post := by
    simp [found, Found.append, suffix]
  have hpositive : 0 ≤ figure.magnitude := magnitude_nonneg
  have hcomma : ',' ∉ figure.numeral ++ figure.commas post ↔
      ',' ∉ figure.whole ++ figure.commas post := by
    have hfraction : ',' ∉ figure.fraction := by
      intro hmem
      have hdigit := figure.fraction_digits _ hmem
      exact absurd hdigit (by decide)
    by_cases hnil : figure.fraction = [] <;> simp [numeral, hnil, hfraction]
  have hplain (year small scaled : Prop) :
      year ∧ small ∧ ',' ∉ figure.numeral ++ figure.commas post ∧ figure.fraction.length = 0 ∨
          figure.fraction.length = 0 ∧ scaled ∧ 0 ≤ figure.magnitude ∧ figure.magnitude ≤ 31 ↔
        figure.fraction = [] ∧ (year ∧ small ∧ ',' ∉ figure.whole ++ figure.commas post ∨
          scaled ∧ figure.magnitude ≤ 31) := by
    rw [hcomma, hempty]
    tauto
  simp only [tokenOf, hnum, hsuffix, fractionDigits_raw, readFloat_raw, hmoney, htext, hplain,
    token]

end Tokens

section Cells

variable {classes : CharClasses} {evidences : List Evidence} {question answer : List Char}

def HasCell (evidences : List Evidence) (v : ℚ) : Prop :=
  ∃ evidence ∈ evidences, ∃ rows row cell, ("rows", .list rows) ∈ evidence ∧ .list row ∈ rows ∧
    cell ∈ row ∧ numericCell cell = some v

theorem mem_numericLeaves_of_cell {cell : PyValue ℚ} {v : ℚ} (h : numericCell cell = some v) :
    v ∈ numericLeaves cell := by
  cases cell <;> simp_all [numericCell, numericLeaves]

theorem mem_itemLeaves {item : PyValue ℚ} {items : List (PyValue ℚ)} {v : ℚ} (hitem : item ∈ items)
    (hv : v ∈ numericLeaves item) : v ∈ itemLeaves items := by
  induction items with
  | nil => cases hitem
  | cons head items ih =>
      rw [itemLeaves, List.mem_append]
      rcases List.mem_cons.mp hitem with rfl | hitem
      · exact .inl hv
      · exact .inr (ih hitem)

theorem mem_entryLeaves {key : String} {value : PyValue ℚ} {entries : Evidence} {v : ℚ}
    (hentry : (key, value) ∈ entries) (hkey : key ∉ ignoredTopLevel)
    (hv : v ∈ numericLeaves value) :
    v ∈ entryLeaves entries := by
  induction entries with
  | nil => cases hentry
  | cons head entries ih =>
      rw [entryLeaves, List.mem_append]
      rcases List.mem_cons.mp hentry with rfl | hentry
      · exact .inl (by rwa [if_neg hkey])
      · exact .inr (ih hentry)

theorem HasCell.mem_candidates {v : ℚ} (h : HasCell evidences v) : v ∈ candidates evidences := by
  obtain ⟨evidence, hevidence, rows, row, cell, hrows, hrow, hcell, hv⟩ := h
  have hleaf : v ∈ entryLeaves evidence := by
    refine mem_entryLeaves hrows (by decide) ?_
    rw [numericLeaves]
    refine mem_itemLeaves hrow ?_
    rw [numericLeaves]
    exact mem_itemLeaves hcell (mem_numericLeaves_of_cell hv)
  exact List.mem_append_left _ (List.mem_flatMap.mpr ⟨evidence, hevidence, hleaf⟩)

def reportedAt (classes : CharClasses) (evidences : List Evidence) (question answer : List Char)
    (position : ℕ) : Bool :=
  (foundAt ((numberPattern classes).scan 0 none (withoutCitations classes answer)) position).any
    fun found =>
    ungrounded classes evidences question (tokenOf classes found)

theorem ungrounded_eq_false_iff {token : Token} :
    ungrounded classes evidences question token = false ↔
    token.mustCheck = false ∨ asked classes question token = true ∨
      supported evidences token = true := by
  simp only [ungrounded, Bool.and_eq_false_iff, Bool.not_eq_false', or_assoc]

theorem Figure.supported_of_quotes {figure : Figure} {post : List Char} {v : ℚ}
    (hcell : HasCell evidences v) (hquotes : figure.Quotes v) (hvalue : 0 ≤ figure.value)
    (hscale : suffixScale (figure.suffix classes post) = 1) :
    supported evidences (figure.token classes post) = true := by
  have hmagnitude : figure.value = figure.magnitude := by
    have hnonneg : 0 ≤ figure.magnitude := magnitude_nonneg
    by_cases hnegative : figure.negative = true
    · rw [value, if_pos hnegative] at hvalue ⊢
      linarith
    · rw [value, if_neg hnegative]
  have hnear : |figure.magnitude - v| ≤ 1 / 2 * (1 / 10 ^ figure.fraction.length) := by
    rw [← hmagnitude]
    exact hquotes
  have hslack : (0 : ℚ) ≤ slack := by
    unfold slack
    positivity
  refine List.any_eq_true.mpr ⟨_, List.mem_cons_self,
    List.any_eq_true.mpr ⟨v, hcell.mem_candidates, ?_⟩⟩
  simp only [token, hscale, mul_one, decide_eq_true_eq]
  linarith

/-- **Figures of the evidence.** A figure of the answer that quotes a cell is not reported, exactly
if it is not negative and no scale follows it, or if what it is read as is not checked, asked for or
supported. -/
theorem quoted_figure_unreported_iff {figure : Figure} {pre post : List Char} {v : ℚ}
    (hcell : HasCell evidences v) (hquotes : figure.Quotes v)
    (hbody : withoutCitations classes answer = pre ++ (figure.text ++ post))
    (hclear : Clear classes (pre ++ figure.sign)) (hends : figure.Ends classes post) :
    reportedAt classes evidences question answer (pre ++ figure.sign).length = false ↔
      (0 ≤ figure.value ∧ suffixScale (figure.suffix classes post) = 1) ∨
        (figure.token classes post).mustCheck = false ∨
        asked classes question (figure.token classes post) = true ∨
          supported evidences (figure.token classes post) = true := by
  have hstart : ∃ q text, figure.dollar ++ (figure.numeral ++ post) = q :: text ∧
      (q = '$' ∨ q.isDigit = true) := by
    obtain ⟨c, rest, hwhole, hdigit⟩ := figure.whole_head
    by_cases hmoney : figure.money = true
    · exact ⟨'$', figure.numeral ++ post, by simp [Figure.dollar, hmoney], .inl rfl⟩
    · refine ⟨c, rest ++ ((if figure.fraction = [] then [] else '.' :: figure.fraction) ++ post),
        ?_, .inr hdigit⟩
      simp [Figure.dollar, hmoney, Figure.numeral, hwhole]
  have hstay : StaysIn (numberPattern classes) none (pre ++ figure.sign)
      (figure.dollar ++ (figure.numeral ++ post)) := by
    obtain ⟨q, text, htext, hq⟩ := hstart
    rw [htext]
    exact hclear.staysIn hq
  have hne : (figure.found classes post).text ≠ [] := by
    simp [Figure.found, Found.append, Figure.numeral_ne_nil]
  have hfound := foundAt_scan hstay (Figure.first_number hclear.last hends) hne
  have hsplit : withoutCitations classes answer =
      (pre ++ figure.sign) ++ (figure.dollar ++ (figure.numeral ++ post)) := by
    rw [hbody, Figure.text]
    simp only [List.append_assoc]
  rw [reportedAt, hsplit, hfound, Option.any_some, Figure.tokenOf_found, ungrounded_eq_false_iff]
  constructor
  · exact .inr
  · rintro (⟨hvalue, hscale⟩ | hpasses)
    · exact .inr (.inr (Figure.supported_of_quotes hcell hquotes hvalue hscale))
    · exact hpasses

end Cells

section Sample

def asciiClasses : CharClasses where
  digit c := if c.isDigit then some (c.toNat - 48) else none
  word c := c.isAlphanum || c == '_'
  digit_ascii _ _ := rfl
  word_ascii _ _ := rfl
  word_of_digit c h := by
    by_cases hc : c.isDigit = true
    · simp [Char.isAlphanum, hc]
    · simp [hc] at h

def changeEvidence : List Evidence := [[("rows", .list [.list [.str "JFK", .float (-453 / 10)]])]]

def changeFigure (negative : Bool) : Figure where
  negative
  whole := ['4', '5']
  fraction := ['3']
  whole_head := ⟨_, _, rfl, by decide⟩
  whole_rest := by simp
  fraction_digits := by simp

theorem ends_of_space (negative : Bool) :
    (changeFigure negative).Ends asciiClasses " now".toList where
  digit c hc := by
    obtain rfl : ' ' = c := Option.some.inj hc
    rfl
  point h := by cases h

theorem hasCell_changeEvidence : HasCell changeEvidence (-453 / 10) :=
  ⟨_, List.mem_singleton_self _, _, _, _, List.mem_singleton_self _, List.mem_singleton_self _,
    List.mem_cons_of_mem _ (List.mem_singleton_self _), rfl⟩

/-- The sign of a negative cell is not read, so its figure does not match it. -/
theorem negative_figure_reported :
    ¬ ∀ (evidences : List Evidence) (question answer pre post : List Char) (figure : Figure)
      (v : ℚ),
      HasCell evidences v → figure.Quotes v →
      withoutCitations asciiClasses answer = pre ++ (figure.text ++ post) →
        Clear asciiClasses (pre ++ figure.sign) → figure.Ends asciiClasses post →
          reportedAt asciiClasses evidences question answer (pre ++ figure.sign).length =
          false := by
  intro hclaim
  have hquotes : (changeFigure true).Quotes (-453 / 10) := by
    unfold Figure.Quotes
    decide +kernel
  have hunreported :=
    hclaim changeEvidence [] "Change: -45.3 now".toList "Change: ".toList " now".toList
    (changeFigure true) (-453 / 10) hasCell_changeEvidence hquotes (by decide)
    (clear_concat (by decide) (by decide) (by decide)) (ends_of_space _)
  have hreported : reportedAt asciiClasses changeEvidence [] "Change: -45.3 now".toList 9 =
    true := by decide +kernel
  exact absurd (hreported.symm.trans hunreported) (by decide)

def fareEvidence : List Evidence := [[("rows", .list [.list [.str "JFK", .float (4527 / 100)]])]]

theorem quoted_figure_unreported_fare :
    reportedAt asciiClasses fareEvidence [] "Fare: 45.3 now".toList 6 = false ↔
      (0 ≤ (changeFigure false).value ∧
      suffixScale ((changeFigure false).suffix asciiClasses " now".toList) = 1) ∨
        ((changeFigure false).token asciiClasses " now".toList).mustCheck = false ∨
          asked asciiClasses [] ((changeFigure false).token asciiClasses " now".toList) = true ∨
            supported fareEvidence ((changeFigure false).token asciiClasses " now".toList) =
            true := by
  have hcell : HasCell fareEvidence (4527 / 100) :=
    ⟨_, List.mem_singleton_self _, _, _, _, List.mem_singleton_self _, List.mem_singleton_self _,
      List.mem_cons_of_mem _ (List.mem_singleton_self _), rfl⟩
  have hquotes : (changeFigure false).Quotes (4527 / 100) := by
    unfold Figure.Quotes
    decide +kernel
  have hclear : Clear asciiClasses ("Fare: ".toList ++ (changeFigure false).sign) :=
    @clear_concat asciiClasses ' ' "Fare:".toList (by decide) (by decide) (by decide)
  exact quoted_figure_unreported_iff hcell hquotes (by decide) hclear
    (ends_of_space _)

end Sample

end AiAnalytics.App.Validation

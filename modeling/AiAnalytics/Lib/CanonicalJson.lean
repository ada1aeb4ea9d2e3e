import AiAnalytics.Lib.PrefixCodes
import AiAnalytics.Lib.PyText
import Mathlib.Data.List.Sort

/-!
# Canonical JSON

The text that `json.dumps` writes with `ensure_ascii=False`, `sort_keys=True` and no blanks: texts,
integers, arrays and objects of texts that are already written. The text of a value can be read off
the front of any text that begins with it.
-/

namespace AiAnalytics.Lib

section Writing

def canonicalChar (c : Char) : List Char :=
  if c = '"' ∨ c = '\\' then ['\\', c]
  else if c = '\n' then ['\\', 'n']
  else if c = '\r' then ['\\', 'r']
  else if c = '\t' then ['\\', 't']
  else if c.toNat = 8 then ['\\', 'b']
  else if c.toNat = 12 then ['\\', 'f']
  else if c.toNat < 32 then unicodeEscape c.toNat
  else [c]

def canonicalText (text : String) : List Char := '"' :: (text.toList.flatMap canonicalChar ++ ['"'])

def canonicalInt (n : Int) : List Char :=
  if n < 0 then '-' :: Nat.toDigits 10 n.natAbs else Nat.toDigits 10 n.natAbs

def canonicalArray (items : List (List Char)) : List Char :=
  '[' :: (List.intercalate [','] items ++ [']'])

def canonicalEntry (entry : String × List Char) : List Char :=
  canonicalText entry.1 ++ ':' :: entry.2

def canonicalObject (entries : List (String × List Char)) : List Char :=
  let sorted := entries.insertionSort fun first second => first.1 ≤ second.1
  '\x7b' :: (List.intercalate [','] (sorted.map canonicalEntry) ++ ['\x7d'])

end Writing

section Texts

def escaped : List Char := ['"', '\\'] ++ (List.range 32).map Char.ofNat

theorem mem_escaped {c : Char} (h : c = '"' ∨ c = '\\' ∨ c.toNat < 32) : c ∈ escaped := by
  rcases h with rfl | rfl | hcontrol
  · decide
  · decide
  · refine List.mem_append_right _ (List.mem_map.mpr ⟨c.toNat, List.mem_range.mpr hcontrol, ?_⟩)
    exact Char.ofNat_toNat c

theorem canonicalChar_plain {c : Char} (h : ¬ (c = '"' ∨ c = '\\' ∨ c.toNat < 32)) :
    canonicalChar c = [c] := by
  simp only [not_or] at h
  obtain ⟨hquote, hslash, hcontrol⟩ := h
  have hne (d : Char) (hd : d.toNat < 32) : c ≠ d := by
    rintro rfl
    exact hcontrol hd
  rw [canonicalChar, if_neg (by simp [hquote, hslash]), if_neg (hne _ (by decide)),
    if_neg (hne _ (by decide)),
    if_neg (hne _ (by decide)), if_neg (by omega), if_neg (by omega), if_neg hcontrol]

theorem canonicalChar_escaped {c : Char} (h : c ∈ escaped) :
    ∃ letters, canonicalChar c = '\\' :: letters := by
  have hall : escaped.all (fun d => (canonicalChar d).head? = some '\\') = true := by decide
  have hfirst := List.all_eq_true.mp hall c h
  exact List.head?_eq_some_iff.mp (by simpa using hfirst)

def hexIndex (digit : Char) : Nat := (List.range 16).findIdx fun n => hexDigit n = digit

theorem hexIndex_hexDigit : ∀ n < 16, hexIndex (hexDigit n) = n := by decide

def unescape : List Char → Option Char
  | '\\' :: 'n' :: _ => some '\n'
  | '\\' :: 'r' :: _ => some '\r'
  | '\\' :: 't' :: _ => some '\t'
  | '\\' :: 'b' :: _ => some (Char.ofNat 8)
  | '\\' :: 'f' :: _ => some (Char.ofNat 12)
  | '\\' :: 'u' :: _ :: _ :: high :: low :: _ =>
    some (Char.ofNat (16 * hexIndex high + hexIndex low))
  | '\\' :: c :: _ => some c
  | _ => none

theorem unescape_unicodeEscape {c : Char} (h : c.toNat < 32) (more : List Char) :
    unescape (unicodeEscape c.toNat ++ more) = some c := by
  have hread : unescape (unicodeEscape c.toNat ++ more) =
      some (Char.ofNat (16 * hexIndex (hexDigit (c.toNat / 16 % 16)) +
        hexIndex (hexDigit (c.toNat % 16)))) := rfl
  rw [hread, hexIndex_hexDigit _ (by omega), hexIndex_hexDigit _ (by omega),
    Nat.mod_eq_of_lt (by omega), Nat.div_add_mod, Char.ofNat_toNat]

theorem unescape_append {c : Char} (h : c = '"' ∨ c = '\\' ∨ c.toNat < 32) (more : List Char) :
    unescape (canonicalChar c ++ more) = some c := by
  rw [canonicalChar]
  by_cases hquote : c = '"' ∨ c = '\\'
  · rw [if_pos hquote]
    rcases hquote with rfl | rfl <;> rfl
  rw [if_neg hquote]
  by_cases hfeed : c = '\n'
  · rw [if_pos hfeed, hfeed]
    rfl
  rw [if_neg hfeed]
  by_cases hreturn : c = '\r'
  · rw [if_pos hreturn, hreturn]
    rfl
  rw [if_neg hreturn]
  by_cases htab : c = '\t'
  · rw [if_pos htab, htab]
    rfl
  rw [if_neg htab]
  by_cases hback : c.toNat = 8
  · rw [if_pos hback, ← Char.ofNat_toNat c, hback]
    rfl
  rw [if_neg hback]
  by_cases hform : c.toNat = 12
  · rw [if_pos hform, ← Char.ofNat_toNat c, hform]
    rfl
  have hcontrol : c.toNat < 32 := by tauto
  rw [if_neg hform, if_pos hcontrol]
  exact unescape_unicodeEscape hcontrol more

theorem eq_of_prefix_escaped {c d : Char} (hc : c = '"' ∨ c = '\\' ∨ c.toNat < 32)
    (hd : d = '"' ∨ d = '\\' ∨ d.toNat < 32) (hstart : canonicalChar c <+: canonicalChar d) :
    c = d := by
  obtain ⟨more, hmore⟩ := hstart
  have hread := unescape_append hc more
  rw [hmore, ← List.append_nil (canonicalChar d), unescape_append hd] at hread
  exact (Option.some.inj hread).symm

theorem prefixFree_canonicalChar : PrefixFree canonicalChar := by
  refine prefixFree_of_prefix fun c d hstart => ?_
  by_cases hc : c = '"' ∨ c = '\\' ∨ c.toNat < 32
  · by_cases hd : d = '"' ∨ d = '\\' ∨ d.toNat < 32
    · exact eq_of_prefix_escaped hc hd hstart
    · -- A plain character is one letter, and it is not the backslash.
      obtain ⟨letters, hletters⟩ := canonicalChar_escaped (mem_escaped hc)
      rw [hletters, canonicalChar_plain hd, List.cons_prefix_cons] at hstart
      exact absurd (.inr (.inl hstart.1.symm)) hd
  · by_cases hd : d = '"' ∨ d = '\\' ∨ d.toNat < 32
    · obtain ⟨letters, hletters⟩ := canonicalChar_escaped (mem_escaped hd)
      rw [hletters, canonicalChar_plain hc, List.cons_prefix_cons] at hstart
      exact absurd (.inr (.inl hstart.1)) hc
    · rw [canonicalChar_plain hc, canonicalChar_plain hd, List.cons_prefix_cons] at hstart
      exact hstart.1

theorem canonicalChar_head (c : Char) :
    canonicalChar c ≠ [] ∧ (canonicalChar c).head? ≠ some '"' := by
  by_cases hc : c = '"' ∨ c = '\\' ∨ c.toNat < 32
  · obtain ⟨letters, hletters⟩ := canonicalChar_escaped (mem_escaped hc)
    rw [hletters]
    exact ⟨List.cons_ne_nil _ _, by simp⟩
  · rw [canonicalChar_plain hc]
    refine ⟨List.cons_ne_nil _ _, fun hquote => hc (.inl ?_)⟩
    exact Option.some_inj.mp hquote

theorem prefixFree_canonicalText : PrefixFree canonicalText := by
  have hchars : PrefixFree fun chars : List Char => chars.flatMap canonicalChar ++ ['"'] :=
    prefixFree_canonicalChar.closed (fun c => (canonicalChar_head c).1)
      (fun c => (canonicalChar_head c).2)
  have hframed := hchars.framed ['"'] []
  have htext := hframed.comp (f := String.toList) fun _ _ hsame => String.toList_injective hsame
  simpa [PrefixFree, canonicalText] using htext

end Texts

section Numbers

theorem mem_toDigits {n : Nat} {c : Char} (h : c ∈ Nat.toDigits 10 n) : c.isDigit = true :=
  Nat.isDigit_of_mem_toDigits (by decide) (by decide) h

theorem toDigits_injective : Function.Injective (Nat.toDigits 10) :=
  Function.LeftInverse.injective (g := fun digits => Nat.ofDigitChars 10 digits 0) fun _ =>
    Nat.ofDigitChars_ten_toDigits

theorem minus_cons_ne_toDigits (letters : List Char) (n : Nat) :
    '-' :: letters ≠ Nat.toDigits 10 n := by
  intro hsame
  have hdigit : Char.isDigit '-' = true := mem_toDigits (hsame ▸ List.mem_cons_self)
  exact absurd hdigit (by decide)

theorem canonicalInt_injective : Function.Injective canonicalInt := by
  intro m n hsame
  unfold canonicalInt at hsame
  split_ifs at hsame with hm hn hn
  · have habs := toDigits_injective (List.cons.inj hsame).2
    omega
  · exact absurd hsame (minus_cons_ne_toDigits _ _)
  · exact absurd hsame.symm (minus_cons_ne_toDigits _ _)
  · have habs := toDigits_injective hsame
    omega

theorem canonicalInt_ne_nil (n : Int) : canonicalInt n ≠ [] := by
  unfold canonicalInt
  split_ifs
  · exact List.cons_ne_nil _ _
  · exact Nat.toDigits_ne_nil

theorem mem_canonicalInt {n : Int} {c : Char} (h : c ∈ canonicalInt n) :
    c = '-' ∨ c.isDigit = true := by
  unfold canonicalInt at h
  split_ifs at h
  · rcases List.mem_cons.mp h with rfl | hdigit
    · exact .inl rfl
    · exact .inr (mem_toDigits hdigit)
  · exact .inr (mem_toDigits h)

theorem separable_canonicalInt : Separable canonicalInt ',' ']' where
  injective := canonicalInt_injective
  nonempty := canonicalInt_ne_nil
  sep_not_mem _ h := absurd (mem_canonicalInt h) (by decide)
  stop_not_mem _ h := absurd (mem_canonicalInt h) (by decide)
  ne := by decide

theorem prefixFree_canonicalInts :
    PrefixFree fun numbers : List Int => canonicalArray (numbers.map canonicalInt) := by
  have hframed := separable_canonicalInt.prefixFree.framed ['['] []
  simpa [canonicalArray] using hframed

end Numbers

section Objects

variable {entries : List (String × List Char × List Char)}

theorem insertionSort_side (side : List Char × List Char → List Char)
    (entries : List (String × List Char × List Char)) :
    (entries.map fun entry => (entry.1, side entry.2)).insertionSort
      (fun first second => first.1 ≤ second.1) =
      (entries.insertionSort fun first second => first.1 ≤ second.1).map fun entry =>
      (entry.1, side entry.2) := by
  symm
  exact List.map_insertionSort _ _ _ _ fun _ _ _ _ => Iff.rfl

theorem aligned_canonicalEntry (key : String) {text text' : List Char} (h : Aligned text text') :
    Aligned (canonicalEntry (key, text)) (canonicalEntry (key, text')) := by
  have hframed := h.framed (canonicalText key ++ [':']) []
  simpa [canonicalEntry] using hframed

theorem canonicalEntry_inj {key : String} {text text' : List Char}
    (h : canonicalEntry (key, text) = canonicalEntry (key, text')) : text = text' :=
  (List.cons.inj (List.append_cancel_left h)).2

theorem eq_of_canonicalObject (h : ∀ entry ∈ entries, Aligned entry.2.1 entry.2.2)
    (rest rest' : List Char)
    (hsame : canonicalObject (entries.map fun entry => (entry.1, entry.2.1)) ++ rest =
      canonicalObject (entries.map fun entry => (entry.1, entry.2.2)) ++ rest') :
    (∀ entry ∈ entries, entry.2.1 = entry.2.2) ∧ rest = rest' := by
  set sorted := entries.insertionSort fun first second => first.1 ≤ second.1 with hsorted
  have hmem (entry : String × List Char × List Char) : entry ∈ sorted ↔ entry ∈ entries := by
    rw [hsorted, List.mem_insertionSort]
  let pairs := sorted.map fun entry =>
    (canonicalEntry (entry.1, entry.2.1), canonicalEntry (entry.1, entry.2.2))
  have hpairs : ∀ pair ∈ pairs, Aligned pair.1 pair.2 := by
    intro pair hpair
    obtain ⟨entry, hentry, rfl⟩ := List.mem_map.mp hpair
    exact aligned_canonicalEntry _ (h entry ((hmem entry).mp hentry))
  have hbodies : List.intercalate [','] (pairs.map Prod.fst) ++ '\x7d' :: rest =
      List.intercalate [','] (pairs.map Prod.snd) ++ '\x7d' :: rest' := by
    have hbody := (List.cons.inj hsame).2
    simpa [insertionSort_side Prod.fst, insertionSort_side Prod.snd, pairs,
      Function.comp_def] using hbody
  obtain ⟨hall, hrest⟩ := eq_of_aligned_intercalate _ pairs hpairs _ _ hbodies
  refine ⟨fun entry hentry => ?_, (List.cons.inj hrest).2⟩
  exact canonicalEntry_inj (hall _ (List.mem_map_of_mem ((hmem entry).mpr hentry)))

theorem aligned_canonicalObject (h : ∀ entry ∈ entries, Aligned entry.2.1 entry.2.2) :
    Aligned (canonicalObject (entries.map fun entry => (entry.1, entry.2.1)))
      (canonicalObject (entries.map fun entry => (entry.1, entry.2.2))) := by
  intro rest rest' hsame
  obtain ⟨hall, hrest⟩ := eq_of_canonicalObject h rest rest' hsame
  refine ⟨congrArg canonicalObject (List.map_congr_left fun entry hentry => ?_), hrest⟩
  rw [hall entry hentry]

end Objects

end AiAnalytics.Lib

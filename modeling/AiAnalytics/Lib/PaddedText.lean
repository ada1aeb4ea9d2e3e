import Mathlib.Data.List.Lex
import Mathlib.Data.Char
import Mathlib.Tactic.Positivity

/-!
# Zero-padded numbers in lexicographic order

A number written with at least `width` digits. Texts of the same length compare like their numbers.
A shorter text compares with a longer one as with its leading digits, and if these are equal the
character after the number decides.
-/

namespace AiAnalytics.Lib

def zeroPad (width n : Nat) : List Char :=
  List.replicate (width - (Nat.toDigits 10 n).length) '0' ++ Nat.toDigits 10 n

def lastDigits : Nat → Nat → List Char
  | 0, _ => []
  | length + 1, n => lastDigits length (n / 10) ++ [Nat.digitChar (n % 10)]

def padLength (width n : Nat) : Nat := max width (Nat.toDigits 10 n).length

@[simp]
theorem length_lastDigits (length n : Nat) : (lastDigits length n).length = length := by
  induction length generalizing n with
  | zero => rfl
  | succ length ih => simp [lastDigits, ih]

theorem lastDigits_zero (length : Nat) : lastDigits length 0 = List.replicate length '0' := by
  induction length with
  | zero => rfl
  | succ length ih =>
      rw [lastDigits, Nat.zero_div, ih, List.replicate_succ']
      rfl

theorem zeroPad_eq_lastDigits (width n : Nat) :
    zeroPad width n = lastDigits (padLength width n) n := by
  induction n using Nat.strong_induction_on generalizing width with
  | _ n ih =>
      by_cases hsmall : n < 10
      · have hlength : max width 1 = width - 1 + 1 := by omega
        rw [zeroPad, padLength, Nat.toDigits_of_lt_base hsmall, List.length_singleton, hlength,
          lastDigits, Nat.div_eq_of_lt hsmall, Nat.mod_eq_of_lt hsmall, lastDigits_zero]
      · have hdigits := Nat.toDigits_of_base_le (b := 10) (by decide) (not_lt.mp hsmall)
        have hrest := ih (n / 10) (Nat.div_lt_self (by omega) (by decide)) (width - 1)
        have hlength : padLength width n = padLength (width - 1) (n / 10) + 1 := by
          rw [padLength, padLength, hdigits, List.length_append, List.length_singleton]
          omega
        have hpad : zeroPad width n = zeroPad (width - 1) (n / 10) ++ [Nat.digitChar (n % 10)] := by
          rw [zeroPad, zeroPad, hdigits, List.length_append, List.length_singleton,
            List.append_assoc, Nat.sub_add_eq, Nat.sub_right_comm]
        rw [hpad, hrest, hlength, lastDigits]

theorem lastDigits_add (length rest n : Nat) :
    lastDigits (length + rest) n = lastDigits length (n / 10 ^ rest) ++ lastDigits rest n := by
  induction rest generalizing n with
  | zero => simp [lastDigits]
  | succ rest ih =>
      rw [← Nat.add_assoc, lastDigits, lastDigits, ih, Nat.div_div_eq_div_mul, ← Nat.pow_succ',
        List.append_assoc]

theorem append_lt_append_of_lt {l l' : List Char} (hlength : l.length = l'.length) (hlt : l < l')
    (s t : List Char) : l ++ s < l' ++ t := by
  induction l generalizing l' with
  | nil =>
      obtain rfl : l' = [] := List.length_eq_zero_iff.mp hlength.symm
      exact absurd hlt (List.not_lt_nil _)
  | cons c l ih =>
      cases l' with
      | nil => simp at hlength
      | cons c' l' =>
          rw [List.cons_append, List.cons_append, List.cons_lt_cons_iff]
          rcases List.cons_lt_cons_iff.mp hlt with hc | ⟨rfl, hrest⟩
          · exact .inl hc
          · exact .inr ⟨rfl, ih (by simpa using hlength) hrest⟩

theorem digitChar_lt_digitChar {m n : Nat} (hlt : m < n) (hn : n < 10) :
    Nat.digitChar m < Nat.digitChar n := by
  have hall : ∀ n < 10, ∀ m < n, Nat.digitChar m < Nat.digitChar n := by decide
  exact hall n hn m hlt

theorem zero_le_digitChar {n : Nat} (hn : n < 10) : '0' ≤ Nat.digitChar n := by
  have hall : ∀ n < 10, '0' ≤ Nat.digitChar n := by decide
  exact hall n hn

theorem lastDigits_lt_lastDigits {length a b : Nat} (hlt : a < b) (hb : b < 10 ^ length) :
    lastDigits length a < lastDigits length b := by
  induction length generalizing a b with
  | zero =>
      rw [pow_zero] at hb
      omega
  | succ length ih =>
      rw [lastDigits, lastDigits]
      rcases (Nat.div_le_div_right (c := 10) hlt.le).lt_or_eq with hdiv | hdiv
      · refine append_lt_append_of_lt (by simp) (ih hdiv ?_) _ _
        rw [Nat.div_lt_iff_lt_mul (by decide)]
        exact hb
      · rw [hdiv]
        refine List.append_left_lt (List.cons_lt_cons_iff.mpr (.inl ?_))
        exact digitChar_lt_digitChar (by omega) (Nat.mod_lt _ (by decide))

section Order

variable {width a b : Nat}

theorem lt_pow_padLength (width n : Nat) : n < 10 ^ padLength width n := by
  have hpos : 0 < padLength width n :=
    lt_of_lt_of_le Nat.length_toDigits_pos (le_max_right _ _)
  exact (Nat.length_toDigits_le_iff (by decide) hpos).mp (le_max_right _ _)

theorem padLength_mono (width : Nat) (hle : a ≤ b) : padLength width a ≤ padLength width b := by
  have hlength : (Nat.toDigits 10 a).length ≤ (Nat.toDigits 10 b).length := by
    rw [Nat.length_toDigits_le_iff (by decide) Nat.length_toDigits_pos]
    exact lt_of_le_of_lt hle
      ((Nat.length_toDigits_le_iff (by decide) Nat.length_toDigits_pos).mp le_rfl)
  exact max_le_max le_rfl hlength

def leading (width a b : Nat) : Nat := b / 10 ^ (padLength width b - padLength width a)

theorem leading_lt (hle : a ≤ b) : leading width a b < 10 ^ padLength width a := by
  have hlength := padLength_mono width hle
  rw [leading, Nat.div_lt_iff_lt_mul (by positivity), ← pow_add, Nat.add_sub_cancel' hlength]
  exact lt_pow_padLength width b

theorem zeroPad_eq_leading_append (hle : a ≤ b) :
    zeroPad width b = lastDigits (padLength width a) (leading width a b) ++
      lastDigits (padLength width b - padLength width a) b := by
  have hlength := padLength_mono width hle
  rw [leading, ← lastDigits_add, Nat.add_sub_cancel' hlength, zeroPad_eq_lastDigits]

theorem zeroPad_append_lt_of_le (hlt : a < b) {c : Char} (hc : c < '0') (s t : List Char)
    (hlead : a ≤ leading width a b) : zeroPad width a ++ c :: s < zeroPad width b ++ c :: t := by
  rw [zeroPad_eq_leading_append hlt.le, zeroPad_eq_lastDigits, List.append_assoc]
  rcases hlead.lt_or_eq with hless | heq
  · exact append_lt_append_of_lt (by simp) (lastDigits_lt_lastDigits hless (leading_lt hlt.le)) _ _
  · rw [← heq]
    refine List.append_left_lt ?_
    cases hk : padLength width b - padLength width a with
    | zero =>
        rw [leading, hk, pow_zero, Nat.div_one] at heq
        omega
    | succ k =>
        obtain ⟨digit, rest, hdigits, hdigit⟩ : ∃ digit rest, lastDigits (k + 1) b = digit :: rest ∧
            '0' ≤ digit := by
          rw [Nat.add_comm, lastDigits_add]
          exact ⟨_, _, rfl, zero_le_digitChar (Nat.mod_lt _ (by decide))⟩
        rw [hdigits]
        exact List.cons_lt_cons_iff.mpr (.inl (lt_of_lt_of_le hc hdigit))

theorem zeroPad_append_lt_of_leading_lt (hlt : a < b) (s t : List Char)
    (hlead : leading width a b < a) : zeroPad width b ++ t < zeroPad width a ++ s := by
  rw [zeroPad_eq_leading_append hlt.le, zeroPad_eq_lastDigits, List.append_assoc]
  exact append_lt_append_of_lt (by simp)
    (lastDigits_lt_lastDigits hlead (lt_pow_padLength width a)) _ _

theorem zeroPad_append_lt_iff (hlt : a < b) {c : Char} (hc : c < '0') (s t : List Char) :
    zeroPad width a ++ c :: s < zeroPad width b ++ c :: t ↔ a ≤ leading width a b := by
  constructor
  · intro htext
    by_contra hlead
    exact lt_asymm htext (zeroPad_append_lt_of_leading_lt hlt _ _ (not_le.mp hlead))
  · exact zeroPad_append_lt_of_le hlt hc s t

theorem zeroPad_append_ne (hlt : a < b) {c : Char} (hc : c < '0') (s t : List Char) :
    zeroPad width a ++ c :: s ≠ zeroPad width b ++ c :: t := by
  rcases le_or_gt a (leading width a b) with hlead | hlead
  · exact (zeroPad_append_lt_of_le hlt hc s t hlead).ne
  · exact (zeroPad_append_lt_of_leading_lt hlt _ _ hlead).ne'

end Order

end AiAnalytics.Lib

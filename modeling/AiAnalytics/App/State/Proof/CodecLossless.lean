import AiAnalytics.App.State.Messages
import Mathlib.Tactic.Ring

/-!
# What the numeric codec loses

The text of the decimal that comes back decides between `float` and `int`, and goes wrong in two
ways: a float that comes back as one digit with an exponent below `-6` has a text without a point
and is rounded to zero, and an integer that comes back with a point in its text is rounded to a
float.
-/

namespace AiAnalytics.App

open Lib

variable {Float : Type} (ops : FloatOps Float)

mutual

def Plain : PyValue Float → Prop
  | .float x => ∃ q, ops.value x = some q
  | .decimal _ => False
  | .list items => PlainItems items
  | .dict entries => PlainEntries entries
  | _ => True

def PlainItems : List (PyValue Float) → Prop
  | [] => True
  | item :: items => Plain item ∧ PlainItems items

def PlainEntries : List (String × PyValue Float) → Prop
  | [] => True
  | (_, value) :: entries => Plain value ∧ PlainEntries entries

end

mutual

/-- Same structure, and numerically equal at every number. -/
def Same : PyValue Float → PyValue Float → Prop
  | .int n, got => got.number ops = some n
  | .float x, got => got.number ops = ops.value x
  | .decimal d, got => got.number ops = some d.value
  | .list items, got => ∃ items', got = .list items' ∧ SameItems items items'
  | .dict entries, got => ∃ entries', got = .dict entries' ∧ SameEntries entries entries'
  | value, got => got = value

def SameItems : List (PyValue Float) → List (PyValue Float) → Prop
  | [], got => got = []
  | item :: items, got => ∃ item' items', got = item' :: items' ∧ Same item item' ∧
      SameItems items items'

def SameEntries : List (String × PyValue Float) → List (String × PyValue Float) → Prop
  | [], got => got = []
  | (key, value) :: entries, got => ∃ value' entries', got = (key, value') :: entries' ∧
      Same value value' ∧ SameEntries entries entries'

end

mutual

/-- No float was returned as a tiny digit, and an integer returned with a point in its text is the
value of a float. -/
def Safe : PyValue Float → PyValue Float → Prop
  | .float _, .decimal d => ¬ d.TinyDigit
  | .int n, .decimal d => '.' ∈ d.str → ∃ x, ops.value x = some n
  | .list items, .list returned => SafeItems items returned
  | .dict entries, .dict returned => SafeEntries entries returned
  | _, _ => True

def SafeItems : List (PyValue Float) → List (PyValue Float) → Prop
  | item :: items, item' :: items' => Safe item item' ∧ SafeItems items items'
  | _, _ => True

def SafeEntries : List (String × PyValue Float) → List (String × PyValue Float) → Prop
  | (_, value) :: entries, (_, value') :: entries' =>
    Safe value value' ∧ SafeEntries entries entries'
  | _, _ => True

end

section Leaves

variable {ops} (hlawful : ops.Lawful)

include hlawful

theorem fromDecimal_float_iff {x : Float} {q : ℚ} {d : Decimal} (hvalue : ops.value x = some q)
    (hstored : d.value = (ops.toDecimal x).value) :
    (fromDecimal ops (.decimal d)).number ops = ops.value x ↔ ¬ d.TinyDigit := by
  rw [hlawful.value_toDecimal x q hvalue] at hstored
  rw [hvalue, fromDecimal]
  by_cases hpoint : '.' ∈ d.str
  · rw [if_pos hpoint, PyValue.number]
    have hback := hlawful.value_ofDecimal x d (by rw [hvalue, hstored])
    rw [hback, hstored]
    simpa using fun htiny => Decimal.point_not_mem_of_tinyDigit htiny hpoint
  · rw [if_neg hpoint, PyValue.number, ← Decimal.toInt_eq_value_iff hpoint, hstored,
      Option.some_inj]

theorem fromDecimal_int_iff {n : Int} {d : Decimal} (hstored : d.value = n) :
    (fromDecimal ops (.decimal d)).number ops = some (n : ℚ) ↔
      ('.' ∈ d.str → ∃ x, ops.value x = some (n : ℚ)) := by
  rw [fromDecimal]
  by_cases hpoint : '.' ∈ d.str
  · rw [if_pos hpoint, PyValue.number]
    constructor
    · exact fun hback _ => ⟨_, hback⟩
    · intro hfloat
      obtain ⟨x, hx⟩ := hfloat hpoint
      rw [← hstored] at hx ⊢
      exact hlawful.value_ofDecimal x d hx
  · have hnot : ¬ d.TinyDigit := fun htiny => Decimal.value_ne_intCast_of_tinyDigit htiny n hstored
    have hint := (Decimal.toInt_eq_value_iff hpoint).mpr hnot
    rw [if_neg hpoint, PyValue.number, hint, hstored]
    simp [hpoint]

end Leaves

mutual

theorem same_fromDecimal_iff {ops : FloatOps Float} (hlawful : ops.Lawful) :
    ∀ v w : PyValue Float, Plain ops v → Stored (toDecimal ops v) w →
      (Same ops v (fromDecimal ops w) ↔ Safe ops v w)
  | .none, w, _, hstored => by
      obtain rfl : w = .none := hstored
      simp [Same, fromDecimal, Safe]
  | .bool b, w, _, hstored => by
      obtain rfl : w = .bool b := hstored
      simp [Same, fromDecimal, Safe]
  | .str s, w, _, hstored => by
      obtain rfl : w = .str s := hstored
      simp [Same, fromDecimal, Safe]
  | .int n, w, _, hstored => by
      simp only [toDecimal, Stored] at hstored
      obtain rfl | ⟨d, rfl, hvalue⟩ := hstored
      · simp [Same, fromDecimal, Safe, PyValue.number]
      · rw [Same, Safe]
        exact fromDecimal_int_iff hlawful hvalue
  | .float x, w, hplain, hstored => by
      rw [toDecimal, Stored] at hstored
      obtain ⟨d, rfl, hvalue⟩ := hstored
      obtain ⟨q, hq⟩ := hplain
      rw [Same, Safe]
      exact fromDecimal_float_iff hlawful hq hvalue
  | .decimal _, _, hplain, _ => hplain.elim
  | .list items, w, hplain, hstored => by
      rw [toDecimal, Stored] at hstored
      obtain ⟨returned, rfl, hstored⟩ := hstored
      rw [fromDecimal, Same, Safe, ← sameItems_fromDecimal_iff hlawful items returned hplain
        hstored]
      simp
  | .dict entries, w, hplain, hstored => by
      rw [toDecimal, Stored] at hstored
      obtain ⟨returned, rfl, hstored⟩ := hstored
      rw [fromDecimal, Same, Safe,
        ← sameEntries_fromDecimal_iff hlawful entries returned hplain hstored]
      simp

theorem sameItems_fromDecimal_iff {ops : FloatOps Float} (hlawful : ops.Lawful) :
    ∀ items returned : List (PyValue Float), PlainItems ops items →
      StoredItems (toDecimalItems ops items) returned →
      (SameItems ops items (fromDecimalItems ops returned) ↔ SafeItems ops items returned)
  | [], returned, _, hstored => by
      obtain rfl : returned = [] := hstored
      simp [SameItems, fromDecimalItems, SafeItems]
  | item :: items, returned, hplain, hstored => by
      rw [toDecimalItems, StoredItems] at hstored
      obtain ⟨item', items', rfl, hitem, hitems⟩ := hstored
      rw [fromDecimalItems, SameItems,
        SafeItems, ← same_fromDecimal_iff hlawful item item' hplain.1 hitem,
        ← sameItems_fromDecimal_iff hlawful items items' hplain.2 hitems]
      simp

theorem sameEntries_fromDecimal_iff {ops : FloatOps Float} (hlawful : ops.Lawful) :
    ∀ entries returned : List (String × PyValue Float), PlainEntries ops entries →
      StoredEntries (toDecimalEntries ops entries) returned →
      (SameEntries ops entries (fromDecimalEntries ops returned) ↔ SafeEntries ops entries returned)
  | [], returned, _, hstored => by
      obtain rfl : returned = [] := hstored
      simp [SameEntries, fromDecimalEntries, SafeEntries]
  | (key, value) :: entries, returned, hplain, hstored => by
      rw [toDecimalEntries, StoredEntries] at hstored
      obtain ⟨value', entries', rfl, hvalue, hentries⟩ := hstored
      rw [fromDecimalEntries, SameEntries, SafeEntries,
        ← same_fromDecimal_iff hlawful value value' hplain.1 hvalue,
        ← sameEntries_fromDecimal_iff hlawful entries entries' hplain.2 hentries]
      simp

end

mutual

theorem stored_toDecimal {ops : FloatOps Float} :
    ∀ v : PyValue Float, Plain ops v → Stored (toDecimal ops v) (toDecimal ops v)
  | .none, _ => by simp [toDecimal, Stored]
  | .bool _, _ => by simp [toDecimal, Stored]
  | .str _, _ => by simp [toDecimal, Stored]
  | .int _, _ => by simp [toDecimal, Stored]
  | .float _, _ => by simp [toDecimal, Stored]
  | .decimal _, hplain => hplain.elim
  | .list items, hplain => by simpa [toDecimal, Stored] using storedItems_toDecimal items hplain
  | .dict entries, hplain => by
      simpa [toDecimal, Stored] using storedEntries_toDecimal entries hplain

theorem storedItems_toDecimal {ops : FloatOps Float} :
    ∀ items : List (PyValue Float), PlainItems ops items →
      StoredItems (toDecimalItems ops items) (toDecimalItems ops items)
  | [], _ => by simp [toDecimalItems, StoredItems]
  | item :: items, hplain => by
      simpa [toDecimalItems, StoredItems] using
        ⟨stored_toDecimal item hplain.1, storedItems_toDecimal items hplain.2⟩

theorem storedEntries_toDecimal {ops : FloatOps Float} :
    ∀ entries : List (String × PyValue Float), PlainEntries ops entries →
      StoredEntries (toDecimalEntries ops entries) (toDecimalEntries ops entries)
  | [], _ => by simp [toDecimalEntries, StoredEntries]
  | (key, value) :: entries, hplain => by
      simpa [toDecimalEntries, StoredEntries] using
        ⟨stored_toDecimal value hplain.1, storedEntries_toDecimal entries hplain.2⟩

end

/-- **What the codec keeps.** For every plain value and every answer of the database that keeps its
numbers, `_from_decimal` gives back a value of the same structure and numerically equal, if and only
if no float came back as a tiny digit and every integer that came back with a point in its text is
the value of a float. -/
theorem codec_lossless_iff_safe (hlawful : ops.Lawful) (v returned : PyValue Float)
    (hplain : Plain ops v) (hstored : Stored (toDecimal ops v) returned) :
    Same ops v (fromDecimal ops returned) ↔ Safe ops v returned :=
  same_fromDecimal_iff hlawful v returned hplain hstored

/-! Floats as the decimals their `repr` writes, without trailing zeros: a float of integral value
below `10 ^ 16` is written with one zero after the point. -/

def reprFloats : FloatOps Decimal :=
  { value := fun x => some x.value
    toDecimal := fun x =>
      if 0 ≤ x.exponent ∧ x.leftDigits ≤ 16 then
        { x with coefficient := x.coefficient * 10 ^ (x.exponent.toNat + 1), exponent := -1 }
      else x
    ofDecimal := fun d => d }

theorem reprFloats_lawful : reprFloats.Lawful where
  value_toDecimal := by
    rintro x q ⟨⟩
    simp only [reprFloats]
    split
    case isTrue hint =>
      obtain ⟨n, hn⟩ := Int.eq_ofNat_of_zero_le hint.1
      simp only [Decimal.value, Decimal.sign, hn, Int.toNat_natCast]
      push_cast
      rw [zpow_natCast, pow_succ, zpow_neg_one]
      ring
    case isFalse => rfl
  value_ofDecimal := fun x d hvalue => rfl

theorem codec_lossless_quarter :
    Same reprFloats
      (.dict [("cost", .float ⟨false, 25, -2⟩), ("counts", .list [.int 3, .none])])
      (fromDecimal reprFloats
        (.dict [("cost", .decimal ⟨false, 250, -3⟩),
          ("counts", .list [.decimal ⟨false, 3, 0⟩, .none])])) := by
  refine (codec_lossless_iff_safe reprFloats reprFloats_lawful _ _ ?_ ?_).mpr ?_
  · simp [Plain, PlainEntries, PlainItems, reprFloats]
  · have hcost : (⟨false, 250, -3⟩ : Decimal).value = (⟨false, 25, -2⟩ : Decimal).value := by
      norm_num [Decimal.value, Decimal.sign]
    have hcount : (⟨false, 3, 0⟩ : Decimal).value = ((3 : Int) : ℚ) := by
      norm_num [Decimal.value, Decimal.sign]
    simp [toDecimal, toDecimalEntries, toDecimalItems, Stored, StoredEntries, StoredItems,
      reprFloats, hcost, hcount]
  · simp only [Safe, SafeEntries, SafeItems, and_true]
    exact ⟨by decide, fun hpoint => absurd hpoint (by decide)⟩

/-- A cost of `1e-07` comes back as the integer zero. -/
theorem tiny_cost_is_lost :
    fromDecimal reprFloats (toDecimal reprFloats (.dict [("cost", .float ⟨false, 1, -7⟩)])) =
        .dict [("cost", .int 0)] ∧
      ¬ Same reprFloats (.dict [("cost", .float ⟨false, 1, -7⟩)])
        (fromDecimal reprFloats (toDecimal reprFloats
        (.dict [("cost", .float ⟨false, 1, -7⟩)]))) := by
  have hzero : fromDecimal reprFloats
      (toDecimal reprFloats (.dict [("cost", .float ⟨false, 1, -7⟩)])) = .dict [("cost", .int 0)] :=
    rfl
  refine ⟨hzero, ?_⟩
  rw [hzero]
  simp only [Same, SameEntries, PyValue.number, reprFloats]
  rintro ⟨_, ⟨⟩, _, _, ⟨⟩, hcost, -⟩
  norm_num [Decimal.value, Decimal.sign] at hcost

end AiAnalytics.App

import Mathlib.Algebra.Order.Group.Defs
import Mathlib.Algebra.Order.Group.Int
import Mathlib.Tactic.Abel

/-!
# Accounts with holds

An account knows what is spent and what is held for spending under way. A hold is granted only if it
fits the limit beside what is spent and held already; it ends by being freed or by being spent, in
part or as a whole. An account that is sound for the sum of its open holds stays within its limit.
-/

namespace AiAnalytics.Lib

structure Account (α : Type*) where
  used : α
  held : α

variable {α : Type*} [AddCommGroup α] [LinearOrder α]

namespace Account

def hold (account : Account α) (amount : α) : Account α :=
  { account with held := account.held + amount }

def free (account : Account α) (amount : α) : Account α :=
  { account with held := account.held - amount }

def spend (account : Account α) (amount actual : α) : Account α :=
  { account.free amount with used := account.used + actual }

structure Sound (limit : Option α) (outstanding : α) (account : Account α) : Prop where
  held : account.held = outstanding
  used_nonneg : 0 ≤ account.used
  held_nonneg : 0 ≤ account.held
  within : ∀ bound ∈ limit, account.used + account.held ≤ max 0 bound

variable {limit : Option α} {outstanding amount actual : α} {account : Account α}

theorem sound_empty : Sound limit 0 ({ used := 0, held := 0 } : Account α) := by
  refine ⟨rfl, le_refl _, le_refl _, fun bound _ => ?_⟩
  rw [add_zero]
  exact le_max_left 0 bound

theorem Sound.le_held (hsound : Sound limit outstanding account) (hopen : amount ≤ outstanding) :
    amount ≤ account.held := hsound.held ▸ hopen

variable [IsOrderedAddMonoid α]

theorem Sound.hold (hsound : Sound limit outstanding account) (hamount : 0 ≤ amount)
    (hfits : ∀ bound ∈ limit, account.used + account.held + amount ≤ bound) :
    Sound limit (outstanding + amount) (account.hold amount) := by
  refine ⟨congrArg (· + amount) hsound.held, hsound.used_nonneg, ?_, fun bound hbound => ?_⟩
  · exact add_nonneg hsound.held_nonneg hamount
  · have hsum : account.used + (account.held + amount) ≤ bound := by
      rw [← add_assoc]
      exact hfits bound hbound
    exact hsum.trans (le_max_right 0 bound)

theorem Sound.free (hsound : Sound limit outstanding account) (hamount : 0 ≤ amount)
    (hopen : amount ≤ outstanding) :
    Sound limit (outstanding - amount) (account.free amount) := by
  refine ⟨congrArg (· - amount) hsound.held, hsound.used_nonneg, ?_, fun bound hbound => ?_⟩
  · exact sub_nonneg.mpr (hsound.le_held hopen)
  · have hless : account.held - amount ≤ account.held := sub_le_self _ hamount
    exact (add_le_add_right hless account.used).trans (hsound.within bound hbound)

theorem Sound.spend (hsound : Sound limit outstanding account) (hactual : 0 ≤ actual)
    (hopen : amount ≤ outstanding) (hless : limit.isSome → actual ≤ amount) :
    Sound limit (outstanding - amount) (account.spend amount actual) := by
  refine ⟨congrArg (· - amount) hsound.held, ?_, ?_, fun bound hbound => ?_⟩
  · exact add_nonneg hsound.used_nonneg hactual
  · exact sub_nonneg.mpr (hsound.le_held hopen)
  · have hle : actual ≤ amount := hless (Option.isSome_of_mem hbound)
    calc account.used + actual + (account.held - amount)
        ≤ account.used + amount + (account.held - amount) :=
          add_le_add_left (add_le_add_right hle _) _
      _ = account.used + account.held := by abel
      _ ≤ max 0 bound := hsound.within bound hbound

end Account

end AiAnalytics.Lib

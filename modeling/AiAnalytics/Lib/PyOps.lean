import AiAnalytics.Lib.PyValue
import Mathlib.Data.List.Forall2

/-!
# Python's operators on dynamically typed values

What a program does to a decoded value it has not checked: `.get`, `[0]`, truth testing,
`isinstance` and arithmetic. Each may raise, so each returns in `Except`. `Exn` is the type of the
exceptions that the program itself defines.

`RaisesOnly` is the question asked of such code: does it end in a result or in one of the exceptions
its caller handles.
-/

namespace AiAnalytics.Lib

variable {Float Exn ε α β : Type}

inductive PyError (Exn : Type) where
  | attributeError
  | typeError
  | indexError
  | keyError
  | valueError
  | unicodeDecodeError
  | recursionError
  | overflowError
  | raised (exn : Exn)
deriving DecidableEq, Repr

def PyError.Own : PyError Exn → Prop
  | .raised _ => True
  | _ => False

def RaisesOnly (allowed : ε → Prop) : Except ε α → Prop
  | .ok _ => True
  | .error error => allowed error

theorem bind_eq_ok_iff {x : Except ε α} {f : α → Except ε β} {b : β} :
    x >>= f = .ok b ↔ ∃ a, x = .ok a ∧ f a = .ok b := by
  cases x with
  | error error => exact ⟨nofun, nofun⟩
  | ok a => exact ⟨fun h => ⟨a, rfl, h⟩, by rintro ⟨_, ⟨⟩, h⟩; exact h⟩

theorem forM_eq_ok_iff {f : α → Except ε PUnit} {items : List α} :
    items.forM f = .ok () ↔ ∀ item ∈ items, f item = .ok () := by
  induction items with
  | nil => exact iff_of_true rfl nofun
  | cons item items ih =>
      rw [List.forall_mem_cons, ← ih, List.forM_eq_forM, List.forM_cons, bind_eq_ok_iff]
      constructor
      · rintro ⟨⟨⟩, hitem, hitems⟩
        exact ⟨hitem, hitems⟩
      · rintro ⟨hitem, hitems⟩
        exact ⟨(), hitem, hitems⟩

theorem mapM_eq_ok_iff {f : α → Except ε β} {items : List α} {results : List β} :
    items.mapM f = .ok results ↔ List.Forall₂ (fun item result => f item = .ok result) items
      results := by
  induction items generalizing results with
  | nil =>
      rw [List.mapM_nil, List.forall₂_nil_left_iff]
      exact ⟨fun h => (Except.ok.inj h).symm, fun h => h ▸ rfl⟩
  | cons item items ih =>
      rw [List.mapM_cons, bind_eq_ok_iff, List.forall₂_cons_left_iff]
      simp only [bind_eq_ok_iff, ih]
      constructor
      · rintro ⟨result, hresult, others, hothers, h⟩
        exact ⟨result, others, hresult, hothers, (Except.ok.inj h).symm⟩
      · rintro ⟨result, others, hresult, hothers, rfl⟩
        exact ⟨result, hresult, others, hothers, rfl⟩

theorem exists_of_mapM_eq_error {f : α → Except ε β} {items : List α} {error : ε}
    (h : items.mapM f = .error error) : ∃ item ∈ items, f item = .error error := by
  induction items with
  | nil => cases h
  | cons item items ih =>
      rw [List.mapM_cons] at h
      cases hitem : f item with
      | error raised =>
          rw [hitem] at h
          exact ⟨item, List.mem_cons_self, by rw [hitem, Except.error.inj h]⟩
      | ok result =>
          rw [hitem] at h
          cases hitems : items.mapM f with
          | ok results => rw [hitems] at h; cases h
          | error raised =>
              rw [hitems] at h
              obtain ⟨other, hother, hraised⟩ := ih (by rw [hitems]; exact h)
              exact ⟨other, List.mem_cons_of_mem item hother, hraised⟩

section RaisesOnly

variable {allowed : ε → Prop} {x : Except ε α} {f : α → Except ε β}

@[simp]
theorem raisesOnly_ok (a : α) : RaisesOnly allowed (.ok a) := trivial

@[simp]
theorem raisesOnly_pure (a : α) : RaisesOnly allowed (pure a : Except ε α) := trivial

@[simp]
theorem raisesOnly_error (error : ε) :
    RaisesOnly allowed (.error error : Except ε α) ↔ allowed error := Iff.rfl

theorem raisesOnly_bind :
    RaisesOnly allowed (x >>= f) ↔
      RaisesOnly allowed x ∧ ∀ a, x = .ok a → RaisesOnly allowed (f a) := by
  cases x with
  | error error => exact ⟨fun h => ⟨h, nofun⟩, fun h => h.1⟩
  | ok a =>
      refine ⟨fun h => ⟨trivial, ?_⟩, fun h => h.2 a rfl⟩
      rintro _ ⟨⟩
      exact h

@[simp]
theorem raisesOnly_map {g : α → β} :
    RaisesOnly allowed (g <$> x) ↔ RaisesOnly allowed x := by
  cases x <;> exact Iff.rfl

theorem raisesOnly_bind_pure {g : α → β} :
    RaisesOnly allowed (x >>= fun a => pure (g a)) ↔ RaisesOnly allowed x := by
  cases x <;> exact Iff.rfl

theorem raisesOnly_bind_of_ok {a : α} (hx : x = .ok a) :
    RaisesOnly allowed (x >>= f) ↔ RaisesOnly allowed (f a) := by
  subst hx
  exact Iff.rfl

end RaisesOnly

def Foreign (x : Except (PyError Exn) α) : Prop := ∀ error, x = .error error → ¬ error.Own

section Foreign

variable {x : Except (PyError Exn) α} {f : α → Except (PyError Exn) β}

theorem foreign_ok (a : α) : Foreign (.ok a : Except (PyError Exn) α) := nofun

theorem foreign_error {error : PyError Exn} (herror : ¬ error.Own) :
    Foreign (.error error : Except (PyError Exn) α) := by
  rintro _ ⟨⟩
  exact herror

theorem foreign_bind_of_ok (hx : Foreign x) (hf : ∀ a, x = .ok a → Foreign (f a)) :
    Foreign (x >>= f) := by
  cases x with
  | error error => exact foreign_error (hx error rfl)
  | ok a => exact hf a rfl

theorem foreign_bind (hx : Foreign x) (hf : ∀ a, Foreign (f a)) : Foreign (x >>= f) :=
  foreign_bind_of_ok hx fun a _ => hf a

theorem raisesOnly_iff_of_foreign (hx : Foreign x) :
    RaisesOnly PyError.Own x ↔ ∃ a, x = .ok a := by
  cases x with
  | error error => exact ⟨fun h => absurd h (hx error rfl), nofun⟩
  | ok a => exact ⟨fun _ => ⟨a, rfl⟩, fun _ => trivial⟩

theorem raisesOnly_bind_of_foreign (hx : Foreign x) :
    RaisesOnly PyError.Own (x >>= f) ↔ ∃ a, x = .ok a ∧ RaisesOnly PyError.Own (f a) := by
  cases x with
  | error error => exact ⟨fun h => absurd h (hx error rfl), nofun⟩
  | ok a => exact ⟨fun h => ⟨a, rfl, h⟩, by rintro ⟨_, ⟨⟩, h⟩; exact h⟩

theorem raisesOnly_bind_of_const {p : Prop} (hx : Foreign x)
    (hf : ∀ a, RaisesOnly PyError.Own (f a) ↔ p) :
    RaisesOnly PyError.Own (x >>= f) ↔ RaisesOnly PyError.Own x ∧ p := by
  rw [raisesOnly_bind_of_foreign hx, raisesOnly_iff_of_foreign hx]
  simp only [hf, exists_and_right]

end Foreign

namespace PyValue

def IsDict : PyValue Float → Prop
  | .dict _ => True
  | _ => False

def IsStr : PyValue Float → Prop
  | .str _ => True
  | _ => False

def isNone : PyValue Float → Bool
  | .none => true
  | _ => false

def isNonemptyStr : PyValue Float → Bool
  | .str s => s ≠ ""
  | _ => false

/-- `v == text` -/
def eqStr (v : PyValue Float) (text : String) : Bool :=
  match v with
  | .str s => s = text
  | _ => false

def entry (v : PyValue Float) (key : String) (default : PyValue Float) : PyValue Float :=
  match v with
  | .dict entries => (entries.lookup key).getD default
  | _ => default

/-- `v.get(key, default)` -/
def get (v : PyValue Float) (key : String) (default : PyValue Float) :
    Except (PyError Exn) (PyValue Float) :=
  match v with
  | .dict entries => .ok ((entries.lookup key).getD default)
  | _ => .error .attributeError

def first : PyValue Float → Except (PyError Exn) (PyValue Float)
  | .list [] => .error .indexError
  | .list (item :: _) => .ok item
  | .str s => match s.toList with
      | [] => .error .indexError
      | c :: _ => .ok (.str (String.ofList [c]))
  | .dict _ => .error .keyError
  | _ => .error .typeError

end PyValue

/-- Arithmetic of floats. `ofInt` is `none` for an integer too large for a float. -/
structure NumOps (Float : Type) where
  ofInt : Int → Option Float
  zero : Float
  isZero : Float → Bool
  isPositive : Float → Bool
  add : Float → Float → Float
  sub : Float → Float → Float
  mul : Float → Float → Float
  div : Float → Float → Float

def unitNum : NumOps Unit where
  ofInt _ := some ()
  zero := ()
  isZero _ := true
  isPositive _ := false
  add _ _ := ()
  sub _ _ := ()
  mul _ _ := ()
  div _ _ := ()

def NumOps.gt (num : NumOps Float) (x y : Float) : Bool := num.isPositive (num.sub x y)

namespace PyValue

variable (num : NumOps Float)

def truthy : PyValue Float → Bool
  | .none => false
  | .bool b => b
  | .int n => n ≠ 0
  | .float x => !num.isZero x
  | .decimal d => d.coefficient ≠ 0
  | .str s => s ≠ ""
  | .list items => !items.isEmpty
  | .dict entries => !entries.isEmpty

/-- `x or y` -/
def orElse (x y : PyValue Float) : PyValue Float := if x.truthy num then x else y

def asNumber : PyValue Float → Option (Int ⊕ Float)
  | .bool b => some (.inl (if b then 1 else 0))
  | .int n => some (.inl n)
  | .float x => some (.inr x)
  | _ => Option.none

def ofNumber : Int ⊕ Float → PyValue Float
  | .inl n => .int n
  | .inr x => .float x

def arith (onInt : Int → Int → Int) (onFloat : Float → Float → Float) (a b : PyValue Float) :
    Except (PyError Exn) (PyValue Float) :=
  match a.asNumber, b.asNumber with
  | some (.inl m), some (.inl n) => .ok (.int (onInt m n))
  | some (.inr x), some (.inr y) => .ok (.float (onFloat x y))
  | some (.inl m), some (.inr y) => match num.ofInt m with
      | some x => .ok (.float (onFloat x y))
      | Option.none => .error .overflowError
  | some (.inr x), some (.inl n) => match num.ofInt n with
      | some y => .ok (.float (onFloat x y))
      | Option.none => .error .overflowError
  | _, _ => .error .typeError

def sub (a b : PyValue Float) : Except (PyError Exn) (PyValue Float) :=
  arith num (· - ·) num.sub a b

def add (a b : PyValue Float) : Except (PyError Exn) (PyValue Float) :=
  arith num (· + ·) num.add a b

def toFloat (v : PyValue Float) : Except (PyError Exn) Float :=
  match v.asNumber with
  | some (.inl n) => match num.ofInt n with
      | some x => .ok x
      | Option.none => .error .overflowError
  | some (.inr x) => .ok x
  | Option.none => .error .typeError

def maxZero : PyValue Float → PyValue Float
  | .int n => .int (max 0 n)
  | .float x => if num.isPositive x then .float x else .int 0
  | v => v

/-- `v == 0` -/
def eqZero : PyValue Float → Bool
  | .bool b => !b
  | .int n => n = 0
  | .float x => num.isZero x
  | .decimal d => d.coefficient = 0
  | _ => false

def FloatLike (v : PyValue Float) : Prop :=
  match v.asNumber with
  | some (.inl n) => (num.ofInt n).isSome
  | some (.inr _) => True
  | Option.none => False

def Compatible (a b : PyValue Float) : Prop :=
  match a.asNumber, b.asNumber with
  | some (.inl _), some (.inl _) => True
  | some (.inr _), some (.inr _) => True
  | some (.inl n), some (.inr _) => (num.ofInt n).isSome
  | some (.inr _), some (.inl n) => (num.ofInt n).isSome
  | _, _ => False

end PyValue

section Specs

variable {num : NumOps Float} {v a b : PyValue Float} {key : String} {default : PyValue Float}

theorem get_eq_ok_of_isDict (hdict : v.IsDict) :
    (v.get key default : Except (PyError Exn) _) = .ok (v.entry key default) := by
  cases v with
  | dict entries => rfl
  | _ => exact hdict.elim

theorem get_eq_ok_iff :
    (v.get key default : Except (PyError Exn) _) = .ok a ↔ v.IsDict ∧ a = v.entry key default := by
  cases v with
  | dict entries => exact ⟨fun h => ⟨trivial, by cases h; rfl⟩, fun h => by rw [h.2]; rfl⟩
  | _ => exact ⟨nofun, fun h => h.1.elim⟩

theorem raisesOnly_get :
    RaisesOnly PyError.Own (v.get key default : Except (PyError Exn) _) ↔ v.IsDict := by
  cases v <;> exact Iff.rfl

theorem raisesOnly_get_bind {f : PyValue Float → Except (PyError Exn) β} :
    RaisesOnly PyError.Own (v.get key default >>= f) ↔
      v.IsDict ∧ RaisesOnly PyError.Own (f (v.entry key default)) := by
  rw [raisesOnly_bind, raisesOnly_get]
  refine and_congr_right fun hdict => ?_
  rw [get_eq_ok_of_isDict hdict]
  simp

theorem foreign_get : Foreign (v.get key default : Except (PyError Exn) _) := by
  cases v with
  | dict entries => exact foreign_ok _
  | _ => exact foreign_error id

theorem foreign_arith {onInt : Int → Int → Int} {onFloat : Float → Float → Float} :
    Foreign (PyValue.arith num onInt onFloat a b : Except (PyError Exn) _) := by
  intro error h
  unfold PyValue.arith at h
  repeat' split at h
  all_goals cases h <;> exact id

theorem asNumber_of_arith {onInt : Int → Int → Int} {onFloat : Float → Float → Float}
    {result : PyValue Float}
    (h : (PyValue.arith num onInt onFloat a b : Except (PyError Exn) _) = .ok result) :
    ∃ number, result.asNumber = some number := by
  unfold PyValue.arith at h
  repeat' split at h
  all_goals cases h <;> exact ⟨_, rfl⟩

theorem foreign_toFloat : Foreign (v.toFloat num : Except (PyError Exn) _) := by
  intro error h
  unfold PyValue.toFloat at h
  repeat' split at h
  all_goals cases h <;> exact id

theorem raisesOnly_toFloat :
    RaisesOnly PyError.Own (v.toFloat num : Except (PyError Exn) _) ↔ v.FloatLike num := by
  unfold PyValue.toFloat PyValue.FloatLike
  cases v.asNumber with
  | none => exact Iff.rfl
  | some x =>
      cases x with
      | inl n => cases hn : num.ofInt n <;> simp [hn, PyError.Own]
      | inr x => exact Iff.rfl

theorem raisesOnly_arith {onInt : Int → Int → Int} {onFloat : Float → Float → Float} :
    RaisesOnly PyError.Own (PyValue.arith num onInt onFloat a b : Except (PyError Exn) _) ↔
      PyValue.Compatible num a b := by
  unfold PyValue.arith PyValue.Compatible
  cases a.asNumber with
  | none => exact Iff.rfl
  | some x =>
      cases b.asNumber with
      | none => cases x <;> exact Iff.rfl
      | some y =>
          cases x with
          | inl m =>
              cases y with
              | inl n => exact Iff.rfl
              | inr y => cases hm : num.ofInt m <;> simp [hm, PyError.Own]
          | inr x =>
              cases y with
              | inl n => cases hn : num.ofInt n <;> simp [hn, PyError.Own]
              | inr y => exact Iff.rfl

end Specs

end AiAnalytics.Lib

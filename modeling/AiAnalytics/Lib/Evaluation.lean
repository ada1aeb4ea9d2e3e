import AiAnalytics.Lib.Interaction

/-!
# Programs against fixed replies

Where the code outside of a program answers equal calls alike, the program is a function: `evaluate`
is its end in the run with these replies.
-/

namespace AiAnalytics.Lib

variable {Call : Type} {Reply : Call → Type} {α β : Type}

namespace Interaction

def value (answer : (c : Call) → Reply c) (p : Interaction Call Reply α) : α :=
  (p.play (fun _ => answer) 0).2

variable {answer : (c : Call) → Reply c}

theorem play_eq_value (n : Nat) (p : Interaction Call Reply α) :
    (p.play (fun _ => answer) n).2 = p.value answer := by
  induction p generalizing n with
  | done a => rfl
  | call c next ih => exact (ih (answer c) (n + 1)).trans (ih (answer c) 1).symm

theorem value_call (c : Call) (next : Reply c → Interaction Call Reply α) :
    (call c next).value answer = (next (answer c)).value answer :=
  play_eq_value 1 (next (answer c))

theorem value_bind (p : Interaction Call Reply α) (f : α → Interaction Call Reply β) :
    (p.bind f).value answer = (f (p.value answer)).value answer := by
  induction p with
  | done a => rfl
  | call c next ih =>
      rw [bind, value_call, value_call]
      exact ih (answer c)

end Interaction

namespace Prog

variable {σ ε : Type}

def evaluate (m : Prog Call Reply σ ε α) (answer : (c : Call) → Reply c) (state : σ) :
    Except ε α × σ :=
  (m.run.run state).value answer

theorem play_eq_evaluate (m : Prog Call Reply σ ε α) (answer : (c : Call) → Reply c) (state : σ) :
    (m.play (fun _ => answer) state).2 = m.evaluate answer state := rfl

variable {answer : (c : Call) → Reply c} {state : σ}

theorem evaluate_pure {a : α} :
    (pure a : Prog Call Reply σ ε α).evaluate answer state = (.ok a, state) := rfl

theorem evaluate_throw {e : ε} :
    (throw e : Prog Call Reply σ ε α).evaluate answer state = (.error e, state) := rfl

theorem evaluate_get : (get : Prog Call Reply σ ε σ).evaluate answer state = (.ok state, state) :=
  rfl

theorem evaluate_ask {c : Call} :
    (ask c : Prog Call Reply σ ε (Reply c)).evaluate answer state = (.ok (answer c), state) := rfl

theorem evaluate_bind {m : Prog Call Reply σ ε α} {f : α → Prog Call Reply σ ε β} :
    (m >>= f).evaluate answer state =
      match m.evaluate answer state with
      | (.ok a, mid) => (f a).evaluate answer mid
      | (.error e, mid) => (.error e, mid) := by
  refine (Interaction.value_bind _ _).trans ?_
  change _ = match Interaction.value answer (m state) with
    | (.ok a, mid) => _
    | (.error e, mid) => _
  rcases Interaction.value answer (m state) with ⟨a | e, mid⟩ <;> rfl

end Prog

end AiAnalytics.Lib

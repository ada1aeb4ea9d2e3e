import AiAnalytics.Lib.Interaction

/-!
# Frames of programs

A frame says what a program may do to the state and which calls it may make. An assertion that these
do not affect is kept by every program within the frame, whichever exception leaves it. A program's
frame is found from its parts, without a word about the assertion.
-/

namespace AiAnalytics.Lib.Prog

variable {Call : Type} {Reply : Call → Type} {σ ε α β : Type}

structure Frame (Call σ : Type) where
  change : σ → σ → Prop
  call : Call → Prop

variable {frame : Frame Call σ} {inv : List (Exchange Reply) → σ → Prop}
  {err : ε → List (Exchange Reply) → σ → Prop}

structure Frame.Stable (frame : Frame Call σ) (inv : List (Exchange Reply) → σ → Prop) : Prop where
  change : ∀ history state next, frame.change state next → inv history state → inv history next
  call : ∀ x history state, frame.call x.call → inv history state → inv (history ++ [x]) state

def Framed (frame : Frame Call σ) (m : Prog Call Reply σ ε α) : Prop :=
  ∀ inv err, frame.Stable inv →
    (∀ error history state, inv history state → err error history state) → Keeps inv err m

variable {m m' : Prog Call Reply σ ε α}

theorem Framed.keeps (hm : Framed frame m) (hstable : frame.Stable inv)
    (herr : ∀ error history state, inv history state → err error history state) :
    Keeps inv err m :=
  hm inv err hstable herr

def Calm (frame : Frame Call σ) (m : Prog Call Reply σ ε α) : Prop :=
  ∀ inv err, frame.Stable inv → Keeps inv err m

theorem Calm.keeps (hm : Calm frame m) (hstable : frame.Stable inv) : Keeps inv err m :=
  hm inv err hstable

theorem Calm.framed (hm : Calm frame m) : Framed frame m := fun _ _ hstable _ => hm.keeps hstable

theorem calm_get : Calm frame (get : Prog Call Reply σ ε σ) := fun _ _ _ => keeps_get

theorem calm_pure {a : α} : Calm frame (pure a : Prog Call Reply σ ε α) := fun _ _ _ => keeps_pure

theorem calm_modify {f : σ → σ} (hf : ∀ state, frame.change state (f state)) :
    Calm frame (modify f : Prog Call Reply σ ε PUnit) := by
  intro inv err hstable
  apply keeps_modify
  intro history state hstate
  exact hstable.change _ _ _ (hf state) hstate

theorem calm_ask {c : Call} (hc : frame.call c) :
    Calm frame (ask c : Prog Call Reply σ ε (Reply c)) := by
  intro inv err hstable
  apply keeps_ask
  intro reply history state hstate
  exact hstable.call _ _ _ hc hstate

theorem calm_bind {f : α → Prog Call Reply σ ε β} (hm : Calm frame m)
    (hf : ∀ a, Calm frame (f a)) : Calm frame (m >>= f) := by
  intro inv err hstable
  exact keeps_bind (hm.keeps hstable) fun a => (hf a).keeps hstable

theorem framed_pure {a : α} : Framed frame (pure a : Prog Call Reply σ ε α) :=
  calm_pure.framed

theorem framed_throw {e : ε} : Framed frame (throw e : Prog Call Reply σ ε α) :=
  fun _ _ _ herr => keeps_throw (herr e)

theorem framed_get : Framed frame (get : Prog Call Reply σ ε σ) :=
  calm_get.framed

theorem framed_modify {f : σ → σ} (hf : ∀ state, frame.change state (f state)) :
    Framed frame (modify f : Prog Call Reply σ ε PUnit) :=
  (calm_modify hf).framed

theorem framed_ask {c : Call} (hc : frame.call c) :
    Framed frame (ask c : Prog Call Reply σ ε (Reply c)) :=
  (calm_ask hc).framed

theorem framed_bind {f : α → Prog Call Reply σ ε β} (hm : Framed frame m)
    (hf : ∀ a, Framed frame (f a)) : Framed frame (m >>= f) := by
  intro inv err hstable herr
  exact keeps_bind (hm.keeps hstable herr) fun a => (hf a).keeps hstable herr

theorem framed_tryCatch {handler : ε → Prog Call Reply σ ε α} (hm : Framed frame m)
    (hhandler : ∀ e, Framed frame (handler e)) : Framed frame (tryCatch m handler) := by
  intro inv err hstable herr
  apply keeps_tryCatch
  · exact hm.keeps hstable fun _ _ _ hstate => hstate
  · intro e
    exact (hhandler e).keeps hstable herr

theorem framed_ite {p : Prop} [Decidable p] (hthen : Framed frame m) (helse : Framed frame m') :
    Framed frame (if p then m else m') := by
  by_cases hp : p
  · rw [if_pos hp]
    exact hthen
  · rw [if_neg hp]
    exact helse

theorem framed_raiseIf {p : Prop} [Decidable p] {e : ε} :
    Framed frame (raiseIf p e : Prog Call Reply σ ε Unit) :=
  framed_ite framed_throw framed_pure

end AiAnalytics.Lib.Prog

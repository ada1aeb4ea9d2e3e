import Mathlib.Data.List.Basic
import Mathlib.Tactic.Common

/-!
# Programs that wait for replies

A program makes calls to code outside of it and goes on with the replies. `Interaction` is the tree
of all its behaviours, `Runs` is one path through the tree, with the calls and their replies as its
log, so "for every outcome of the calls" is "for every run". `Prog` adds a state and exceptions, and
`Ensures` is the triple for it.
-/

namespace AiAnalytics.Lib

section Interaction

variable {Call : Type} {Reply : Call → Type} {α β : Type}

inductive Interaction (Call : Type) (Reply : Call → Type) (α : Type) where
  | done (result : α)
  | call (c : Call) (next : Reply c → Interaction Call Reply α)

structure Exchange {Call : Type} (Reply : Call → Type) where
  call : Call
  reply : Reply call

namespace Interaction

def bind : Interaction Call Reply α → (α → Interaction Call Reply β) → Interaction Call Reply β
  | done a, f => f a
  | call c next, f => call c fun r => (next r).bind f

instance : Monad (Interaction Call Reply) where
  pure := done
  bind := bind

inductive Runs : Interaction Call Reply α → List (Exchange Reply) → α → Prop where
  | done (a : α) : Runs (done a) [] a
  | call {c : Call} {next : Reply c → Interaction Call Reply α} {r : Reply c}
      {log : List (Exchange Reply)} {a : α} (hrest : Runs (next r) log a) :
      Runs (call c next) (⟨c, r⟩ :: log) a

theorem runs_done_iff {a b : α} {log : List (Exchange Reply)} :
    Runs (.done a : Interaction Call Reply α) log b ↔ log = [] ∧ b = a := by
  constructor
  · intro hrun
    cases hrun
    exact ⟨rfl, rfl⟩
  · rintro ⟨rfl, rfl⟩
    exact .done _

theorem runs_call_iff {c : Call} {next : Reply c → Interaction Call Reply α}
    {log : List (Exchange Reply)} {a : α} :
    Runs (.call c next) log a ↔ ∃ r rest, log = ⟨c, r⟩ :: rest ∧ Runs (next r) rest a := by
  constructor
  · intro hrun
    cases hrun with
    | call hrest => exact ⟨_, _, rfl, hrest⟩
  · rintro ⟨r, rest, rfl, hrest⟩
    exact .call hrest

theorem runs_bind_iff {p : Interaction Call Reply α} {f : α → Interaction Call Reply β}
    {log : List (Exchange Reply)} {b : β} :
    Runs (p.bind f) log b ↔
      ∃ before a after, log = before ++ after ∧ Runs p before a ∧ Runs (f a) after b := by
  constructor
  · intro hrun
    induction p generalizing log with
    | done a => exact ⟨[], a, log, rfl, .done a, hrun⟩
    | call c next ih =>
        obtain ⟨r, rest, rfl, hrest⟩ := runs_call_iff.mp hrun
        obtain ⟨before, a, after, rfl, hbefore, hafter⟩ := ih r hrest
        exact ⟨⟨c, r⟩ :: before, a, after, rfl, .call hbefore, hafter⟩
  · rintro ⟨before, a, after, rfl, hbefore, hafter⟩
    induction hbefore with
    | done a => exact hafter
    | call hrest ih => exact .call (ih hafter)

def play (answer : Nat → (c : Call) → Reply c) :
    Nat → Interaction Call Reply α → List (Exchange Reply) × α
  | _, done a => ([], a)
  | n, call c next =>
      let rest := play answer (n + 1) (next (answer n c))
      (⟨c, answer n c⟩ :: rest.1, rest.2)

theorem runs_play (answer : Nat → (c : Call) → Reply c) (n : Nat) (p : Interaction Call Reply α) :
    Runs p (p.play answer n).1 (p.play answer n).2 := by
  induction p generalizing n with
  | done a => exact .done a
  | call c next ih => exact .call (ih (answer n c) (n + 1))

theorem exists_answer_of_mem_play {answer : Nat → (c : Call) → Reply c} {n : Nat}
    {p : Interaction Call Reply α} {x : Exchange Reply} (hx : x ∈ (p.play answer n).1) :
    ∃ k c, x = ⟨c, answer k c⟩ := by
  induction p generalizing n with
  | done a => simp [play] at hx
  | call c next ih =>
      rcases List.mem_cons.mp hx with rfl | hx
      · exact ⟨n, c, rfl⟩
      · exact ih (answer n c) hx

def execute {World : Type} (answer : (c : Call) → World → Reply c × World) :
    Interaction Call Reply α → World → (List (Exchange Reply) × α) × World
  | done a, world => (([], a), world)
  | call c next, world =>
      let replied := answer c world
      let rest := execute answer (next replied.1) replied.2
      ((⟨c, replied.1⟩ :: rest.1.1, rest.1.2), rest.2)

theorem runs_execute {World : Type} (answer : (c : Call) → World → Reply c × World)
    (p : Interaction Call Reply α) (world : World) :
    Runs p (p.execute answer world).1.1 (p.execute answer world).1.2 := by
  induction p generalizing world with
  | done a => exact .done a
  | call c next ih => exact .call (ih (answer c world).1 (answer c world).2)

end Interaction

end Interaction

section Programs

abbrev Prog (Call : Type) (Reply : Call → Type) (σ ε α : Type) :=
  ExceptT ε (StateT σ (Interaction Call Reply)) α

variable {Call : Type} {Reply : Call → Type} {σ ε α β : Type}

namespace Prog

def ask (c : Call) : Prog Call Reply σ ε (Reply c) :=
  ExceptT.mk fun state => Interaction.call c fun r => Interaction.done (.ok r, state)

def raiseIf (p : Prop) [Decidable p] (error : ε) : Prog Call Reply σ ε Unit :=
  if p then throw error else pure ()

def attempt (m : Prog Call Reply σ ε α) : Prog Call Reply σ ε (Except ε α) :=
  tryCatch (m >>= fun a => pure (.ok a)) fun e => pure (.error e)

def Runs (m : Prog Call Reply σ ε α) (state : σ) (log : List (Exchange Reply))
    (result : Except ε α) (final : σ) : Prop :=
  Interaction.Runs (m.run.run state) log (result, final)

def play (m : Prog Call Reply σ ε α) (answer : Nat → (c : Call) → Reply c) (state : σ) :
    List (Exchange Reply) × Except ε α × σ :=
  (m.run.run state).play answer 0

def execute {World : Type} (m : Prog Call Reply σ ε α)
    (answer : (c : Call) → World → Reply c × World) (state : σ)
    (world : World) : (List (Exchange Reply) × Except ε α × σ) × World :=
  (m.run.run state).execute answer world

theorem runs_execute {World : Type} (m : Prog Call Reply σ ε α)
    (answer : (c : Call) → World → Reply c × World) (state : σ) (world : World) :
    m.Runs state (m.execute answer state world).1.1 (m.execute answer state world).1.2.1
      (m.execute answer state world).1.2.2 :=
  Interaction.runs_execute answer (m.run.run state) world

theorem runs_play (m : Prog Call Reply σ ε α) (answer : Nat → (c : Call) → Reply c) (state : σ) :
    m.Runs state (m.play answer state).1 (m.play answer state).2.1 (m.play answer state).2.2 :=
  Interaction.runs_play answer 0 (m.run.run state)

theorem exists_answer_of_mem_play {m : Prog Call Reply σ ε α}
    {answer : Nat → (c : Call) → Reply c} {state : σ} {x : Exchange Reply}
    (hx : x ∈ (m.play answer state).1) : ∃ k c, x = ⟨c, answer k c⟩ :=
  Interaction.exists_answer_of_mem_play hx

/-- From a history and a state with `pre`, every run that returns meets `post` and every run that
raises meets `err`. -/
def Ensures (pre : List (Exchange Reply) → σ → Prop) (m : Prog Call Reply σ ε α)
    (post : α → List (Exchange Reply) → σ → Prop)
    (err : ε → List (Exchange Reply) → σ → Prop) : Prop :=
  ∀ history state, pre history state → ∀ log result final, m.Runs state log result final →
    match result with
    | .ok a => post a (history ++ log) final
    | .error e => err e (history ++ log) final

variable {pre pre' : List (Exchange Reply) → σ → Prop} {m : Prog Call Reply σ ε α}
  {post post' : α → List (Exchange Reply) → σ → Prop}
  {err err' : ε → List (Exchange Reply) → σ → Prop}

theorem runs_bind_iff {f : α → Prog Call Reply σ ε β} {state final : σ}
    {log : List (Exchange Reply)} {result : Except ε β} :
    (m >>= f).Runs state log result final ↔
      (∃ before a mid after, log = before ++ after ∧ m.Runs state before (.ok a) mid ∧
        (f a).Runs mid after result final) ∨
      ∃ e, m.Runs state log (.error e) final ∧ result = .error e := by
  constructor
  · intro hrun
    obtain ⟨before, ⟨first, mid⟩, after, rfl, hbefore, hafter⟩ :=
      Interaction.runs_bind_iff.mp hrun
    cases first with
    | ok a => exact .inl ⟨before, a, mid, after, rfl, hbefore, hafter⟩
    | error e =>
        obtain ⟨rfl, hend⟩ := Interaction.runs_done_iff.mp hafter
        obtain ⟨rfl, rfl⟩ := Prod.mk.inj hend
        rw [List.append_nil]
        exact .inr ⟨e, hbefore, rfl⟩
  · rintro (⟨before, a, mid, after, rfl, hbefore, hafter⟩ | ⟨e, hrun, rfl⟩)
    · exact Interaction.runs_bind_iff.mpr ⟨before, (.ok a, mid), after, rfl, hbefore, hafter⟩
    · exact Interaction.runs_bind_iff.mpr
        ⟨log, (.error e, final), [], by simp, hrun, .done _⟩

theorem runs_tryCatch_iff {handler : ε → Prog Call Reply σ ε α} {state final : σ}
    {log : List (Exchange Reply)} {result : Except ε α} :
    (tryCatch m handler).Runs state log result final ↔
      (∃ a, m.Runs state log (.ok a) final ∧ result = .ok a) ∨
      ∃ before e mid after, log = before ++ after ∧ m.Runs state before (.error e) mid ∧
        (handler e).Runs mid after result final := by
  constructor
  · intro hrun
    obtain ⟨before, ⟨first, mid⟩, after, rfl, hbefore, hafter⟩ :=
      Interaction.runs_bind_iff.mp hrun
    cases first with
    | ok a =>
        obtain ⟨rfl, hend⟩ := Interaction.runs_done_iff.mp hafter
        obtain ⟨rfl, rfl⟩ := Prod.mk.inj hend
        rw [List.append_nil]
        exact .inl ⟨a, hbefore, rfl⟩
    | error e => exact .inr ⟨before, e, mid, after, rfl, hbefore, hafter⟩
  · rintro (⟨a, hrun, rfl⟩ | ⟨before, e, mid, after, rfl, hbefore, hafter⟩)
    · exact Interaction.runs_bind_iff.mpr ⟨log, (.ok a, final), [], by simp, hrun, .done _⟩
    · exact Interaction.runs_bind_iff.mpr ⟨before, (.error e, mid), after, rfl, hbefore, hafter⟩

section Steps

variable {state final : σ} {log : List (Exchange Reply)}

theorem runs_done_prog_iff {result ending : Except ε α} {left : σ} :
    Interaction.Runs (.done (ending, left) : Interaction Call Reply (Except ε α × σ)) log
      (result, final) ↔ log = [] ∧ result = ending ∧ final = left := by
  rw [Interaction.runs_done_iff, Prod.mk.injEq]

theorem runs_pure_iff {a : α} {result : Except ε α} :
    (pure a : Prog Call Reply σ ε α).Runs state log result final ↔ log = [] ∧ result = .ok a ∧
      final = state :=
  runs_done_prog_iff

theorem runs_throw_iff {e : ε} {result : Except ε α} :
    (throw e : Prog Call Reply σ ε α).Runs state log result final ↔
      log = [] ∧ result = .error e ∧ final = state :=
  runs_done_prog_iff

theorem runs_get_iff {result : Except ε σ} :
    (get : Prog Call Reply σ ε σ).Runs state log result final ↔ log = [] ∧ result = .ok state ∧
      final = state :=
  runs_done_prog_iff

theorem runs_get_bind_iff {f : σ → Prog Call Reply σ ε α} {result : Except ε α} :
    (get >>= f).Runs state log result final ↔ (f state).Runs state log result final := Iff.rfl

theorem runs_modify_iff {f : σ → σ} {result : Except ε PUnit} :
    (modify f : Prog Call Reply σ ε PUnit).Runs state log result final ↔
      log = [] ∧ result = .ok () ∧ final = f state :=
  runs_done_prog_iff

theorem runs_modify_bind_iff {next : σ → σ} {f : PUnit → Prog Call Reply σ ε α}
    {result : Except ε α} :
    (modify next >>= f).Runs state log result final ↔ (f ()).Runs (next state) log result final :=
  Iff.rfl

theorem runs_ask_iff {c : Call} {result : Except ε (Reply c)} :
    (ask c : Prog Call Reply σ ε (Reply c)).Runs state log result final ↔
      ∃ r, log = [⟨c, r⟩] ∧ result = .ok r ∧ final = state := by
  constructor
  · intro hrun
    obtain ⟨r, rest, rfl, hrest⟩ := Interaction.runs_call_iff.mp hrun
    obtain ⟨rfl, hresult, hfinal⟩ := runs_done_prog_iff.mp hrest
    exact ⟨r, rfl, hresult, hfinal⟩
  · rintro ⟨r, rfl, rfl, rfl⟩
    exact .call (.done _)

theorem runs_attempt_iff {result : Except ε (Except ε α)} :
    (attempt m).Runs state log result final ↔ ∃ outcome, m.Runs state log outcome final ∧
      result = .ok outcome := by
  rw [attempt, runs_tryCatch_iff]
  constructor
  · rintro (⟨outcome, hrun, rfl⟩ | ⟨before, e, mid, after, rfl, hbefore, hafter⟩)
    · rcases runs_bind_iff.mp hrun with ⟨before, a, mid, after, rfl, hbefore, hafter⟩ | ⟨_, _, ⟨⟩⟩
      obtain ⟨rfl, hok, rfl⟩ := runs_pure_iff.mp hafter
      rw [List.append_nil]
      exact ⟨.ok a, hbefore, hok⟩
    · obtain ⟨rfl, rfl, rfl⟩ := runs_pure_iff.mp hafter
      rw [List.append_nil]
      rcases runs_bind_iff.mp hbefore with ⟨_, _, _, _, _, _, hpure⟩ | ⟨_, hrun, herror⟩
      · cases (runs_pure_iff.mp hpure).2.1
      · exact ⟨.error e, by rwa [Except.error.inj herror], rfl⟩
  · rintro ⟨outcome, hrun, rfl⟩
    cases outcome with
    | ok a =>
        refine .inl ⟨.ok a, runs_bind_iff.mpr (.inl ⟨log, a, final, [], by simp, hrun, ?_⟩), rfl⟩
        exact runs_pure_iff.mpr ⟨rfl, rfl, rfl⟩
    | error e =>
        refine .inr ⟨log, e, final, [], by simp, runs_bind_iff.mpr (.inr ⟨e, hrun, rfl⟩), ?_⟩
        exact runs_pure_iff.mpr ⟨rfl, rfl, rfl⟩

end Steps

section Rules

theorem Ensures.weaken (hm : Ensures pre m post err)
    (hpre : ∀ history state, pre' history state → pre history state)
    (hpost : ∀ a history state, post a history state → post' a history state)
    (herr : ∀ e history state, err e history state → err' e history state) :
    Ensures pre' m post' err' := by
  intro history state hstate log result final hrun
  have hend := hm history state (hpre history state hstate) log result final hrun
  cases result with
  | ok a => exact hpost a _ _ hend
  | error e => exact herr e _ _ hend

theorem Ensures.mono_pre (hm : Ensures pre m post err)
    (hpre : ∀ history state, pre' history state → pre history state) : Ensures pre' m post err :=
  fun history state hstate => hm history state (hpre history state hstate)

theorem Ensures.of_never (hm : Ensures pre m post fun _ _ _ => False) : Ensures pre m post err :=
  hm.weaken (fun _ _ h => h) (fun _ _ _ h => h) fun _ _ _ hfalse => hfalse.elim

theorem ensures_pure {a : α} (hpost : ∀ history state, pre history state → post a history state) :
    Ensures pre (pure a : Prog Call Reply σ ε α) post err := by
  intro history state hstate log result final hrun
  obtain ⟨rfl, hend⟩ := Interaction.runs_done_iff.mp hrun
  obtain ⟨rfl, rfl⟩ := Prod.mk.inj hend
  rw [List.append_nil]
  exact hpost history _ hstate

theorem ensures_throw {e : ε} (herr : ∀ history state, pre history state → err e history state) :
    Ensures pre (throw e : Prog Call Reply σ ε α) post err := by
  intro history state hstate log result final hrun
  obtain ⟨rfl, hend⟩ := Interaction.runs_done_iff.mp hrun
  obtain ⟨rfl, rfl⟩ := Prod.mk.inj hend
  rw [List.append_nil]
  exact herr history _ hstate

theorem ensures_get {post : σ → List (Exchange Reply) → σ → Prop}
    (hpost : ∀ history state, pre history state → post state history state) :
    Ensures pre (get : Prog Call Reply σ ε σ) post err := by
  intro history state hstate log result final hrun
  obtain ⟨rfl, hend⟩ := Interaction.runs_done_iff.mp hrun
  obtain ⟨rfl, rfl⟩ := Prod.mk.inj hend
  rw [List.append_nil]
  exact hpost history _ hstate

theorem ensures_get_bind {f : σ → Prog Call Reply σ ε α}
    (hf : ∀ seen, Ensures (fun history state => state = seen ∧ pre history state) (f seen) post
      err) : Ensures pre (get >>= f) post err :=
  fun history state hpre log result final hrun =>
    hf state history state ⟨rfl, hpre⟩ log result final (runs_get_bind_iff.mp hrun)

theorem ensures_modify {f : σ → σ} {post : PUnit → List (Exchange Reply) → σ → Prop}
    (hpost : ∀ history state, pre history state → post () history (f state)) :
    Ensures pre (modify f : Prog Call Reply σ ε PUnit) post err := by
  intro history state hstate log result final hrun
  obtain ⟨rfl, hend⟩ := Interaction.runs_done_iff.mp hrun
  obtain ⟨rfl, rfl⟩ := Prod.mk.inj hend
  rw [List.append_nil]
  exact hpost history _ hstate

theorem ensures_ask {c : Call} {post : Reply c → List (Exchange Reply) → σ → Prop}
    (hpost : ∀ r history state, pre history state → post r (history ++ [⟨c, r⟩]) state) :
    Ensures pre (ask c : Prog Call Reply σ ε (Reply c)) post err := by
  intro history state hstate log result final hrun
  obtain ⟨r, rest, rfl, hrest⟩ := Interaction.runs_call_iff.mp hrun
  obtain ⟨rfl, hend⟩ := Interaction.runs_done_iff.mp hrest
  obtain ⟨rfl, rfl⟩ := Prod.mk.inj hend
  exact hpost r history _ hstate

theorem ensures_bind {mid : α → List (Exchange Reply) → σ → Prop}
    {post : β → List (Exchange Reply) → σ → Prop} {f : α → Prog Call Reply σ ε β}
    (hm : Ensures pre m mid err) (hf : ∀ a, Ensures (mid a) (f a) post err) :
    Ensures pre (m >>= f) post err := by
  intro history state hstate log result final hrun
  rcases runs_bind_iff.mp hrun with
    ⟨before, a, between, after, rfl, hbefore, hafter⟩ | ⟨e, hbefore, rfl⟩
  · rw [← List.append_assoc]
    exact hf a _ _ (hm history state hstate _ _ _ hbefore) after result final hafter
  · exact hm history state hstate _ _ _ hbefore

theorem ensures_tryCatch {mid : ε → List (Exchange Reply) → σ → Prop}
    {handler : ε → Prog Call Reply σ ε α}
    (hm : Ensures pre m post mid) (hhandler : ∀ e, Ensures (mid e) (handler e) post err) :
    Ensures pre (tryCatch m handler) post err := by
  intro history state hstate log result final hrun
  rcases runs_tryCatch_iff.mp hrun with
    ⟨a, hbefore, rfl⟩ | ⟨before, e, between, after, rfl, hbefore, hafter⟩
  · exact hm history state hstate _ _ _ hbefore
  · rw [← List.append_assoc]
    exact hhandler e _ _ (hm history state hstate _ _ _ hbefore) after result final hafter

theorem ensures_attempt {post : Except ε α → List (Exchange Reply) → σ → Prop}
    (hm : Ensures pre m (fun a => post (.ok a)) fun e => post (.error e)) :
    Ensures pre (attempt m) post err := by
  apply ensures_tryCatch
  · apply ensures_bind hm
    intro a
    exact ensures_pure fun _ _ hpost => hpost
  · intro e
    exact ensures_pure fun _ _ hpost => hpost

theorem ensures_ite {p : Prop} [Decidable p] {m' : Prog Call Reply σ ε α}
    (hthen : p → Ensures pre m post err) (helse : ¬ p → Ensures pre m' post err) :
    Ensures pre (if p then m else m') post err := by
  by_cases hp : p
  · rw [if_pos hp]
    exact hthen hp
  · rw [if_neg hp]
    exact helse hp

theorem ensures_raiseIf {p : Prop} [Decidable p] {e : ε}
    {post : Unit → List (Exchange Reply) → σ → Prop}
    (hpost : ¬ p → ∀ history state, pre history state → post () history state)
    (herr : p → ∀ history state, pre history state → err e history state) :
    Ensures pre (raiseIf p e : Prog Call Reply σ ε Unit) post err := by
  apply ensures_ite
  · intro hp
    exact ensures_throw (herr hp)
  · intro hp
    exact ensures_pure (hpost hp)

end Rules

section Keeps

def Keeps (inv : List (Exchange Reply) → σ → Prop) (err : ε → List (Exchange Reply) → σ → Prop)
    (m : Prog Call Reply σ ε α) : Prop :=
  Ensures inv m (fun _ => inv) err

variable {inv : List (Exchange Reply) → σ → Prop}

theorem keeps_pure {a : α} : Keeps inv err (pure a : Prog Call Reply σ ε α) :=
  ensures_pure fun _ _ hinv => hinv

theorem keeps_throw {e : ε} (herr : ∀ history state, inv history state → err e history state) :
    Keeps inv err (throw e : Prog Call Reply σ ε α) :=
  ensures_throw herr

theorem keeps_get : Keeps inv err (get : Prog Call Reply σ ε σ) :=
  ensures_get fun _ _ hinv => hinv

theorem keeps_modify {f : σ → σ}
    (hf : ∀ history state, inv history state → inv history (f state)) :
    Keeps inv err (modify f : Prog Call Reply σ ε PUnit) :=
  ensures_modify hf

theorem keeps_ask {c : Call}
    (hreply : ∀ r history state, inv history state → inv (history ++ [⟨c, r⟩]) state) :
    Keeps inv err (ask c : Prog Call Reply σ ε (Reply c)) :=
  ensures_ask hreply

theorem keeps_bind {f : α → Prog Call Reply σ ε β} (hm : Keeps inv err m)
    (hf : ∀ a, Keeps inv err (f a)) : Keeps inv err (m >>= f) :=
  ensures_bind hm hf

theorem keeps_tryCatch {mid : ε → List (Exchange Reply) → σ → Prop}
    {handler : ε → Prog Call Reply σ ε α} (hm : Keeps inv mid m)
    (hhandler : ∀ e, Ensures (mid e) (handler e) (fun _ => inv) err) :
    Keeps inv err (tryCatch m handler) :=
  ensures_tryCatch hm hhandler

theorem keeps_ite {p : Prop} [Decidable p] {m' : Prog Call Reply σ ε α}
    (hthen : Keeps inv err m) (helse : Keeps inv err m') :
    Keeps inv err (if p then m else m') :=
  ensures_ite (fun _ => hthen) (fun _ => helse)

theorem keeps_raiseIf {p : Prop} [Decidable p] {e : ε}
    (herr : ∀ history state, inv history state → err e history state) :
    Keeps inv err (raiseIf p e : Prog Call Reply σ ε Unit) :=
  ensures_raiseIf (fun _ _ _ hinv => hinv) fun _ => herr

end Keeps

end Prog

end Programs

end AiAnalytics.Lib

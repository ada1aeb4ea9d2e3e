import AiAnalytics.Lib.Interaction

/-!
# Simulation of programs

Two programs, each with its own calls, states and exceptions. `Simulates` says that every run of the
first is matched by a run of the second, in states that stay related. The rules follow the parts of
the first program: the second does the same, does nothing, or is chosen to have done something.
-/

namespace AiAnalytics.Lib.Prog

variable {Call : Type} {Reply : Call → Type} {σ ε α β : Type}
  {Call' : Type} {Reply' : Call' → Type} {τ ε' α' β' : Type}

/-- Every run of `m` is matched by a run of `n` that ends alike: both return, or both raise. -/
def Simulates (pre : τ → List (Exchange Reply) → σ → Prop) (m : Prog Call Reply σ ε α)
    (n : Prog Call' Reply' τ ε' α') (post : α → α' → τ → List (Exchange Reply) → σ → Prop)
    (err : ε → ε' → τ → List (Exchange Reply) → σ → Prop) : Prop :=
  ∀ abstract, Ensures (pre abstract) m
    (fun a history state => ∃ log b final, n.Runs abstract log (.ok b) final ∧
      post a b final history state)
    fun e history state => ∃ log e' final, n.Runs abstract log (.error e') final ∧
      err e e' final history state

variable {pre pre' : τ → List (Exchange Reply) → σ → Prop} {m : Prog Call Reply σ ε α}
  {n : Prog Call' Reply' τ ε' α'} {f : α → Prog Call Reply σ ε β}
  {k : α' → Prog Call' Reply' τ ε' β'}
  {post : α → α' → τ → List (Exchange Reply) → σ → Prop}
  {last : β → β' → τ → List (Exchange Reply) → σ → Prop}
  {err : ε → ε' → τ → List (Exchange Reply) → σ → Prop}

theorem simulates_pure {a : α} {b : α'}
    (hpost : ∀ abstract history state, pre abstract history state →
      post a b abstract history state) :
    Simulates pre (pure a : Prog Call Reply σ ε α) (pure b : Prog Call' Reply' τ ε' α') post err :=
  fun abstract => ensures_pure fun history state hpre =>
    ⟨[], b, abstract, runs_pure_iff.mpr ⟨rfl, rfl, rfl⟩, hpost abstract history state hpre⟩

theorem simulates_throw {e : ε} {e' : ε'}
    (herr : ∀ abstract history state, pre abstract history state →
      err e e' abstract history state) :
    Simulates pre (throw e : Prog Call Reply σ ε α) (throw e' : Prog Call' Reply' τ ε' α')
      post err :=
  fun abstract => ensures_throw fun history state hpre =>
    ⟨[], e', abstract, runs_throw_iff.mpr ⟨rfl, rfl, rfl⟩, herr abstract history state hpre⟩

theorem simulates_modify {next : τ → τ} {post : α → PUnit → τ → List (Exchange Reply) → σ → Prop}
    (hm : ∀ abstract, Ensures (pre abstract) m (fun a => post a () (next abstract))
      fun _ _ _ => False) :
    Simulates pre m (modify next : Prog Call' Reply' τ ε' PUnit) post err := by
  intro abstract
  apply (hm abstract).weaken (fun _ _ hpre => hpre)
  · exact fun a history state hend =>
      ⟨[], (), next abstract, runs_modify_iff.mpr ⟨rfl, rfl, rfl⟩, hend⟩
  · exact fun _ _ _ hfalse => hfalse.elim

theorem simulates_bind (hm : Simulates pre m n post err)
    (hf : ∀ a b, Simulates (post a b) (f a) (k b) last err) :
    Simulates pre (m >>= f) (n >>= k) last err := by
  intro abstract history state hpre log result final hrun
  rcases runs_bind_iff.mp hrun with
    ⟨before, a, mid, after, rfl, hbefore, hafter⟩ | ⟨e, hbefore, rfl⟩
  · obtain ⟨log', b, mid', hrun', hmid⟩ := hm abstract history state hpre _ _ _ hbefore
    have hrest := hf a b mid' _ _ hmid _ _ _ hafter
    rw [List.append_assoc] at hrest
    cases result with
    | ok c =>
        obtain ⟨rest, d, last', hlast, hend⟩ := hrest
        exact ⟨_, d, last', runs_bind_iff.mpr (.inl ⟨log', b, mid', rest, rfl, hrun', hlast⟩), hend⟩
    | error e =>
        obtain ⟨rest, e', last', hlast, hend⟩ := hrest
        exact ⟨_, e', last', runs_bind_iff.mpr (.inl ⟨log', b, mid', rest, rfl, hrun', hlast⟩),
          hend⟩
  · obtain ⟨log', e', last', hrun', hend⟩ := hm abstract history state hpre _ _ _ hbefore
    exact ⟨log', e', last', runs_bind_iff.mpr (.inr ⟨e', hrun', rfl⟩), hend⟩

theorem Simulates.map {g : α → β} {last : β → α' → τ → List (Exchange Reply) → σ → Prop}
    (hm : Simulates pre m n (fun a => last (g a)) err) :
    Simulates pre (m >>= fun a => pure (g a)) n last err :=
  fun abstract => ensures_bind (hm abstract) fun _ => ensures_pure fun _ _ hend => hend

theorem simulates_left {n : Prog Call' Reply' τ ε' β'}
    {mid : α → τ → List (Exchange Reply) → σ → Prop}
    (hleft : ∀ abstract, Ensures (pre abstract) m (fun a => mid a abstract) fun _ _ _ => False)
    (hf : ∀ a, Simulates (mid a) (f a) n last err) : Simulates pre (m >>= f) n last err :=
  fun abstract => ensures_bind (hleft abstract).of_never fun a => hf a abstract

theorem simulates_of_runs {n' : Prog Call' Reply' τ ε' α'} (next : τ → τ)
    (hm : Simulates pre m n post err)
    (hruns : ∀ abstract log result final, n.Runs (next abstract) log result final →
      ∃ log', n'.Runs abstract log' result final) :
    Simulates (fun abstract => pre (next abstract)) m n' post err := by
  intro abstract
  apply (hm (next abstract)).weaken fun _ _ hpre => hpre
  · rintro a history state ⟨log, b, final, hrun, hend⟩
    obtain ⟨log', hrun'⟩ := hruns _ _ _ _ hrun
    exact ⟨log', b, final, hrun', hend⟩
  · rintro e history state ⟨log, e', final, hrun, hend⟩
    obtain ⟨log', hrun'⟩ := hruns _ _ _ _ hrun
    exact ⟨log', e', final, hrun', hend⟩

theorem Simulates.weaken {post' : α → α' → τ → List (Exchange Reply) → σ → Prop}
    (hm : Simulates pre m n post err)
    (hpre : ∀ abstract history state, pre' abstract history state → pre abstract history state)
    (hpost : ∀ a b abstract history state, post a b abstract history state →
      post' a b abstract history state) : Simulates pre' m n post' err := by
  intro abstract
  apply (hm abstract).weaken (hpre abstract)
  · rintro a history state ⟨log, b, final, hrun, hend⟩
    exact ⟨log, b, final, hrun, hpost _ _ _ _ _ hend⟩
  · exact fun _ _ _ hend => hend

theorem Simulates.of_pre {p : Prop}
    (hp : ∀ abstract history state, pre abstract history state → p)
    (hm : p → Simulates pre m n post err) : Simulates pre m n post err :=
  fun abstract history state hpre => hm (hp abstract history state hpre) abstract history state hpre

def EndsAlike (post : α → α' → τ → List (Exchange Reply) → σ → Prop)
    (err : ε → ε' → τ → List (Exchange Reply) → σ → Prop) (outcome : Except ε α)
    (outcome' : Except ε' α') (abstract : τ) (history : List (Exchange Reply)) (state : σ) : Prop :=
  match outcome, outcome' with
  | .ok a, .ok b => post a b abstract history state
  | .error e, .error e' => err e e' abstract history state
  | _, _ => False

theorem simulates_attempt {err' : ε → ε' → τ → List (Exchange Reply) → σ → Prop}
    (hm : Simulates pre m n post err) :
    Simulates pre (attempt m) (attempt n) (EndsAlike post err) err' := by
  intro abstract
  apply ensures_attempt
  apply (hm abstract).weaken (fun _ _ hpre => hpre)
  · rintro a history state ⟨log, b, final, hrun, hend⟩
    exact ⟨log, .ok b, final, runs_attempt_iff.mpr ⟨_, hrun, rfl⟩, hend⟩
  · rintro e history state ⟨log, e', final, hrun, hend⟩
    exact ⟨log, .error e', final, runs_attempt_iff.mpr ⟨_, hrun, rfl⟩, hend⟩

end AiAnalytics.Lib.Prog

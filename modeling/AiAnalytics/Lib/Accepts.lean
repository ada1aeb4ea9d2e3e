import AiAnalytics.Lib.PyOps

/-!
# When a chain of checks accepts

A validator is a chain of checks, each of which returns or raises. `Accepts` says that the whole
chain returns; `Foreign` that it raises none of the program's own exceptions. Both pass through a
chain whose later checks do not depend on what the earlier ones return.
-/

namespace AiAnalytics.Lib

variable {α β σ ε Exn : Type}

def Accepts (x : Except ε α) : Prop := ∃ a, x = .ok a

@[simp]
theorem accepts_ok (a : α) : Accepts (.ok a : Except ε α) := ⟨a, rfl⟩

@[simp]
theorem accepts_pure (a : α) : Accepts (pure a : Except ε α) := ⟨a, rfl⟩

@[simp]
theorem not_accepts_error (error : ε) : ¬ Accepts (.error error : Except ε α) := nofun

section Chains

variable {x : Except ε α} {f : α → Except ε β}

@[simp]
theorem accepts_map {g : α → β} : Accepts (g <$> x) ↔ Accepts x := by
  cases x with
  | error error => exact ⟨nofun, nofun⟩
  | ok a => exact ⟨fun _ => accepts_ok a, fun _ => accepts_ok (g a)⟩

theorem accepts_bind_pure {g : α → β} : Accepts (x >>= fun a => pure (g a)) ↔ Accepts x :=
  accepts_map

theorem accepts_bind {p : Prop} (hf : ∀ a, x = .ok a → (Accepts (f a) ↔ p)) :
    Accepts (x >>= f) ↔ Accepts x ∧ p := by
  cases x with
  | error error => exact ⟨nofun, fun h => absurd h.1 (not_accepts_error error)⟩
  | ok a => exact (hf a rfl).trans ⟨fun h => ⟨accepts_ok a, h⟩, And.right⟩

theorem accepts_bind_of_ok {a : α} (hx : x = .ok a) : Accepts (x >>= f) ↔ Accepts (f a) := by
  subst hx
  exact Iff.rfl

end Chains

section ForeignChains

variable {x : Except (PyError Exn) α} {f : α → Except (PyError Exn) β}

theorem foreign_of_accepts (hx : Accepts x) : Foreign x := by
  obtain ⟨a, rfl⟩ := hx
  exact foreign_ok a

theorem foreign_map {g : α → β} (hx : Foreign x) : Foreign (g <$> x) :=
  foreign_bind hx fun a => foreign_ok (g a)

theorem foreign_bind_iff {p : Prop} (hx : Foreign x) (hf : ∀ a, x = .ok a → (Foreign (f a) ↔ p)) :
    Foreign (x >>= f) ↔ (Accepts x → p) := by
  cases x with
  | error error =>
      exact ⟨fun _ h => absurd h (not_accepts_error error), fun _ => foreign_error (hx error rfl)⟩
  | ok a => exact (hf a rfl).trans ⟨fun h _ => h, fun h => h (accepts_ok a)⟩

end ForeignChains

section Lists

theorem accepts_foldlM {step : σ → α → Except ε σ} {p : α → Prop} {items : List α} {s : σ}
    (hstep : ∀ s, ∀ item ∈ items, (Accepts (step s item) ↔ p item)) :
    Accepts (items.foldlM step s) ↔ ∀ item ∈ items, p item := by
  induction items generalizing s with
  | nil => simp
  | cons item items ih =>
      rw [List.foldlM_cons, List.forall_mem_cons]
      have hitem := hstep s item List.mem_cons_self
      have hrest (next : σ) : Accepts (items.foldlM step next) ↔ ∀ item ∈ items, p item :=
        ih fun s item hmem => hstep s item (List.mem_cons_of_mem _ hmem)
      rw [accepts_bind fun next _ => hrest next, hitem]

theorem foreign_foldlM {step : σ → α → Except (PyError Exn) σ} {items : List α} {s : σ}
    (hstep : ∀ s, ∀ item ∈ items, Foreign (step s item)) : Foreign (items.foldlM step s) := by
  induction items generalizing s with
  | nil => exact foreign_ok s
  | cons item items ih =>
      rw [List.foldlM_cons]
      apply foreign_bind (hstep s item List.mem_cons_self)
      intro next
      exact ih fun s item hmem => hstep s item (List.mem_cons_of_mem _ hmem)

theorem foreign_mapM {read : β → Except (PyError Exn) α} (hread : ∀ b, Foreign (read b))
    (items : List β) : Foreign (items.mapM read) := by
  induction items with
  | nil => exact foreign_ok []
  | cons item items ih =>
      rw [List.mapM_cons]
      apply foreign_bind (hread item)
      intro a
      apply foreign_bind ih
      intro rest
      exact foreign_ok _

theorem accepts_mapM_iff {read : β → Except ε α} {items : List β} :
    Accepts (items.mapM read) ↔ ∀ item ∈ items, Accepts (read item) := by
  induction items with
  | nil => simp
  | cons item items ih =>
      rw [List.mapM_cons, List.forall_mem_cons]
      exact accepts_bind fun a _ => accepts_bind_pure.trans ih

theorem mapM_eq_ok_self {read : α → Except ε α} {items : List α}
    (hread : ∀ item ∈ items, read item = .ok item) : items.mapM read = .ok items := by
  induction items with
  | nil => rfl
  | cons item items ih =>
      obtain ⟨hitem, hrest⟩ := List.forall_mem_cons.mp hread
      rw [List.mapM_cons, hitem, ih hrest]
      rfl

theorem self_of_mapM_eq_ok {read : α → Except ε α} {p : α → Prop}
    (hread : ∀ a b, read a = .ok b → b = a ∧ p a) {items results : List α}
    (h : items.mapM read = .ok results) : results = items ∧ ∀ item ∈ items, p item := by
  induction items generalizing results with
  | nil =>
      cases h
      exact ⟨rfl, nofun⟩
  | cons item items ih =>
      rw [List.mapM_cons, bind_eq_ok_iff] at h
      obtain ⟨result, hitem, h⟩ := h
      rw [bind_eq_ok_iff] at h
      obtain ⟨rest, hrest, h⟩ := h
      cases h
      obtain ⟨rfl, hp⟩ := hread _ _ hitem
      obtain ⟨rfl, hps⟩ := ih hrest
      exact ⟨rfl, List.forall_mem_cons.mpr ⟨hp, hps⟩⟩

theorem forall₂_of_mapM_eq_ok {read : β → Except ε α} {items : List β} {results : List α}
    (h : items.mapM read = .ok results) :
    List.Forall₂ (fun item result => read item = .ok result) items results := by
  induction items generalizing results with
  | nil =>
      cases h
      exact .nil
  | cons item items ih =>
      rw [List.mapM_cons, bind_eq_ok_iff] at h
      obtain ⟨result, hitem, h⟩ := h
      rw [bind_eq_ok_iff] at h
      obtain ⟨rest, hrest, h⟩ := h
      cases h
      exact .cons hitem (ih hrest)

theorem item_of_mapM_eq_ok {read : β → Except ε α} {items : List β} {results : List α}
    (h : items.mapM read = .ok results) {i : Nat} {result : α}
    (hresult : results[i]? = some result) :
    ∃ item, items[i]? = some item ∧ read item = .ok result := by
  have hall := forall₂_of_mapM_eq_ok h
  clear h
  induction hall generalizing i with
  | nil => cases hresult
  | cons hitem _ ih =>
      cases i with
      | zero =>
          cases hresult
          exact ⟨_, rfl, hitem⟩
      | succ i => exact ih hresult

theorem result_of_mapM_eq_ok {read : β → Except ε α} {items : List β} {results : List α}
    (h : items.mapM read = .ok results) {i : Nat} {item : β} (hitem : items[i]? = some item) :
    ∃ result, results[i]? = some result ∧ read item = .ok result := by
  have hall := forall₂_of_mapM_eq_ok h
  clear h
  induction hall generalizing i with
  | nil => cases hitem
  | cons hread _ ih =>
      cases i with
      | zero =>
          cases hitem
          exact ⟨_, rfl, hread⟩
      | succ i => exact ih hitem

theorem mapM_map_eq_ok {write : α → β} {read : β → Except ε α} (hread : ∀ a, read (write a) = .ok a)
    (items : List α) : (items.map write).mapM read = .ok items := by
  induction items with
  | nil => rfl
  | cons item items ih =>
      rw [List.map_cons, List.mapM_cons, hread, ih]
      rfl

end Lists

end AiAnalytics.Lib

import Mathlib.Data.List.Forall2
import Mathlib.Data.List.Perm.Basic

/-!
# First fit

Every request takes the first offer that fits it and is still there. What is found so is an
assignment, but not always one that exists is found: with other orders of the requests and offers
first fit can get stuck in any partial assignment that leaves a request without an offer.
-/

namespace AiAnalytics.Lib

variable {α β : Type*}

structure FirstFit (α β : Type*) where
  pairs : List (α × β)
  unmet : List α
  remaining : List β

def firstFit (fits : α → β → Bool) : List α → List β → FirstFit α β
  | [], offers => { pairs := [], unmet := [], remaining := offers }
  | request :: requests, offers => match offers.find? (fits request) with
    | some offer =>
        let later := firstFit fits requests (offers.eraseP (fits request))
        { later with pairs := (request, offer) :: later.pairs }
    | none =>
        let later := firstFit fits requests offers
        { later with unmet := request :: later.unmet }

def Assignable (fits : α → β → Prop) (requests : List α) (offers : List β) : Prop :=
  ∃ chosen rest, offers.Perm (chosen ++ rest) ∧ List.Forall₂ fits requests chosen

def Matchable (fits : α → β → Prop) (requests : List α) (offers : List β) : Prop :=
  ∃ chosen, offers.Perm chosen ∧ List.Forall₂ fits requests chosen

def Stuck (fits : α → β → Prop) (requests : List α) (offers : List β) : Prop :=
  ∃ done request others chosen rest, requests.Perm (done ++ request :: others) ∧
    offers.Perm (chosen ++ rest) ∧
    List.Forall₂ fits done chosen ∧ ∀ offer ∈ rest, ¬ fits request offer

section Assignments

variable {fits : α → β → Prop} {requests requests' : List α} {offers offers' : List β}

theorem exists_forall₂_of_perm (hperm : requests.Perm requests')
    (h : List.Forall₂ fits requests' offers') :
    ∃ chosen, offers'.Perm chosen ∧ List.Forall₂ fits requests chosen := by
  obtain ⟨chosen, hchosen, hoffers⟩ := List.perm_comp_forall₂ hperm h
  exact ⟨chosen, hoffers.symm, hchosen⟩

theorem Assignable.perm (h : Assignable fits requests' offers')
    (hrequests : requests.Perm requests') (hoffers : offers.Perm offers') :
    Assignable fits requests offers := by
  obtain ⟨chosen', rest, hsplit, hall⟩ := h
  obtain ⟨chosen, hchosen, hall⟩ := exists_forall₂_of_perm hrequests hall
  exact ⟨chosen, rest, (hoffers.trans hsplit).trans (hchosen.append_right rest), hall⟩

theorem Matchable.perm (h : Matchable fits requests' offers') (hrequests : requests.Perm requests')
    (hoffers : offers.Perm offers') : Matchable fits requests offers := by
  obtain ⟨chosen', hsplit, hall⟩ := h
  obtain ⟨chosen, hchosen, hall⟩ := exists_forall₂_of_perm hrequests hall
  exact ⟨chosen, (hoffers.trans hsplit).trans hchosen, hall⟩

theorem Stuck.perm (h : Stuck fits requests' offers') (hrequests : requests.Perm requests')
    (hoffers : offers.Perm offers') : Stuck fits requests offers := by
  obtain ⟨done, request, others, chosen, rest, hrequests', hoffers', hstuck⟩ := h
  exact ⟨done, request, others, chosen, rest, hrequests.trans hrequests', hoffers.trans hoffers',
    hstuck⟩

theorem Matchable.assignable (h : Matchable fits requests offers) :
    Assignable fits requests offers := by
  obtain ⟨chosen, hperm, hall⟩ := h
  exact ⟨chosen, [], by rwa [List.append_nil], hall⟩

theorem Matchable.mono {good : α → β → Prop} (hgood : ∀ a b, good a b → fits a b)
    (h : Matchable good requests offers) : Matchable fits requests offers := by
  obtain ⟨chosen, hperm, hall⟩ := h
  exact ⟨chosen, hperm, hall.imp fun a b => hgood a b⟩

theorem Matchable.length_eq (h : Matchable fits requests offers) :
    requests.length = offers.length := by
  obtain ⟨chosen, hperm, hall⟩ := h
  rw [hall.length_eq, hperm.length_eq]

end Assignments

section FirstFit

variable {fits : α → β → Bool} {requests : List α} {offers : List β} {request : α} {offer : β}

theorem perm_eraseP {p : β → Bool} (h : offers.find? p = some offer) :
    offers.Perm (offer :: offers.eraseP p) := by
  obtain ⟨hp, before, after, rfl, hbefore⟩ := List.find?_eq_some_iff_append.mp h
  have hskip : ∀ b ∈ before, ¬ p b = true := fun b hb => by simpa using hbefore b hb
  rw [List.eraseP_append_right _ hskip, List.eraseP_cons_of_pos hp]
  exact List.perm_middle

structure FirstFit.Spec (fits : α → β → Bool) (requests : List α) (offers : List β)
    (fit : FirstFit α β) : Prop where
  permRequests : requests.Perm (fit.pairs.map Prod.fst ++ fit.unmet)
  permOffers : offers.Perm (fit.pairs.map Prod.snd ++ fit.remaining)
  fitting : ∀ pair ∈ fit.pairs, fits pair.1 pair.2 = true
  unfit : ∀ request ∈ fit.unmet, ∀ offer ∈ fit.remaining, fits request offer = false

theorem firstFit_remaining_subset (requests : List α) (offers : List β) :
    (firstFit fits requests offers).remaining ⊆ offers := by
  induction requests generalizing offers with
  | nil => exact List.Subset.refl _
  | cons request requests ih =>
      rw [firstFit]
      cases offers.find? (fits request) with
      | none => exact ih offers
      | some offer => exact List.Subset.trans (ih _) List.eraseP_subset

theorem firstFit_spec (fits : α → β → Bool) (requests : List α) (offers : List β) :
    (firstFit fits requests offers).Spec fits requests offers := by
  induction requests generalizing offers with
  | nil => exact ⟨.refl _, .refl _, List.forall_mem_nil _, List.forall_mem_nil _⟩
  | cons request requests ih =>
      rw [firstFit]
      cases hfind : offers.find? (fits request) with
      | some offer =>
          have hlater := ih (offers.eraseP (fits request))
          exact ⟨hlater.permRequests.cons request,
            (perm_eraseP hfind).trans (hlater.permOffers.cons offer),
            List.forall_mem_cons.mpr ⟨List.find?_some hfind, hlater.fitting⟩, hlater.unfit⟩
      | none =>
          have hlater := ih offers
          refine ⟨(hlater.permRequests.cons request).trans List.perm_middle.symm, hlater.permOffers,
            hlater.fitting, List.forall_mem_cons.mpr ⟨fun offer hoffer => ?_, hlater.unfit⟩⟩
          have hnone :=
            List.find?_eq_none.mp hfind offer (firstFit_remaining_subset requests offers hoffer)
          simpa using hnone

theorem FirstFit.Spec.forall₂ {fit : FirstFit α β} {good : α → β → Prop}
    (hgood : ∀ pair ∈ fit.pairs, good pair.1 pair.2) :
    List.Forall₂ good (fit.pairs.map Prod.fst) (fit.pairs.map Prod.snd) := by
  rw [List.forall₂_map_left_iff, List.forall₂_map_right_iff, List.forall₂_same]
  exact hgood

theorem FirstFit.Spec.stuck {fit : FirstFit α β} (h : fit.Spec fits requests offers)
    (hunmet : fit.unmet ≠ []) : Stuck (fun a b => fits a b = true) requests offers := by
  obtain ⟨request, others, hcons⟩ := List.exists_cons_of_ne_nil hunmet
  refine ⟨_, request, others, _, fit.remaining, hcons ▸ h.permRequests, h.permOffers,
    forall₂ h.fitting,
    fun offer hoffer => ?_⟩
  rw [Bool.not_eq_true]
  exact h.unfit request (by rw [hcons]; exact List.mem_cons_self) offer hoffer

theorem FirstFit.Spec.assignable {fit : FirstFit α β} (h : fit.Spec fits requests offers)
    (hunmet : fit.unmet = []) : Assignable (fun a b => fits a b = true) requests offers := by
  have hrequests := h.permRequests
  rw [hunmet, List.append_nil] at hrequests
  exact Assignable.perm ⟨_, _, .refl _, forall₂ h.fitting⟩ hrequests h.permOffers

theorem firstFit_cons_of_fits (h : fits request offer = true) (requests : List α)
    (offers : List β) : firstFit fits (request :: requests) (offer :: offers) =
      { firstFit fits requests offers with
        pairs := (request, offer) :: (firstFit fits requests offers).pairs } := by
  rw [firstFit, List.find?_cons_of_pos h, List.eraseP_cons_of_pos h]

theorem unmet_firstFit_append {done : List α} {chosen : List β}
    (h : List.Forall₂ (fun a b => fits a b = true) done chosen) (requests : List α)
    (offers : List β) :
    (firstFit fits (done ++ requests) (chosen ++ offers)).unmet =
      (firstFit fits requests offers).unmet := by
  induction h with
  | nil => rfl
  | cons hfirst _ ih =>
      rw [List.cons_append, List.cons_append, firstFit_cons_of_fits hfirst]
      exact ih

theorem Stuck.exists_perm (h : Stuck (fun a b => fits a b = true) requests offers) :
    ∃ requests' offers', requests'.Perm requests ∧ offers'.Perm offers ∧
      (firstFit fits requests' offers').unmet ≠ [] := by
  obtain ⟨done, request, others, chosen, rest, hrequests, hoffers, hall, hnone⟩ := h
  refine ⟨_, _, hrequests.symm, hoffers.symm, ?_⟩
  have hfind : rest.find? (fits request) = none := List.find?_eq_none.mpr hnone
  rw [unmet_firstFit_append hall, firstFit, hfind]
  exact List.cons_ne_nil _ _

/-- **First fit in every order.** It finds the assignments that exist exactly if it cannot get stuck
where one does. -/
theorem firstFit_complete_iff :
    (∀ requests' offers', requests'.Perm requests → offers'.Perm offers →
      ((firstFit fits requests' offers').unmet = [] ↔
      Assignable (fun a b => fits a b = true) requests offers)) ↔
    (Assignable (fun a b => fits a b = true) requests offers →
      ¬ Stuck (fun a b => fits a b = true) requests offers) := by
  constructor
  · intro hall hassign hstuck
    obtain ⟨requests', offers', hrequests, hoffers, hunmet⟩ := hstuck.exists_perm
    exact hunmet ((hall requests' offers' hrequests hoffers).mpr hassign)
  · intro hfree requests' offers' hrequests hoffers
    have hspec := firstFit_spec fits requests' offers'
    constructor
    · exact fun hunmet => (hspec.assignable hunmet).perm hrequests.symm hoffers.symm
    · intro hassign
      by_contra hunmet
      exact hfree hassign ((hspec.stuck hunmet).perm hrequests.symm hoffers.symm)

theorem exists_fits_of_mem {fits : α → β → Prop} {offer : β} (h : List.Forall₂ fits requests offers)
    (hoffer : offer ∈ offers) : ∃ request ∈ requests, fits request offer := by
  induction h with
  | nil => cases hoffer
  | @cons request taken _ _ hfits _ ih =>
      rcases List.mem_cons.mp hoffer with rfl | hoffer
      · exact ⟨request, List.mem_cons_self, hfits⟩
      · obtain ⟨other, hother, hfits⟩ := ih hoffer
        exact ⟨other, List.mem_cons_of_mem _ hother, hfits⟩

theorem not_stuck_of_unique {fits : α → β → Prop} (hnodup : requests.Nodup)
    (hunique : ∀ a ∈ requests, ∀ b ∈ requests, ∀ offer, fits a offer → fits b offer → a = b)
    (h : Assignable fits requests offers) : ¬ Stuck fits requests offers := by
  rintro ⟨done, request, others, chosen, rest, hrequests, hoffers, hdone, hnone⟩
  obtain ⟨assigned, left, hsplit, hall⟩ := h
  have hmem : request ∈ requests := hrequests.symm.subset (by simp)
  have hflip : List.Forall₂ (flip fits) assigned requests := List.Forall₂.flip hall
  obtain ⟨offer, hassigned, hfits⟩ := exists_fits_of_mem hflip hmem
  have hoffer : offer ∈ chosen ++ rest :=
    (hsplit.symm.trans hoffers).subset (List.mem_append_left _ hassigned)
  rcases List.mem_append.mp hoffer with hchosen | hrest
  · obtain ⟨other, hother, hfits'⟩ := exists_fits_of_mem hdone hchosen
    have hsame := hunique other (hrequests.symm.subset (List.mem_append_left _ hother)) request hmem
      offer hfits' hfits
    obtain ⟨-, -, hdisjoint⟩ := List.nodup_append.mp (hrequests.nodup_iff.mp hnodup)
    exact hdisjoint other hother request List.mem_cons_self hsame
  · exact hnone offer hrest hfits

end FirstFit

end AiAnalytics.Lib

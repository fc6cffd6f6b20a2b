import Mathlib.Data.List.Basic
import Mathlib.Data.List.Nodup

set_option autoImplicit true

namespace FirstWriters

variable {α : Type u} {κ : Type v} [DecidableEq κ] {key : α → κ} {held as : List α}

/-- What is held once the items have been offered in their order: an item whose key is held already
is turned away. -/
def offer (key : α → κ) : List α → List α → List α
  | held, [] => held
  | held, a :: as => if key a ∈ held.map key then offer key held as else offer key (held ++ [a]) as

/-- The first item of every key. -/
def firsts (key : α → κ) (as : List α) : List α := offer key [] as

theorem offer_known (h : key a ∈ held.map key) (as : List α) :
    offer key held (a :: as) = offer key held as := by rw [offer, if_pos h]

theorem offer_new (h : key a ∉ held.map key) (as : List α) :
    offer key held (a :: as) = offer key (held ++ [a]) as := by rw [offer, if_neg h]

theorem offer_append (held as bs : List α) :
    offer key held (as ++ bs) = offer key (offer key held as) bs := by
  induction as generalizing held with
  | nil => rfl
  | cons a as ih =>
    rw [List.cons_append]
    by_cases h : key a ∈ held.map key
    · rw [offer_known h, offer_known h, ih]
    · rw [offer_new h, offer_new h, ih]

theorem firsts_append (as bs : List α) : firsts key (as ++ bs) = offer key (firsts key as) bs :=
  offer_append [] as bs

theorem prefix_offer (held as : List α) : held <+: offer key held as := by
  induction as generalizing held with
  | nil => exact List.prefix_rfl
  | cons a as ih =>
    by_cases h : key a ∈ held.map key
    · rw [offer_known h]
      exact ih held
    · rw [offer_new h]
      exact (List.prefix_append held [a]).trans (ih (held ++ [a]))

/-- The first item offered under a key is the one held. -/
theorem find?_offer (held as : List α) (k : κ) :
    (offer key held as).find? (fun a => key a = k) = (held ++ as).find? (fun a => key a = k) := by
  induction as generalizing held with
  | nil => rw [offer, List.append_nil]
  | cons a as ih =>
    by_cases h : key a ∈ held.map key
    · rw [offer_known h, ih, List.find?_append, List.find?_append]
      cases hfind : held.find? (fun b => key b = k) with
      | some b => rfl
      | none =>
        rw [Option.none_or, Option.none_or, List.find?_cons_of_neg]
        intro hk
        obtain ⟨b, hb, hkey⟩ := List.mem_map.1 h
        exact List.find?_eq_none.1 hfind b hb
          (decide_eq_true (hkey.trans (of_decide_eq_true hk)))
    · rw [offer_new h, ih, List.append_assoc, List.singleton_append]

theorem find?_firsts (as : List α) (k : κ) :
    (firsts key as).find? (fun a => key a = k) = as.find? (fun a => key a = k) :=
  find?_offer [] as k

end FirstWriters

import Mathlib.Data.List.Nodup

set_option autoImplicit true

namespace Rankings

variable {α : Type} {l l' : List α} {a b x : α}

/-- In the ranking `l`, `a` comes before `b`. -/
def Above (l : List α) (a b : α) : Prop := [a, b].Sublist l

theorem Above.mem_left (h : Above l a b) : a ∈ l := List.Sublist.mem (.head _) h

theorem Above.mem_right (h : Above l a b) : b ∈ l := List.Sublist.mem (.tail _ (.head _)) h

theorem above_cons : Above (x :: l) a b ↔ a = x ∧ b ∈ l ∨ Above l a b := by
  constructor
  · intro h
    cases h with
    | cons _ h => exact .inr h
    | cons_cons _ h => exact .inl ⟨rfl, List.singleton_sublist.1 h⟩
  · rintro (⟨rfl, h⟩ | h)
    · exact (List.singleton_sublist.2 h).cons_cons a
    · exact h.cons x

theorem above_filter {p : α → Bool} : Above (l.filter p) a b ↔ Above l a b ∧ p a ∧ p b := by
  constructor
  · intro h
    exact ⟨h.trans List.filter_sublist, (List.mem_filter.1 h.mem_left).2,
      (List.mem_filter.1 h.mem_right).2⟩
  · rintro ⟨h, ha, hb⟩
    have hpair := List.Sublist.filter p h
    rwa [List.filter_cons_of_pos ha, List.filter_cons_of_pos hb, List.filter_nil] at hpair

theorem above_moved [DecidableEq α] (h : l.Nodup) :
    Above (x :: l.erase x) a b ↔ b ≠ x ∧ (a = x ∧ b ∈ l ∨ a ≠ x ∧ Above l a b) := by
  rw [above_cons, h.mem_erase_iff, h.erase_eq_filter, above_filter]
  simp only [bne_iff_ne]
  constructor
  · rintro (⟨ha, hb, hmem⟩ | ⟨habove, ha, hb⟩)
    · exact ⟨hb, .inl ⟨ha, hmem⟩⟩
    · exact ⟨hb, .inr ⟨ha, habove⟩⟩
  · rintro ⟨hb, ⟨ha, hmem⟩ | ⟨ha, habove⟩⟩
    · exact .inl ⟨ha, hb, hmem⟩
    · exact .inr ⟨habove, ha, hb⟩

/-- Where those of `p` are put last, none of them is above another. -/
theorem not_above_of_last {p : α → Bool} (ha : p a = true) (hb : p b = false) :
    ¬ Above (l.filter (fun x => !p x) ++ l.filter p) a b := by
  intro h
  obtain ⟨front, back, hsplit, hfront, hback⟩ := List.sublist_append_iff.1 h
  have hpa : ∀ x ∈ front, p x = false := by
    intro x hx
    have := (List.mem_filter.1 (hfront.mem hx)).2
    rwa [Bool.not_eq_true'] at this
  cases front with
  | nil =>
    rw [List.nil_append] at hsplit
    subst hsplit
    have hpb := (List.mem_filter.1 (hback.mem (.tail _ (.head _)))).2
    rw [hb] at hpb
    cases hpb
  | cons x front =>
    obtain ⟨rfl, -⟩ := List.cons.inj hsplit
    have hfalse := hpa a (.head _)
    rw [ha] at hfalse
    cases hfalse

end Rankings

import StudentSuccess.Table

set_option autoImplicit true

namespace Table

variable {ρ : Type u} {κ : Type v} {key : ρ → κ}

/-- `t'` is `t` with `n` rows added, all under the keys, and it has a row of every key. -/
structure Fills (t t' : Table ρ key) (keys : List κ) (n : Nat) : Prop where
  added : ∃ rows, t'.rows = t.rows ++ rows ∧ rows.length = n ∧ ∀ r ∈ rows, key r ∈ keys
  covers : ∀ k ∈ keys, k ∈ t'.rows.map key

namespace Fills

variable {t t' t'' : Table ρ key}

theorem nil (t : Table ρ key) : Fills t t [] 0 :=
  ⟨⟨[], by rw [List.append_nil], rfl, by simp⟩, by simp⟩

theorem present (h : k ∈ t.rows.map key) : Fills t t [k] 0 := by
  refine ⟨⟨[], by rw [List.append_nil], rfl, by simp⟩, ?_⟩
  intro k' hk'
  rw [List.mem_singleton] at hk'
  exact hk' ▸ h

theorem insert (t : Table ρ key) (r : ρ) (h : key r ∉ t.rows.map key) :
    Fills t (t.insert r h) [key r] 1 := by
  refine ⟨⟨[r], rfl, rfl, by simp⟩, ?_⟩
  intro k hk
  rw [insert_rows, List.map_append, List.mem_append]
  exact .inr hk

theorem kept (h : Fills t t' keys n) (hk : k ∈ t.rows.map key) : k ∈ t'.rows.map key := by
  obtain ⟨rows, happend, -, -⟩ := h.added
  rw [happend, List.map_append, List.mem_append]
  exact .inl hk

theorem trans (h : Fills t t' keys n) (h' : Fills t' t'' keys' m) :
    Fills t t'' (keys ++ keys') (n + m) := by
  obtain ⟨rows, happend, hlength, hkeys⟩ := h.added
  obtain ⟨rows', happend', hlength', hkeys'⟩ := h'.added
  constructor
  · refine ⟨rows ++ rows', ?_, ?_, ?_⟩
    · rw [happend', happend, List.append_assoc]
    · rw [List.length_append, hlength, hlength']
    · intro r hr
      rw [List.mem_append] at hr ⊢
      exact hr.imp (hkeys r) (hkeys' r)
  · intro k hk
    rcases List.mem_append.1 hk with hk | hk
    · exact h'.kept (h.covers k hk)
    · exact h'.covers k hk

theorem length (h : Fills t t' keys n) : t'.rows.length = t.rows.length + n := by
  obtain ⟨rows, happend, hlength, -⟩ := h.added
  rw [happend, List.length_append, hlength]

/-- Filling again adds nothing. -/
theorem again (h : Fills t t' keys n) (hcovers : ∀ k ∈ keys, k ∈ t.rows.map key) :
    t'.rows = t.rows ∧ n = 0 := by
  obtain ⟨rows, happend, hlength, hkeys⟩ := h.added
  cases rows with
  | nil => exact ⟨by rw [happend, List.append_nil], hlength.symm⟩
  | cons r rows =>
    have hunique := t'.unique
    rw [happend, List.map_append, List.nodup_append] at hunique
    have hold := hcovers (key r) (hkeys r (.head _))
    exact absurd rfl (hunique.2.2 (key r) hold (key r) (.head _))

theorem exactly_one [DecidableEq κ] (h : Fills t t' keys n) (hk : k ∈ keys) :
    ∃ r, t'.rows.filter (fun r => key r = k) = [r] := by
  cases hfind : t'.find? k with
  | none => exact absurd (h.covers k hk) (find?_eq_none_iff.1 hfind)
  | some r => exact ⟨r, filter_of_find? hfind⟩

end Fills
end Table

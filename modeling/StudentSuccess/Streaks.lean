import Mathlib.Data.List.Chain

set_option autoImplicit true

namespace Streaks

variable {α : Type u} {R : α → α → Prop} [DecidableRel R]

/-- The longest run of elements at the head of the list, each related to the next. -/
def streak (R : α → α → Prop) [DecidableRel R] : List α → List α
  | [] => []
  | [a] => [a]
  | a :: b :: rest => if R a b then a :: streak R (b :: rest) else [a]

theorem streak_cons (a : α) (l : List α) : ∃ l', streak R (a :: l) = a :: l' := by
  cases l with
  | nil => exact ⟨[], rfl⟩
  | cons b rest =>
    rw [streak]
    split_ifs
    · exact ⟨_, rfl⟩
    · exact ⟨[], rfl⟩

theorem streak_isChain (l : List α) : (streak R l).IsChain R := by
  induction l using streak.induct R with
  | case1 => exact List.isChain_nil
  | case2 a => exact List.isChain_singleton a
  | case3 a b rest h ih =>
    rw [streak, if_pos h]
    obtain ⟨l', hl'⟩ := streak_cons (R := R) b rest
    rw [hl'] at ih ⊢
    exact List.isChain_cons_cons.2 ⟨h, ih⟩
  | case4 a b rest h =>
    rw [streak, if_neg h]
    exact List.isChain_singleton a

theorem streak_initial (l : List α) : streak R l <+: l := by
  induction l using streak.induct R with
  | case1 => exact List.nil_prefix
  | case2 a => exact List.prefix_refl [a]
  | case3 a b rest h ih =>
    rw [streak, if_pos h]
    exact List.cons_prefix_cons.2 ⟨rfl, ih⟩
  | case4 a b rest h =>
    rw [streak, if_neg h]
    exact List.cons_prefix_cons.2 ⟨rfl, List.nil_prefix⟩

theorem initial_streak (hchain : l'.IsChain R) (hinitial : l' <+: l) : l' <+: streak R l := by
  induction l using streak.induct R generalizing l' with
  | case1 => exact hinitial
  | case2 a => exact hinitial
  | case3 a b rest h ih =>
    rw [streak, if_pos h]
    cases l' with
    | nil => exact List.nil_prefix
    | cons c l' =>
      obtain ⟨rfl, htail⟩ := List.cons_prefix_cons.1 hinitial
      exact List.cons_prefix_cons.2 ⟨rfl, ih hchain.tail htail⟩
  | case4 a b rest h =>
    rw [streak, if_neg h]
    match l' with
    | [] => exact List.nil_prefix
    | [c] =>
      obtain ⟨rfl, -⟩ := List.cons_prefix_cons.1 hinitial
      exact List.prefix_refl _
    | c :: d :: l' =>
      obtain ⟨rfl, htail⟩ := List.cons_prefix_cons.1 hinitial
      obtain ⟨rfl, -⟩ := List.cons_prefix_cons.1 htail
      exact absurd (List.isChain_cons_cons.1 hchain).1 h

/-- The longest run of a window is what the window shows of the longest run. -/
theorem streak_take (n : Nat) (l : List α) : streak R (l.take n) = (streak R l).take n := by
  have hinitial : streak R (l.take n) <+: (streak R l).take n := by
    rw [List.prefix_take_iff]
    constructor
    · exact initial_streak (streak_isChain _) ((streak_initial _).trans (List.take_prefix n l))
    · exact (streak_initial _).length_le.trans (List.length_take_le n l)
  have hinitial' : (streak R l).take n <+: streak R (l.take n) := by
    apply initial_streak ((streak_isChain l).take n)
    rw [List.prefix_take_iff]
    exact ⟨(List.take_prefix n _).trans (streak_initial l), List.length_take_le n _⟩
  exact hinitial.eq_of_length_le hinitial'.length_le

theorem not_rel_of_streak (hl : streak R l ++ b :: rest = l) (ha : a ∈ (streak R l).getLast?) :
    ¬ R a b := by
  intro h
  have hchain : (streak R l ++ [b]).IsChain R := by
    refine List.isChain_append.2 ⟨streak_isChain l, List.isChain_singleton b, ?_⟩
    intro x hx y hy
    cases Option.mem_unique ha hx
    cases hy
    exact h
  have hinitial : streak R l ++ [b] <+: l :=
    ⟨rest, by rw [List.append_assoc, List.singleton_append, hl]⟩
  have hlength := (initial_streak hchain hinitial).length_le
  rw [List.length_append, List.length_singleton] at hlength
  omega

/-- A chain that steps down by one takes every value between its ends. -/
theorem exists_between {key : α → Nat} (h : (a :: l).IsChain fun x y => key y + 1 = key x)
    (hb : b ∈ a :: l) (hlow : key b ≤ i) (hhigh : i ≤ key a) : ∃ c ∈ a :: l, key c = i := by
  induction l generalizing a with
  | nil =>
    cases List.mem_singleton.1 hb
    exact ⟨b, hb, by omega⟩
  | cons c l ih =>
    obtain ⟨hstep, htail⟩ := List.isChain_cons_cons.1 h
    by_cases heq : i = key a
    · exact ⟨a, List.mem_cons_self, heq.symm⟩
    · have hmem : b ∈ c :: l := by
        rcases List.mem_cons.1 hb with rfl | hmem
        · omega
        · exact hmem
      obtain ⟨d, hd, hkey⟩ := ih htail hmem (by omega)
      exact ⟨d, List.mem_cons_of_mem _ hd, hkey⟩

end Streaks

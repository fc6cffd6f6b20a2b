import Mathlib.Data.List.Sort
import Mathlib.Logic.Equiv.Basic

set_option autoImplicit true

namespace Pagination

variable {α : Type u} {β : Type v} [LinearOrder β] {score : α → β}

/-- The highest score first, rows of the same score in the order they came in. -/
def ranked (score : α → β) (rows : List α) : List α :=
  rows.insertionSort fun a b => score b ≤ score a

/-- `rows[offset : offset + limit]`. -/
def slice (offset limit : Nat) (rows : List α) : List α := (rows.drop offset).take limit

def page (limit number : Nat) (rows : List α) : List α := slice (number * limit) limit rows

theorem ranked_perm (rows : List α) : (ranked score rows).Perm rows :=
  List.perm_insertionSort _ rows

/-- Rows with the scores of their images are ranked as these are. -/
theorem map_ranked (f : α → γ) (score' : γ → β) (h : ∀ a, score' (f a) = score a) (rows : List α) :
    (ranked score rows).map f = ranked score' (rows.map f) := by
  apply List.map_insertionSort
  intro a _ b _
  rw [h, h]

theorem mem_ranked : x ∈ ranked score rows ↔ x ∈ rows := (ranked_perm rows).mem_iff

theorem ranked_pairwise (rows : List α) :
    (ranked score rows).Pairwise fun a b => score b ≤ score a := by
  have htotal : Std.Total fun a b : α => score b ≤ score a :=
    ⟨fun a b => le_total (score b) (score a)⟩
  have htrans : IsTrans α fun a b => score b ≤ score a := ⟨fun a b c hab hbc => hbc.trans hab⟩
  exact List.pairwise_insertionSort _ rows

theorem ranked_eq_self (h : rows.Pairwise fun a b => score b ≤ score a) :
    ranked score rows = rows := List.Pairwise.insertionSort_eq h

/-- The scores of a ranking do not tell in which order the rows came in. -/
theorem ranked_scores (h : rows.Perm rows') :
    (ranked score rows).map score = (ranked score rows').map score := by
  have hperm : ((ranked score rows).map score).Perm ((ranked score rows').map score) :=
    ((ranked_perm rows).trans (h.trans (ranked_perm rows').symm)).map score
  apply hperm.eq_of_pairwise (fun a b _ _ hab hba => le_antisymm hba hab)
  · exact List.pairwise_map.2 (ranked_pairwise rows)
  · exact List.pairwise_map.2 (ranked_pairwise rows')

theorem map_page (f : α → γ) (limit number : Nat) (rows : List α) :
    (page limit number rows).map f = page limit number (rows.map f) := by
  rw [page, slice, List.map_take, List.map_drop]
  rfl

theorem mem_page_iff : x ∈ page limit number rows ↔
    ∃ i, number * limit ≤ i ∧ i < number * limit + limit ∧ rows[i]? = some x := by
  rw [page, slice, List.mem_iff_getElem?]
  constructor
  · intro h
    obtain ⟨i, hi⟩ := h
    have hlt : i < limit := by
      by_contra hge
      rw [List.getElem?_take_eq_none (Nat.le_of_not_lt hge)] at hi
      exact nomatch hi
    rw [List.getElem?_take_of_lt hlt, List.getElem?_drop] at hi
    exact ⟨number * limit + i, Nat.le_add_right _ _, Nat.add_lt_add_left hlt _, hi⟩
  · intro h
    obtain ⟨i, hle, hlt, hi⟩ := h
    use i - number * limit
    rw [List.getElem?_take_of_lt (by omega), List.getElem?_drop, Nat.add_sub_cancel' hle]
    exact hi

theorem mem_of_mem_page (h : x ∈ page limit number rows) : x ∈ rows :=
  List.mem_of_mem_drop (List.mem_of_mem_take h)

theorem exists_page (hlimit : 0 < limit) (h : x ∈ rows) : ∃ number, x ∈ page limit number rows := by
  obtain ⟨i, hi⟩ := List.mem_iff_getElem?.1 h
  exact ⟨i / limit, mem_page_iff.2
    ⟨i, Nat.div_mul_le_self i limit, Nat.lt_div_mul_add hlimit, hi⟩⟩

theorem page_unique (hnodup : rows.Nodup) (h : x ∈ page limit number rows)
    (h' : x ∈ page limit number' rows) : number = number' := by
  obtain ⟨i, hle, hlt, hi⟩ := mem_page_iff.1 h
  obtain ⟨i', hle', hlt', hi'⟩ := mem_page_iff.1 h'
  have hbound : i < rows.length := (List.getElem?_eq_some_iff.1 hi).1
  obtain rfl : i = i' := (List.getElem?_inj hbound hnodup).1 (hi.trans hi'.symm)
  have hdiv : i / limit = number :=
    Nat.div_eq_of_lt_le hle (by rw [Nat.succ_mul]; exact hlt)
  have hdiv' : i / limit = number' :=
    Nat.div_eq_of_lt_le hle' (by rw [Nat.succ_mul]; exact hlt')
  exact hdiv.symm.trans hdiv'

/-- Each row is on exactly one of the pages, whatever order each of them is ranked from. -/
def Paginates (score : α → β) (limit : Nat) (rows : List α) : Prop :=
  ∀ orders : Nat → List α, (∀ number, (orders number).Perm rows) → ∀ x ∈ rows,
    ∃ number, x ∈ page limit number (ranked score (orders number)) ∧
      ∀ number', x ∈ page limit number' (ranked score (orders number')) → number' = number

/-- Rows of the same score stand on the same page of the ranking. -/
def TiesTogether (score : α → β) (limit : Nat) (rows : List α) : Prop :=
  ∀ x ∈ rows, ∀ y ∈ rows, score x = score y → ∀ number,
    x ∈ page limit number (ranked score rows) → y ∈ page limit number (ranked score rows)

/-- A row that another order brings to a page ties with one on it. -/
theorem exists_tie {order : List α} (h : order.Perm rows)
    (hx : x ∈ page limit number (ranked score order)) :
    ∃ y ∈ page limit number (ranked score rows), score y = score x := by
  have hscores : (page limit number (ranked score order)).map score =
      (page limit number (ranked score rows)).map score := by
    rw [map_page, map_page, ranked_scores h]
  exact List.mem_map.1 (hscores ▸ List.mem_map_of_mem hx)

/-- Where ties stand together the pages do not depend on the order. -/
theorem TiesTogether.page_iff (h : TiesTogether score limit rows) (hlimit : 0 < limit)
    (hnodup : rows.Nodup) (horder : order.Perm rows) (hx : x ∈ rows) :
    x ∈ page limit number (ranked score order) ↔ x ∈ page limit number (ranked score rows) := by
  have hmp : ∀ number, x ∈ page limit number (ranked score order) →
      x ∈ page limit number (ranked score rows) := by
    intro number hpage
    obtain ⟨y, hy, hscore⟩ := exists_tie horder hpage
    exact h y (mem_ranked.1 (mem_of_mem_page hy)) x hx hscore number hy
  constructor
  · exact hmp number
  · intro hpage
    have hranked : x ∈ ranked score order := mem_ranked.2 (horder.mem_iff.2 hx)
    obtain ⟨number', hnumber'⟩ := exists_page hlimit hranked
    have hsame : number' = number :=
      page_unique ((ranked_perm rows).nodup_iff.2 hnodup) (hmp number' hnumber') hpage
    exact hsame ▸ hnumber'

theorem TiesTogether.paginates (h : TiesTogether score limit rows) (hlimit : 0 < limit)
    (hnodup : rows.Nodup) : Paginates score limit rows := by
  intro orders horders x hx
  have hranked : x ∈ ranked score rows := mem_ranked.2 hx
  obtain ⟨number, hnumber⟩ := exists_page hlimit hranked
  use number
  constructor
  · exact (h.page_iff hlimit hnodup (horders number) hx).2 hnumber
  · intro number' hpage
    exact page_unique ((ranked_perm rows).nodup_iff.2 hnodup)
      ((h.page_iff hlimit hnodup (horders number') hx).1 hpage) hnumber

def exchanged [DecidableEq α] (x y : α) (rows : List α) : List α := rows.map (Equiv.swap x y)

section
variable [DecidableEq α]

theorem mem_page_exchanged {x y : α} :
    x ∈ page limit number (exchanged x y rows) ↔ y ∈ page limit number rows := by
  rw [exchanged, ← map_page]
  constructor
  · intro h
    obtain ⟨z, hz, heq⟩ := List.mem_map.1 h
    rw [Equiv.swap_apply_eq_iff, Equiv.swap_apply_left] at heq
    exact heq ▸ hz
  · intro h
    exact List.mem_map.2 ⟨y, h, Equiv.swap_apply_right x y⟩

theorem exchanged_perm {x y : α} (hnodup : rows.Nodup) (hx : x ∈ rows) (hy : y ∈ rows) :
    (exchanged x y rows).Perm rows := by
  have hmem : ∀ z ∈ rows, Equiv.swap x y z ∈ rows := by
    intro z hz
    rw [Equiv.swap_apply_def]
    split
    · exact hy
    · split
      · exact hx
      · exact hz
  rw [exchanged]
  apply (List.perm_ext_iff_of_nodup (hnodup.map (Equiv.injective _)) hnodup).2
  intro z
  rw [List.mem_map]
  constructor
  · intro h
    obtain ⟨z', hz', rfl⟩ := h
    exact hmem z' hz'
  · intro h
    exact ⟨Equiv.swap x y z, hmem z h, Equiv.swap_apply_self x y z⟩

omit [LinearOrder β] in
theorem exchanged_scores {x y : α} (h : score x = score y) (rows : List α) :
    (exchanged x y rows).map score = rows.map score := by
  rw [exchanged, List.map_map]
  apply List.map_congr_left
  intro z _
  rw [Function.comp_apply, Equiv.swap_apply_def]
  split
  · next hz => exact hz ▸ h.symm
  · split
    · next hz => exact hz ▸ h
    · rfl

theorem ranked_exchanged {x y : α} (h : score x = score y) (rows : List α) :
    ranked score (exchanged x y (ranked score rows)) = exchanged x y (ranked score rows) := by
  have hscores : ((exchanged x y (ranked score rows)).map score).Pairwise fun a b => b ≤ a := by
    rw [exchanged_scores h]
    exact List.pairwise_map.2 (ranked_pairwise rows)
  exact ranked_eq_self (List.pairwise_map.1 hscores)

end

/-- The pages partition the rows exactly where ties stand together. -/
theorem paginates_iff_tiesTogether (hlimit : 0 < limit) (hnodup : rows.Nodup) :
    Paginates score limit rows ↔ TiesTogether score limit rows := by
  classical
  constructor
  · intro h x hx y hy hscore number hpage
    have hranked : (ranked score rows).Nodup := (ranked_perm rows).nodup_iff.2 hnodup
    have hin : y ∈ ranked score rows := mem_ranked.2 hy
    obtain ⟨number', hnumber'⟩ := exists_page hlimit hin
    -- The page of `y` is served after `x` and `y` have changed places.
    let orders : Nat → List α := fun k =>
      if k = number' then exchanged x y (ranked score rows) else rows
    have horders : ∀ k, (orders k).Perm rows := by
      intro k
      dsimp only [orders]
      split
      · exact (exchanged_perm hranked (mem_ranked.2 hx) hin).trans (ranked_perm rows)
      · exact .refl rows
    have hxpage : x ∈ page limit number' (ranked score (orders number')) := by
      dsimp only [orders]
      rw [if_pos rfl, ranked_exchanged hscore]
      exact mem_page_exchanged.2 hnumber'
    by_cases hsame : number = number'
    · exact hsame ▸ hnumber'
    · obtain ⟨k, -, honly⟩ := h orders horders x hx
      have hother : x ∈ page limit number (ranked score (orders number)) := by
        dsimp only [orders]
        rw [if_neg hsame]
        exact hpage
      exact absurd ((honly number hother).trans (honly number' hxpage).symm) hsame
  · exact fun h => h.paginates hlimit hnodup

/-- Pages of one row have room for no tie. -/
theorem paginates_every_iff {limits : Nat → Prop} (hone : limits 1)
    (hpos : ∀ limit, limits limit → 0 < limit) (hnodup : rows.Nodup) :
    (∀ limit, limits limit → Paginates score limit rows) ↔ (rows.map score).Nodup := by
  constructor
  · intro h
    have hties := (paginates_iff_tiesTogether Nat.one_pos hnodup).1 (h 1 hone)
    apply hnodup.map_on
    intro x hx y hy hscore
    have hin : x ∈ ranked score rows := mem_ranked.2 hx
    obtain ⟨number, hnumber⟩ := exists_page Nat.one_pos hin
    obtain ⟨i, hle, hlt, hi⟩ := mem_page_iff.1 hnumber
    obtain ⟨j, hle', hlt', hj⟩ := mem_page_iff.1 (hties x hx y hy hscore number hnumber)
    obtain rfl : i = j := by omega
    exact Option.some.inj (hi.symm.trans hj)
  · intro h limit hlimit
    apply (paginates_iff_tiesTogether (hpos limit hlimit) hnodup).2
    intro x hx y hy hscore number hpage
    rw [← List.inj_on_of_nodup_map h hx hy hscore]
    exact hpage

theorem exists_map_order {rows : List α} {order : List γ} {f : α → γ}
    (h : order.Perm (rows.map f)) :
    ∃ rows' : List α, rows'.Perm rows ∧ rows'.map f = order := by
  induction order generalizing rows with
  | nil => exact ⟨[], (List.map_eq_nil_iff.1 h.nil_eq.symm).symm ▸ .refl _, rfl⟩
  | cons y order ih =>
    obtain ⟨x, hx, rfl⟩ := List.mem_map.1 (h.mem_iff.1 (.head _))
    obtain ⟨before, after, rfl⟩ := List.append_of_mem hx
    have hrest : order.Perm ((before ++ after).map f) := by
      apply List.Perm.cons_inv (a := f x)
      apply h.trans
      rw [List.map_append, List.map_append]
      exact List.perm_middle
    obtain ⟨rows', hperm, rfl⟩ := ih hrest
    exact ⟨x :: rows', (hperm.cons x).trans List.perm_middle.symm, rfl⟩

/-- Every order of what a query selects comes from an order of the table. -/
theorem exists_order {rows : List α} {order : List γ} {p : α → Bool} {f : α → γ}
    (h : order.Perm ((rows.filter p).map f)) :
    ∃ rows' : List α, rows'.Perm rows ∧ (rows'.filter p).map f = order := by
  obtain ⟨chosen, hchosen, rfl⟩ := exists_map_order h
  use chosen ++ rows.filter fun x => !p x
  constructor
  · exact (hchosen.append_right _).trans (List.filter_append_perm p rows)
  · have hall : ∀ x ∈ chosen, p x = true := fun x hx =>
      (List.mem_filter.1 (hchosen.mem_iff.1 hx)).2
    have hrest : (rows.filter fun x => !p x).filter p = [] := by
      rw [List.filter_filter]
      exact List.filter_eq_nil_iff.2 fun x _ => by cases p x <;> decide
    rw [List.filter_append, List.filter_eq_self.2 hall, hrest, List.append_nil]

end Pagination

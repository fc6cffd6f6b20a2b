import Mathlib.Data.List.Basic

set_option autoImplicit true

namespace Py

/-- The decimal text of a number determines it. -/
theorem natText_injective {m n : Nat} (h : m.repr = n.repr) : m = n := by
  have hdigits : Nat.toDigits 10 m = Nat.toDigits 10 n := by
    rw [← Nat.toList_repr, ← Nat.toList_repr, h]
  rw [← Nat.ofDigitChars_ten_toDigits (n := m), hdigits, Nat.ofDigitChars_ten_toDigits]

theorem isDigit_of_mem_natText {c : Char} {m : Nat} (h : c ∈ m.repr.toList) : c.isDigit = true := by
  rw [Nat.toList_repr] at h
  exact Nat.isDigit_of_mem_toDigits (by decide) (by decide) h

/-- No digit is a minus sign. -/
theorem natText_ne_neg (m : Nat) (s : String) : m.repr ≠ "-" ++ s := by
  intro h
  have hmem : '-' ∈ m.repr.toList := by
    rw [h, String.toList_append]
    exact List.mem_append_left _ (by decide)
  exact absurd (isDigit_of_mem_natText hmem) (by decide)

/-- The decimal text of an integer has digits and a sign only. -/
theorem not_mem_intText {c : Char} (hsign : c ≠ '-') (hdigit : c.isDigit = false) (n : Int) :
    c ∉ (toString n).toList := by
  intro h
  rw [Int.toString_eq_repr] at h
  match n with
  | .ofNat m =>
    rw [isDigit_of_mem_natText h] at hdigit
    cases hdigit
  | .negSucc m =>
    have hmem : c ∈ ("-" ++ m.succ.repr).toList := h
    rw [String.toList_append, List.mem_append] at hmem
    rcases hmem with hmem | hmem
    · exact hsign (List.mem_singleton.1 hmem)
    · rw [isDigit_of_mem_natText hmem] at hdigit
      cases hdigit

theorem intText_injective {a b : Int} (h : toString a = toString b) : a = b := by
  rw [Int.toString_eq_repr, Int.toString_eq_repr] at h
  match a, b with
  | .ofNat m, .ofNat n => exact congrArg Int.ofNat (natText_injective h)
  | .ofNat m, .negSucc n => exact absurd h (natText_ne_neg m _)
  | .negSucc m, .ofNat n => exact absurd h.symm (natText_ne_neg n _)
  | .negSucc m, .negSucc n =>
    have hsucc : m.succ = n.succ := natText_injective ((String.append_right_inj "-").1 h)
    exact congrArg Int.negSucc (Nat.succ.inj hsucc)

theorem intText_ne_empty (n : Int) : (toString n : String) ≠ "" := by
  rw [Int.toString_eq_repr]
  match n with
  | .ofNat m => exact Nat.repr_ne_empty
  | .negSucc m =>
    intro h
    have hlength := congrArg String.length h
    change ("-" ++ m.succ.repr).length = 0 at hlength
    rw [String.length_append] at hlength
    have hsign : "-".length = 1 := rfl
    omega

theorem toList_toLower (s : String) : s.toLower.toList = s.toList.map Char.toLower :=
  String.toList_map

/-- Lowering a character leaves no capital letter. -/
theorem toLower_not_isUpper (c : Char) : c.toLower.isUpper = false := by
  delta Char.isUpper Char.toLower
  split
  · grind [UInt32.toNat_add, Char.toNat_val]
  · grind

/-- A text with a capital letter is not the lowering of any text. -/
theorem toLower_ne (hc : c ∈ s.toList) (hupper : c.isUpper = true) (t : String) :
    t.toLower ≠ s := by
  intro h
  rw [← h, toList_toLower, List.mem_map] at hc
  obtain ⟨d, -, rfl⟩ := hc
  rw [toLower_not_isUpper] at hupper
  cases hupper

end Py

/-
Decimal numbers that are written and read again.
-/
import RelayFleet.Text.Decimal
import Mathlib.Tactic

namespace RelayFleet

theorem Ascii.natOfDigits_toDigits (n : Nat) : natOfDigits (Nat.toDigits 10 n) = n := by
  have hfold : natOfDigits (Nat.toDigits 10 n) = Nat.ofDigitChars 10 (Nat.toDigits 10 n) 0 := by
    rw [Nat.ofDigitChars_eq_foldl]
    unfold natOfDigits
    simp only [Nat.mul_comm]
  rw [hfold, Nat.ofDigitChars_ten_toDigits]

theorem Decimal.toList_toString (n : Nat) : (toString n).toList = Nat.toDigits 10 n := by
  rw [Nat.toString_eq_ofList_toDigits, String.toList_ofList]

/-- A number that fits is read as it was written. -/
theorem Decimal.word64?_toString (n : Nat) :
    word64? (toString n) = if n < UInt64.size then some n else none := by
  have hdigits : ∀ c ∈ Nat.toDigits 10 n, c.isDigit = true := fun c hc =>
    Nat.isDigit_of_mem_toDigits (by omega) (by omega) hc
  unfold word64?
  rw [toList_toString]
  dsimp only
  split
  · rename_i rest hplus
    have hplus := hdigits '+' (by rw [hplus]; exact List.mem_cons_self ..)
    exact absurd hplus (by decide)
  · rw [if_pos ⟨Nat.toDigits_ne_nil, List.all_eq_true.2 hdigits⟩, Ascii.natOfDigits_toDigits]

/-! ## Digits up to a width -/

namespace Ascii

theorem toList_padded (width n : Nat) : (padded width n).toList =
    List.replicate (width - (Nat.toDigits 10 n).length) '0' ++ Nat.toDigits 10 n := by
  unfold padded
  rw [String.toList_append, String.toList_ofList, ← String.length_toList, Decimal.toList_toString]

theorem isDigit_padded (width n : Nat) : ∀ c ∈ (padded width n).toList, c.isDigit = true := by
  intro c hc
  rw [toList_padded] at hc
  rcases List.mem_append.1 hc with hc | hc
  · rw [List.eq_of_mem_replicate hc]
    rfl
  · exact Nat.isDigit_of_mem_toDigits (by omega) (by omega) hc

/-- Digits in front of which nothing is a sign or a blank. -/
theorem exists_digit_padded (width n : Nat) :
    ∃ c cs, (padded width n).toList = c :: cs ∧ c.isDigit = true := by
  have hne : (padded width n).toList ≠ [] := by
    rw [toList_padded]
    exact List.append_ne_nil_of_right_ne_nil _ Nat.toDigits_ne_nil
  obtain ⟨c, cs, hcs⟩ := List.exists_cons_of_ne_nil hne
  exact ⟨c, cs, hcs, isDigit_padded width n c (hcs ▸ List.mem_cons_self ..)⟩

theorem length_padded {width n : Nat} (hwidth : 0 < width) (h : n < 10 ^ width) :
    (padded width n).toList.length = width := by
  have hdigits : (Nat.toDigits 10 n).length ≤ width :=
    (Nat.length_toDigits_le_iff (by omega) hwidth).2 h
  rw [toList_padded, List.length_append, List.length_replicate]
  omega

theorem natOfDigits_padded (width n : Nat) : natOfDigits (padded width n).toList = n := by
  have hzeros : natOfDigits (List.replicate (width - (Nat.toDigits 10 n).length) '0') = 0 := by
    induction width - (Nat.toDigits 10 n).length with
    | zero => rfl
    | succ k ih => rw [List.replicate_succ]; exact ih
  rw [toList_padded, natOfDigits, List.foldl_append, ← natOfDigits, hzeros, ← natOfDigits,
    natOfDigits_toDigits]

end Ascii

end RelayFleet

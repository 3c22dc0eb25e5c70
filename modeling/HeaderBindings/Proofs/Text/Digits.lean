/-! Numbers as they are written: digits, with a minus sign before those of a negative number. -/

namespace HeaderBindings

theorem isDigit_of_mem_toString {n : Nat} {c : Char} (h : c ∈ (toString n).toList) : c.isDigit := by
  rw [Nat.toString_eq_repr, Nat.toList_repr] at h
  exact Nat.isDigit_of_mem_toDigits (by decide) (by decide) h

theorem notMem_toString_nat {c : Char} (h : c.isDigit = false) (n : Nat) :
    c ∉ (toString n).toList := by
  intro hmem
  rw [isDigit_of_mem_toString hmem] at h
  cases h

theorem notMem_toString_int {c : Char} (h : c.isDigit = false) (hminus : c ≠ '-') (i : Int) :
    c ∉ (toString i).toList := by
  cases i with
  | ofNat n => exact notMem_toString_nat h n
  | negSucc n =>
    have hsplit : (toString (Int.negSucc n)).toList = '-' :: (toString (n + 1)).toList :=
      String.toList_append
    rw [hsplit, List.mem_cons, not_or]
    exact ⟨hminus, notMem_toString_nat h (n + 1)⟩

end HeaderBindings

/-!
# Numbers in a double

The double nearest to a natural number. Its 53 bits hold every number below `2 ^ 53`; of a larger
one they lose the low bits.
-/

namespace Esp32Robot.Base

/-- The double nearest to a number, and of two as near the one with the even significand. -/
def toDouble (n : Nat) : Nat :=
  let e := n.log2 - 52
  let q := n >>> e
  let r := n - q <<< e
  (if 2 * r < 1 <<< e ∨ 2 * r = 1 <<< e ∧ q % 2 = 0 then q else q + 1) <<< e

/-- A positive number stays positive. -/
theorem toDouble_pos {n : Nat} (h : 0 < n) : 0 < toDouble n := by
  have hq : 0 < n >>> (n.log2 - 52) := by
    rw [Nat.shiftRight_eq_div_pow]
    exact Nat.div_pos (Nat.le_trans (Nat.pow_le_pow_right (by omega) (Nat.sub_le n.log2 52))
      (Nat.log2_self_le (by omega))) (Nat.two_pow_pos _)
  rw [toDouble, Nat.shiftLeft_eq]
  exact Nat.mul_pos (by split <;> omega) (Nat.two_pow_pos _)

end Esp32Robot.Base

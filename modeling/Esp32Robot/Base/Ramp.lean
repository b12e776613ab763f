import Mathlib.Data.Int.ConditionallyCompleteOrder
import Mathlib.Logic.Function.Iterate
import Mathlib.Order.ConditionallyCompleteLattice.Basic
import Mathlib.Order.Interval.Set.Basic
import Mathlib.Order.Monotone.Basic

/-!
# Ramps

A value that moves to a target by a bounded step each period. The steps up and down
may differ. The iterates have a closed form on either side of the target.
-/

namespace Esp32Robot.Base

variable {up down target current : Int}

/-- One period of a ramp. -/
def approach (up down target current : Int) : Int :=
  if current < target then min (current + up) target
  else if target < current then max (current - down) target
  else current

/-- Below its target a ramp goes up. -/
theorem approach_of_le (hup : 0 ≤ up) (h : current ≤ target) :
    approach up down target current = min (current + up) target := by
  unfold approach
  split
  · rfl
  · rw [if_neg (by omega)]
    omega

/-- Above its target a ramp goes down. -/
theorem approach_of_ge (hdown : 0 ≤ down) (h : target ≤ current) :
    approach up down target current = max (current - down) target := by
  unfold approach
  rw [if_neg (by omega)]
  split
  · rfl
  · omega

/-- A ramp stays above what its value and its target are above. -/
theorem le_approach {low : Int} (hup : 0 ≤ up) (hcurrent : low ≤ current) (htarget : low ≤ target) :
    low ≤ approach up down target current := by
  unfold approach
  split
  · omega
  · split <;> omega

/-- All periods of a ramp from below its target. -/
theorem iterate_approach_of_le (hup : 0 ≤ up) (h : current ≤ target) (n : Nat) :
    (approach up down target)^[n] current = min (current + n * up) target := by
  induction n with
  | zero =>
    rw [Function.iterate_zero_apply]
    omega
  | succ n ih =>
    rw [Function.iterate_succ_apply', ih, approach_of_le hup (by omega)]
    push_cast
    rw [Int.add_mul]
    omega

/-- All periods of a ramp from above its target. -/
theorem iterate_approach_of_ge (hdown : 0 ≤ down) (h : target ≤ current) (n : Nat) :
    (approach up down target)^[n] current = max (current - n * down) target := by
  induction n with
  | zero =>
    rw [Function.iterate_zero_apply]
    omega
  | succ n ih =>
    rw [Function.iterate_succ_apply', ih, approach_of_ge hdown (by omega)]
    push_cast
    rw [Int.add_mul]
    omega

/-- In the given periods a sequence does not turn back on its way to the target, and does not
pass it. -/
def HeadsFor (target : Int) (periods : Set Nat) (f : Nat → Int) : Prop :=
  (MonotoneOn f periods ∧ ∀ n ∈ periods, f n ≤ target) ∨
    (AntitoneOn f periods ∧ ∀ n ∈ periods, target ≤ f n)

/-- What heads for the target from period zero on may be delayed by `k` periods. -/
theorem headsFor_delayed {f g : Nat → Int} {k : Nat} (h : HeadsFor target Set.univ g)
    (hfg : ∀ n, f (k + n) = g n) : HeadsFor target (Set.Ici k) f := by
  have hf (n : Nat) (hn : k ≤ n) : f n = g (n - k) := by
    rw [← hfg, Nat.add_sub_cancel' hn]
  rcases h with ⟨hmono, hle⟩ | ⟨hanti, hge⟩
  · refine .inl ⟨?_, fun n hn ↦ ?_⟩
    · intro m hm n hn hmn
      rw [hf m hm, hf n hn]
      exact hmono trivial trivial (Nat.sub_le_sub_right hmn k)
    · rw [hf n hn]
      exact hle _ trivial
  · refine .inr ⟨?_, fun n hn ↦ ?_⟩
    · intro m hm n hn hmn
      rw [hf m hm, hf n hn]
      exact hanti trivial trivial (Nat.sub_le_sub_right hmn k)
    · rw [hf n hn]
      exact hge _ trivial

/-- A ramp heads for its target. -/
theorem headsFor_iterate_approach (hup : 0 ≤ up) (hdown : 0 ≤ down) (target current : Int) :
    HeadsFor target Set.univ (fun n ↦ (approach up down target)^[n] current) := by
  have hscaled {step : Int} (hstep : 0 ≤ step) {m n : Nat} (hmn : m ≤ n) :
      (m : Int) * step ≤ n * step :=
    Int.mul_le_mul_of_nonneg_right (by omega) hstep
  rcases Int.le_total current target with h | h
  · simp only [iterate_approach_of_le hup h]
    refine .inl ⟨?_, fun _ _ ↦ Int.min_le_right _ _⟩
    intro m _ n _ hmn
    have := hscaled hup hmn
    simp only
    omega
  · simp only [iterate_approach_of_ge hdown h]
    refine .inr ⟨?_, fun _ _ ↦ Int.le_max_right _ _⟩
    intro m _ n _ hmn
    have := hscaled hdown hmn
    simp only
    omega

/-- A ramp whose distance to the target is at most `n` steps has arrived after `n` periods. -/
theorem iterate_approach_arrived {n : Nat} (hup : 0 ≤ up) (hdown : 0 ≤ down)
    (hbelow : target ≤ current + n * up) (habove : current - n * down ≤ target) :
    (approach up down target)^[n] current = target := by
  rcases Int.le_total current target with h | h
  · rw [iterate_approach_of_le hup h]
    omega
  · rw [iterate_approach_of_ge hdown h]
    omega

end Esp32Robot.Base

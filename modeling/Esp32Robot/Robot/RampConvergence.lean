import Esp32Robot.Base.Ramp
import Esp32Robot.Robot.MotorSafety

/-!
# Convergence of the motor ramp

What the periods of `motor_control_task` do between two messages: they brake to zero
before a direction change, and then move to the requested speed.
-/

namespace Esp32Robot.Robot

open Esp32Robot.Base

variable {s : RobotState} {motion : MotionCmd} {speed : Int}

/-- `current_motion_` after `n` periods. -/
def motionAt (s : RobotState) (n : Nat) : MotionCmd := (motorControlTask^[n] s).currentMotion

/-- `current_speed_` after `n` periods. -/
def speedAt (s : RobotState) (n : Nat) : Int := (motorControlTask^[n] s).currentSpeed

/-- The periods from `s` on: the motor brakes for `k` of them in its direction, changes it only at
speed zero, and then moves to the speed, which it has after 54 periods. -/
structure RampsTo (motion : MotionCmd) (speed : Int) (s : RobotState) (k : Nat) : Prop where
  brakes : HeadsFor 0 (Set.Iic k) (speedAt s)
  keeps : ∀ n ≤ k, motionAt s n = s.currentMotion
  halts : s.currentMotion ≠ motion → speedAt s k = 0
  turns : ∀ n, k < n → motionAt s n = motion
  moves : HeadsFor speed (Set.Ici k) (speedAt s)
  arrives : ∀ n, 54 ≤ n → motionAt s n = motion ∧ speedAt s n = speed

/-! ### One period -/

/-- The ramp of the source. -/
theorem rampSpeed_eq_approach (current target : Int) :
    rampSpeed current target = approach motorAccelStep motorDecelStep target current := by
  unfold rampSpeed approach
  split
  · simp only
    split <;> omega
  · split
    · simp only
      split <;> omega
    · rfl

/-- The output cuts the ramp off at zero, which it does not reach from above. -/
theorem motorControlTask_currentSpeed (s : RobotState) :
    (motorControlTask s).currentSpeed =
      max (rampSpeed (changeDirection s).currentSpeed (targetSpeed (changeDirection s))) 0 := by
  simp only [motorControlTask, outputSpeed]
  split
  · next h =>
    simp only at h ⊢
    omega
  · next h =>
    simp only at h ⊢
    omega

/-- The output keeps the direction. -/
theorem motorControlTask_currentMotion (s : RobotState) :
    (motorControlTask s).currentMotion = (changeDirection s).currentMotion := by
  simp only [motorControlTask, outputSpeed]
  split <;> rfl

/-- A motor that has its direction, or stands still, moves to the requested speed. -/
theorem motorControlTask_of_ready
    (hready : s.currentMotion = s.requestedMotion ∨ s.currentSpeed = 0)
    (hcurrent : 0 ≤ s.currentSpeed) (hrequested : 0 ≤ s.requestedSpeed) :
    (motorControlTask s).currentMotion = s.requestedMotion ∧
      (motorControlTask s).currentSpeed =
        approach motorAccelStep motorDecelStep s.requestedSpeed s.currentSpeed := by
  have hmotion : (changeDirection s).currentMotion = s.requestedMotion := by
    unfold changeDirection
    split
    · rfl
    · next h =>
      rcases hready with hready | hready
      · exact hready
      · exact Decidable.byContradiction fun hne ↦ h ⟨hne, hready⟩
  have hspeed : (changeDirection s).currentSpeed = s.currentSpeed := by
    unfold changeDirection
    split <;> rfl
  have htarget : targetSpeed (changeDirection s) = s.requestedSpeed := by
    unfold targetSpeed
    rw [hmotion]
    unfold changeDirection
    split <;> exact if_pos rfl
  have hnonneg : 0 ≤ approach motorAccelStep motorDecelStep s.requestedSpeed s.currentSpeed :=
    le_approach (by decide) hcurrent hrequested
  refine ⟨(motorControlTask_currentMotion s).trans hmotion, ?_⟩
  rw [motorControlTask_currentSpeed, hspeed, htarget, rampSpeed_eq_approach]
  omega

/-- A motor that moves in another direction brakes. -/
theorem motorControlTask_of_braking (hmotion : s.currentMotion ≠ s.requestedMotion)
    (hcurrent : 0 < s.currentSpeed) :
    (motorControlTask s).currentMotion = s.currentMotion ∧
      (motorControlTask s).currentSpeed = max (s.currentSpeed - motorDecelStep) 0 := by
  have hchange : changeDirection s = s := if_neg fun h ↦ by omega
  have htarget : targetSpeed s = 0 := if_neg hmotion
  have hramp : approach motorAccelStep motorDecelStep 0 s.currentSpeed =
      max (s.currentSpeed - motorDecelStep) 0 :=
    approach_of_ge (by decide) (Int.le_of_lt hcurrent)
  refine ⟨by rw [motorControlTask_currentMotion, hchange], ?_⟩
  rw [motorControlTask_currentSpeed, hchange, htarget, rampSpeed_eq_approach, hramp]
  omega

/-! ### All periods -/

/-- The periods leave the request as it is. -/
theorem iterate_request (s : RobotState) (n : Nat) :
    (motorControlTask^[n] s).requestedMotion = s.requestedMotion ∧
      (motorControlTask^[n] s).requestedSpeed = s.requestedSpeed := by
  induction n with
  | zero => exact ⟨rfl, rfl⟩
  | succ n ih =>
    obtain ⟨hm, hs, _⟩ := motorControlTask_request (motorControlTask^[n] s)
    rw [Function.iterate_succ_apply', hm, hs]
    exact ih

/-- The direction is the requested one from the next period on, and the speed follows the ramp. -/
theorem iterate_of_ready (hready : s.currentMotion = s.requestedMotion ∨ s.currentSpeed = 0)
    (hcurrent : 0 ≤ s.currentSpeed) (hrequested : 0 ≤ s.requestedSpeed) (n : Nat) :
    (0 < n → motionAt s n = s.requestedMotion) ∧
      speedAt s n =
        (approach motorAccelStep motorDecelStep s.requestedSpeed)^[n] s.currentSpeed := by
  induction n generalizing s with
  | zero => exact ⟨fun h ↦ absurd h (Nat.lt_irrefl 0), rfl⟩
  | succ n ih =>
    obtain ⟨hmotion, hspeed⟩ := motorControlTask_of_ready hready hcurrent hrequested
    obtain ⟨hm, hs, _⟩ := motorControlTask_request s
    have hnonneg : 0 ≤ (motorControlTask s).currentSpeed := by
      rw [hspeed]
      exact le_approach (by decide) hcurrent hrequested
    obtain ⟨hmotions, hspeeds⟩ := ih (s := motorControlTask s) (.inl (hmotion.trans hm.symm))
      hnonneg (hs ▸ hrequested)
    refine ⟨fun _ ↦ ?_, ?_⟩
    · rcases Nat.eq_zero_or_pos n with rfl | hn
      · exact hmotion
      · exact (hmotions hn).trans hm
    · exact hspeeds.trans (by rw [hs, hspeed, Function.iterate_succ_apply])

/-- The motor keeps its direction while it brakes. -/
theorem iterate_of_braking (hmotion : s.currentMotion ≠ s.requestedMotion)
    (hcurrent : 0 ≤ s.currentSpeed) (n : Nat)
    (hn : n * motorDecelStep < s.currentSpeed + motorDecelStep) :
    motionAt s n = s.currentMotion ∧
      speedAt s n = max (s.currentSpeed - n * motorDecelStep) 0 := by
  simp only [motorDecelStep] at hn ⊢
  induction n with
  | zero => exact ⟨rfl, by simp only [speedAt, Function.iterate_zero_apply]; omega⟩
  | succ n ih =>
    obtain ⟨hm, hs⟩ := ih (by omega)
    have hother : (motorControlTask^[n] s).currentMotion ≠
        (motorControlTask^[n] s).requestedMotion := by
      rw [(iterate_request s n).1]
      exact fun h ↦ hmotion (hm.symm.trans h)
    have hpositive : 0 < (motorControlTask^[n] s).currentSpeed := by
      simp only [speedAt] at hs
      omega
    obtain ⟨hm', hs'⟩ := motorControlTask_of_braking hother hpositive
    simp only [motionAt, speedAt, motorDecelStep, Function.iterate_succ_apply'] at hm hs hm' hs' ⊢
    refine ⟨hm'.trans hm, ?_⟩
    omega

/-- A motor that brakes for `k` periods, or has its direction and `k = 0`, ramps to its request. -/
theorem rampsTo_of_halts (hspeeds : SpeedsInRange s) {k : Nat} (hk : k ≤ 22)
    (hbrakes : ∀ n ≤ k, motionAt s n = s.currentMotion ∧
      speedAt s n = max (s.currentSpeed - n * motorDecelStep) 0)
    (hhalts : s.currentMotion = s.requestedMotion ∨ speedAt s k = 0) :
    RampsTo s.requestedMotion s.requestedSpeed s k := by
  have hready : (motorControlTask^[k] s).currentMotion = (motorControlTask^[k] s).requestedMotion ∨
      (motorControlTask^[k] s).currentSpeed = 0 := by
    rw [(iterate_request s k).1]
    exact hhalts.imp_left (hbrakes k (Nat.le_refl k)).1.trans
  obtain ⟨hcurrent, hhigh⟩ : 0 ≤ speedAt s k ∧ speedAt s k ≤ 255 := by
    have := hspeeds.current
    rw [(hbrakes k (Nat.le_refl k)).2]
    simp only [motorDecelStep]
    omega
  have hrequested := hspeeds.requested
  -- From period `k` on the motor is ready.
  have hlater (n : Nat) : (0 < n → motionAt s (k + n) = s.requestedMotion) ∧ speedAt s (k + n) =
      (approach motorAccelStep motorDecelStep s.requestedSpeed)^[n] (speedAt s k) := by
    have h := iterate_of_ready hready hcurrent
      (by rw [(iterate_request s k).2]; exact hrequested.1) n
    simp only [motionAt, speedAt, (iterate_request s k).1, (iterate_request s k).2,
      ← Function.iterate_add_apply, Nat.add_comm n k] at h
    exact h
  constructor
  case brakes =>
    refine .inr ⟨?_, ?_⟩
    · intro m hm n hn hmn
      rw [(hbrakes m hm).2, (hbrakes n hn).2]
      simp only [motorDecelStep]
      omega
    · intro n hn
      rw [(hbrakes n hn).2]
      exact Int.le_max_right _ _
  case keeps => exact fun n hn ↦ (hbrakes n hn).1
  case halts => exact fun hother ↦ hhalts.resolve_left hother
  case turns =>
    intro n hn
    rw [← Nat.add_sub_cancel' (Nat.le_of_lt hn)]
    exact (hlater (n - k)).1 (by omega)
  case moves =>
    exact headsFor_delayed (headsFor_iterate_approach (by decide) (by decide) _ (speedAt s k))
      (fun n ↦ (hlater n).2)
  case arrives =>
    intro n hn
    obtain ⟨j, rfl⟩ := Nat.exists_eq_add_of_le (show k ≤ n by omega)
    refine ⟨(hlater j).1 (by omega), (hlater j).2.trans ?_⟩
    apply iterate_approach_arrived (by decide) (by decide)
    · simp only [motorAccelStep]
      omega
    · simp only [motorDecelStep]
      omega

/-- Every motor with speeds in range ramps to its request. -/
theorem rampsTo_request (hspeeds : SpeedsInRange s) :
    ∃ k ≤ 22, (s.currentMotion = s.requestedMotion → k = 0) ∧
      RampsTo s.requestedMotion s.requestedSpeed s k := by
  obtain ⟨hcurrent, hhigh⟩ := hspeeds.current
  by_cases hmotion : s.currentMotion = s.requestedMotion
  · refine ⟨0, by omega, fun _ ↦ rfl, rampsTo_of_halts hspeeds (by omega) ?_ (.inl hmotion)⟩
    intro n hn
    obtain rfl := Nat.le_zero.mp hn
    exact ⟨rfl, by simp only [speedAt, Function.iterate_zero_apply]; omega⟩
  · have hbrakes := iterate_of_braking hmotion hcurrent
    simp only [motorDecelStep] at hbrakes
    -- The number of periods that it takes to brake.
    have hk : ∃ k : Nat, s.currentSpeed ≤ k * 12 ∧ k * 12 < s.currentSpeed + 12 :=
      ⟨((s.currentSpeed + 11) / 12).toNat, by omega, by omega⟩
    obtain ⟨k, hlow, hup⟩ := hk
    refine ⟨k, by omega, fun h ↦ absurd h hmotion,
      rampsTo_of_halts hspeeds (by omega) (fun n hn ↦ hbrakes n (by omega)) (.inr ?_)⟩
    rw [(hbrakes k (by omega)).2]
    omega

/-- A request that stays ramps the motor to its direction and speed within 54 periods: at most 22
to brake, and at most 32 from zero. A motor that has its direction does not brake first. -/
theorem setMotionTargetLocked_rampsTo (hcurrent : SpeedsInRange s)
    (hspeed : 0 ≤ speed ∧ speed ≤ 255) (hstop : motion = .stop → speed = 0) :
    ∃ k ≤ 22, (s.currentMotion = motion → k = 0) ∧
      RampsTo motion speed (setMotionTargetLocked motion speed s) k := by
  have hrequested : (setMotionTargetLocked motion speed s).requestedSpeed = speed := by
    simp only [setMotionTargetLocked]
    split
    · next h => exact (hstop h).symm
    · rw [if_neg (by omega), if_neg (by omega)]
  have h := rampsTo_request (s := setMotionTargetLocked motion speed s)
    ⟨by rw [hrequested]; exact hspeed, hcurrent.current, hcurrent.configured⟩
  rwa [hrequested] at h

/-- From full speed backward to full speed forward. -/
theorem setMotionTargetLocked_rampsTo_reversal :
    ∃ k ≤ 22, (MotionCmd.backward = .forward → k = 0) ∧
      RampsTo .forward 255 (setMotionTargetLocked .forward 255
        { initial with currentMotion := .backward, currentSpeed := 255 }) k :=
  setMotionTargetLocked_rampsTo
    (s := { initial with currentMotion := .backward, currentSpeed := 255 })
    ⟨by decide, by decide, by decide⟩ (by decide) (by decide)

end Esp32Robot.Robot

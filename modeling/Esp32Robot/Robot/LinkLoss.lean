import Esp32Robot.Base.Periodic
import Esp32Robot.Robot.DeadMan
import Esp32Robot.Robot.RampConvergence

/-!
# Halting after the loss of the link

When no message arrives any more, the watchdog call of `app_main` (`main.c:33–38`) requests a
stop, and the periods of `motor_control_task` brake to zero. Both loops sleep for a fixed
time, so each of them turns at least once in a period that is somewhat longer.
-/

namespace Esp32Robot.Robot

open Esp32Robot.Base Esp32Robot.Can

/-- The event is a watchdog call. -/
def isUpdateLed : RobotEvent → Bool
  | .updateLed _ => true
  | _ => false

/-- The event is a period of the motor task. -/
def isMotorControl : RobotEvent → Bool
  | .motorControl _ => true
  | _ => false

variable {s t : RobotState} {e : RobotEvent} {es : List RobotEvent}

/-- A stop is requested. -/
def StopRequested (s : RobotState) : Prop := s.requestedMotion = .stop ∧ s.requestedSpeed = 0

/-- A period under a stop request brakes. -/
theorem currentSpeed_of_stopRequested (hmotor : MotorInv s) (hstop : StopRequested s) :
    (motorControlTask s).currentSpeed = max (s.currentSpeed - motorDecelStep) 0 := by
  obtain ⟨hcurrent, _⟩ := hmotor.speeds.current
  by_cases hbraking : s.currentMotion ≠ s.requestedMotion ∧ 0 < s.currentSpeed
  · exact (motorControlTask_of_braking hbraking.1 hbraking.2).2
  · -- A motor that has the direction of a stop stands already.
    have hzero : s.currentSpeed = 0 := by
      by_cases hmotion : s.currentMotion = s.requestedMotion
      · exact hmotor.stops.current (hmotion.trans hstop.1)
      · have : ¬ 0 < s.currentSpeed := fun h ↦ hbraking ⟨hmotion, h⟩
        omega
    rw [(motorControlTask_of_ready (.inr hzero) hcurrent
      (Int.le_of_eq hstop.2.symm)).2, hstop.2, hzero]
    decide

/-- Without messages a stop request stays, the speed does not rise, and each period of the motor
takes a step off it. -/
theorem silent_step (hmotor : MotorInv s) (hstop : StopRequested s) (ht : step s e = some t)
    (hsilent : isMessage e = false) :
    StopRequested t ∧ t.currentSpeed =
      max (s.currentSpeed - motorDecelStep * [e].countP isMotorControl) 0 := by
  obtain ⟨hcurrent, _⟩ := hmotor.speeds.current
  have hkept : max (s.currentSpeed - motorDecelStep * ((0 : Nat) : Int)) 0 = s.currentSpeed := by
    omega
  cases e with
  | message now len value =>
    have hsame : t = s := by
      cases value with
      | none =>
        cases ht
        rfl
      | some data =>
        simp only [isMessage, decide_eq_false_iff_not, Int.not_lt] at hsilent
        simp only [step, handleControlMessage, if_pos hsilent, Option.some.injEq] at ht
        exact ht.symm
    subst hsame
    exact ⟨hstop, hkept.symm⟩
  | updateLed boottime =>
    cases ht
    by_cases hd : boottime - s.ledUpdatedTime > noMessageStopDelay
    · exact ⟨updateLed_of_exceeded hd, (motorInv_updateLed hmotor boottime).2.trans hkept.symm⟩
    · rw [updateLed_of_recent hd]
      exact ⟨hstop, hkept.symm⟩
  | motorControl now =>
    cases ht
    obtain ⟨hm, hs, _⟩ := motorControlTask_request s
    refine ⟨⟨hm.trans hstop.1, hs.trans hstop.2⟩, ?_⟩
    rw [currentSpeed_of_stopRequested hmotor hstop]
    show max (s.currentSpeed - motorDecelStep) 0 =
      max (s.currentSpeed - motorDecelStep * ((1 : Nat) : Int)) 0
    rw [Int.natCast_one, Int.mul_one]

/-- A silent run under a stop request takes a step off the speed for each period of the motor. -/
theorem silent_run (hmotor : MotorInv s) (hstop : StopRequested s) (h : run step s es = some t)
    (hsilent : ∀ e ∈ es, isMessage e = false) :
    MotorInv t ∧ StopRequested t ∧
      t.currentSpeed = max (s.currentSpeed - motorDecelStep * es.countP isMotorControl) 0 := by
  induction es generalizing s with
  | nil =>
    cases h
    have := hmotor.speeds.current
    refine ⟨hmotor, hstop, ?_⟩
    rw [List.countP_nil]
    omega
  | cons e es ih =>
    obtain ⟨u, hu, hes⟩ := run_cons_some.mp h
    obtain ⟨hustop, huspeed⟩ := silent_step hmotor hstop hu (hsilent e List.mem_cons_self)
    obtain ⟨hinv, htstop, htspeed⟩ := ih (motorInv_step hmotor hu) hustop hes
      (fun x hx ↦ hsilent x (List.mem_cons_of_mem e hx))
    refine ⟨hinv, htstop, ?_⟩
    have hcount : (e :: es).countP isMotorControl =
        [e].countP isMotorControl + es.countP isMotorControl := by
      rw [← List.countP_append]
      rfl
    rw [htspeed, huspeed, hcount]
    simp only [motorDecelStep]
    omega

/-- With no message after `t₀`, a watchdog call at least every `calls` and a motor period at least
every `periods` microseconds, the robot stands from `t₀ + 1 s + calls + 22 * periods` on: a
stop is requested, and every channel has duty zero. -/
theorem halts_after_silence (pre post : List RobotEvent) (s : RobotState)
    (t₀ now calls periods : Int) (h : run step initial (pre ++ post) = some s)
    (htimed : Timed RobotEvent.time post)
    (hlast : ∀ e ∈ pre, isMessage e → e.time ≤ t₀) (hsilent : ∀ e ∈ post, isMessage e = false)
    (hcalls : Periodic RobotEvent.time isUpdateLed calls t₀ now post)
    (hperiods : Periodic RobotEvent.time isMotorControl periods t₀ now post)
    (hpositive : 0 < periods) (hlate : t₀ + noMessageStopDelay + calls + 22 * periods ≤ now) :
    StopRequested s ∧ s.currentSpeed = 0 ∧ ∀ channel, lastDuty s.hw channel = some 0 := by
  -- The first watchdog call that is late enough.
  obtain ⟨before, e, after, rfl, hkind, hlow, hhigh⟩ :=
    (hcalls.later (a := t₀ + noMessageStopDelay) (by simp only [noMessageStopDelay]; omega)).split
      (by omega)
  obtain ⟨boottime, rfl⟩ : ∃ boottime, e = .updateLed boottime := by
    cases e with
    | updateLed boottime => exact ⟨boottime, rfl⟩
    | message now len value => exact absurd hkind (by simp [isUpdateLed])
    | motorControl now => exact absurd hkind (by simp [isUpdateLed])
  obtain ⟨u, hu, hlater⟩ := run_append_some.mp (by rwa [← List.append_assoc] at h)
  obtain ⟨v, hv, hafter⟩ := run_cons_some.mp hlater
  have hstop : StopRequested v := by
    obtain rfl := Option.some.inj hv
    refine stops_on_bus_silence (pre ++ before) u boottime hu ?_
    intro x hx hmessage
    rcases List.mem_append.mp hx with hx | hx
    · have hx := hlast x hx hmessage
      have : t₀ + noMessageStopDelay < boottime := hlow
      omega
    · exact absurd hmessage (by simp [hsilent x (List.mem_append_left _ hx)])
  have hmotor : MotorInv v := motorInv_step (motorInv_run hu) hv
  obtain ⟨hinv, hstopped, hspeed⟩ := silent_run hmotor hstop hafter
    (fun x hx ↦ hsilent x (List.mem_append_right _ (List.mem_cons_of_mem _ hx)))
  -- The periods after it.
  have hcount : 22 ≤ after.countP isMotorControl := by
    obtain ⟨_, hpost, hle⟩ := List.pairwise_append.mp htimed
    have hbefore : ∀ x ∈ before ++ [RobotEvent.updateLed boottime],
        x.time ≤ t₀ + noMessageStopDelay + calls := by
      intro x hx
      rcases List.mem_append.mp hx with hx | hx
      · exact Int.le_trans (hle x hx _ List.mem_cons_self) hhigh
      · rw [List.mem_singleton.mp hx]
        exact hhigh
    refine Periodic.le_countP ?_ hpositive (List.pairwise_cons.mp hpost).2 hlate
    refine Periodic.right ?_ hbefore
    rw [List.append_assoc]
    refine hperiods.later ?_
    have : t₀ + noMessageStopDelay < t₀ + noMessageStopDelay + calls :=
      Int.lt_of_lt_of_le hlow hhigh
    simp only [noMessageStopDelay] at this ⊢
    omega
  have hzero : s.currentSpeed = 0 := by
    have := hmotor.speeds.current
    rw [hspeed]
    simp only [motorDecelStep]
    omega
  exact ⟨hstopped, hzero, fun channel ↦ by rw [hinv.duties channel, hzero]⟩

/-- Forward at full speed, and a last heartbeat of the bus. -/
private def fullSpeedRun : List RobotEvent :=
  .message (-640000) 5 (some (addMessageToSend 8 255).data.toList) ::
    (List.range 32).map (fun k : Nat ↦ .motorControl (-620000 + 20000 * k)) ++
    [.message 0 2 (some txMsgBeats.data.toList)]

/-- The watchdog call every 100 ms and the motor period every 20 ms. -/
private def silentRun : List RobotEvent :=
  (List.range 78).flatMap (fun k : Nat ↦ .motorControl (20000 * k) ::
    if k % 5 = 0 then [.updateLed (20000 * k)] else [])

private theorem periodic_silentRun :
    Periodic RobotEvent.time isUpdateLed 100000 0 1540000 silentRun ∧
      Periodic RobotEvent.time isMotorControl 20000 0 1540000 silentRun := by
  refine ⟨fun a ha hroom ↦ ?_, fun a ha hroom ↦ ?_⟩
  · obtain ⟨k, hk⟩ : ∃ k : Nat, (k : Int) = a / 100000 + 1 := ⟨(a / 100000 + 1).toNat, by omega⟩
    refine ⟨.updateLed (20000 * ((5 * k : Nat) : Int)), ?_, rfl, ?_⟩
    · refine List.mem_flatMap.mpr ⟨5 * k, List.mem_range.mpr (by omega), ?_⟩
      rw [if_pos (by omega)]
      simp
    · simp only [RobotEvent.time]
      omega
  · obtain ⟨k, hk⟩ : ∃ k : Nat, (k : Int) = a / 20000 + 1 := ⟨(a / 20000 + 1).toNat, by omega⟩
    refine ⟨.motorControl (20000 * (k : Int)), ?_, rfl, ?_⟩
    · exact List.mem_flatMap.mpr ⟨k, List.mem_range.mpr (by omega), List.mem_cons_self⟩
    · simp only [RobotEvent.time]
      omega

/-- With the periods of the source, the robot stands 1.54 seconds after the last message. -/
theorem halts_after_silence_fullSpeed :
    ∃ s t, run step initial fullSpeedRun = some s ∧ s.currentSpeed = 255 ∧
      run step s silentRun = some t ∧ StopRequested t ∧ t.currentSpeed = 0 ∧
      ∀ channel, lastDuty t.hw channel = some 0 := by
  obtain ⟨t, ht⟩ := Option.isSome_iff_exists.mp
    (show (run step initial (fullSpeedRun ++ silentRun)).isSome = true by decide +kernel)
  obtain ⟨s, hs, hst⟩ := run_append_some.mp ht
  have hspeed : (run step initial fullSpeedRun).map (fun s ↦ s.currentSpeed) = some 255 := by
    decide +kernel
  rw [hs, Option.map_some, Option.some.injEq] at hspeed
  exact ⟨s, t, hs, hspeed, hst, halts_after_silence fullSpeedRun silentRun t 0 1540000 100000 20000
    ht (by unfold Timed; decide +kernel) (by decide) (by decide +kernel) periodic_silentRun.1
    periodic_silentRun.2 (by decide) (by decide)⟩

end Esp32Robot.Robot

import Esp32Robot.Robot.ControlCallback

/-!
# Motor safety

The invariant of the motor state machine: speeds stay in range, a stop means
speed zero, the four PWM duties follow the current speed, and the wheel
directions change only while all four duties are zero.
-/

namespace Esp32Robot.Robot

open Esp32Robot.Base Esp32Robot.Can

/-! ### Duties and direction writes in the driver log -/

private def dutyStep (ch : PwmChannel) (last : Option Int) : HwCall → Option Int
  | .ledcChannelConfig c duty => if c = ch then some duty else last
  | .ledcSetDuty c duty => if c = ch then some duty else last
  | _ => last

/-- The last duty written to a channel. -/
def lastDuty (log : List HwCall) (ch : PwmChannel) : Option Int := log.foldl (dutyStep ch) none

/-- A write to a wheel-direction pin happens only while every last duty is zero. -/
def DirectionAtZeroDuty (pre : List HwCall) (call : HwCall) : Prop :=
  ∀ pin level, call = .mcpSetLevel pin level → pin ∈ directionPins →
    ∀ ch, lastDuty pre ch = some 0

/-- The call writes no duty other than zero. -/
def HwCall.Quiet : HwCall → Prop
  | .ledcChannelConfig _ duty => duty = 0
  | .ledcSetDuty _ duty => duty = 0
  | _ => True

/-- The call leaves the expander pins alone. -/
def HwCall.NoLevel : HwCall → Prop
  | .mcpSetLevel _ _ => False
  | _ => True

private theorem lastDuty_concat (log : List HwCall) (call : HwCall) (ch : PwmChannel) :
    lastDuty (log ++ [call]) ch = dutyStep ch (lastDuty log ch) call := by
  simp [lastDuty]

/-- After quiet calls the last duties are still zero. -/
theorem lastDuty_append_quiet {log ext : List HwCall} (hz : ∀ ch, lastDuty log ch = some 0)
    (hq : ∀ c ∈ ext, c.Quiet) (ch : PwmChannel) : lastDuty (log ++ ext) ch = some 0 := by
  induction ext using concat_induction with
  | nil => simpa using hz ch
  | concat ext e ih =>
    have he : e.Quiet := hq e (by simp)
    rw [← List.append_assoc, lastDuty_concat, ih (fun c hc ↦ hq c (by simp [hc]))]
    cases e with
    | ledcChannelConfig c duty =>
      cases he
      simp [dutyStep]
    | ledcSetDuty c duty =>
      cases he
      simp [dutyStep]
    | mcpSetLevel pin level => rfl
    | ledcUpdateDuty c => rfl
    | gpioSetLevel level => rfl

/-- Setting all four speeds makes each the last duty. -/
theorem lastDuty_motorSetSpeed (log : List HwCall) (v : Int) (ch : PwmChannel) :
    lastDuty (log ++ motorSetSpeed v v v v) ch = some v := by
  simp only [lastDuty, motorSetSpeed, List.foldl_append, List.foldl_cons, List.foldl_nil]
  cases ch <;> rfl

/-- Quiet calls at zero duty keep the direction rule. -/
theorem directions_append_quiet {log ext : List HwCall}
    (hlog : Throughout DirectionAtZeroDuty log) (hz : ∀ ch, lastDuty log ch = some 0)
    (hq : ∀ c ∈ ext, c.Quiet) : Throughout DirectionAtZeroDuty (log ++ ext) := by
  refine throughout_append.mpr ⟨hlog, ?_⟩
  intro pre e post hext pin level he hpin ch
  apply lastDuty_append_quiet hz
  intro c hc
  exact hq c (by simp [hext, hc])

/-- Calls that write no pin keep the direction rule. -/
theorem directions_append_noLevel {log ext : List HwCall}
    (hlog : Throughout DirectionAtZeroDuty log) (hn : ∀ c ∈ ext, c.NoLevel) :
    Throughout DirectionAtZeroDuty (log ++ ext) := by
  refine throughout_append.mpr ⟨hlog, ?_⟩
  intro pre e post hext pin level he
  have hbad : e.NoLevel := hn e (by simp [hext])
  rw [he] at hbad
  exact hbad.elim

/-- A direction change writes no duty other than zero. -/
theorem quiet_applyMotionDirection (motion : MotionCmd) :
    ∀ c ∈ applyMotionDirection motion, c.Quiet := by
  cases motion <;> simp [applyMotionDirection, forward, backward, turnLeft, turnRight,
    rotateLeft, rotateRight, drive, setMotorStandby, setADirection, setBDirection,
    setCDirection, setDDirection, setDirection, mcpSetLevelChecked, motorSetSpeed,
    HwCall.Quiet]

/-- Setting the speeds leaves the expander pins alone. -/
theorem noLevel_motorSetSpeed (v : Int) : ∀ c ∈ motorSetSpeed v v v v, c.NoLevel := by
  simp [motorSetSpeed, HwCall.NoLevel]

/-! ### The invariant -/

/-- `requested_speed_`, `current_speed_` and `configured_speed_` are in 0..255. -/
structure SpeedsInRange (s : RobotState) : Prop where
  requested : 0 ≤ s.requestedSpeed ∧ s.requestedSpeed ≤ 255
  current : 0 ≤ s.currentSpeed ∧ s.currentSpeed ≤ 255
  configured : 0 ≤ s.configuredSpeed ∧ s.configuredSpeed ≤ 255

/-- A requested or current stop has speed zero. -/
structure StopIsZero (s : RobotState) : Prop where
  requested : s.requestedMotion = .stop → s.requestedSpeed = 0
  current : s.currentMotion = .stop → s.currentSpeed = 0

/-- What holds whenever `motor_lock` is free. -/
structure MotorInv (s : RobotState) : Prop where
  speeds : SpeedsInRange s
  stops : StopIsZero s
  duties : ∀ ch, lastDuty s.hw ch = some s.currentSpeed
  directions : Throughout DirectionAtZeroDuty s.hw

/-- Initialization establishes the invariant. -/
theorem motorInv_initial : MotorInv initial where
  speeds := by constructor <;> decide
  stops := by constructor <;> decide
  duties := by
    intro ch
    cases ch <;> rfl
  directions := by
    intro pre e post hlog pin level he hpin
    have hmem : HwCall.mcpSetLevel pin level ∈ initial.hw := by simp [hlog, he]
    have hp : pin = motorStbyMcpPin := by
      simp [initial, initMotorMcp23017, setUpLed, staticState, setMotorStandby,
        mcpSetLevelChecked, motorPwmInit, stopSoft, motorSetSpeed] at hmem
      exact hmem.1
    subst hp
    exact absurd hpin (by decide)

/-! ### Messages and the watchdog -/

private theorem lastDuty_led (log : List HwCall) (level : Nat) (ch : PwmChannel) :
    lastDuty (log ++ [.gpioSetLevel level]) ch = lastDuty log ch := lastDuty_concat ..

private theorem directions_led {log : List HwCall} (level : Nat)
    (h : Throughout DirectionAtZeroDuty log) :
    Throughout DirectionAtZeroDuty (log ++ [.gpioSetLevel level]) :=
  directions_append_noLevel h (by simp [HwCall.NoLevel])

/-- A new target is clamped, and a stop target has speed zero. -/
theorem motorInv_setMotionTargetLocked {s : RobotState} (h : MotorInv s) (motion : MotionCmd)
    (speed : Int) : MotorInv (setMotionTargetLocked motion speed s) where
  speeds := by
    refine ⟨?_, h.speeds.current, h.speeds.configured⟩
    simp only [setMotionTargetLocked]
    repeat' split
    all_goals omega
  stops := by
    refine ⟨?_, h.stops.current⟩
    intro hm
    exact if_pos hm
  duties := h.duties
  directions := h.directions

/-- The parsed speed is in range whenever the configured speed is. -/
theorem parseSpeedOrDefault_range {s : RobotState} (h : SpeedsInRange s) (len : Int)
    (value : List UInt8) :
    0 ≤ parseSpeedOrDefault len value s ∧ parseSpeedOrDefault len value s ≤ 255 := by
  simp only [parseSpeedOrDefault]
  split
  · split
    · omega
    · next hv =>
      rw [gt_iff_lt, UInt32.lt_iff_toNat_lt] at hv
      simp at hv
      omega
  · exact h.configured

/-- A speed update keeps the invariant when the speed is in range. -/
theorem motorInv_updateSpeed {s : RobotState} (h : MotorInv s) {speed : Int}
    (hr : 0 ≤ speed ∧ speed ≤ 255) : MotorInv (updateSpeed speed s) where
  speeds := by
    refine ⟨?_, h.speeds.current, hr⟩
    simp only [updateSpeed]
    split
    · exact hr
    · exact h.speeds.requested
  stops := by
    refine ⟨?_, h.stops.current⟩
    intro hm
    change s.requestedMotion = .stop at hm
    simp only [updateSpeed, hm, ne_eq, not_true_eq_false, if_false]
    exact h.stops.requested hm
  duties := h.duties
  directions := h.directions

/-- Noting a message only drives the LED. -/
theorem motorInv_noteMessage {s : RobotState} (h : MotorInv s) (now : Int) :
    MotorInv (noteMessage now s) where
  speeds := ⟨h.speeds.requested, h.speeds.current, h.speeds.configured⟩
  stops := ⟨h.stops.requested, h.stops.current⟩
  duties := by
    intro ch
    rw [noteMessage, lastDuty_led]
    exact h.duties ch
  directions := directions_led _ h.directions

/-- Handling a message keeps the invariant and the current speed. -/
theorem motorInv_handleControlMessage {s t : RobotState} {now len : Int}
    {value : Option (List UInt8)} (h : MotorInv s)
    (ht : handleControlMessage now len value s = some t) :
    MotorInv t ∧ t.currentSpeed = s.currentSpeed := by
  rcases handleControlMessage_cases ht with ⟨_, rfl⟩ |
    ⟨data, _, _, ⟨motion, speed, rfl⟩ | rfl | rfl⟩
  · exact ⟨h, rfl⟩
  · exact ⟨motorInv_noteMessage (motorInv_setMotionTargetLocked h motion speed) now, rfl⟩
  · exact ⟨motorInv_noteMessage
      (motorInv_updateSpeed h (parseSpeedOrDefault_range h.speeds len data)) now, rfl⟩
  · exact ⟨motorInv_noteMessage h now, rfl⟩

/-- The watchdog keeps the invariant and the current speed. -/
theorem motorInv_updateLed {s : RobotState} (h : MotorInv s) (boottime : Int) :
    MotorInv (updateLed boottime s) ∧ (updateLed boottime s).currentSpeed = s.currentSpeed := by
  unfold updateLed
  split
  · refine ⟨motorInv_setMotionTargetLocked ?_ .stop 0, rfl⟩
    exact
      { speeds := ⟨h.speeds.requested, h.speeds.current, h.speeds.configured⟩
        stops := ⟨h.stops.requested, h.stops.current⟩
        duties := fun ch ↦ (lastDuty_led ..).trans (h.duties ch)
        directions := directions_led _ h.directions }
  · exact ⟨h, rfl⟩

/-! ### The motor task -/

/-- The direction change keeps the invariant; the requests and the speed stay. -/
theorem motorInv_changeDirection {s : RobotState} (h : MotorInv s) :
    MotorInv (changeDirection s) ∧
      (changeDirection s).currentSpeed = s.currentSpeed := by
  unfold changeDirection
  split
  · next hc =>
    have hz : ∀ ch, lastDuty s.hw ch = some 0 := fun ch ↦ by rw [h.duties ch, hc.2]
    have hq : ∀ c ∈ (if s.requestedMotion ≠ .stop then applyMotionDirection s.requestedMotion
        else []), c.Quiet := by
      split
      · exact quiet_applyMotionDirection _
      · simp
    refine ⟨?_, rfl⟩
    exact
      { speeds := ⟨h.speeds.requested, h.speeds.current, h.speeds.configured⟩
        stops := ⟨h.stops.requested, fun _ ↦ hc.2⟩
        duties := fun ch ↦ by rw [lastDuty_append_quiet hz hq ch, hc.2]
        directions := directions_append_quiet h.directions hz hq }
  · exact ⟨h, rfl⟩

/-- One ramp step moves by at most the two constants and stays between its ends. -/
theorem rampSpeed_bounds (current target : Int) :
    rampSpeed current target ≤ current + motorAccelStep ∧
      current - motorDecelStep ≤ rampSpeed current target ∧
      min current target ≤ rampSpeed current target ∧
      rampSpeed current target ≤ max current target := by
  simp only [rampSpeed, motorAccelStep, motorDecelStep]
  repeat' split
  all_goals omega

/-- The ramp stays at zero when a stopped motion has its target. -/
private theorem rampSpeed_stop {s : RobotState} (h : StopIsZero s)
    (hm : s.currentMotion = .stop) : rampSpeed s.currentSpeed (targetSpeed s) = 0 := by
  have ht : targetSpeed s = 0 := by
    unfold targetSpeed
    split
    · next he => exact h.requested (he ▸ hm)
    · rfl
  rw [ht, h.current hm]
  rfl

/-- The target is zero or the requested speed, so it is in range. -/
theorem targetSpeed_range {s : RobotState} (h : SpeedsInRange s) :
    0 ≤ targetSpeed s ∧ targetSpeed s ≤ 255 := by
  unfold targetSpeed
  split
  · exact h.requested
  · omega

/-- A speed that is not negative is what the output writes to all four channels. -/
private theorem outputSpeed_spec {s : RobotState} (h0 : 0 ≤ s.currentSpeed) :
    let v := s.currentSpeed
    outputSpeed s = { s with hw := s.hw ++ motorSetSpeed v v v v } := by
  unfold outputSpeed
  split
  · next hle =>
    have hz : s.currentSpeed = 0 := by omega
    simp only [hz, stopSoft]
  · rfl

/-- One period keeps the invariant and moves the speed by at most the ramp steps. -/
theorem motorInv_motorControlTask {s : RobotState} (h : MotorInv s) :
    MotorInv (motorControlTask s) ∧
      (motorControlTask s).currentSpeed ≤ s.currentSpeed + motorAccelStep ∧
      s.currentSpeed - motorDecelStep ≤ (motorControlTask s).currentSpeed := by
  obtain ⟨hd, hs⟩ := motorInv_changeDirection h
  have hb := rampSpeed_bounds (changeDirection s).currentSpeed (targetSpeed (changeDirection s))
  have hr := targetSpeed_range hd.speeds
  have hc := hd.speeds.current
  simp only [motorControlTask]
  rw [outputSpeed_spec (by simp only; omega)]
  refine ⟨?_, ?_, ?_⟩
  · exact
      { speeds := ⟨hd.speeds.requested, by simp only; omega, hd.speeds.configured⟩
        stops := ⟨hd.stops.requested, fun hm ↦ rampSpeed_stop hd.stops hm⟩
        duties := fun ch ↦ lastDuty_motorSetSpeed _ _ ch
        directions := directions_append_noLevel hd.directions (noLevel_motorSetSpeed _) }
  · rw [← hs]
    exact hb.1
  · rw [← hs]
    exact hb.2.1

/-! ### Runs -/

/-- Every enabled step keeps the invariant. -/
theorem motorInv_step {s t : RobotState} {e : RobotEvent} (h : MotorInv s)
    (ht : step s e = some t) : MotorInv t := by
  cases e with
  | message now len value => exact (motorInv_handleControlMessage h ht).1
  | updateLed boottime =>
    cases ht
    exact (motorInv_updateLed h boottime).1
  | motorControl now =>
    cases ht
    exact (motorInv_motorControlTask h).1

/-- The invariant holds after every run of the node. -/
theorem motorInv_run {es : List RobotEvent} {s : RobotState}
    (h : run step initial es = some s) : MotorInv s :=
  run_invariant motorInv_initial (fun _ _ _ hs ht ↦ motorInv_step hs ht) h

/-- What a step may do to the speed: a period of the motor task ramps it and leaves it on
all four channels, any other event keeps it. -/
def SpeedStep (s : RobotState) (e : RobotEvent) (t : RobotState) : Prop :=
  match e with
  | .motorControl _ =>
    (∀ ch, lastDuty t.hw ch = some t.currentSpeed) ∧
      t.currentSpeed ≤ s.currentSpeed + motorAccelStep ∧
      s.currentSpeed - motorDecelStep ≤ t.currentSpeed
  | _ => t.currentSpeed = s.currentSpeed

/-- After every run of the node the speeds are in range, a stop has speed zero and the wheel
directions have only ever been written at zero duty; and every further step, in particular
every further period, respects the ramp. -/
theorem motor_run_safe (es : List RobotEvent) (s : RobotState)
    (h : run step initial es = some s) :
    SpeedsInRange s ∧ StopIsZero s ∧ Throughout DirectionAtZeroDuty s.hw ∧
      ∀ e t, step s e = some t → SpeedStep s e t := by
  have hi := motorInv_run h
  refine ⟨hi.speeds, hi.stops, hi.directions, ?_⟩
  intro e t ht
  cases e with
  | message now len value => exact (motorInv_handleControlMessage hi ht).2
  | updateLed boottime =>
    cases ht
    exact (motorInv_updateLed hi boottime).2
  | motorControl now =>
    cases ht
    obtain ⟨hm, hup, hdown⟩ := motorInv_motorControlTask hi
    exact ⟨hm.duties, hup, hdown⟩

private def reversalRun : List RobotEvent :=
  [.message 0 5 (some [8, 200, 0, 0, 0]), .motorControl 20000,
    .message 30000 1 (some [2]), .motorControl 40000, .updateLed 50000]

/-- A reversal requested during acceleration is such a run. -/
theorem motor_run_safe_reversal :
    ∃ s, run step initial reversalRun = some s ∧
      SpeedsInRange s ∧ StopIsZero s ∧ Throughout DirectionAtZeroDuty s.hw ∧
      ∀ e t, step s e = some t → SpeedStep s e t :=
  ⟨_, rfl, motor_run_safe reversalRun _ rfl⟩

end Esp32Robot.Robot

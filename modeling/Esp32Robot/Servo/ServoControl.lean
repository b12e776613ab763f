import Esp32Robot.Base.Run
import Esp32Robot.Can.Canbus

/-!
# Servo node

`IDF_esp32c3_servo_control/main/servo_control.c`: the two servo angles, the
handler of CAN messages and the idle power-save task. The PWM peripheral is kept
as what was last written to each channel. Each handler is one step, as it runs
under `s_servo_lock`.
-/

namespace Esp32Robot.Servo

open Esp32Robot.Base Esp32Robot.Can

/-- A PWM channel: the duty last set, and whether its output is driven. Updating the duty
drives the output, stopping the channel ends it. -/
structure LedcChannel where
  duty : UInt32
  driven : Bool
  deriving DecidableEq, Repr

/-- `ledc_set_duty`. -/
def ledcSetDuty (duty : UInt32) (ch : LedcChannel) : LedcChannel := { ch with duty := duty }

/-- `ledc_update_duty`. -/
def ledcUpdateDuty (ch : LedcChannel) : LedcChannel := { ch with driven := true }

/-- `ledc_stop` with idle level zero. -/
def ledcStop (ch : LedcChannel) : LedcChannel := { ch with driven := false }

/-- `s_servo` and `s_last_activity_us`, with the two channels; `servo_control.c:32–47`. -/
structure ServoState where
  lrAngle : Int
  udAngle : Int
  initialized : Bool
  outputEnabled : Bool
  lastActivityUs : Int
  channel0 : LedcChannel
  channel1 : LedcChannel
  deriving DecidableEq, Repr

/-! ### Constants, `servo_control.c:15–30` and `app_config.h:13–23` -/

def cmdServoDown : UInt8 := 12
def cmdServoLeft : UInt8 := 14
def cmdServoStop : UInt8 := 15
def cmdServoRight : UInt8 := 16
def cmdServoUp : UInt8 := 18
def servoMinAngle : Int := 0
def servoMaxAngle : Int := 180
def servoInitAngle : Int := 90
def servoMinPulseUs : UInt32 := 500
def servoMaxPulseUs : UInt32 := 2500
def servoPwmFreqHz : UInt32 := 50
def servoPwmRes : UInt32 := 14
def servoLrInvert : Bool := true
def servoUdInvert : Bool := true
def servoIdlePowerSaveTimeoutMs : Int := 3000

/-- `signed_step`, `servo_control.c:49–51`. -/
def signedStep (step : Int) (invert : Bool) : Int := if invert then -step else step

/-- The clamp to the servo range, `servo_control.c:54–58` and `234–243`. -/
def clampAngle (angle : Int) : Int :=
  if angle < servoMinAngle then servoMinAngle
  else if angle > servoMaxAngle then servoMaxAngle
  else angle

/-- `angle_to_duty`, `servo_control.c:53–66`, with the addition and the multiplication that it
computes with. -/
def angleToDutyWith {m : Type → Type} [Monad m] (add mul : UInt32 → UInt32 → m UInt32)
    (angle : Int) : m UInt32 := do
  let angle := clampAngle angle
  let maxDuty : UInt32 := ((1 : UInt32) <<< servoPwmRes) - 1
  let scaled ← mul (UInt32.ofNat (angle - servoMinAngle).toNat)
    (servoMaxPulseUs - servoMinPulseUs)
  let pulseUs ← add servoMinPulseUs
    (scaled / UInt32.ofNat (servoMaxAngle - servoMinAngle).toNat)
  let range ← add maxDuty 1
  let duty ← mul (← mul pulseUs servoPwmFreqHz) range
  let duty := duty / 1000000
  pure (if duty > maxDuty then maxDuty else duty)

/-- `angle_to_duty`, in the 32-bit arithmetic of the target, which wraps around. -/
def angleToDuty (angle : Int) : UInt32 :=
  Id.run (angleToDutyWith (fun a b ↦ pure (a + b)) (fun a b ↦ pure (a * b)) angle)

/-- `set_servo_angle`, `servo_control.c:68–71`. -/
def setServoAngle (angle : Int) (ch : LedcChannel) : LedcChannel :=
  ledcUpdateDuty (ledcSetDuty (angleToDuty angle) ch)

/-- Both channels set to the two angles, as the move and stop commands do. -/
def setBothAngles (s : ServoState) : ServoState :=
  { s with
    channel0 := setServoAngle s.lrAngle s.channel0
    channel1 := setServoAngle s.udAngle s.channel1 }

@[simp] theorem setServoAngle_duty (angle : Int) (ch : LedcChannel) :
    (setServoAngle angle ch).duty = angleToDuty angle := rfl

@[simp] theorem setServoAngle_driven (angle : Int) (ch : LedcChannel) :
    (setServoAngle angle ch).driven = true := rfl

/-- New channels keep everything else. -/
private theorem kept_of_channels (s : ServoState) (c₀ c₁ : LedcChannel) :
    let t : ServoState := { s with channel0 := c₀, channel1 := c₁ }
    t.lrAngle = s.lrAngle ∧ t.udAngle = s.udAngle ∧ t.initialized = s.initialized ∧
      t.outputEnabled = s.outputEnabled :=
  ⟨rfl, rfl, rfl, rfl⟩

-- These go through any two channels, as comparing the duties themselves is slow.
@[simp] theorem setBothAngles_lrAngle (s : ServoState) : (setBothAngles s).lrAngle = s.lrAngle :=
  (kept_of_channels s _ _).1

@[simp] theorem setBothAngles_udAngle (s : ServoState) : (setBothAngles s).udAngle = s.udAngle :=
  (kept_of_channels s _ _).2.1

@[simp] theorem setBothAngles_initialized (s : ServoState) :
    (setBothAngles s).initialized = s.initialized :=
  (kept_of_channels s _ _).2.2.1

@[simp] theorem setBothAngles_outputEnabled (s : ServoState) :
    (setBothAngles s).outputEnabled = s.outputEnabled :=
  (kept_of_channels s _ _).2.2.2

@[simp] theorem setBothAngles_channel0 (s : ServoState) :
    (setBothAngles s).channel0 = setServoAngle s.lrAngle s.channel0 := rfl

@[simp] theorem setBothAngles_channel1 (s : ServoState) :
    (setBothAngles s).channel1 = setServoAngle s.udAngle s.channel1 := rfl

/-- `set_servo_output_enabled`, `servo_control.c:73–88`. -/
def setServoOutputEnabled (enabled : Bool) (s : ServoState) : ServoState :=
  if enabled = s.outputEnabled then s
  else if enabled then { setBothAngles s with outputEnabled := true }
  else
    { s with
      channel0 := ledcStop s.channel0
      channel1 := ledcStop s.channel1
      outputEnabled := false }

/-- A new flag keeps everything else. -/
theorem kept_of_flag (s : ServoState) (enabled : Bool) :
    let t : ServoState := { s with outputEnabled := enabled }
    t.lrAngle = s.lrAngle ∧ t.udAngle = s.udAngle ∧ t.initialized = s.initialized ∧
      t.channel0 = s.channel0 ∧ t.channel1 = s.channel1 :=
  ⟨rfl, rfl, rfl, rfl, rfl⟩

/-- `note_servo_activity_locked`, `servo_control.c:90–92`. -/
def noteServoActivityLocked (now : Int) (s : ServoState) : ServoState :=
  { s with lastActivityUs := now }

/-- One iteration of `servo_idle_power_save_task`, `servo_control.c:95–110`. -/
def servoIdlePowerSaveTask (now : Int) (s : ServoState) : ServoState :=
  if s.initialized && s.outputEnabled then
    let idleUs := now - s.lastActivityUs
    if idleUs ≥ servoIdlePowerSaveTimeoutMs * 1000 then setServoOutputEnabled false s else s
  else s

/-- `decode_step`, `servo_control.c:112–125`. -/
def decodeStep (data : List UInt8) (dlc : Int) : Int :=
  if dlc < 5 then 3
  else
    let value := messageValue data
    if value = 0 then 3 else if value > 20 then 20 else value.toNat

/-- The end of a move command, `servo_control.c:232–248`. -/
def finishMove (now : Int) (s : ServoState) : ServoState :=
  let s := noteServoActivityLocked now s
  setBothAngles { s with lrAngle := clampAngle s.lrAngle, udAngle := clampAngle s.udAngle }

/-- `servo_control_canbus_message_handler` at time `now`, `servo_control.c:183–249`. -/
def servoControlCanbusMessageHandler (now dlc : Int) (data : Option (List UInt8))
    (s : ServoState) : ServoState :=
  match data with
  | none => s
  | some data =>
    if !s.initialized || dlc ≤ 0 then s
    else
      let cmd := data.getD 0 0
      let step := decodeStep data dlc
      if cmd = cmdServoUp then
        let s := setServoOutputEnabled true s
        finishMove now { s with udAngle := s.udAngle + signedStep step servoUdInvert }
      else if cmd = cmdServoDown then
        let s := setServoOutputEnabled true s
        finishMove now { s with udAngle := s.udAngle - signedStep step servoUdInvert }
      else if cmd = cmdServoLeft then
        let s := setServoOutputEnabled true s
        finishMove now { s with lrAngle := s.lrAngle - signedStep step servoLrInvert }
      else if cmd = cmdServoRight then
        let s := setServoOutputEnabled true s
        finishMove now { s with lrAngle := s.lrAngle + signedStep step servoLrInvert }
      -- The stop command returns early and never looks at the enabled flag.
      else if cmd = cmdServoStop then setBothAngles s
      else s

/-- The static initial values and unconfigured channels, `servo_control.c:39–47`. -/
def staticState : ServoState where
  lrAngle := servoInitAngle
  udAngle := servoInitAngle
  initialized := false
  outputEnabled := false
  lastActivityUs := 0
  channel0 := ⟨0, false⟩
  channel1 := ⟨0, false⟩

/-- `servo_control_init` at time `now`, `servo_control.c:127–181`. -/
def servoControlInit (now : Int) : ServoState :=
  let s := setServoOutputEnabled true staticState
  { noteServoActivityLocked now s with initialized := true }

/-- What can happen on the node: a CAN message or a turn of the idle task. -/
inductive ServoEvent where
  | canMessage (now dlc : Int) (data : Option (List UInt8))
  | idleTask (now : Int)
  deriving DecidableEq, Repr

/-- One step of the node; every event is enabled. -/
def step (s : ServoState) : ServoEvent → Option ServoState
  | .canMessage now dlc data => some (servoControlCanbusMessageHandler now dlc data s)
  | .idleTask now => some (servoIdlePowerSaveTask now s)

/-- Everything a message can do: nothing, a stop, or a move, which first enables the output
and then sets new angles. -/
theorem handler_cases (now dlc : Int) (data : Option (List UInt8)) (s : ServoState) :
    servoControlCanbusMessageHandler now dlc data s = s ∨
      ((∃ bytes, data = some bytes ∧ 0 < dlc ∧ bytes.getD 0 0 = cmdServoStop) ∧
        servoControlCanbusMessageHandler now dlc data s = setBothAngles s) ∨
      ∃ lr ud, servoControlCanbusMessageHandler now dlc data s =
        finishMove now { setServoOutputEnabled true s with lrAngle := lr, udAngle := ud } := by
  cases data with
  | none => exact .inl rfl
  | some bytes =>
    simp only [servoControlCanbusMessageHandler]
    split
    · exact .inl rfl
    · next hrun =>
      have hdlc : 0 < dlc := by
        simp only [Bool.or_eq_true, decide_eq_true_eq, not_or] at hrun
        omega
      repeat' split
      all_goals first
        | exact .inl rfl
        | exact .inr (.inr ⟨_, _, rfl⟩)
        | exact .inr (.inl ⟨⟨bytes, rfl, hdlc, ‹_›⟩, rfl⟩)

/-- A stop command sets both angles and does nothing else. -/
theorem handler_stop {now dlc : Int} {bytes : List UInt8} {s : ServoState}
    (hi : s.initialized = true) (hdlc : 0 < dlc) (hcmd : bytes.getD 0 0 = cmdServoStop) :
    servoControlCanbusMessageHandler now dlc (some bytes) s = setBothAngles s := by
  have hrun : (!s.initialized || decide (dlc ≤ 0)) = false := by
    simp [hi, show ¬ dlc ≤ 0 by omega]
  simp only [servoControlCanbusMessageHandler, hrun, hcmd]
  rfl

/-- The idle task disables the output or does nothing. -/
theorem idleTask_cases (now : Int) (s : ServoState) :
    servoIdlePowerSaveTask now s = s ∨
      servoIdlePowerSaveTask now s = setServoOutputEnabled false s := by
  simp only [servoIdlePowerSaveTask]
  repeat' split
  · exact .inr rfl
  · exact .inl rfl
  · exact .inl rfl

end Esp32Robot.Servo

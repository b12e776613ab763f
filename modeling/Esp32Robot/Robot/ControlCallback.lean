import Esp32Robot.Base.Run
import Esp32Robot.Can.Canbus

/-!
# Robot node

`IDF_robot_control/main/control/control_callback.c`: the motor command state, the
handler of CAN and BLE messages, the periodic motor task and the message
watchdog. Calls into the expander, PWM and GPIO drivers are recorded in order.
Each handler is one step, as it runs under `motor_lock`.
-/

namespace Esp32Robot.Robot

open Esp32Robot.Base Esp32Robot.Can

/-- `motion_cmd_t`, `control_callback.c:23–31`. -/
inductive MotionCmd where
  | stop
  | forward
  | backward
  | left
  | right
  | rotateLeft
  | rotateRight
  deriving DecidableEq, Repr

/-- The four motor PWM channels, `control_callback.h:11–29`. -/
inductive PwmChannel where
  | motorA
  | motorB
  | motorC
  | motorD
  deriving DecidableEq, Repr

/-- A call into a peripheral driver. -/
inductive HwCall where
  | mcpSetLevel (pin level : Nat)
  | ledcChannelConfig (channel : PwmChannel) (duty : Int)
  | ledcSetDuty (channel : PwmChannel) (duty : Int)
  | ledcUpdateDuty (channel : PwmChannel)
  | gpioSetLevel (level : Nat)
  deriving DecidableEq, Repr

/-! ### Expander pins, `control_callback.h:6–29` -/

def motorStbyMcpPin : Nat := 0
def motorABin1McpPin : Nat := 1
def motorABin2McpPin : Nat := 2
def motorBBin1McpPin : Nat := 3
def motorBBin2McpPin : Nat := 4
def motorCBin1McpPin : Nat := 5
def motorCBin2McpPin : Nat := 6
def motorDBin1McpPin : Nat := 7
def motorDBin2McpPin : Nat := 8

/-- The eight pins that select the wheel directions. -/
def directionPins : List Nat :=
  [motorABin1McpPin, motorABin2McpPin, motorBBin1McpPin, motorBBin2McpPin,
    motorCBin1McpPin, motorCBin2McpPin, motorDBin1McpPin, motorDBin2McpPin]

/-- `DEFAULT_MOTOR_SPEED`, `control_callback.c:14`. -/
def defaultMotorSpeed : Int := 125

/-- `MOTOR_ACCEL_STEP`, `control_callback.c:16`. -/
def motorAccelStep : Int := 8

/-- `MOTOR_DECEL_STEP`, `control_callback.c:17`. -/
def motorDecelStep : Int := 12

/-- `NO_MESSAGE_STOP_DELAY` in microseconds, `control_callback.h:35`. -/
def noMessageStopDelay : Int := 1000000

/-- `LED_LIGHT_ON` of the regular ESP32, `config.h:33–35`. -/
def ledLightOn : Nat := 1

/-- `LED_LIGHT_OFF` of the regular ESP32, `config.h:33–35`. -/
def ledLightOff : Nat := 0

/-- The static variables of `control_callback.c`, with the driver calls made so far. -/
structure RobotState where
  requestedMotion : MotionCmd
  currentMotion : MotionCmd
  requestedSpeed : Int
  currentSpeed : Int
  configuredSpeed : Int
  ledUpdatedTime : Int
  hw : List HwCall
  deriving DecidableEq, Repr

/-! ### Driver sequences -/

/-- `mcp_set_level_checked`; a failed call is only logged, `control_callback.c:52–57`. -/
def mcpSetLevelChecked (pin level : Nat) : List HwCall := [.mcpSetLevel pin level]

/-- `set_motor_standby`, `control_callback.c:59–61`. -/
def setMotorStandby (enable : Bool) : List HwCall :=
  mcpSetLevelChecked motorStbyMcpPin (if enable then 1 else 0)

/-- `motor_pwm_init`: every channel starts with duty zero, `control_callback.c:63–94`. -/
def motorPwmInit : List HwCall :=
  [.ledcChannelConfig .motorA 0, .ledcChannelConfig .motorB 0, .ledcChannelConfig .motorC 0,
    .ledcChannelConfig .motorD 0]

/-- `motor_set_speed`, `control_callback.c:96–105`. -/
def motorSetSpeed (speedA speedB speedC speedD : Int) : List HwCall :=
  [.ledcSetDuty .motorA speedA, .ledcUpdateDuty .motorA,
    .ledcSetDuty .motorB speedB, .ledcUpdateDuty .motorB,
    .ledcSetDuty .motorC speedC, .ledcUpdateDuty .motorC,
    .ledcSetDuty .motorD speedD, .ledcUpdateDuty .motorD]

/-- The body that the four `set_*_direction` functions share. -/
def setDirection (bin1 bin2 : Nat) (front : Bool) : List HwCall :=
  mcpSetLevelChecked bin1 (if front then 0 else 1) ++
    mcpSetLevelChecked bin2 (if front then 1 else 0)

/-- `set_a_direction`, `control_callback.c:107–110`. -/
def setADirection (front : Bool) : List HwCall :=
  setDirection motorABin1McpPin motorABin2McpPin front

/-- `set_b_direction`, `control_callback.c:112–115`. -/
def setBDirection (front : Bool) : List HwCall :=
  setDirection motorBBin1McpPin motorBBin2McpPin front

/-- `set_c_direction`, `control_callback.c:117–120`. -/
def setCDirection (front : Bool) : List HwCall :=
  setDirection motorCBin1McpPin motorCBin2McpPin front

/-- `set_d_direction`, `control_callback.c:122–125`. -/
def setDDirection (front : Bool) : List HwCall :=
  setDirection motorDBin1McpPin motorDBin2McpPin front

/-- The body that the six motion functions share: standby off, the four wheel
directions, then the speed. -/
def drive (a b c d : Bool) (speed : Int) : List HwCall :=
  setMotorStandby true ++ setADirection a ++ setBDirection b ++ setCDirection c ++
    setDDirection d ++ motorSetSpeed speed speed speed speed

/-- `forward`, `control_callback.c:127–134`. -/
def forward (speed : Int) : List HwCall := drive true true true true speed

/-- `backward`, `control_callback.c:136–143`. -/
def backward (speed : Int) : List HwCall := drive false false false false speed

/-- `turn_left`, `control_callback.c:145–152`. -/
def turnLeft (speed : Int) : List HwCall := drive true false true false speed

/-- `turn_right`, `control_callback.c:154–161`. -/
def turnRight (speed : Int) : List HwCall := drive false true false true speed

/-- `rotate_left`, `control_callback.c:163–171`. -/
def rotateLeft (speed : Int) : List HwCall := drive true false false true speed

/-- `rotate_right`, `control_callback.c:173–181`. -/
def rotateRight (speed : Int) : List HwCall := drive false true true false speed

/-- `stop_soft`, `control_callback.c:183`. -/
def stopSoft : List HwCall := motorSetSpeed 0 0 0 0

/-- `apply_motion_direction`, `control_callback.c:185–209`. -/
def applyMotionDirection : MotionCmd → List HwCall
  | .forward => forward 0
  | .backward => backward 0
  | .left => turnLeft 0
  | .right => turnRight 0
  | .rotateLeft => rotateLeft 0
  | .rotateRight => rotateRight 0
  | .stop => []

/-! ### Requests -/

/-- `set_motion_target_locked`, `control_callback.c:211–219`. -/
def setMotionTargetLocked (motion : MotionCmd) (speed : Int) (s : RobotState) : RobotState :=
  let speed := if speed < 0 then 0 else if speed > 255 then 255 else speed
  { s with
    requestedMotion := motion
    requestedSpeed := if motion = .stop then 0 else speed }

/-- `parse_speed_or_default`, `control_callback.c:264–274`. -/
def parseSpeedOrDefault (len : Int) (value : List UInt8) (s : RobotState) : Int :=
  if len ≥ 5 then
    let v := messageValue value
    if v > 255 then 255 else v.toNat
  else s.configuredSpeed

/-- Case 10 of `HandleControlMessage`, `control_callback.c:319–326`. -/
def updateSpeed (speed : Int) (s : RobotState) : RobotState :=
  { s with
    configuredSpeed := speed
    requestedSpeed := if s.requestedMotion ≠ .stop then speed else s.requestedSpeed }

/-- The end of `HandleControlMessage`, `control_callback.c:333–334`. -/
def noteMessage (now : Int) (s : RobotState) : RobotState :=
  { s with ledUpdatedTime := now, hw := s.hw ++ [.gpioSetLevel ledLightOn] }

/-- `HandleControlMessage` at time `now`, `control_callback.c:276–335`. `none` is the
reboot of type 66, after which the node starts over. Every other message of positive
length reaches the end of the function, whatever its type. -/
def handleControlMessage (now len : Int) (value : Option (List UInt8)) (s : RobotState) :
    Option RobotState :=
  match value with
  | none => some s
  | some value =>
    if len ≤ 0 then some s
    else
      let speed := parseSpeedOrDefault len value s
      let handled :=
        match (value.getD 0 0).toNat with
        | 66 => none
        | 8 => some (setMotionTargetLocked .forward speed s)
        | 2 => some (setMotionTargetLocked .backward speed s)
        | 4 => some (setMotionTargetLocked .left speed s)
        | 5 => some (setMotionTargetLocked .stop 0 s)
        | 6 => some (setMotionTargetLocked .right speed s)
        | 7 => some (setMotionTargetLocked .rotateLeft speed s)
        | 9 => some (setMotionTargetLocked .rotateRight speed s)
        | 10 => some (updateSpeed speed s)
        | _ => some s
      handled.map (noteMessage now)

/-- `UpdateLed`, `control_callback.c:390–399`. -/
def updateLed (boottime : Int) (s : RobotState) : RobotState :=
  if boottime - s.ledUpdatedTime > noMessageStopDelay then
    setMotionTargetLocked .stop 0
      { s with ledUpdatedTime := boottime, hw := s.hw ++ [.gpioSetLevel ledLightOff] }
  else s

/-! ### The motor task -/

/-- The direction change of `motor_control_task`, `control_callback.c:225–231`. -/
def changeDirection (s : RobotState) : RobotState :=
  if s.currentMotion ≠ s.requestedMotion ∧ s.currentSpeed = 0 then
    { s with
      currentMotion := s.requestedMotion
      hw := s.hw ++
        if s.requestedMotion ≠ .stop then applyMotionDirection s.requestedMotion else [] }
  else s

/-- The target of `motor_control_task`, `control_callback.c:233–236`. -/
def targetSpeed (s : RobotState) : Int :=
  if s.currentMotion = s.requestedMotion then s.requestedSpeed else 0

/-- The speed ramp of `motor_control_task`, `control_callback.c:238–248`. -/
def rampSpeed (current target : Int) : Int :=
  if current < target then
    let current := current + motorAccelStep
    if current > target then target else current
  else if current > target then
    let current := current - motorDecelStep
    if current < target then target else current
  else current

/-- The PWM output of `motor_control_task`, `control_callback.c:250–255`. -/
def outputSpeed (s : RobotState) : RobotState :=
  if s.currentSpeed ≤ 0 then { s with currentSpeed := 0, hw := s.hw ++ stopSoft }
  else
    { s with
      hw := s.hw ++ motorSetSpeed s.currentSpeed s.currentSpeed s.currentSpeed s.currentSpeed }

/-- One period of `motor_control_task`, `control_callback.c:221–260`. -/
def motorControlTask (s : RobotState) : RobotState :=
  let s := changeDirection s
  outputSpeed { s with currentSpeed := rampSpeed s.currentSpeed (targetSpeed s) }

/-! ### The node -/

/-- The static initial values, `control_callback.c:33–37,262`. -/
def staticState : RobotState where
  requestedMotion := .stop
  currentMotion := .stop
  requestedSpeed := 0
  currentSpeed := 0
  configuredSpeed := defaultMotorSpeed
  ledUpdatedTime := 0
  hw := []

/-- `SetUpLed`, `control_callback.c:341–352`. -/
def setUpLed (s : RobotState) : RobotState := { s with hw := s.hw ++ [.gpioSetLevel ledLightOff] }

/-- `InitMotorMcp23017` up to the creation of the motor task, `control_callback.c:355–387`. -/
def initMotorMcp23017 (s : RobotState) : RobotState :=
  { s with hw := s.hw ++ setMotorStandby true ++ motorPwmInit ++ stopSoft }

/-- The state in which `app_main` enters its loop, `IDF_robot_control/main/main.c:23–32`. -/
def initial : RobotState := initMotorMcp23017 (setUpLed staticState)

/-- What can happen on the node: a message from CAN or BLE, a turn of the main loop, or
a period of the motor task. Each carries the microsecond clock. -/
inductive RobotEvent where
  | message (now len : Int) (value : Option (List UInt8))
  | updateLed (boottime : Int)
  | motorControl (now : Int)
  deriving DecidableEq, Repr

/-- The clock at an event. -/
def RobotEvent.time : RobotEvent → Int
  | .message now _ _ => now
  | .updateLed boottime => boottime
  | .motorControl now => now

/-- One step of the node; `none` is the reboot. -/
def step (s : RobotState) : RobotEvent → Option RobotState
  | .message now len value => handleControlMessage now len value s
  | .updateLed boottime => some (updateLed boottime s)
  | .motorControl _ => some (motorControlTask s)

/-- Everything a handled message can do: nothing when it is empty, and otherwise a new
target, a speed update or no change, each followed by the watchdog note. -/
theorem handleControlMessage_cases {now len : Int} {value : Option (List UInt8)}
    {s t : RobotState} (h : handleControlMessage now len value s = some t) :
    ((value = none ∨ len ≤ 0) ∧ t = s) ∨
      (∃ data, value = some data ∧ 0 < len ∧
        ((∃ motion speed, t = noteMessage now (setMotionTargetLocked motion speed s)) ∨
          t = noteMessage now (updateSpeed (parseSpeedOrDefault len data s) s) ∨
          t = noteMessage now s)) := by
  cases value with
  | none => exact .inl ⟨.inl rfl, (Option.some.inj h).symm⟩
  | some data =>
    simp only [handleControlMessage] at h
    split at h
    · next hlen => exact .inl ⟨.inr hlen, (Option.some.inj h).symm⟩
    · next hlen =>
      refine .inr ⟨data, rfl, by omega, ?_⟩
      split at h <;> simp only [Option.map_some, Option.map_none, Option.some.injEq,
        reduceCtorEq] at h <;> subst h
      all_goals first
        | exact .inl ⟨_, _, rfl⟩
        | exact .inr (.inl rfl)
        | exact .inr (.inr rfl)

/-- The request and the watchdog timestamp, which the motor task only reads. -/
theorem motorControlTask_request (s : RobotState) :
    (motorControlTask s).requestedMotion = s.requestedMotion ∧
      (motorControlTask s).requestedSpeed = s.requestedSpeed ∧
      (motorControlTask s).ledUpdatedTime = s.ledUpdatedTime := by
  have hc : (changeDirection s).requestedMotion = s.requestedMotion ∧
      (changeDirection s).requestedSpeed = s.requestedSpeed ∧
      (changeDirection s).ledUpdatedTime = s.ledUpdatedTime := by
    unfold changeDirection
    split <;> exact ⟨rfl, rfl, rfl⟩
  simp only [motorControlTask, outputSpeed]
  split <;> exact hc

end Esp32Robot.Robot

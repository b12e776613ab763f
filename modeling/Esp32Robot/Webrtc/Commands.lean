import Esp32Robot.Base.CString
import Esp32Robot.Can.Canbus

/-!
# Robot and servo command processors

`IDF_esp32p4_webrtc/main/webrtc.c:164–254`: the text commands for the platform
and the camera servos, and the two speeds that they carry.
-/

namespace Esp32Robot.Webrtc

open Esp32Robot.Base Esp32Robot.Can

/-- `current_velocity_` and `servo_velocity_`, with the frames handed to `xQueueSend` so far,
oldest first. -/
structure CommandState where
  currentVelocity : UInt32
  servoVelocity : UInt32
  offered : List TwaiMessage
  deriving DecidableEq

/-- The initial speeds. -/
def CommandState.initial : CommandState := ⟨125, 5, []⟩

/-- `AddMessageToSend`. -/
def CommandState.addMessageToSend (type : UInt8) (value : UInt32) (s : CommandState) :
    CommandState :=
  { s with offered := s.offered ++ [Can.addMessageToSend type value] }

/-- `is_cmd`, `webrtc.c:167–172`. -/
def isCmd (cmd : CString) (exactCmd legacy : Option CString) : Bool :=
  if exactCmd.any (fun text ↦ strcmp cmd.bytes text.bytes = 0) then true
  else legacy.any (fun text ↦ strcmp cmd.bytes text.bytes = 0)

/-- `ProcessServoCommand`, `webrtc.c:174–192`. -/
def processServoCommand (cmd : CString) (s : CommandState) : Bool × CommandState :=
  if isCmd cmd (some (.lit "SERVO_UP")) (some (.lit "HeadUp")) then
    (true, s.addMessageToSend 18 s.servoVelocity)
  else if isCmd cmd (some (.lit "SERVO_DOWN")) (some (.lit "HeadDown")) then
    (true, s.addMessageToSend 12 s.servoVelocity)
  else if isCmd cmd (some (.lit "SERVO_LEFT")) (some (.lit "HeadLeft")) then
    (true, s.addMessageToSend 14 s.servoVelocity)
  else if isCmd cmd (some (.lit "SERVO_RIGHT")) (some (.lit "HeadRight")) then
    (true, s.addMessageToSend 16 s.servoVelocity)
  else if isCmd cmd (some (.lit "SERVO_STOP")) none then
    (true, s.addMessageToSend 15 0)
  else (false, s)

/-- The number after the given start of a command, clamped to `0..limit`; none when the command
starts differently. -/
def configValue (start : CString) (startLen : Nat) (limit : Int) (cmd : CString) :
    Option UInt32 :=
  if strncmp cmd.bytes start.bytes startLen ≠ 0 then none
  else
    let value := strtol (cmd.bytes.drop startLen)
    let value := if value < 0 then 0 else if value > limit then limit else value
    some (UInt32.ofNat value.toNat)

/-- The start of a servo step command. -/
def servoStepStart : CString := .lit "SERVO_STEP:"

/-- `ProcessServoConfigCommand`, `webrtc.c:194–209`. -/
def processServoConfigCommand (cmd : CString) (s : CommandState) : Bool × CommandState :=
  match configValue servoStepStart 11 20 cmd with
  | none => (false, s)
  | some step => (true, { s with servoVelocity := step })

/-- The start of a speed command. -/
def robotSpeedStart : CString := .lit "ROBOT_SPEED:"

/-- `ProcessMoveConfigCommand`, `webrtc.c:211–228`. -/
def processMoveConfigCommand (cmd : CString) (s : CommandState) : Bool × CommandState :=
  match configValue robotSpeedStart 12 255 cmd with
  | none => (false, s)
  | some speed => (true, { s with currentVelocity := speed }.addMessageToSend 10 speed)

/-- `ProcessMoveCommand`, `webrtc.c:230–254`. -/
def processMoveCommand (cmd : CString) (s : CommandState) : Bool × CommandState :=
  if isCmd cmd (some (.lit "ROBOT_UP")) (some (.lit "Up")) then
    (true, s.addMessageToSend 8 s.currentVelocity)
  else if isCmd cmd (some (.lit "ROBOT_DOWN")) (some (.lit "Down")) then
    (true, s.addMessageToSend 2 s.currentVelocity)
  else if isCmd cmd (some (.lit "ROBOT_LEFT")) (some (.lit "Left")) then
    (true, s.addMessageToSend 4 s.currentVelocity)
  else if isCmd cmd (some (.lit "ROBOT_RIGHT")) (some (.lit "Right")) then
    (true, s.addMessageToSend 6 s.currentVelocity)
  else if isCmd cmd (some (.lit "ROBOT_ROTATE_LEFT")) (some (.lit "RotateLeft")) then
    (true, s.addMessageToSend 7 s.currentVelocity)
  else if isCmd cmd (some (.lit "ROBOT_ROTATE_RIGHT")) (some (.lit "RotateRight")) then
    (true, s.addMessageToSend 9 s.currentVelocity)
  else if isCmd cmd (some (.lit "ROBOT_STOP")) (some (.lit "Stop")) then
    (true, s.addMessageToSend 5 0)
  else (false, s)

/-! ### What the processors can do -/

/-- The command names that `is_cmd` accepts are the two given texts. -/
theorem isCmd_iff (cmd : CString) (exactCmd legacy : Option CString) :
    isCmd cmd exactCmd legacy = true ↔ some cmd = exactCmd ∨ some cmd = legacy := by
  have hany (text : Option CString) :
      text.any (fun t ↦ strcmp cmd.bytes t.bytes = 0) = true ↔ some cmd = text := by
    cases text with
    | none => simp
    | some t =>
      simp only [Option.any_some, decide_eq_true_eq, strcmp_eq_zero cmd.noNul t.noNul,
        Option.some.injEq]
      constructor
      · exact CString.ext
      · exact fun h ↦ congrArg CString.bytes h
  unfold isCmd
  split
  · next h => simp [(hany exactCmd).mp h]
  · next h =>
    rw [hany legacy]
    constructor
    · exact .inr
    · rintro (he | hl)
      · exact absurd ((hany exactCmd).mpr he) h
      · exact hl

/-- A setting is read exactly from the commands with its start. -/
theorem configValue_cases (start : CString) (startLen : Nat) (limit : Int) (cmd : CString)
    (hlen : startLen = start.bytes.length) :
    (start.bytes <+: cmd.bytes ∧ ∃ value, configValue start startLen limit cmd = some value) ∨
      (¬ start.bytes <+: cmd.bytes ∧ configValue start startLen limit cmd = none) := by
  unfold configValue
  rw [hlen, ← strncmp_eq_zero start.noNul]
  split
  · next h => exact .inr ⟨h, rfl⟩
  · next h => exact .inl ⟨Decidable.not_not.mp h, _, rfl⟩

/-- The names of the move commands, stop apart. -/
def motionCommands : List CString :=
  [.lit "ROBOT_UP", .lit "Up", .lit "ROBOT_DOWN", .lit "Down", .lit "ROBOT_LEFT", .lit "Left",
    .lit "ROBOT_RIGHT", .lit "Right", .lit "ROBOT_ROTATE_LEFT", .lit "RotateLeft",
    .lit "ROBOT_ROTATE_RIGHT", .lit "RotateRight"]

/-- The names of the stop command. -/
def stopCommands : List CString := [.lit "ROBOT_STOP", .lit "Stop"]

/-- The names of the servo commands. -/
def servoCommands : List CString :=
  [.lit "SERVO_UP", .lit "HeadUp", .lit "SERVO_DOWN", .lit "HeadDown", .lit "SERVO_LEFT",
    .lit "HeadLeft", .lit "SERVO_RIGHT", .lit "HeadRight", .lit "SERVO_STOP"]

/-- The types of the motion frames. -/
def motionTypes : List UInt8 := [8, 2, 4, 6, 7, 9]

/-- A move command offers a motion frame with the current velocity, or a stop frame. -/
theorem processMoveCommand_cases (cmd : CString) (s : CommandState) :
    (cmd ∈ motionCommands ∧ ∃ type ∈ motionTypes,
        processMoveCommand cmd s = (true, s.addMessageToSend type s.currentVelocity)) ∨
      (cmd ∈ stopCommands ∧ processMoveCommand cmd s = (true, s.addMessageToSend 5 0)) ∨
      (cmd ∉ motionCommands ∧ cmd ∉ stopCommands ∧ processMoveCommand cmd s = (false, s)) := by
  simp only [processMoveCommand, isCmd_iff, Option.some.injEq]
  repeat' split
  all_goals rename_i h
  all_goals first
    | exact .inl ⟨by rcases h with rfl | rfl <;> decide, _, by decide, rfl⟩
    | exact .inr (.inl ⟨by rcases h with rfl | rfl <;> decide, rfl⟩)
    | exact .inr (.inr ⟨by simp_all [motionCommands], by simp_all [stopCommands], rfl⟩)

/-- A servo command offers one frame, and not a motion frame. -/
theorem processServoCommand_cases (cmd : CString) (s : CommandState) :
    (cmd ∈ servoCommands ∧ ∃ type value, type ∉ motionTypes ∧
        processServoCommand cmd s = (true, s.addMessageToSend type value)) ∨
      (cmd ∉ servoCommands ∧ processServoCommand cmd s = (false, s)) := by
  simp only [processServoCommand, isCmd_iff, Option.some.injEq, reduceCtorEq, or_false]
  repeat' split
  all_goals rename_i h
  all_goals first
    | exact .inl ⟨by rcases h with rfl | rfl <;> decide, _, _, by decide, rfl⟩
    | exact .inr ⟨by simp_all [servoCommands], rfl⟩

/-- A servo step command sets the step and offers nothing. -/
theorem processServoConfigCommand_cases (cmd : CString) (s : CommandState) :
    (servoStepStart.bytes <+: cmd.bytes ∧
        ∃ step, processServoConfigCommand cmd s = (true, { s with servoVelocity := step })) ∨
      (¬ servoStepStart.bytes <+: cmd.bytes ∧ processServoConfigCommand cmd s = (false, s)) := by
  unfold processServoConfigCommand
  rcases configValue_cases servoStepStart 11 20 cmd rfl with ⟨hs, step, h⟩ | ⟨hs, h⟩
  · rw [h]
    exact .inl ⟨hs, step, rfl⟩
  · rw [h]
    exact .inr ⟨hs, rfl⟩

/-- A speed command sets the speed and offers it. -/
theorem processMoveConfigCommand_cases (cmd : CString) (s : CommandState) :
    (robotSpeedStart.bytes <+: cmd.bytes ∧ ∃ speed, processMoveConfigCommand cmd s =
        (true, { s with currentVelocity := speed }.addMessageToSend 10 speed)) ∨
      (¬ robotSpeedStart.bytes <+: cmd.bytes ∧ processMoveConfigCommand cmd s = (false, s)) := by
  unfold processMoveConfigCommand
  rcases configValue_cases robotSpeedStart 12 255 cmd rfl with ⟨hs, speed, h⟩ | ⟨hs, h⟩
  · rw [h]
    exact .inl ⟨hs, speed, rfl⟩
  · rw [h]
    exact .inr ⟨hs, rfl⟩

end Esp32Robot.Webrtc

import Esp32Robot.Robot.ControlCallback
import Esp32Robot.Webrtc.CommandPaths

/-!
# Driving from the command text to the request

What a command text asks of the wheels, the frame that the two entry points of the P4
offer for it, and what the robot node does with the frame. Texts that ask nothing of the
wheels offer nothing or a servo frame, which the robot node only notes.
-/

namespace Esp32Robot.Robot

open Esp32Robot.Base Esp32Robot.Can Esp32Robot.Webrtc

/-- The six moves of the platform. -/
inductive DriveMove where
  | up
  | down
  | left
  | right
  | rotateLeft
  | rotateRight
  deriving DecidableEq, Repr

namespace DriveMove

/-- All moves. -/
def all : List DriveMove := [.up, .down, .left, .right, .rotateLeft, .rotateRight]

/-- The names of a move. -/
def names : DriveMove → List CString
  | .up => [.lit "ROBOT_UP", .lit "Up"]
  | .down => [.lit "ROBOT_DOWN", .lit "Down"]
  | .left => [.lit "ROBOT_LEFT", .lit "Left"]
  | .right => [.lit "ROBOT_RIGHT", .lit "Right"]
  | .rotateLeft => [.lit "ROBOT_ROTATE_LEFT", .lit "RotateLeft"]
  | .rotateRight => [.lit "ROBOT_ROTATE_RIGHT", .lit "RotateRight"]

/-- The frame type of a move. -/
def type : DriveMove → UInt8
  | .up => 8
  | .down => 2
  | .left => 4
  | .right => 6
  | .rotateLeft => 7
  | .rotateRight => 9

/-- How the wheels turn in a move. -/
def motion : DriveMove → MotionCmd
  | .up => .forward
  | .down => .backward
  | .left => .left
  | .right => .right
  | .rotateLeft => .rotateLeft
  | .rotateRight => .rotateRight

end DriveMove

/-- What an operator can ask of the wheels. -/
inductive DriveAsk where
  | move (m : DriveMove)
  | stop
  | speed (n : Int)
  deriving DecidableEq, Repr

/-- The number behind `ROBOT_SPEED:`, in `0..255`. -/
def speedOf (text : CString) : Int := max 0 (min (strtol (text.bytes.drop 12)) 255)

/-- What a text asks. -/
def askOf (text : CString) : Option DriveAsk :=
  match DriveMove.all.find? (fun m ↦ text ∈ m.names) with
  | some m => some (.move m)
  | none =>
    if text ∈ stopCommands then some .stop
    else if robotSpeedStart.bytes <+: text.bytes then
      some (.speed (speedOf text))
    else none

/-- What a text asks over MQTT, where `send_cmd` ignores a speed. -/
def mqttAskOf (text : CString) : Option DriveAsk :=
  match askOf text with
  | some (.speed _) => none
  | ask => ask

/-! ### The request that is asked for -/

/-- The speed of the moves to come, and the motion and its speed. -/
structure DriveAim where
  velocity : Int
  motion : MotionCmd
  speed : Int
  deriving DecidableEq, Repr

/-- A standing robot with the default speed. -/
def DriveAim.initial : DriveAim := ⟨125, .stop, 0⟩

/-- What an operator gets: a move goes on with the speed that was set, and a new speed is that of
the move that goes on. -/
def DriveAim.obey (a : DriveAim) : DriveAsk → DriveAim
  | .move m => { a with motion := m.motion, speed := a.velocity }
  | .stop => { a with motion := .stop, speed := 0 }
  | .speed n => { a with velocity := n, speed := if a.motion = .stop then a.speed else n }

/-- What a sequence of asks leads to. -/
def driveAimOf (asks : List DriveAsk) : DriveAim := asks.foldl DriveAim.obey .initial

/-! ### The frames -/

/-- The types of the servo frames. -/
def servoTypes : List UInt8 := [18, 12, 14, 16, 15]

/-- A frame of the command processors. -/
inductive DriveFrame where
  | move (m : DriveMove) (v : Fin 256)
  | stop
  | speed (v : Fin 256)
  | servo (type : UInt8) (value : UInt32) (h : type ∈ servoTypes)

namespace DriveFrame

/-- The frame on the bus. -/
def message : DriveFrame → TwaiMessage
  | .move m v => addMessageToSend m.type (UInt32.ofNat v)
  | .stop => addMessageToSend 5 0
  | .speed v => addMessageToSend 10 (UInt32.ofNat v)
  | .servo type value _ => addMessageToSend type value

/-- What the frame does to the requested motion and its speed. -/
def obey (r : MotionCmd × Int) : DriveFrame → MotionCmd × Int
  | .move m v => (m.motion, (v.val : Int))
  | .stop => (.stop, 0)
  | .speed v => (r.1, if r.1 = .stop then r.2 else (v.val : Int))
  | .servo _ _ _ => r

end DriveFrame

/-- The processors answer an ask: its frame is offered with the velocity of the P4, and only a speed
sets that velocity. Without an ask no frame is offered that the wheels obey. -/
def Answers (c c' : CommandState) : Option DriveAsk → Prop
  | some (.move m) => c'.currentVelocity = c.currentVelocity ∧
      c'.offered = c.offered ++ [addMessageToSend m.type c.currentVelocity]
  | some .stop => c'.currentVelocity = c.currentVelocity ∧
      c'.offered = c.offered ++ [addMessageToSend 5 0]
  | some (.speed n) => c'.currentVelocity = UInt32.ofNat n.toNat ∧
      c'.offered = c.offered ++ [addMessageToSend 10 (UInt32.ofNat n.toNat)] ∧ 0 ≤ n ∧ n ≤ 255
  | none => c'.currentVelocity = c.currentVelocity ∧
      (c'.offered = c.offered ∨
        ∃ type ∈ servoTypes, ∃ value, c'.offered = c.offered ++ [addMessageToSend type value])

section Texts

variable {text : CString} {c : CommandState}

/-- A text is a name of a move, a name of the stop, a speed, or asks nothing. -/
theorem askOf_cases (text : CString) :
    (∃ m, text ∈ m.names ∧ askOf text = some (.move m)) ∨
      (text ∈ stopCommands ∧ askOf text = some .stop) ∨
      (robotSpeedStart.bytes <+: text.bytes ∧
        askOf text = some (.speed (speedOf text))) ∨
      (text ∉ motionCommands ∧ text ∉ stopCommands ∧ ¬ robotSpeedStart.bytes <+: text.bytes ∧
        askOf text = none) := by
  unfold askOf
  split
  · next m hm => exact .inl ⟨m, by simpa using List.find?_some hm, rfl⟩
  · next hnone =>
    have hmotion : text ∉ motionCommands := by
      intro hmem
      have hsome : ∀ t ∈ motionCommands, ∃ m ∈ DriveMove.all, t ∈ m.names := by decide
      obtain ⟨m, hm, hname⟩ := hsome text hmem
      exact absurd (decide_eq_true hname) (by simpa using List.find?_eq_none.mp hnone m hm)
    split
    · next hstop => exact .inr (.inl ⟨hstop, rfl⟩)
    · next hstop =>
      split
      · next hspeed => exact .inr (.inr (.inl ⟨hspeed, rfl⟩))
      · next hspeed => exact .inr (.inr (.inr ⟨hmotion, hstop, hspeed, rfl⟩))

/-- The names of the moves are those of the move commands. -/
theorem mem_motionCommands {m : DriveMove} (h : text ∈ m.names) : text ∈ motionCommands := by
  have hnames : ∀ m ∈ DriveMove.all, ∀ t ∈ m.names, t ∈ motionCommands := by decide
  exact hnames m (by cases m <;> decide) text h

/-- A name of a move offers the frame of that move. -/
theorem processMoveCommand_move {m : DriveMove} (h : text ∈ m.names) (c : CommandState) :
    processMoveCommand text c = (true, c.addMessageToSend m.type c.currentVelocity) := by
  cases m
  all_goals
    simp only [DriveMove.names, List.mem_cons, List.not_mem_nil, or_false] at h
    rcases h with rfl | rfl <;> rfl

/-- A servo command offers a servo frame. -/
theorem processServoCommand_types (text : CString) (c : CommandState) :
    (text ∈ servoCommands ∧ ∃ type ∈ servoTypes, ∃ value,
        processServoCommand text c = (true, c.addMessageToSend type value)) ∨
      (text ∉ servoCommands ∧ processServoCommand text c = (false, c)) := by
  rcases processServoCommand_cases text c with ⟨hname, _⟩ | hno
  · refine .inl ⟨hname, ?_⟩
    simp only [servoCommands, List.mem_cons, List.not_mem_nil, or_false] at hname
    rcases hname with rfl | rfl | rfl | rfl | rfl | rfl | rfl | rfl | rfl <;>
      exact ⟨_, by decide, _, rfl⟩
  · exact .inr hno

/-- No other processor handles a name of a move or of the stop. -/
theorem unhandled_of_drive (h : text ∈ motionCommands ++ stopCommands) (c : CommandState) :
    processServoConfigCommand text c = (false, c) ∧ processServoCommand text c = (false, c) ∧
      processMoveConfigCommand text c = (false, c) := by
  have hstep : ∀ t ∈ motionCommands ++ stopCommands, ¬ servoStepStart.bytes <+: t.bytes := by decide
  have hspeed : ∀ t ∈ motionCommands ++ stopCommands, ¬ robotSpeedStart.bytes <+: t.bytes := by
    decide
  have hservo : ∀ t ∈ motionCommands ++ stopCommands, t ∉ servoCommands := by decide
  refine ⟨?_, ?_, ?_⟩
  · rcases processServoConfigCommand_cases text c with ⟨hstart, _⟩ | ⟨_, hc⟩
    · exact absurd hstart (hstep text h)
    · exact hc
  · rcases processServoCommand_cases text c with ⟨hname, _⟩ | ⟨_, hc⟩
    · exact absurd hname (hservo text h)
    · exact hc
  · rcases processMoveConfigCommand_cases text c with ⟨hstart, _⟩ | ⟨_, hc⟩
    · exact absurd hstart (hspeed text h)
    · exact hc

/-- A name of the stop offers the stop frame. -/
theorem processMoveCommand_stop (h : text ∈ stopCommands) (c : CommandState) :
    processMoveCommand text c = (true, c.addMessageToSend 5 0) := by
  simp only [stopCommands, List.mem_cons, List.not_mem_nil, or_false] at h
  rcases h with rfl | rfl <;> rfl

/-- A speed is stored and offered. -/
theorem processMoveConfigCommand_speed (h : robotSpeedStart.bytes <+: text.bytes)
    (c : CommandState) :
    processMoveConfigCommand text c =
      (true, CommandState.addMessageToSend 10 (UInt32.ofNat (speedOf text).toNat)
        { c with currentVelocity := UInt32.ofNat (speedOf text).toNat }) := by
  have hzero : strncmp text.bytes robotSpeedStart.bytes 12 = 0 :=
    (strncmp_eq_zero robotSpeedStart.noNul).mpr h
  have hclamp (n : Int) : (if n < 0 then 0 else if n > 255 then 255 else n) =
      max 0 (min n 255) := by omega
  simp only [processMoveConfigCommand, configValue, hzero, ne_eq, not_true, if_false, hclamp,
    speedOf]

/-- The processors leave a text that asks nothing and is for no servo. -/
theorem processMoveCommand_other (hmotion : text ∉ motionCommands) (hstop : text ∉ stopCommands)
    (c : CommandState) : processMoveCommand text c = (false, c) := by
  rcases processMoveCommand_cases text c with ⟨hname, _⟩ | ⟨hname, _⟩ | ⟨_, _, hc⟩
  · exact absurd hname hmotion
  · exact absurd hname hstop
  · exact hc

/-- Over MQTT the processors answer what a text asks there. -/
theorem sendCmd_answers (text : CString) (d : DoorBell) :
    Answers d.commands (sendCmd text d).commands (mqttAskOf text) := by
  rcases askOf_cases text with ⟨m, hname, hask⟩ | ⟨hname, hask⟩ | ⟨hstart, hask⟩ |
    ⟨hmotion, hstop, _, hask⟩
  · obtain ⟨h₁, h₂, _⟩ := unhandled_of_drive
      (List.mem_append.mpr (.inl (mem_motionCommands hname))) d.commands
    simp only [sendCmd, mqttAskOf, hask, h₁, h₂, processMoveCommand_move hname]
    exact ⟨rfl, rfl⟩
  · obtain ⟨h₁, h₂, _⟩ := unhandled_of_drive (List.mem_append.mpr (.inr hname)) d.commands
    simp only [sendCmd, mqttAskOf, hask, h₁, h₂, processMoveCommand_stop hname]
    exact ⟨rfl, rfl⟩
  · rw [sendCmd_of_speed hstart, mqttAskOf, hask]
    exact ⟨rfl, .inl rfl⟩
  · have hmove := processMoveCommand_other hmotion hstop d.commands
    simp only [sendCmd, mqttAskOf, hask]
    rcases processServoConfigCommand_cases text d.commands with ⟨_, step, h₁⟩ | ⟨_, h₁⟩
    · rw [h₁]
      exact ⟨rfl, .inl rfl⟩
    · rw [h₁]
      rcases processServoCommand_types text d.commands with ⟨_, type, htype, value, h₂⟩ | ⟨_, h₂⟩
      · rw [h₂]
        exact ⟨rfl, .inr ⟨type, htype, value, rfl⟩⟩
      · rw [h₂]
        simp only [hmove, Bool.false_eq_true, if_false]
        split
        · split <;> exact ⟨rfl, .inl rfl⟩
        · exact ⟨rfl, .inl rfl⟩

/-- With a session, the processors answer what a signaling text asks; without one, or to an empty
message, they do nothing. -/
theorem doorBellOnCmd_answers (text : CString) (size : Nat) (d : DoorBell) :
    Answers d.commands (doorBellOnCmd .signaling text size d).commands
      (if size = 0 || d.webrtc.isNone then none else askOf text) := by
  unfold doorBellOnCmd
  rw [if_neg (by simp)]
  split
  · exact ⟨rfl, .inl rfl⟩
  rcases askOf_cases text with ⟨m, hname, hask⟩ | ⟨hname, hask⟩ | ⟨hstart, hask⟩ |
    ⟨hmotion, hstop, hstart, hask⟩
  · obtain ⟨h₁, h₂, h₃⟩ := unhandled_of_drive
      (List.mem_append.mpr (.inl (mem_motionCommands hname))) d.commands
    simp only [hask, h₁, h₂, h₃, processMoveCommand_move hname]
    exact ⟨rfl, rfl⟩
  · obtain ⟨h₁, h₂, h₃⟩ := unhandled_of_drive (List.mem_append.mpr (.inr hname)) d.commands
    simp only [hask, h₁, h₂, h₃, processMoveCommand_stop hname]
    exact ⟨rfl, rfl⟩
  · obtain ⟨h₁, _, _⟩ := unhandled_of_speed hstart d.commands
    have hrange : 0 ≤ speedOf text ∧ speedOf text ≤ 255 := by
      unfold speedOf
      omega
    simp only [hask, h₁, processMoveConfigCommand_speed hstart]
    exact ⟨rfl, rfl, hrange⟩
  · have hmove := processMoveCommand_other hmotion hstop d.commands
    have hspeed : processMoveConfigCommand text d.commands = (false, d.commands) := by
      rcases processMoveConfigCommand_cases text d.commands with ⟨hyes, _⟩ | ⟨_, h⟩
      · exact absurd hyes hstart
      · exact h
    simp only [hask]
    rcases processServoConfigCommand_cases text d.commands with ⟨_, step, h₁⟩ | ⟨_, h₁⟩
    · rw [h₁]
      exact ⟨rfl, .inl rfl⟩
    · rw [h₁]
      simp only [hspeed, Bool.false_eq_true, if_false]
      rcases processServoCommand_types text d.commands with ⟨_, type, htype, value, h₂⟩ | ⟨_, h₂⟩
      · rw [h₂]
        exact ⟨rfl, .inr ⟨type, htype, value, rfl⟩⟩
      · rw [h₂]
        simp only [hmove, Bool.false_eq_true, if_false]
        repeat' split
        all_goals exact ⟨rfl, .inl rfl⟩

end Texts

/-! ### The frames at the robot node -/

/-- A frame at the robot node: the receive task, then the handler. -/
def receive (now : Int) (m : TwaiMessage) (s : RobotState) : Option RobotState :=
  match canbusReceive m with
  | none => some s
  | some (dlc, data) => handleControlMessage now dlc (some data) s

/-- The handler reads the speed of a frame as it was offered. -/
theorem parseSpeedOrDefault_frame {data : List UInt8} {v : Fin 256} (s : RobotState)
    (h : messageValue data = UInt32.ofNat v) :
    parseSpeedOrDefault 5 data s = (v.val : Int) := by
  have hlt := v.isLt
  have hnat : (UInt32.ofNat v.val).toNat = v.val := by
    rw [UInt32.toNat_ofNat']
    omega
  have hsmall : ¬ UInt32.ofNat v.val > 255 := by
    rw [gt_iff_lt, UInt32.lt_iff_toNat_lt, hnat]
    simp
    omega
  unfold parseSpeedOrDefault
  rw [if_pos (by decide), h]
  simp only
  rw [if_neg hsmall, hnat]

/-- A frame changes the request as it says, and is noted; it does not restart the node. -/
theorem receive_message (now : Int) (f : DriveFrame) (s : RobotState) :
    ∃ t, receive now f.message s = some t ∧
      (t.requestedMotion, t.requestedSpeed) =
        f.obey (s.requestedMotion, s.requestedSpeed) ∧
      t.ledUpdatedTime = now ∧ t.currentMotion = s.currentMotion ∧
      t.currentSpeed = s.currentSpeed := by
  have hdata (type : UInt8) (value : UInt32) : ∃ data,
      receive now (addMessageToSend type value) s =
        handleControlMessage now 5 (some data) s ∧
      data.getD 0 0 = type ∧ messageValue data = value := by
    obtain ⟨data, hreceive, htype, hvalue⟩ := canbusReceive_addMessageToSend type value
    exact ⟨data, by rw [receive, hreceive], htype, hvalue⟩
  have hclamp (v : Fin 256) :
      (if ((v.val : Int)) < 0 then 0 else if ((v.val : Int)) > 255 then 255 else (v.val : Int)) =
        (v.val : Int) := by
    have := v.isLt
    omega
  cases f with
  | move m v =>
    obtain ⟨data, hreceive, htype, hvalue⟩ := hdata m.type (UInt32.ofNat v)
    rw [DriveFrame.message, hreceive]
    simp only [handleControlMessage, htype, parseSpeedOrDefault_frame s hvalue]
    cases m <;> exact ⟨_, rfl, Prod.ext rfl (hclamp v), rfl, rfl, rfl⟩
  | stop =>
    obtain ⟨data, hreceive, htype, hvalue⟩ := hdata 5 0
    rw [DriveFrame.message, hreceive]
    simp only [handleControlMessage, htype]
    exact ⟨_, rfl, rfl, rfl, rfl, rfl⟩
  | speed v =>
    obtain ⟨data, hreceive, htype, hvalue⟩ := hdata 10 (UInt32.ofNat v)
    rw [DriveFrame.message, hreceive]
    simp only [handleControlMessage, htype, parseSpeedOrDefault_frame s hvalue]
    refine ⟨_, rfl, Prod.ext rfl ?_, rfl, rfl, rfl⟩
    show (if s.requestedMotion ≠ .stop then (v.val : Int) else s.requestedSpeed) =
      if s.requestedMotion = .stop then s.requestedSpeed else (v.val : Int)
    by_cases hstop : s.requestedMotion = .stop <;> simp [hstop]
  | servo type value h =>
    obtain ⟨data, hreceive, htype, hvalue⟩ := hdata type value
    rw [DriveFrame.message, hreceive]
    simp only [handleControlMessage, htype]
    simp only [servoTypes, List.mem_cons, List.not_mem_nil, or_false] at h
    rcases h with rfl | rfl | rfl | rfl | rfl <;> exact ⟨_, rfl, rfl, rfl, rfl, rfl⟩

/-- The idle heartbeat of the bus is noted, and changes no request. -/
theorem receive_beat (now : Int) (s : RobotState) :
    receive now txMsgBeats s = some (noteMessage now s) := rfl

end Esp32Robot.Robot

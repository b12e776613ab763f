import Esp32Robot.Servo.ServoControl
import Esp32Robot.Webrtc.Commands

/-!
# Servo steps from the command text to the angles

The command processors of the P4 with the servo node behind a lossless, ordered
bus, against the angles that the commands ask for. The two sides agree on every
step but zero: the sender admits it, and the servo node takes it for a missing
value and moves by its default of three degrees.
-/

namespace Esp32Robot.Servo

open Esp32Robot.Base Esp32Robot.Can Esp32Robot.Webrtc

/-- The four moves of the camera. -/
inductive ServoMove where
  | up
  | down
  | left
  | right
  deriving DecidableEq, Repr

/-- What an operator can ask of the servos. -/
inductive ServoCommand where
  | step (n : Int)
  | move (m : ServoMove)
  | stop
  deriving DecidableEq, Repr

/-- The names of a move. -/
def ServoMove.names : ServoMove → List CString
  | .up => [.lit "SERVO_UP", .lit "HeadUp"]
  | .down => [.lit "SERVO_DOWN", .lit "HeadDown"]
  | .left => [.lit "SERVO_LEFT", .lit "HeadLeft"]
  | .right => [.lit "SERVO_RIGHT", .lit "HeadRight"]

/-- The texts that stand for a command. -/
inductive Says : ServoCommand → CString → Prop where
  | step {n : Int} {number : List UInt8} {text : CString} : DecimalText n number →
      text.bytes = (CString.lit "SERVO_STEP:").bytes ++ number → Says (.step n) text
  | move {m : ServoMove} {text : CString} : text ∈ m.names → Says (.move m) text
  | stop : Says .stop (.lit "SERVO_STOP")

/-- A command together with a text for it. -/
structure ServoText where
  command : ServoCommand
  text : CString
  means : Says command text

/-! ### The angles that are asked for -/

/-- The angles of the two axes. -/
structure Angles where
  lr : Int
  ud : Int
  deriving DecidableEq, Repr

/-- An angle within the range of the servos. -/
def saturated (angle : Int) : Int := max 0 (min angle 180)

/-- The direction in which a move turns its axis. Up and right would raise the angle, down and
left lower it; both axes are configured inverted, `app_config.h:14–15`. -/
def ServoMove.direction : ServoMove → Int
  | .up => -1
  | .down => 1
  | .left => 1
  | .right => -1

/-- A move changes its own axis by the step in the configured direction. -/
def Angles.turn (step : Int) (a : Angles) (m : ServoMove) : Angles :=
  match m with
  | .up | .down => { a with ud := saturated (a.ud + m.direction * step) }
  | .left | .right => { a with lr := saturated (a.lr + m.direction * step) }

/-- The current step and the angles. -/
structure ServoAim where
  step : Int
  angles : Angles
  deriving DecidableEq, Repr

/-- What a command asks for, when a move turns by `change` of the current step. -/
def ServoAim.obey (change : Int → Int) (a : ServoAim) : ServoCommand → ServoAim
  | .step n => { a with step := max 0 (min n 20) }
  | .move m => { a with angles := a.angles.turn (change a.step) m }
  | .stop => a

/-- What a sequence of commands asks for. -/
def aimOf (change : Int → Int) (cs : List ServoCommand) : ServoAim :=
  cs.foldl (ServoAim.obey change) ⟨5, ⟨90, 90⟩⟩

/-- A move with step zero turns by the servo node's default. -/
def defaultedStep (step : Int) : Int := if step = 0 then 3 else step

/-! ### The P4 and the servo node -/

/-- The servo processors of the P4, in the order of both entry points. -/
def processServoText (cmd : CString) (c : CommandState) : Bool × CommandState :=
  let (handled, c) := processServoConfigCommand cmd c
  if handled then (true, c) else processServoCommand cmd c

/-- The processors' state, how many of the offered frames were delivered, and the servo node. -/
structure RemoteServo where
  commands : CommandState
  delivered : Nat
  servo : ServoState
  deriving DecidableEq

/-- Both sides after their start. -/
def RemoteServo.init (t₀ : Int) : RemoteServo := ⟨.initial, 0, servoControlInit t₀⟩

/-- A command, the delivery of the next frame, or a turn of the idle task. -/
inductive RemoteEvent where
  | command (c : ServoText)
  | deliver (now : Int)
  | idleTask (now : Int)

/-- A frame at the servo node: the receive task, then the handler. -/
def receive (now : Int) (m : TwaiMessage) (s : ServoState) : ServoState :=
  match canbusReceive m with
  | none => s
  | some (dlc, data) => servoControlCanbusMessageHandler now dlc (some data) s

/-- One step; nothing can be delivered when every frame was. -/
def RemoteServo.step (s : RemoteServo) : RemoteEvent → Option RemoteServo
  | .command c => some { s with commands := (processServoText c.text s.commands).2 }
  | .deliver now =>
    (s.commands.offered[s.delivered]?).map (fun m ↦
      { s with delivered := s.delivered + 1, servo := receive now m s.servo })
  | .idleTask now => some { s with servo := servoIdlePowerSaveTask now s.servo }

/-- The command of an event. -/
def RemoteEvent.command? : RemoteEvent → Option ServoCommand
  | .command c => some c.command
  | _ => none

/-- The commands of a run, oldest first. -/
def commandsOf (es : List RemoteEvent) : List ServoCommand := es.filterMap RemoteEvent.command?

/-- The two angles of the servo node. -/
def anglesOf (s : ServoState) : Angles := ⟨s.lrAngle, s.udAngle⟩

/-- Every frame was delivered. -/
def RemoteServo.Drained (s : RemoteServo) : Prop := s.delivered = s.commands.offered.length

/-! ### The command texts -/

/-- The frame type of a move on the bus. -/
def ServoMove.type : ServoMove → UInt8
  | .up => 18
  | .down => 12
  | .left => 14
  | .right => 16

/-- A step command sets the step, clamped. -/
theorem processServoText_step {n : Int} {text : CString} (h : Says (.step n) text)
    (c : CommandState) :
    processServoText text c =
      (true, { c with servoVelocity := UInt32.ofNat (max 0 (min n 20)).toNat }) := by
  cases h with
  | step hnumber hbytes =>
    have hstart : strncmp text.bytes servoStepStart.bytes 11 = 0 :=
      (strncmp_eq_zero servoStepStart.noNul).mpr ⟨_, hbytes.symm⟩
    have hvalue : strtol (text.bytes.drop 11) = max longMin (min n longMax) := by
      rw [hbytes, ← strtol_of_decimalText hnumber]
      rfl
    -- The clamp to `0..20` hides the clamp to `long`.
    have hclamp : (if max longMin (min n longMax) < 0 then 0
        else if max longMin (min n longMax) > 20 then 20 else max longMin (min n longMax)) =
        max 0 (min n 20) := by
      simp only [longMin, longMax]
      omega
    simp only [processServoText, processServoConfigCommand, configValue, hstart, ne_eq,
      not_true, if_false, hvalue, hclamp, if_true]

/-- A move command offers a frame with the current step. -/
theorem processServoText_move {m : ServoMove} {text : CString} (h : Says (.move m) text)
    (c : CommandState) :
    processServoText text c = (true, c.addMessageToSend m.type c.servoVelocity) := by
  cases h with
  | move hname =>
    cases m
    all_goals
      simp only [ServoMove.names, List.mem_cons, List.not_mem_nil, or_false] at hname
      rcases hname with rfl | rfl <;> rfl

/-- A stop command offers a stop frame. -/
theorem processServoText_stop {text : CString} (h : Says .stop text) (c : CommandState) :
    processServoText text c = (true, c.addMessageToSend 15 0) := by
  cases h
  rfl

/-! ### The frames at the servo node -/

/-- A frame of the servo processors. -/
inductive ServoFrame where
  | move (m : ServoMove) (step : Fin 21)
  | stop
  deriving DecidableEq, Repr

namespace ServoFrame

/-- The frame on the bus. -/
def message : ServoFrame → TwaiMessage
  | .move m step => addMessageToSend m.type (UInt32.ofNat step)
  | .stop => addMessageToSend 15 0

/-- What the frame does to the angles. -/
def turn (a : Angles) : ServoFrame → Angles
  | .move m step => a.turn (defaultedStep (step.val : Int)) m
  | .stop => a

end ServoFrame

/-- The clamp of the handler saturates. -/
theorem clampAngle_eq (angle : Int) : clampAngle angle = saturated angle := by
  simp only [clampAngle, saturated, servoMinAngle, servoMaxAngle]
  omega

/-- The angles are in the range of the servos. -/
def Angles.InRange (a : Angles) : Prop := saturated a.lr = a.lr ∧ saturated a.ud = a.ud

/-- Setting the duties keeps the angles. -/
theorem anglesOf_setBothAngles (s : ServoState) : anglesOf (setBothAngles s) = anglesOf s := by
  simp [anglesOf]

/-- Switching the output keeps the angles. -/
theorem anglesOf_setServoOutputEnabled (enabled : Bool) (s : ServoState) :
    anglesOf (setServoOutputEnabled enabled s) = anglesOf s ∧
      (setServoOutputEnabled enabled s).initialized = s.initialized := by
  unfold setServoOutputEnabled
  split
  · exact ⟨rfl, rfl⟩
  · cases enabled with
    | true =>
      obtain ⟨hlr, hud, hkept, -, -⟩ := kept_of_flag (setBothAngles s) true
      refine ⟨?_, hkept.trans (setBothAngles_initialized s)⟩
      exact (congr (congrArg Angles.mk hlr) hud).trans (anglesOf_setBothAngles s)
    | false => exact ⟨rfl, rfl⟩

/-- The servo node decodes the step of a frame, and takes zero for a missing one. -/
theorem decodeStep_of_value {data : List UInt8} {step : Fin 21}
    (h : messageValue data = UInt32.ofNat step) :
    decodeStep data 5 = defaultedStep (step.val : Int) := by
  simp only [decodeStep, h]
  clear h
  revert step
  decide

/-- A frame reaches the handler with its type and value. -/
theorem receive_addMessageToSend (now : Int) (type : UInt8) (value : UInt32) (s : ServoState) :
    ∃ data, receive now (addMessageToSend type value) s =
        servoControlCanbusMessageHandler now 5 (some data) s ∧
      data.getD 0 0 = type ∧ messageValue data = value := by
  obtain ⟨data, hdata, htype, hvalue⟩ := canbusReceive_addMessageToSend type value
  refine ⟨data, ?_, htype, hvalue⟩
  rw [receive, hdata]

/-- A move turns the angles of the running servo node, and nothing stops it. -/
theorem anglesOf_handler_move {s : ServoState} (hi : s.initialized = true)
    (hr : (anglesOf s).InRange) (now : Int) {dlc : Int} (hdlc : 0 < dlc) {m : ServoMove}
    {data : List UInt8} (htype : data.getD 0 0 = m.type) :
    anglesOf (servoControlCanbusMessageHandler now dlc (some data) s) =
        (anglesOf s).turn (decodeStep data dlc) m ∧
      (servoControlCanbusMessageHandler now dlc (some data) s).initialized = true := by
  obtain ⟨hangles, hinit⟩ := anglesOf_setServoOutputEnabled true s
  have hlr : (setServoOutputEnabled true s).lrAngle = s.lrAngle := congrArg Angles.lr hangles
  have hud : (setServoOutputEnabled true s).udAngle = s.udAngle := congrArg Angles.ud hangles
  have hrun : (!s.initialized || decide (dlc ≤ 0)) = false := by
    simp [hi, show ¬ dlc ≤ 0 by omega]
  simp only [servoControlCanbusMessageHandler, hrun, htype]
  cases m <;>
    simp [ServoMove.type, cmdServoUp, cmdServoDown, cmdServoLeft, cmdServoRight, finishMove,
      setBothAngles, noteServoActivityLocked, anglesOf, Angles.turn, ServoMove.direction,
      signedStep, servoUdInvert, servoLrInvert, Int.sub_eq_add_neg, clampAngle_eq, hlr, hud,
      hinit, hi] <;>
    first | exact hr.1 | exact hr.2

/-- A frame turns the angles of the running servo node. -/
theorem anglesOf_receive {s : ServoState} (hi : s.initialized = true)
    (hr : (anglesOf s).InRange) (now : Int) (f : ServoFrame) :
    anglesOf (receive now f.message s) = f.turn (anglesOf s) ∧
      (receive now f.message s).initialized = true := by
  cases f with
  | move m step =>
    obtain ⟨data, hreceive, htype, hvalue⟩ :=
      receive_addMessageToSend now m.type (UInt32.ofNat step) s
    rw [ServoFrame.message, hreceive, ServoFrame.turn, ← decodeStep_of_value hvalue]
    exact anglesOf_handler_move hi hr now (by decide) htype
  | stop =>
    obtain ⟨data, hreceive, htype, _⟩ := receive_addMessageToSend now 15 0 s
    rw [ServoFrame.message, hreceive, handler_stop hi (by decide) htype]
    exact ⟨anglesOf_setBothAngles s, (setBothAngles_initialized s).trans hi⟩

/-- A turn ends in the range of the servos. -/
theorem Angles.inRange_turn {a : Angles} (h : a.InRange) (step : Int) (m : ServoMove) :
    (a.turn step m).InRange := by
  have hsat (angle : Int) : saturated (saturated angle) = saturated angle := by
    simp only [saturated]
    omega
  cases m <;> simp only [turn, InRange, hsat, h.1, h.2, and_self]

/-- A frame turns within the range of the servos. -/
theorem ServoFrame.inRange_turn {a : Angles} (h : a.InRange) (f : ServoFrame) :
    (f.turn a).InRange := by
  cases f with
  | move m step => exact Angles.inRange_turn h _ m
  | stop => exact h

/-- The idle task keeps the angles. -/
theorem anglesOf_idleTask (now : Int) (s : ServoState) :
    anglesOf (servoIdlePowerSaveTask now s) = anglesOf s ∧
      (servoIdlePowerSaveTask now s).initialized = s.initialized := by
  rcases idleTask_cases now s with h | h
  · rw [h]
    exact ⟨rfl, rfl⟩
  · rw [h]
    exact anglesOf_setServoOutputEnabled false s

/-! ### From the texts to the angles -/

/-- The frames offered so far turn the angles to the aim, and those delivered so far have
turned the servo node. -/
structure Follows (aim : ServoAim) (fs : List ServoFrame) (s : RemoteServo) : Prop where
  initialized : s.servo.initialized = true
  inRange : (anglesOf s.servo).InRange
  step : ∃ step : Fin 21, aim.step = (step.val : Int) ∧
    s.commands.servoVelocity = UInt32.ofNat step
  offered : s.commands.offered = fs.map ServoFrame.message
  delivered : s.delivered ≤ fs.length
  aim : aim.angles = fs.foldl ServoFrame.turn ⟨90, 90⟩
  angles : anglesOf s.servo = (fs.take s.delivered).foldl ServoFrame.turn ⟨90, 90⟩

/-- Nothing was asked for yet. -/
theorem follows_init (t₀ : Int) : Follows (aimOf defaultedStep []) [] (.init t₀) where
  initialized := rfl
  inRange := ⟨rfl, rfl⟩
  step := ⟨5, rfl, rfl⟩
  offered := rfl
  delivered := Nat.le_refl 0
  aim := rfl
  angles := rfl

/-- A newly offered frame turns the aim. -/
theorem Follows.offer {aim : ServoAim} {fs : List ServoFrame} {s : RemoteServo}
    (h : Follows aim fs s) (f : ServoFrame) {c : CommandState}
    (hvelocity : c.servoVelocity = s.commands.servoVelocity)
    (hoffered : c.offered = s.commands.offered ++ [f.message]) :
    Follows { aim with angles := f.turn aim.angles } (fs ++ [f]) { s with commands := c } where
  initialized := h.initialized
  inRange := h.inRange
  step := by
    rw [hvelocity]
    exact h.step
  offered := by rw [hoffered, h.offered, List.map_append, List.map_singleton]
  delivered := by
    have hlen : s.delivered ≤ fs.length := h.delivered
    simp only [List.length_append]
    omega
  aim := by rw [List.foldl_append, ← h.aim, List.foldl_cons, List.foldl_nil]
  angles := by rw [List.take_append_of_le_length h.delivered, h.angles]

/-- A command changes the aim, and offers the frame for it. -/
theorem follows_command {aim : ServoAim} {fs : List ServoFrame} {s : RemoteServo}
    (h : Follows aim fs s) (c : ServoText) :
    ∃ fs', Follows (aim.obey defaultedStep c.command) fs'
      { s with commands := (processServoText c.text s.commands).2 } := by
  obtain ⟨command, text, means⟩ := c
  obtain ⟨step, hstep, hvelocity⟩ := h.step
  cases command with
  | step n =>
    have hlt : (max 0 (min n 20)).toNat < 21 := by omega
    refine ⟨fs, ?_⟩
    rw [processServoText_step means]
    exact { h with step := ⟨⟨_, hlt⟩, by simp only [ServoAim.obey]; omega, rfl⟩ }
  | move m =>
    have hturn : aim.obey defaultedStep (.move m) =
        { aim with angles := (ServoFrame.move m step).turn aim.angles } := by
      rw [ServoAim.obey, hstep]
      rfl
    refine ⟨fs ++ [.move m step], ?_⟩
    rw [processServoText_move means, hturn]
    refine h.offer (.move m step) rfl ?_
    rw [ServoFrame.message, ← hvelocity]
    rfl
  | stop =>
    refine ⟨fs ++ [.stop], ?_⟩
    rw [processServoText_stop means]
    exact h.offer .stop rfl rfl

/-- Every step of the two sides keeps the relation to the aim. -/
theorem follows_step {aim : ServoAim} {fs : List ServoFrame} {s t : RemoteServo} {e : RemoteEvent}
    (h : Follows aim fs s) (ht : s.step e = some t) :
    ∃ fs', Follows ((commandsOf [e]).foldl (ServoAim.obey defaultedStep) aim) fs' t := by
  cases e with
  | command c =>
    cases ht
    exact follows_command h c
  | deliver now =>
    obtain ⟨m, hm, rfl⟩ := Option.map_eq_some_iff.mp ht
    rw [h.offered, List.getElem?_map, Option.map_eq_some_iff] at hm
    obtain ⟨f, hf, rfl⟩ := hm
    obtain ⟨hangles, hinit⟩ := anglesOf_receive h.initialized h.inRange now f
    refine ⟨fs, { h with
      initialized := hinit
      inRange := by rw [hangles]; exact f.inRange_turn h.inRange
      delivered := (List.getElem?_eq_some_iff.mp hf).1
      angles := ?_ }⟩
    rw [hangles, List.take_add_one, hf, Option.toList_some, List.foldl_append, ← h.angles]
    rfl
  | idleTask now =>
    cases ht
    obtain ⟨hangles, hinit⟩ := anglesOf_idleTask now s.servo
    exact ⟨fs, { h with
      initialized := hinit.trans h.initialized
      inRange := by rw [hangles]; exact h.inRange
      angles := hangles.trans h.angles }⟩

/-- All along a run the servo node follows the commands. -/
theorem follows_run {t₀ : Int} {es : List RemoteEvent} {s : RemoteServo}
    (h : run RemoteServo.step (.init t₀) es = some s) :
    ∃ fs, Follows (aimOf defaultedStep (commandsOf es)) fs s := by
  refine run_history (I := fun es s ↦ ∃ fs, Follows (aimOf defaultedStep (commandsOf es)) fs s)
    ⟨[], follows_init t₀⟩ ?_ h
  rintro es s e t _ ⟨fs, hs⟩ ht
  rw [commandsOf, List.filterMap_append, aimOf, List.foldl_append]
  exact follows_step hs ht

/-- The step is set to zero, and the camera then turned right. -/
private def zeroStep : List RemoteEvent :=
  [.command ⟨.step 0, .lit "SERVO_STEP:0", .step (@DecimalText.unsigned [48] (by decide) rfl) rfl⟩,
    .command ⟨.move .right, .lit "SERVO_RIGHT", .move (by decide)⟩, .deliver 0]

/-- With step zero the servo node does not stay where it is. -/
theorem zero_step_turns :
    ¬ ∀ t₀ es s, run RemoteServo.step (.init t₀) es = some s → s.Drained →
      anglesOf s.servo = (aimOf id (commandsOf es)).angles := by
  intro h
  have hangles := h 0 zeroStep _ rfl rfl
  exact absurd hangles (by decide)

/-- Once every frame is delivered the servo node has turned by the current step at each move,
where step zero counts as three. -/
theorem anglesOf_eq_aimOf {t₀ : Int} {es : List RemoteEvent} {s : RemoteServo}
    (h : run RemoteServo.step (.init t₀) es = some s) (hdrained : s.Drained) :
    anglesOf s.servo = (aimOf defaultedStep (commandsOf es)).angles := by
  obtain ⟨fs, hs⟩ := follows_run h
  have hlen : s.delivered = fs.length := by
    rw [hdrained, hs.offered, List.length_map]
  rw [hs.angles, hlen, List.take_length, hs.aim]

/-- The run with step zero ends three degrees to the right. -/
theorem anglesOf_zero_step :
    ∃ s, run RemoteServo.step (.init 0) zeroStep = some s ∧
      anglesOf s.servo = (aimOf defaultedStep (commandsOf zeroStep)).angles :=
  ⟨_, rfl, anglesOf_eq_aimOf rfl rfl⟩

end Esp32Robot.Servo

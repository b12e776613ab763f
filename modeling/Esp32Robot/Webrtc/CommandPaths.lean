import Esp32Robot.Webrtc.Sessions

/-!
# The two command entry points

A text command reaches the processors through `send_cmd` (MQTT) or through
`door_bell_on_cmd` (signaling). Only the second has the processor for
`ROBOT_SPEED:`, so the two agree on the other commands, and over MQTT the motion
frames keep the velocity that was there before.
-/

namespace Esp32Robot.Webrtc

open Esp32Robot.Base Esp32Robot.Can

/-- One of the robot or servo command processors recognises the command. -/
def Recognised (cmd : CString) (c : CommandState) : Prop :=
  (processServoConfigCommand cmd c).1 = true ∨ (processMoveConfigCommand cmd c).1 = true ∨
    (processServoCommand cmd c).1 = true ∨ (processMoveCommand cmd c).1 = true

/-- Both entry points offer the same frames and leave the same speeds. -/
def PathsAgree (now : Int) (cmd : CString) (outcome : StartOutcome) (s : P4State) : Prop :=
  (mqttControlCmdHandler now (some cmd) outcome s).doorBell.commands =
    (doorBellOnCmd .signaling cmd cmd.bytes.length s.doorBell).commands

/-- A command received over MQTT. -/
structure MqttCommand where
  now : Int
  cmd : CString
  outcome : StartOutcome

/-- The state after a sequence of MQTT commands, oldest first. -/
def handleAll (s : P4State) (cmds : List MqttCommand) : P4State :=
  cmds.foldl (fun s c ↦ mqttControlCmdHandler c.now (some c.cmd) c.outcome s) s

/-- The value of the last `ROBOT_SPEED:<n>`, clamped, or the velocity at the start. -/
def lastSpeed (velocity : UInt32) (cmds : List MqttCommand) : UInt32 :=
  cmds.foldl (fun v c ↦ (configValue robotSpeedStart 12 255 c.cmd).getD v) velocity

/-- The frames that a command offers. -/
def framesOf (s : P4State) (c : MqttCommand) : List TwaiMessage :=
  (handleAll s [c]).doorBell.commands.offered.drop s.doorBell.commands.offered.length

/-- Every motion frame of a sequence of MQTT commands carries the last speed set before it. -/
def CarriesLastSpeed (s : P4State) (cmds : List MqttCommand) : Prop :=
  ∀ pre c post, cmds = pre ++ c :: post → ∀ type ∈ motionTypes, ∀ value,
    addMessageToSend type value ∈ framesOf (handleAll s pre) c →
      value = lastSpeed s.doorBell.commands.currentVelocity pre

/-- Before every motion command, the last speed set is the velocity at the start. -/
def SpeedUnchanged (velocity : UInt32) (cmds : List MqttCommand) : Prop :=
  ∀ pre c post, cmds = pre ++ c :: post → c.cmd ∈ motionCommands →
    lastSpeed velocity pre = velocity

/-! ### Commands that start with `ROBOT_SPEED:` -/

/-- A start of a text fixes the other texts that can be a start of it. -/
theorem not_start_of_start {a b : List UInt8} {cmd : CString} (ha : a <+: cmd.bytes)
    (hab : ¬ a <+: b) (hba : ¬ b <+: a) : ¬ b <+: cmd.bytes := by
  intro hb
  rcases Nat.le_total a.length b.length with hle | hle
  · exact hab (List.prefix_of_prefix_length_le ha hb hle)
  · exact hba (List.prefix_of_prefix_length_le hb ha hle)

/-- No other processor recognises a speed command. -/
theorem unhandled_of_speed {cmd : CString} (h : robotSpeedStart.bytes <+: cmd.bytes)
    (c : CommandState) :
    processServoConfigCommand cmd c = (false, c) ∧ processServoCommand cmd c = (false, c) ∧
      processMoveCommand cmd c = (false, c) := by
  have hnames : ∀ text ∈ servoCommands ++ motionCommands ++ stopCommands,
      ¬ robotSpeedStart.bytes <+: text.bytes := by decide
  have hnone (names : List CString)
      (hsub : ∀ text ∈ names, text ∈ servoCommands ++ motionCommands ++ stopCommands) :
      cmd ∉ names := fun hcmd ↦ hnames cmd (hsub cmd hcmd) h
  refine ⟨?_, ?_, ?_⟩
  · rcases processServoConfigCommand_cases cmd c with ⟨hstep, _⟩ | ⟨_, hc⟩
    · exact absurd hstep (not_start_of_start h (by decide) (by decide))
    · exact hc
  · rcases processServoCommand_cases cmd c with ⟨hcmd, _⟩ | ⟨_, hc⟩
    · exact absurd hcmd (hnone _ (by simp_all))
    · exact hc
  · rcases processMoveCommand_cases cmd c with ⟨hcmd, _⟩ | ⟨hcmd, _⟩ | ⟨_, _, hc⟩
    · exact absurd hcmd (hnone _ (by simp_all))
    · exact absurd hcmd (hnone _ (by simp_all))
    · exact hc

/-- `send_cmd` ignores a speed command. -/
theorem sendCmd_of_speed {cmd : CString} (h : robotSpeedStart.bytes <+: cmd.bytes)
    (d : DoorBell) : sendCmd cmd d = d := by
  obtain ⟨hstep, hservo, hmove⟩ := unhandled_of_speed h d.commands
  have hring : sameStr cmd (.lit "ring") = false := by
    have hn := not_start_of_start (b := (CString.lit "ring").bytes) h (by decide) (by decide)
    rw [← strncmp_eq_zero (CString.lit "ring").noNul] at hn
    exact decide_eq_false hn
  simp only [sendCmd, hstep, hservo, hmove, hring]
  rfl

/-! ### Through MQTT -/

/-- The control commands and the empty text are not recognised by a processor. -/
theorem not_recognised_control (c : CommandState) :
    ∀ text ∈ [openWebrtcCmd, closeWebrtcCmd, heartbeatCmd, .lit ""], ¬ Recognised text c := by
  have hnone {text : CString} (h : processServoConfigCommand text c = (false, c) ∧
      processMoveConfigCommand text c = (false, c) ∧ processServoCommand text c = (false, c) ∧
        processMoveCommand text c = (false, c)) : ¬ Recognised text c := by
    obtain ⟨h₁, h₂, h₃, h₄⟩ := h
    simp [Recognised, h₁, h₂, h₃, h₄]
  simp only [List.forall_mem_cons]
  exact ⟨hnone ⟨rfl, rfl, rfl, rfl⟩, hnone ⟨rfl, rfl, rfl, rfl⟩, hnone ⟨rfl, rfl, rfl, rfl⟩,
    hnone ⟨rfl, rfl, rfl, rfl⟩, by simp⟩

/-- A recognised command goes to `send_cmd`. -/
theorem handler_of_recognised {now : Int} {cmd : CString} {outcome : StartOutcome} {s : P4State}
    (h : Recognised cmd s.doorBell.commands) :
    mqttControlCmdHandler now (some cmd) outcome s =
      { s with doorBell := sendCmd cmd s.doorBell } := by
  have hne (text : CString) (ht : text ∈ [openWebrtcCmd, closeWebrtcCmd, heartbeatCmd, .lit ""]) :
      cmd ≠ text := fun he ↦ not_recognised_control _ text ht (he ▸ h)
  rcases mqttControlCmdHandler_cases now cmd outcome s with ⟨hcmd | hcmd, _⟩ | ⟨hcmd, _⟩ | ⟨_, hs⟩
  · exact absurd hcmd (hne _ (by simp))
  · exact absurd hcmd (hne _ (by simp))
  · exact absurd hcmd (hne _ (by simp))
  · exact hs

/-- The frames among `frames` include no motion frame. -/
def NoMotion (frames : List TwaiMessage) : Prop :=
  ∀ type ∈ motionTypes, ∀ value, addMessageToSend type value ∉ frames

private theorem noMotion_singleton {type : UInt8} {value : UInt32} (h : type ∉ motionTypes) :
    NoMotion [addMessageToSend type value] := by
  intro t ht v hv
  obtain ⟨rfl, _⟩ := addMessageToSend_inj (List.mem_singleton.mp hv)
  exact h ht

/-- What `send_cmd` does to the speeds and the frames: a motion command offers one motion frame
with the current velocity, any other command offers none and keeps the velocity. -/
theorem sendCmd_commands (cmd : CString) (d : DoorBell) :
    (cmd ∈ motionCommands ∧ ∃ type ∈ motionTypes, (sendCmd cmd d).commands =
        d.commands.addMessageToSend type d.commands.currentVelocity) ∨
      (cmd ∉ motionCommands ∧
        (sendCmd cmd d).commands.currentVelocity = d.commands.currentVelocity ∧
        ∃ frames, (sendCmd cmd d).commands.offered = d.commands.offered ++ frames ∧
          NoMotion frames) := by
  have hsteps : ∀ text ∈ motionCommands, ¬ servoStepStart.bytes <+: text.bytes := by decide
  have hservos : ∀ text ∈ motionCommands, text ∉ servoCommands := by decide
  have hstops : ∀ text ∈ motionCommands, text ∉ stopCommands := by decide
  have hnil : NoMotion [] := fun _ _ _ ↦ List.not_mem_nil
  simp only [sendCmd]
  rcases processServoConfigCommand_cases cmd d.commands with ⟨hstart, step, h⟩ | ⟨_, h⟩
  · right
    rw [h]
    exact ⟨fun hcmd ↦ hsteps cmd hcmd hstart, rfl, [], (List.append_nil _).symm, hnil⟩
  · rw [h]
    rcases processServoCommand_cases cmd d.commands with ⟨hcmd, type, value, htype, h⟩ | ⟨_, h⟩
    · right
      rw [h]
      exact ⟨fun hm ↦ hservos cmd hm hcmd, rfl, _, rfl, noMotion_singleton htype⟩
    · rw [h]
      rcases processMoveCommand_cases cmd d.commands with
        ⟨hcmd, type, htype, h⟩ | ⟨hcmd, h⟩ | ⟨hcmd, _, h⟩
      · left
        rw [h]
        exact ⟨hcmd, type, htype, rfl⟩
      · right
        rw [h]
        exact ⟨fun hm ↦ hstops cmd hm hcmd, rfl, _, rfl, noMotion_singleton (by decide)⟩
      · right
        rw [h]
        refine ⟨hcmd, ?_⟩
        simp only [Bool.false_eq_true, if_false]
        split
        · split <;> exact ⟨rfl, [], (List.append_nil _).symm, hnil⟩
        · exact ⟨rfl, [], (List.append_nil _).symm, hnil⟩

/-- The same through the MQTT handler. -/
theorem mqttControlCmdHandler_commands (now : Int) (cmd : CString) (outcome : StartOutcome)
    (s : P4State) :
    let d := (mqttControlCmdHandler now (some cmd) outcome s).doorBell
    (cmd ∈ motionCommands ∧ ∃ type ∈ motionTypes, d.commands =
        s.doorBell.commands.addMessageToSend type s.doorBell.commands.currentVelocity) ∨
      (cmd ∉ motionCommands ∧
        d.commands.currentVelocity = s.doorBell.commands.currentVelocity ∧
        ∃ frames, d.commands.offered = s.doorBell.commands.offered ++ frames ∧
          NoMotion frames) := by
  have hcontrol : ∀ text ∈ motionCommands, text ≠ openWebrtcCmd ∧ text ≠ closeWebrtcCmd ∧
      text ≠ heartbeatCmd := by decide
  have hkept {d : DoorBell} (hd : d.commands = s.doorBell.commands)
      (hcmd : cmd = openWebrtcCmd ∨ cmd = closeWebrtcCmd ∨ cmd = heartbeatCmd) :
      cmd ∉ motionCommands ∧
        d.commands.currentVelocity = s.doorBell.commands.currentVelocity ∧
        ∃ frames, d.commands.offered = s.doorBell.commands.offered ++ frames ∧
          NoMotion frames := by
    refine ⟨?_, by rw [hd], [], by rw [hd, List.append_nil], fun _ _ _ ↦ List.not_mem_nil⟩
    intro hm
    obtain ⟨h₁, h₂, h₃⟩ := hcontrol cmd hm
    rcases hcmd with h | h | h
    · exact h₁ h
    · exact h₂ h
    · exact h₃ h
  have hrequest : (requestOpen now outcome s).doorBell.commands = s.doorBell.commands := by
    unfold requestOpen
    simp only
    split
    · exact (sessionOnly_startWebrtc _ _ _).commands
    · rfl
  rcases mqttControlCmdHandler_cases now cmd outcome s with
    ⟨hcmd | hcmd, hs⟩ | ⟨hcmd, hs⟩ | ⟨_, hs⟩
  · rw [hs]
    exact .inr (hkept hrequest (.inl hcmd))
  · rw [hs]
    exact .inr (hkept hrequest (.inr (.inr hcmd)))
  · rw [hs]
    exact .inr (hkept (sessionOnly_stopWebrtc _).commands (.inr (.inl hcmd)))
  · rw [hs]
    exact sendCmd_commands cmd s.doorBell

/-- No MQTT command changes the velocity. -/
theorem currentVelocity_handleAll (s : P4State) (cmds : List MqttCommand) :
    (handleAll s cmds).doorBell.commands.currentVelocity =
      s.doorBell.commands.currentVelocity := by
  induction cmds generalizing s with
  | nil => rfl
  | cons c cmds ih =>
    apply (ih _).trans
    rcases mqttControlCmdHandler_commands c.now c.cmd c.outcome s with
      ⟨_, type, _, h⟩ | ⟨_, h, _⟩
    · rw [h]
      rfl
    · exact h

/-! ### Both entry points -/

/-- With a session, a recognised signaling command reaches the processors. -/
theorem doorBellOnCmd_commands {cmd : CString} {d : DoorBell} (hrec : Recognised cmd d.commands)
    (hsession : d.webrtc.isSome = true) :
    (doorBellOnCmd .signaling cmd cmd.bytes.length d).commands =
      if (processServoConfigCommand cmd d.commands).1 then
        (processServoConfigCommand cmd d.commands).2
      else if (processMoveConfigCommand cmd d.commands).1 then
        (processMoveConfigCommand cmd d.commands).2
      else if (processServoCommand cmd d.commands).1 then (processServoCommand cmd d.commands).2
      else (processMoveCommand cmd d.commands).2 := by
  have hsize : cmd.bytes.length ≠ 0 := by
    intro hlen
    have hcmd : cmd = .lit "" := CString.ext (List.eq_nil_of_length_eq_zero hlen)
    exact not_recognised_control _ _ (by simp) (hcmd ▸ hrec)
  have hrun : ¬ (decide (cmd.bytes.length = 0) || d.webrtc.isNone) = true := by
    simp only [Bool.or_eq_true, decide_eq_true_eq, Option.isNone_iff_eq_none, not_or]
    exact ⟨hsize, Option.isSome_iff_ne_none.mp hsession⟩
  unfold doorBellOnCmd
  rw [if_neg (by simp), if_neg hrun]
  unfold Recognised at hrec
  rcases processServoConfigCommand_cases cmd d.commands with ⟨_, step, h₁⟩ | ⟨_, h₁⟩
  · simp only [h₁, if_true]
  · simp only [h₁]
    rcases processMoveConfigCommand_cases cmd d.commands with ⟨_, speed, h₂⟩ | ⟨_, h₂⟩
    · simp only [h₂, if_true]
      rfl
    · simp only [h₂]
      rcases processServoCommand_cases cmd d.commands with ⟨_, type, value, _, h₃⟩ | ⟨_, h₃⟩
      · simp only [h₃, if_true]
        rfl
      · simp only [h₃]
        rcases processMoveCommand_cases cmd d.commands with
          ⟨_, type, _, h₄⟩ | ⟨_, h₄⟩ | ⟨_, _, h₄⟩
        · simp only [h₄, if_true]
          rfl
        · simp only [h₄, if_true]
          rfl
        · simp [h₁, h₂, h₃, h₄] at hrec

/-- With a session, the two entry points agree on the recognised commands other than the speed
command. -/
theorem pathsAgree_of_recognised (now : Int) {cmd : CString} (outcome : StartOutcome)
    {s : P4State} (hrec : Recognised cmd s.doorBell.commands)
    (hsession : s.doorBell.webrtc.isSome = true) :
    PathsAgree now cmd outcome s ↔ ¬ robotSpeedStart.bytes <+: cmd.bytes := by
  unfold PathsAgree
  rw [handler_of_recognised hrec, doorBellOnCmd_commands hrec hsession]
  rcases processMoveConfigCommand_cases cmd s.doorBell.commands with
    ⟨hstart, speed, hspeed⟩ | ⟨hstart, hspeed⟩
  · obtain ⟨hstep, _, _⟩ := unhandled_of_speed hstart s.doorBell.commands
    rw [sendCmd_of_speed hstart, hstep, hspeed]
    simp only [hstart, not_true, iff_false]
    intro heq
    have hlen := congrArg (fun c ↦ c.offered.length) heq
    simp [CommandState.addMessageToSend] at hlen
  · simp only [hstart, not_false_eq_true, iff_true, hspeed]
    rcases processServoConfigCommand_cases cmd s.doorBell.commands with ⟨_, step, h₁⟩ | ⟨_, h₁⟩
    · simp [sendCmd, h₁]
    · rcases processServoCommand_cases cmd s.doorBell.commands with
        ⟨_, type, value, _, h₂⟩ | ⟨_, h₂⟩
      · simp [sendCmd, h₁, h₂]
      · rcases processMoveCommand_cases cmd s.doorBell.commands with
          ⟨_, type, _, h₃⟩ | ⟨_, h₃⟩ | ⟨_, _, h₃⟩
        · simp [sendCmd, h₁, h₂, h₃]
        · simp [sendCmd, h₁, h₂, h₃]
        · simp [Recognised, hspeed, h₁, h₂, h₃] at hrec

/-- The frames of a motion command, and of any other command. -/
theorem framesOf_cases (s : P4State) (c : MqttCommand) :
    (c.cmd ∈ motionCommands ∧ ∃ type ∈ motionTypes,
        framesOf s c = [addMessageToSend type s.doorBell.commands.currentVelocity]) ∨
      (c.cmd ∉ motionCommands ∧ NoMotion (framesOf s c)) := by
  rcases mqttControlCmdHandler_commands c.now c.cmd c.outcome s with
    ⟨hcmd, type, htype, h⟩ | ⟨hcmd, _, frames, h, hframes⟩
  · refine .inl ⟨hcmd, type, htype, ?_⟩
    simp only [framesOf, handleAll, List.foldl_cons, List.foldl_nil, h,
      CommandState.addMessageToSend, List.drop_left]
  · refine .inr ⟨hcmd, ?_⟩
    simp only [framesOf, handleAll, List.foldl_cons, List.foldl_nil, h, List.drop_left]
    exact hframes

/-- Over MQTT, the motion frames carry the last speed exactly when that speed was never
changed before a motion command. -/
theorem carriesLastSpeed_of_unchanged (s : P4State) (cmds : List MqttCommand) :
    CarriesLastSpeed s cmds ↔ SpeedUnchanged s.doorBell.commands.currentVelocity cmds := by
  constructor
  · intro h pre c post hcmds hmotion
    rcases framesOf_cases (handleAll s pre) c with ⟨_, type, htype, hframes⟩ | ⟨hcmd, _⟩
    · have hvalue := h pre c post hcmds type htype _
        (by rw [hframes]; exact List.mem_singleton_self _)
      rw [← hvalue, currentVelocity_handleAll]
    · exact absurd hmotion hcmd
  · intro h pre c post hcmds type htype value hframe
    rcases framesOf_cases (handleAll s pre) c with ⟨hmotion, t, _, hframes⟩ | ⟨_, hnone⟩
    · rw [hframes] at hframe
      obtain ⟨_, hvalue⟩ := addMessageToSend_inj (List.mem_singleton.mp hframe)
      rw [hvalue, currentVelocity_handleAll, h pre c post hcmds hmotion]
    · exact absurd hframe (hnone type htype value)

private def withSession : P4State :=
  { P4State.initial with doorBell := { DoorBell.initial with webrtc := some 0, nextHandle := 1 } }

private def speedThenUp : List MqttCommand :=
  [⟨1000, .lit "ROBOT_SPEED:200", .starts⟩, ⟨2000, .lit "ROBOT_UP", .starts⟩]

/-- The entry points differ on `ROBOT_SPEED:200`, and over MQTT the next `ROBOT_UP` still carries
the old velocity. -/
theorem robot_speed_lost_over_mqtt :
    ¬ ((∀ now cmd outcome s, Recognised cmd s.doorBell.commands →
        s.doorBell.webrtc.isSome = true → PathsAgree now cmd outcome s) ∨
      ∀ s cmds, CarriesLastSpeed s cmds) := by
  rintro (h | h)
  · have hagree := h 1000 (.lit "ROBOT_SPEED:200") .starts withSession (.inr (.inl rfl)) rfl
    rw [pathsAgree_of_recognised 1000 .starts (.inr (.inl rfl)) rfl] at hagree
    exact hagree (by decide)
  · have hlast := (carriesLastSpeed_of_unchanged withSession speedThenUp).mp (h _ _)
      [⟨1000, .lit "ROBOT_SPEED:200", .starts⟩] ⟨2000, .lit "ROBOT_UP", .starts⟩ [] rfl (by decide)
    exact absurd hlast (by decide)

/-- With a session, the two entry points agree on a recognised command exactly when it is no
speed command; and over MQTT the motion frames carry the last speed exactly when that speed was
never changed before a motion command. -/
theorem command_paths_iff (now : Int) (cmd : CString) (outcome : StartOutcome) (s t : P4State)
    (cmds : List MqttCommand) :
    (Recognised cmd s.doorBell.commands → s.doorBell.webrtc.isSome = true →
        (PathsAgree now cmd outcome s ↔ ¬ robotSpeedStart.bytes <+: cmd.bytes)) ∧
      (CarriesLastSpeed t cmds ↔ SpeedUnchanged t.doorBell.commands.currentVelocity cmds) :=
  ⟨fun hrec hsession ↦ pathsAgree_of_recognised now outcome hrec hsession,
    carriesLastSpeed_of_unchanged t cmds⟩

/-- A move command through both entry points. -/
theorem command_paths_up : PathsAgree 1000 (.lit "ROBOT_UP") .starts withSession :=
  ((command_paths_iff 1000 (.lit "ROBOT_UP") .starts withSession withSession []).1
    (.inr (.inr (.inr rfl))) rfl).mpr (by decide)

end Esp32Robot.Webrtc

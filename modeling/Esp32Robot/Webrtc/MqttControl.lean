import Esp32Robot.Base.Run
import Esp32Robot.Webrtc.DoorBell

/-!
# MQTT control of the P4

`IDF_esp32p4_webrtc/main/main.c:222–336`: the handler of MQTT commands, the
periodic control loop and the network callback, over the session state of
`webrtc.c`. Every handler is one step.
-/

namespace Esp32Robot.Webrtc

open Esp32Robot.Base

/-- The static variables of `main.c:31–40`, of `network.c:29` and the connection flags of
`mqtt_bridge.c:14–16`, with the session state. Times are in milliseconds. -/
structure P4State where
  doorBell : DoorBell
  lastHeartbeatMs : Int
  webrtcStateLast : Bool
  lastStatusPubMs : Int
  lastOpenRequestMs : Int
  lastRecoverMs : Int
  networkConnected : Bool
  mqttStarted : Bool
  mqttConnected : Bool
  cmdHandlerSet : Bool
  deriving DecidableEq

/-- The static initial values. -/
def P4State.initial : P4State where
  doorBell := .initial
  lastHeartbeatMs := 0
  webrtcStateLast := false
  lastStatusPubMs := 0
  lastOpenRequestMs := 0
  lastRecoverMs := 0
  networkConnected := false
  mqttStarted := false
  mqttConnected := false
  cmdHandlerSet := false

def webrtcHeartbeatTimeoutMs : Int := 45000
def webrtcStatusPubPeriodMs : Int := 5000
def webrtcConnectRecoverTimeoutMs : Int := 20000
def webrtcConnectRecoverCooldownMs : Int := 15000

namespace P4State

/-- The session is running. -/
def running (s : P4State) : Bool := webrtcIsRunning s.doorBell

/-- The session is connected. -/
def connected (s : P4State) : Bool := webrtcIsConnected s.doorBell

/-- `start_webrtc(NULL)` with the given outcome. -/
def startWebrtc (outcome : StartOutcome) (s : P4State) : P4State :=
  { s with doorBell := (Webrtc.startWebrtc s.networkConnected outcome s.doorBell).2 }

/-- `stop_webrtc()`. -/
def stopWebrtc (s : P4State) : P4State := { s with doorBell := Webrtc.stopWebrtc s.doorBell }

end P4State

/-- The commands that `mqtt_control_cmd_handler` keeps for itself. -/
def openWebrtcCmd : CString := .lit "OPEN_WEBRTC"
def closeWebrtcCmd : CString := .lit "CLOSE_WEBRTC"
def heartbeatCmd : CString := .lit "HEARTBEAT"

/-- `OPEN_WEBRTC` and `HEARTBEAT`, `main.c:228–233` and `239–245`. -/
def requestOpen (now : Int) (outcome : StartOutcome) (s : P4State) : P4State :=
  let s := { s with lastHeartbeatMs := now, lastOpenRequestMs := now }
  if !s.running then s.startWebrtc outcome else s

/-- `mqtt_control_cmd_handler`, `main.c:222–249`. -/
def mqttControlCmdHandler (now : Int) (cmd : Option CString) (outcome : StartOutcome)
    (s : P4State) : P4State :=
  match cmd with
  | none => s
  | some cmd =>
    if strcmp cmd.bytes openWebrtcCmd.bytes = 0 then requestOpen now outcome s
    else if strcmp cmd.bytes closeWebrtcCmd.bytes = 0 then
      P4State.stopWebrtc { s with lastOpenRequestMs := 0 }
    else if strcmp cmd.bytes heartbeatCmd.bytes = 0 then requestOpen now outcome s
    else { s with doorBell := sendCmd cmd s.doorBell }

/-- The commands that the handler keeps, and the others, which go to `send_cmd`. -/
theorem mqttControlCmdHandler_cases (now : Int) (cmd : CString) (outcome : StartOutcome)
    (s : P4State) :
    ((cmd = openWebrtcCmd ∨ cmd = heartbeatCmd) ∧
        mqttControlCmdHandler now (some cmd) outcome s = requestOpen now outcome s) ∨
      (cmd = closeWebrtcCmd ∧ mqttControlCmdHandler now (some cmd) outcome s =
        P4State.stopWebrtc { s with lastOpenRequestMs := 0 }) ∨
      ((cmd ≠ openWebrtcCmd ∧ cmd ≠ closeWebrtcCmd ∧ cmd ≠ heartbeatCmd) ∧
        mqttControlCmdHandler now (some cmd) outcome s =
          { s with doorBell := sendCmd cmd s.doorBell }) := by
  have heq (text : CString) : strcmp cmd.bytes text.bytes = 0 ↔ cmd = text := by
    rw [strcmp_eq_zero cmd.noNul text.noNul]
    exact ⟨CString.ext, congrArg CString.bytes⟩
  simp only [mqttControlCmdHandler, heq]
  split
  · next h => exact .inl ⟨.inl h, rfl⟩
  · next hopen =>
    split
    · next h => exact .inr (.inl ⟨h, rfl⟩)
    · next hclose =>
      split
      · next h => exact .inl ⟨.inr h, rfl⟩
      · next hbeat => exact .inr (.inr ⟨⟨hopen, hclose, hbeat⟩, rfl⟩)

/-- `publish_webrtc_status`, `main.c:259–274`. -/
def publishWebrtcStatus (rssi : Int) (state : StatusState) (reason : Option StatusReason)
    (s : P4State) : P4State :=
  { s with
    doorBell := s.doorBell.emit (.publishStatus ⟨state, s.running, s.connected, rssi, reason⟩) }

/-- The status message on a change of the connection, `main.c:282–289`. -/
def publishChange (rssi : Int) (s : P4State) : P4State :=
  let connected := s.connected
  if connected ≠ s.webrtcStateLast then
    let s := { s with webrtcStateLast := connected }
    if connected then publishWebrtcStatus rssi .ready none s
    else publishWebrtcStatus rssi .stopped none s
  else s

/-- The periodic status message, `main.c:290–293`. -/
def publishPeriodically (now rssi : Int) (s : P4State) : P4State :=
  if s.mqttConnected && now > s.lastStatusPubMs + webrtcStatusPubPeriodMs then
    publishWebrtcStatus rssi
      (if s.connected then .ready else if s.running then .connecting else .idle) none
      { s with lastStatusPubMs := now }
  else s

/-- The condition of the recovery branch, `main.c:295–301`. -/
def recoverDue (now : Int) (s : P4State) : Bool :=
  let openRequestedRecently := s.lastOpenRequestMs > 0 &&
    now - s.lastOpenRequestMs ≤ webrtcHeartbeatTimeoutMs
  let connectStuck := s.lastOpenRequestMs > 0 &&
    now - s.lastOpenRequestMs > webrtcConnectRecoverTimeoutMs
  let cooldownOk := now - s.lastRecoverMs > webrtcConnectRecoverCooldownMs
  (s.running && !s.connected) && (openRequestedRecently && connectStuck && cooldownOk)

/-- The recovery branch, `main.c:303–307`. -/
def recover (now rssi : Int) (outcome : StartOutcome) (s : P4State) : P4State :=
  let s := P4State.stopWebrtc { s with lastRecoverMs := now }
  let s := publishWebrtcStatus rssi .connecting (some .autoRecoverRestart) s
  s.startWebrtc outcome

/-- The condition of the heartbeat timeout, `main.c:311`. -/
def timeoutDue (now : Int) (s : P4State) : Bool :=
  s.running && (s.lastHeartbeatMs > 0 && now - s.lastHeartbeatMs > webrtcHeartbeatTimeoutMs)

/-- The heartbeat timeout, `main.c:313–316`. -/
def heartbeatTimeout (rssi : Int) (s : P4State) : P4State :=
  let s := publishWebrtcStatus rssi .stopped (some .heartbeatTimeout) s.stopWebrtc
  { s with lastHeartbeatMs := 0, lastOpenRequestMs := 0 }

/-- `mqtt_control_loop`, `main.c:276–318`. The recovery branch returns before the timeout. -/
def mqttControlLoop (now rssi : Int) (outcome : StartOutcome) (s : P4State) : P4State :=
  let s := publishPeriodically now rssi (publishChange rssi s)
  if recoverDue now s then recover now rssi outcome s
  else if timeoutDue now s then heartbeatTimeout rssi s
  else s

/-- `network_event_handler`, `main.c:320–336`, with `mqtt_bridge_start` and
`mqtt_bridge_stop`. -/
def networkEventHandler (rssi : Int) (connected : Bool) (s : P4State) : P4State :=
  if connected then
    let s := { s with cmdHandlerSet := true }
    let s := if s.mqttStarted then s else { s with mqttStarted := true, mqttConnected := false }
    publishWebrtcStatus rssi .idle none s
  else
    let s := if s.mqttStarted then { s with mqttStarted := false, mqttConnected := false } else s
    { s.stopWebrtc with
      lastHeartbeatMs := 0
      lastOpenRequestMs := 0
      lastRecoverMs := 0
      lastStatusPubMs := 0 }

/-- `network_set_connected`, `network.c:32–39`. -/
def networkSetConnected (rssi : Int) (connected : Bool) (s : P4State) : P4State :=
  if s.networkConnected ≠ connected then
    networkEventHandler rssi connected { s with networkConnected := connected }
  else s

/-! ### Steps -/

/-- What can happen on the P4. -/
inductive P4Event where
  | command (cmd : Option CString) (outcome : StartOutcome)
  | tick (rssi : Int) (outcome : StartOutcome)
  | network (rssi : Int) (connected : Bool)
  | mqtt (connected : Bool)
  | webrtcEvent (event : WebrtcEventType)
  | retryStart
  | retryIteration (outcome : StartOutcome)
  deriving DecidableEq

/-- An event at a time, that of `esp_timer_get_time() / 1000`. -/
structure P4Input where
  now : Int
  event : P4Event
  deriving DecidableEq

/-- One step. A WebRTC event needs a handle that `start_webrtc` opened, since only there the
event handler is registered. -/
def P4State.step (s : P4State) (i : P4Input) : Option P4State :=
  match i.event with
  | .command cmd outcome => some (mqttControlCmdHandler i.now cmd outcome s)
  | .tick rssi outcome => some (mqttControlLoop i.now rssi outcome s)
  | .network rssi connected => some (networkSetConnected rssi connected s)
  | .mqtt connected =>
    if s.mqttStarted then some { s with mqttConnected := connected } else none
  | .webrtcEvent event =>
    if 0 < s.doorBell.nextHandle then
      some { s with doorBell := webrtcEventHandler s.networkConnected event s.doorBell }
    else none
  | .retryStart => (janusRetryStart s.doorBell).map (fun d ↦ { s with doorBell := d })
  | .retryIteration outcome =>
    (janusRetryIteration s.networkConnected outcome s.doorBell).map
      (fun d ↦ { s with doorBell := d })

/-- The input asks for a session: `OPEN_WEBRTC` or `HEARTBEAT`. -/
def P4Input.isOpenRequest (i : P4Input) : Bool :=
  match i.event with
  | .command (some cmd) _ => cmd = openWebrtcCmd || cmd = heartbeatCmd
  | _ => false

end Esp32Robot.Webrtc

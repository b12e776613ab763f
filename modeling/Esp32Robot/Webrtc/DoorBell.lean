import Esp32Robot.Webrtc.Commands
import Esp32Robot.Webrtc.RtpTransformer

/-!
# The WebRTC application of the P4

The static variables of `IDF_esp32p4_webrtc/main/webrtc.c`, its two command
entry points, and the functions that start, stop and retry a session, in the
build with Janus signaling. A session is a numbered handle; each function runs
to its end as one step, and the calls that it makes to other components are
logged.
-/

namespace Esp32Robot.Webrtc

open Esp32Robot.Base

/-- `door_bell_state_t`, `webrtc.c:43–48`. -/
inductive DoorBellPhase where
  | none
  | ringing
  | connecting
  | connected
  deriving DecidableEq, Repr

/-- `door_bell_tone_type_t`, `webrtc.c:50–54`. -/
inductive DoorBellTone where
  | ring
  | openDoor
  | joinSuccess
  deriving DecidableEq, Repr

/-- `esp_webrtc_custom_data_via_t`. -/
inductive CustomDataVia where
  | none
  | signaling
  | dataChannel
  deriving DecidableEq, Repr

/-- The event types that `webrtc_event_handler` tells apart. -/
inductive WebrtcEventType where
  | connected
  | connectFailed
  | disconnected
  | paired
  | other
  deriving DecidableEq, Repr

/-- How a `start_webrtc` call goes once it passed the network test. -/
inductive StartOutcome where
  | openFails
  | startFails
  | starts
  deriving DecidableEq, Repr

/-- The states that `publish_webrtc_status` reports. -/
inductive StatusState where
  | ready
  | stopped
  | connecting
  | idle
  deriving DecidableEq, Repr

/-- The reasons that it gives. -/
inductive StatusReason where
  | autoRecoverRestart
  | heartbeatTimeout
  deriving DecidableEq, Repr

/-- The fields of a status message, `main.c:258–274`. -/
structure WebrtcStatus where
  webrtc : StatusState
  running : Bool
  connected : Bool
  wifiRssi : Int
  reason : Option StatusReason
  deriving DecidableEq, Repr

/-- Calls to other components, and the entries of `start_webrtc` and `stop_webrtc`. -/
inductive Effect where
  | startWebrtc
  | stopWebrtc
  | openHandle (handle : Nat)
  | startHandle (handle : Nat)
  | closeHandle (handle : Nat)
  | createKeyThread
  | createRetryThread
  | sendCustomData (handle : Option Nat) (text : CString)
  | enablePeerConnection (handle : Option Nat) (enable : Bool)
  | setBitrates (handle : Nat) (video audio : Nat)
  | setRtpTransformers (handle : Option Nat) (enabled : Bool)
  | playTone (tone : DoorBellTone)
  | stopMusic
  | publishStatus (status : WebrtcStatus)
  deriving DecidableEq

/-- The static variables of `webrtc.c:69–98`, with the next handle that `esp_webrtc_open`
returns, the retry threads that have not started yet and those in their loop, and the calls
made so far, oldest first. -/
structure DoorBell where
  webrtc : Option Nat
  doorBellState : DoorBellPhase
  monitorKey : Bool
  janusRetryRunning : Bool
  janusRetryStop : Bool
  webrtcConnected : Bool
  senderTransformerCtx : RtpTransformerCtx
  receiverTransformerCtx : RtpTransformerCtx
  rtpTransformerEnabled : Bool
  commands : CommandState
  nextHandle : Nat
  retryCreated : Nat
  retryLooping : Nat
  effects : List Effect
  deriving DecidableEq

namespace DoorBell

/-- The static initial values. -/
def initial : DoorBell where
  webrtc := none
  doorBellState := .none
  monitorKey := false
  janusRetryRunning := false
  janusRetryStop := false
  webrtcConnected := false
  senderTransformerCtx := ⟨0, 0⟩
  receiverTransformerCtx := ⟨0, 0⟩
  rtpTransformerEnabled := false
  commands := .initial
  nextHandle := 0
  retryCreated := 0
  retryLooping := 0
  effects := []

/-- Make a call. -/
def emit (e : Effect) (s : DoorBell) : DoorBell := { s with effects := s.effects ++ [e] }

end DoorBell

/-- `webrtc_is_running`, `webrtc.c:833`. -/
def webrtcIsRunning (s : DoorBell) : Bool := s.webrtc.isSome

/-- `webrtc_is_connected`, `webrtc.c:834`. -/
def webrtcIsConnected (s : DoorBell) : Bool := s.webrtcConnected

/-- The bitrates of `settings.h:76–78`. -/
def webrtcVideoBitrateStart : Nat := 350000
def webrtcVideoBitrateStable : Nat := 550000
def webrtcAudioBitrate : Nat := 20000

/-- The test `door_bell_state < DOOR_BELL_STATE_CONNECTING`. -/
def DoorBellPhase.beforeConnecting : DoorBellPhase → Bool
  | .none | .ringing => true
  | .connecting | .connected => false

/-- `door_bell_change_state`, `webrtc.c:157–162`. -/
def doorBellChangeState (phase : DoorBellPhase) (s : DoorBell) : DoorBell :=
  let s := { s with doorBellState := phase }
  if phase = .connecting || phase = .none then s.emit .stopMusic else s

/-! ### Sessions -/

/-- `cleanup_webrtc_handle`, `webrtc.c:100–111`. Its wait for `data_running` never starts, as only
the data channel stress test sets that flag, and the test is off. -/
def cleanupWebrtcHandle (s : DoorBell) : DoorBell :=
  match s.webrtc with
  | none => s
  | some handle => { s with monitorKey := false, webrtc := none }.emit (.closeHandle handle)

/-- `schedule_janus_retry`, `webrtc.c:133–139`. The thread sets `janus_retry_running` itself,
once it runs. -/
def scheduleJanusRetry (networkConnected : Bool) (s : DoorBell) : DoorBell :=
  if s.janusRetryStop || s.janusRetryRunning || !networkConnected then s
  else { s with retryCreated := s.retryCreated + 1 }.emit .createRetryThread

/-- `start_webrtc` once `esp_webrtc_open` succeeded, up to the call of `esp_webrtc_start`,
`webrtc.c:762–801`. -/
def openSession (s : DoorBell) : DoorBell :=
  let handle := s.nextHandle
  let s := { s with webrtc := some handle, nextHandle := handle + 1 }.emit (.openHandle handle)
  let s := s.emit (.setBitrates handle webrtcVideoBitrateStart webrtcAudioBitrate)
  let s := s.emit (.enablePeerConnection (some handle) true)
  s.emit (.startHandle handle)

/-- What `start_webrtc` does once the old session is gone, `webrtc.c:680–815`. -/
def openAndStart (networkConnected : Bool) (outcome : StartOutcome) (s : DoorBell) :
    Bool × DoorBell :=
  let s := { s with monitorKey := true }.emit .createKeyThread
  match outcome with
  | .openFails => (false, scheduleJanusRetry networkConnected (cleanupWebrtcHandle s))
  | .startFails =>
    (false, scheduleJanusRetry networkConnected (cleanupWebrtcHandle (openSession s)))
  | .starts =>
    let s := openSession s
    (true, (s.emit (.enablePeerConnection s.webrtc true)).emit (.playTone .joinSuccess))

/-- `start_webrtc`, `webrtc.c:668–816`: whether it returns 0, and the state after it. -/
def startWebrtc (networkConnected : Bool) (outcome : StartOutcome) (s : DoorBell) :
    Bool × DoorBell :=
  let s := s.emit .startWebrtc
  if !networkConnected then (false, s)
  else
    let s := { s with janusRetryStop := false }
    let s := if s.webrtc.isSome then cleanupWebrtcHandle { s with webrtcConnected := false } else s
    openAndStart networkConnected outcome s

/-- `stop_webrtc`, `webrtc.c:824–831`. -/
def stopWebrtc (s : DoorBell) : DoorBell :=
  cleanupWebrtcHandle
    { s.emit .stopWebrtc with janusRetryStop := true, webrtcConnected := false }

/-- The first statement of `janus_retry_task`, `webrtc.c:115`; none when no created thread
waits to run. -/
def janusRetryStart (s : DoorBell) : Option DoorBell :=
  match s.retryCreated with
  | 0 => none
  | n + 1 =>
    some { s with retryCreated := n, retryLooping := s.retryLooping + 1, janusRetryRunning := true }

/-- One iteration of the loop of `janus_retry_task` with the exit after it, `webrtc.c:116–130`;
none when no thread is in the loop. -/
def janusRetryIteration (networkConnected : Bool) (outcome : StartOutcome) (s : DoorBell) :
    Option DoorBell :=
  match s.retryLooping with
  | 0 => none
  | n + 1 =>
    let exit := fun s : DoorBell ↦ { s with retryLooping := n, janusRetryRunning := false }
    if s.janusRetryStop then some (exit s)
    else if !networkConnected then some (exit s)
    else if s.webrtc.isNone then
      let (ok, s) := startWebrtc networkConnected outcome s
      if ok then some (exit s) else some s
    else some s

/-- `webrtc_event_handler`, `webrtc.c:586–615`. -/
def webrtcEventHandler (networkConnected : Bool) (event : WebrtcEventType) (s : DoorBell) :
    DoorBell :=
  match event with
  | .connected =>
    let s := { doorBellChangeState .connected s with webrtcConnected := true }
    match s.webrtc with
    | some handle => s.emit (.setBitrates handle webrtcVideoBitrateStable webrtcAudioBitrate)
    | none => s
  | .connectFailed | .disconnected =>
    let s := { doorBellChangeState .none s with
      webrtcConnected := false
      senderTransformerCtx := ⟨0, 0⟩
      receiverTransformerCtx := ⟨0, 0⟩ }
    scheduleJanusRetry networkConnected (cleanupWebrtcHandle s)
  | .paired => s.emit (.setRtpTransformers s.webrtc s.rtpTransformerEnabled)
  | .other => s

/-! ### Command entry points -/

/-- `SAME_STR`, `webrtc.c:37`. -/
def sameStr (cmd text : CString) : Bool := strncmp cmd.bytes text.bytes text.bytes.length = 0

/-- `door_bell_on_cmd`, `webrtc.c:256–308`. -/
def doorBellOnCmd (via : CustomDataVia) (cmd : CString) (size : Nat) (s : DoorBell) : DoorBell :=
  if via ≠ .signaling then s
  else if size = 0 || s.webrtc.isNone then s
  else
    let (handled, c) := processServoConfigCommand cmd s.commands
    if handled then { s with commands := c }
    else
      let (handled, c) := processMoveConfigCommand cmd c
      if handled then { s with commands := c }
      else
        let (handled, c) := processServoCommand cmd c
        if handled then { s with commands := c }
        else
          let (handled, c) := processMoveCommand cmd c
          if handled then { s with commands := c }
          else if sameStr cmd (.lit "OPEN_DOOR") then
            let s := s.emit (.sendCustomData s.webrtc (.lit "DOOR_OPENED"))
            if s.doorBellState.beforeConnecting then s.emit (.playTone .openDoor) else s
          else if sameStr cmd (.lit "ACCEPT_CALL") then
            (doorBellChangeState .connecting s).emit (.enablePeerConnection s.webrtc true)
          else if sameStr cmd (.lit "DENY_CALL") then
            doorBellChangeState .none (s.emit (.enablePeerConnection s.webrtc false))
          else if sameStr cmd (.lit "ENABLE_RTP_TRANSFORMER") then
            { s with rtpTransformerEnabled := true }
          else if sameStr cmd (.lit "DISABLE_RTP_TRANSFORMER") then
            { s with rtpTransformerEnabled := false }
          else s

/-- `send_cmd`, `webrtc.c:617–640`. It has no processor for `ROBOT_SPEED:`. -/
def sendCmd (cmd : CString) (s : DoorBell) : DoorBell :=
  let (handled, c) := processServoConfigCommand cmd s.commands
  if handled then { s with commands := c }
  else
    let (handled, c) := processServoCommand cmd c
    if handled then { s with commands := c }
    else
      let (handled, c) := processMoveCommand cmd c
      if handled then { s with commands := c }
      else if sameStr cmd (.lit "ring") then
        let s := s.emit (.sendCustomData s.webrtc (.lit "RING"))
        if s.doorBellState.beforeConnecting then
          { s with doorBellState := .ringing }.emit (.playTone .ring)
        else s
      else s

end Esp32Robot.Webrtc

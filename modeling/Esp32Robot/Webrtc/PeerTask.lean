import Esp32Robot.Base.Run
import Esp32Robot.Base.Threads
import Esp32Robot.Webrtc.DoorBell

/-!
# The peer connection task

The functions of `components/esp_webrtc/src/esp_webrtc.c` that open, run and
close a peer connection, with their callers in `main/webrtc.c`, as the
instructions of interleaved threads. Peer states are delivered by
`esp_peer_main_loop` on the task that calls it. The signaling is that of Janus,
whose implementation delivers SDP and candidate messages only: no customized
message, which could disable the peer connection, and no `BYE`, which would
pause the task.
-/

namespace Esp32Robot.Webrtc

open Esp32Robot.Base

/-- `esp_peer_state_t`. -/
inductive PeerState where
  | closed
  | disconnected
  | newConnection
  | candidateGathering
  | pairing
  | paired
  | connecting
  | connected
  | connectFailed
  | dataChannelConnected
  | dataChannelOpened
  | dataChannelClosed
  | dataChannelDisconnected
  deriving DecidableEq, Repr

/-- The state is one of the data channel, which `pc_on_state` does not store. -/
def PeerState.isDataChannel : PeerState → Bool
  | .dataChannelConnected | .dataChannelOpened => true
  | .dataChannelClosed | .dataChannelDisconnected => true
  | _ => false

/-- `PC_EXIT_BIT` to `PC_SEND_QUIT_BIT`, `esp_webrtc.c:50–53`. -/
inductive WaitBit where
  | exit
  | paused
  | resume
  | sendQuit
  deriving DecidableEq, Repr

/-- The fields of `webrtc_t` that the task and its callers read. The bits are those of
`wait_event`. -/
structure Rtc where
  pc : Bool
  signaling : Bool
  peerState : PeerState
  running : Bool
  pause : Bool
  bits : WaitBit → Bool
  sendGoing : Bool
  iceInfoLoaded : Bool
  freed : Bool

/-- A zeroed `webrtc_t`, as `esp_webrtc_open` returns it. -/
def Rtc.opened : Rtc where
  pc := false
  signaling := false
  peerState := .closed
  running := false
  pause := false
  bits := fun _ ↦ false
  sendGoing := false
  iceInfoLoaded := false
  freed := false

/-- The variables of `webrtc.c`, a `webrtc_t` for each handle, and the network. -/
structure SessionState where
  doorBell : DoorBell
  rtc : Nat → Rtc
  networkConnected : Bool

namespace SessionState

/-- No session was opened yet. -/
def initial : SessionState where
  doorBell := .initial
  rtc := fun _ ↦ .opened
  networkConnected := false

/-- Change the `webrtc_t` of a handle. -/
def setRtc (handle : Nat) (r : Rtc) (s : SessionState) : SessionState :=
  { s with rtc := fun g ↦ if g = handle then r else s.rtc g }

/-- Set or clear a bit of `wait_event`. -/
def setBit (handle : Nat) (bit : WaitBit) (value : Bool) (s : SessionState) : SessionState :=
  let r := s.rtc handle
  s.setRtc handle { r with bits := fun b ↦ if b = bit then value else r.bits b }

end SessionState

/-- The tasks of a session, and the threads of the application that call `start_webrtc` or
`stop_webrtc`. -/
inductive Role where
  | pcTask (handle : Nat)
  | mediaSend (handle : Nat)
  | application
  deriving DecidableEq, Repr

/-- The instructions of the threads, each named for the statement or the function that it is. -/
inductive Instr where
  | whileRunning (handle : Nat)
  | peerMainLoop (handle : Nat)
  | whileSending (handle : Nat)
  | setWaitBits (handle : Nat) (bit : WaitBit)
  | waitForBits (handle : Nat) (bit : WaitBit)
  | clearBits (handle : Nat) (bit : WaitBit)
  | startStream (handle : Nat)
  | streamFailed (handle : Nat)
  | stopStream (handle : Nat)
  | notifyApp (event : WebrtcEventType)
  | resetSession
  | cleanupWebrtcHandle
  | scheduleJanusRetry
  | pcClose (handle : Nat)
  | peerClose (handle : Nat)
  | destroyWaitEvent (handle : Nat)
  | signalingStop (handle : Nat)
  | freeRtc (handle : Nat)
  | startWebrtc
  | openWebrtc
  | espWebrtcStart
  | signalingStart (handle : Nat)
  | signalIceReceived (handle : Nat)
  | signalingStarted (handle : Nat)
  | enablePeerConnection
  | stopWebrtc
  deriving DecidableEq, Repr

/-- How a call to another component goes: it succeeds, it fails, it runs out of memory after
the peer is open, the thread that it comes to is not created, or the main loop delivers a peer
state. -/
inductive Choice where
  | ok
  | fail
  | noMemory
  | noThread
  | callback (state : PeerState)
  deriving DecidableEq, Repr

/-- `WAIT_FOR_BITS`, `esp_webrtc.c:56–58`. -/
def waitFor (handle : Nat) (bit : WaitBit) : List Instr :=
  [.waitForBits handle bit, .clearBits handle bit]

/-- `pc_on_state` after it stored the state, `esp_webrtc.c:247–268`. -/
def pcOnState (handle : Nat) : PeerState → List Instr
  | .connected => [.startStream handle, .notifyApp .connected]
  | .paired => [.notifyApp .paired]
  | .disconnected => [.stopStream handle, .notifyApp .disconnected]
  | .connectFailed => [.notifyApp .connectFailed]
  | .candidateGathering | .dataChannelConnected | .dataChannelDisconnected => [.notifyApp .other]
  | .dataChannelOpened | .dataChannelClosed => [.notifyApp .other]
  | .closed | .newConnection | .pairing | .connecting => []

/-- `esp_webrtc_close`, with `esp_webrtc_stop` in it, `esp_webrtc.c:975–1005`. -/
def espWebrtcClose (handle : Nat) : List Instr :=
  [.stopStream handle, .pcClose handle, .signalingStop handle, .freeRtc handle]

/-- What `start_webrtc` does when opening or starting fails, `webrtc.c:763–770` and `802–807`. -/
def startFailed : List Instr := [.cleanupWebrtcHandle, .scheduleJanusRetry]

/-- What `webrtc_event_handler` does for a failure, `webrtc.c:596–605`. -/
def onFailure : List Instr := [.resetSession, .cleanupWebrtcHandle, .scheduleJanusRetry]

/-- The reset before the cleanup, `webrtc.c:597–601`. -/
def resetSession (d : DoorBell) : DoorBell :=
  { doorBellChangeState .none d with
    webrtcConnected := false
    senderTransformerCtx := ⟨0, 0⟩
    receiverTransformerCtx := ⟨0, 0⟩ }

/-- The three instructions, run without another thread between them, are the event handler. -/
theorem webrtcEventHandler_onFailure (net : Bool) (d : DoorBell) :
    webrtcEventHandler net .connectFailed d =
        Webrtc.scheduleJanusRetry net (Webrtc.cleanupWebrtcHandle (resetSession d)) ∧
      webrtcEventHandler net .disconnected d = webrtcEventHandler net .connectFailed d :=
  ⟨rfl, rfl⟩

/-! ### Instructions -/

/-- What running an instruction can lead to. -/
abbrev Effects := Outcome SessionState Role Instr

/-- `pc_start`, `esp_webrtc.c:563–618`. It does not look at whether its thread is created. -/
def pcStart (handle : Nat) (c : Choice) (s : SessionState) : Effects :=
  let r := s.rtc handle
  if r.pc then ⟨s, [], []⟩
  else
    match c with
    | .ok =>
      ⟨s.setRtc handle { r with pc := true, bits := fun _ ↦ false, running := true }, [],
        [⟨.pcTask handle, [.whileRunning handle]⟩]⟩
    | .noThread =>
      ⟨s.setRtc handle { r with pc := true, bits := fun _ ↦ false, running := true }, [], []⟩
    | .noMemory => ⟨s.setRtc handle { r with pc := true }, [], []⟩
    | _ => ⟨s, [], []⟩

/-- `pc_close` up to the wait for the task, `esp_webrtc.c:505–518`. -/
def pcClose (handle : Nat) (s : SessionState) : Effects :=
  let r := s.rtc handle
  if r.pc then
    ⟨s.setRtc handle { r with pause := false, running := false },
      (if r.pause then [.setWaitBits handle .resume] else []) ++
        (if r.running then waitFor handle .exit else []) ++
        [.peerClose handle, .destroyWaitEvent handle], []⟩
  else ⟨s, [.destroyWaitEvent handle], []⟩

/-- Run one instruction; none when it blocks. -/
def Instr.exec (s : SessionState) (c : Choice) : Instr → Option Effects
  -- `pc_task`, `esp_webrtc.c:277–294`, and `media_send_task`, `185–194`
  | .whileRunning h =>
    let r := s.rtc h
    if r.running then
      if r.pause then
        some ⟨s, .setWaitBits h .paused :: waitFor h .resume ++ [.whileRunning h], []⟩
      else some ⟨s, [.peerMainLoop h, .whileRunning h], []⟩
    else some ⟨s, [.setWaitBits h .exit], []⟩
  | .peerMainLoop h =>
    let r := s.rtc h
    match c with
    | .callback state =>
      if r.pc then
        let s := if state.isDataChannel then s else s.setRtc h { r with peerState := state }
        some ⟨s, pcOnState h state ++ [.peerMainLoop h], []⟩
      else some ⟨s, [], []⟩
    | _ => some ⟨s, [], []⟩
  | .whileSending h =>
    if (s.rtc h).sendGoing then some ⟨s, [.whileSending h], []⟩
    else some ⟨s, [.setWaitBits h .sendQuit], []⟩
  | .setWaitBits h bit => some ⟨s.setBit h bit true, [], []⟩
  | .waitForBits h bit => if (s.rtc h).bits bit then some ⟨s, [], []⟩ else none
  | .clearBits h bit => some ⟨s.setBit h bit false, [], []⟩
  -- `start_stream`, `stop_stream` and the event handler
  | .startStream h =>
    match c with
    | .ok =>
      some ⟨s.setRtc h { s.rtc h with sendGoing := true }, [],
        [⟨.mediaSend h, [.whileSending h]⟩]⟩
    | .noThread => some ⟨s.setRtc h { s.rtc h with sendGoing := true }, [.streamFailed h], []⟩
    | _ => some ⟨s, [], []⟩
  | .streamFailed h => some ⟨s.setRtc h { s.rtc h with sendGoing := false }, [], []⟩
  | .stopStream h =>
    if (s.rtc h).sendGoing then
      some ⟨s.setRtc h { s.rtc h with sendGoing := false }, waitFor h .sendQuit, []⟩
    else some ⟨s, [], []⟩
  | .notifyApp event =>
    match event with
    | .connectFailed | .disconnected => some ⟨s, onFailure, []⟩
    | event =>
      some ⟨{ s with doorBell := webrtcEventHandler s.networkConnected event s.doorBell }, [], []⟩
  | .resetSession => some ⟨{ s with doorBell := Webrtc.resetSession s.doorBell }, [], []⟩
  | .cleanupWebrtcHandle =>
    match s.doorBell.webrtc with
    | none => some ⟨s, [], []⟩
    | some h =>
      some ⟨{ s with doorBell := Webrtc.cleanupWebrtcHandle s.doorBell }, espWebrtcClose h, []⟩
  | .scheduleJanusRetry =>
    some ⟨{ s with doorBell := Webrtc.scheduleJanusRetry s.networkConnected s.doorBell }, [], []⟩
  -- closing
  | .pcClose h => some (Webrtc.pcClose h s)
  | .peerClose h => some ⟨s.setRtc h { s.rtc h with pc := false }, [], []⟩
  | .destroyWaitEvent h => some ⟨s.setRtc h { s.rtc h with bits := fun _ ↦ false }, [], []⟩
  | .signalingStop h => some ⟨s.setRtc h { s.rtc h with signaling := false }, [], []⟩
  | .freeRtc h => some ⟨s.setRtc h { s.rtc h with freed := true }, [], []⟩
  -- `start_webrtc`, `webrtc.c:668–816`
  | .startWebrtc =>
    let d := s.doorBell.emit .startWebrtc
    if !s.networkConnected then some ⟨{ s with doorBell := d }, [], []⟩
    else
      let d := { d with janusRetryStop := false }
      if d.webrtc.isSome then
        some ⟨{ s with doorBell := { d with webrtcConnected := false } },
          [.cleanupWebrtcHandle, .openWebrtc], []⟩
      else some ⟨{ s with doorBell := d }, [.openWebrtc], []⟩
  | .openWebrtc =>
    let d := { s.doorBell with monitorKey := true }.emit .createKeyThread
    match c with
    | .ok =>
      some ⟨{ s with doorBell := openSession d }.setRtc d.nextHandle .opened,
        [.espWebrtcStart], []⟩
    | _ => some ⟨{ s with doorBell := d }, startFailed, []⟩
  | .espWebrtcStart =>
    match s.doorBell.webrtc with
    | none => some ⟨s, startFailed, []⟩
    | some h =>
      if (s.rtc h).signaling then some ⟨s, startFailed, []⟩
      else some ⟨s, [.signalingStart h], []⟩
  | .signalingStart h =>
    match c with
    | .ok =>
      some ⟨s, [.signalIceReceived h, .signalingStarted h, .enablePeerConnection], []⟩
    | _ => some ⟨s, startFailed, []⟩
  | .signalIceReceived h =>
    some (pcStart h c (s.setRtc h { s.rtc h with iceInfoLoaded := true }))
  | .signalingStarted h => some ⟨s.setRtc h { s.rtc h with signaling := true }, [], []⟩
  | .enablePeerConnection =>
    let d := (s.doorBell.emit (.enablePeerConnection s.doorBell.webrtc true)).emit
      (.playTone .joinSuccess)
    match s.doorBell.webrtc with
    | some h =>
      if (s.rtc h).iceInfoLoaded then some (pcStart h c { s with doorBell := d })
      else some ⟨{ s with doorBell := d }, [], []⟩
    | none => some ⟨{ s with doorBell := d }, [], []⟩
  -- `stop_webrtc`, `webrtc.c:824–831`
  | .stopWebrtc =>
    some ⟨{ s with doorBell := { s.doorBell.emit .stopWebrtc with
              janusRetryStop := true
              webrtcConnected := false } }, [.cleanupWebrtcHandle], []⟩

/-! ### Steps -/

/-- The functions that application threads call. -/
inductive AppCall where
  | startWebrtc
  | stopWebrtc
  deriving DecidableEq, Repr

/-- The instruction of a call. -/
def AppCall.instr : AppCall → Instr
  | .startWebrtc => .startWebrtc
  | .stopWebrtc => .stopWebrtc

/-- What can happen: a thread of the application makes a call, a thread takes a step, or the
network changes. -/
inductive TaskEvent where
  | call (f : AppCall)
  | exec (thread : Nat) (c : Choice)
  | network (connected : Bool)
  deriving DecidableEq, Repr

/-- The sessions with the threads that work on them. -/
abbrev Tasks := System SessionState Role Instr

namespace Tasks

/-- Nothing runs yet. -/
def initial : Tasks := ⟨.initial, []⟩

/-- One step. -/
def step (s : Tasks) : TaskEvent → Option Tasks
  | .call f => some ⟨s.state, s.threads ++ [⟨.application, [f.instr]⟩]⟩
  | .exec i c => s.exec (fun state ins c ↦ ins.exec state c) i c
  | .network connected => some ⟨{ s.state with networkConnected := connected }, s.threads⟩

end Tasks

end Esp32Robot.Webrtc

import Esp32Robot.Base.Run

/-!
# The threads of a Janus session

The life of one `webrtc_t` with its Janus signaling: the thread of the application that starts
and closes it (`main/webrtc.c`, `esp_webrtc.c`, `esp_peer_signaling.c`,
`janus_signaling.c`), the peer connection task and the poll thread, as instructions over the
objects that they share. An object that is freed stays in `freed`, and every later access to it
is a fault. The application closes the session from one thread of its own, and the peer
connection reports neither `CONNECTED` nor `DISCONNECTED` nor `CONNECT_FAILED`: no stream is
started or stopped, there is no `pc_send`, and the event handler of the application does not close
the session on `pc_task`.
-/

namespace Esp32Robot.Webrtc

open Esp32Robot.Base

/-- The objects of a session: `webrtc_t`, the peer connection, `wait_event`,
`signaling_wrapper_t`, `janus_signaling_t` and `exit_sema`. -/
inductive SessionObject where
  | rtc
  | peer
  | waitEvent
  | wrapper
  | janus
  | exitSema
  deriving DecidableEq, Repr

/-- The threads. -/
inductive SessionParty where
  | owner
  | pcTask
  | poll
  deriving DecidableEq, Repr

/-- Where the application is in `esp_webrtc_start`, `esp_webrtc_enable_peer_connection` and
`esp_webrtc_close`. The calls to the server before `createSema` touch no object that another
thread knows. -/
inductive OwnerAt where
  -- `janus_signaling_start`, `janus_signaling.c:364–391`
  | createSema
  | createPoll
  | setPollStarted
  | iceInfo
  | newConnection
  | storeHandle
  | startFailed (sema : Bool)
  -- `esp_webrtc_enable_peer_connection`, `esp_webrtc.c:768–798`, and the time of the session
  | enable
  | established
  -- `pc_close`, `esp_webrtc.c:505–527`
  | pcDisconnect
  | clearRunning
  | waitExit
  | peerClose
  | clearPc
  | destroyWait
  -- `esp_peer_signaling_stop` and `janus_signaling_stop`, `janus_signaling.c:473–539`
  | signalingStop
  | stopJanus
  | sendDetach
  | testPollStarted
  | lockSema
  | sendDestroy
  | onClose
  | destroySema
  | freeJanus
  | freeWrapper
  | clearSignaling
  | freeRtc
  | ended
  deriving DecidableEq, Repr

/-- Where `pc_task` is, `esp_webrtc.c:277–294`: before it was created, at the test of `running`, in
`esp_peer_main_loop`, in `pc_on_state`, in `pc_on_msg`, or in the signaling that this calls. -/
inductive PcTaskAt where
  | none
  | whileRunning
  | mainLoop
  | onState
  | onMsg
  | sending
  | setExit
  | ended
  deriving DecidableEq, Repr

/-- Where `janus_poll_thread` is, `janus_signaling.c:302–339`: before it was created, at the test
of `running`, in the request, over the events of the answer, in `signal_new_msg` with the peer
that it read, or at the end. -/
inductive PollAt where
  | none
  | whileRunning
  | request
  | events
  | sendToPeer
  | clearPollStarted
  | unlockSema
  | ended
  deriving DecidableEq, Repr

/-- A message of the peer passed on to the signaling or dropped, a message of the server delivered
to the session, and `on_close`. -/
inductive SignalingCall where
  | sent
  | dropped
  | delivered
  | closed
  deriving DecidableEq, Repr

/-- The fields of `webrtc_t` and `janus_signaling_t`, whether the bits and the semaphore are set,
the objects that were freed, where the threads are, the accesses to freed objects, and the calls
between the session and its signaling. -/
structure JanusThreads where
  pc : Bool
  waitEvent : Bool
  signaling : Bool
  rtcRunning : Bool
  exitBit : Bool
  running : Bool
  pollStarted : Bool
  exitSema : Bool
  freed : List SessionObject
  owner : OwnerAt
  pcTask : PcTaskAt
  poll : PollAt
  faults : List (SessionParty × SessionObject)
  calls : List SignalingCall
  deriving DecidableEq, Repr

/-- How a call of the application goes: it succeeds, it fails, `pc_start` finds no memory for the
event group, or its thread is not created, which it does not look at. -/
inductive OwnerChoice where
  | ok
  | fail
  | noMemory
  | noThread
  deriving DecidableEq, Repr

/-- What `esp_peer_main_loop` calls back: nothing, `pc_on_msg` with a message to pass on, or
`pc_on_state`. -/
inductive PeerReport where
  | nothing
  | message
  | state
  deriving DecidableEq, Repr

/-- A step of a thread. The task can have a report of the peer, the poll thread a message to pass
on. -/
inductive JanusEvent where
  | owner (c : OwnerChoice)
  | pcTask (report : PeerReport)
  | poll (message : Bool)
  deriving DecidableEq, Repr

namespace JanusThreads

/-- `janus_signaling_start` has set `running` after `janus_get_ids`. -/
def initial : JanusThreads where
  pc := false
  waitEvent := false
  signaling := false
  rtcRunning := false
  exitBit := false
  running := true
  pollStarted := false
  exitSema := false
  freed := []
  owner := .createSema
  pcTask := .none
  poll := .none
  faults := []
  calls := []

/-- The peer, when the pointer to it is not null. -/
def peerOf (s : JanusThreads) : List SessionObject := if s.pc then [.peer] else []

/-- A call is made. -/
def call (c : SignalingCall) (s : JanusThreads) : JanusThreads := { s with calls := s.calls ++ [c] }

/-- A thread that has taken a step accessed objects and freed some of them after it. -/
def access (p : SessionParty) (objects frees : List SessionObject) (s : JanusThreads) :
    JanusThreads :=
  { s with
    faults := s.faults ++ (objects.filter (· ∈ s.freed)).map (fun o ↦ (p, o))
    freed := s.freed ++ frees }

/-! ### The application -/

/-- `start_peer_connection` with `pc_start`, `esp_webrtc.c:563–637`. -/
def pcStart (c : OwnerChoice) (s : JanusThreads) : JanusThreads :=
  if s.pc then s
  else
    match c with
    | .ok => { s with pc := true, waitEvent := true, rtcRunning := true, pcTask := .whileRunning }
    | .noThread => { s with pc := true, waitEvent := true, rtcRunning := true }
    | .noMemory => { s with pc := true }
    | .fail => s

/-- The effect of a statement, and the one after it. -/
def execOwner (c : OwnerChoice) (s : JanusThreads) : Option JanusThreads :=
  match s.owner with
  | .createSema => some { s with owner := if c = .fail then .startFailed false else .createPoll }
  | .createPoll =>
    if c = .fail then some { s with running := false, owner := .startFailed true }
    else some { s with poll := .whileRunning, owner := .setPollStarted }
  | .setPollStarted => some { s with pollStarted := true, owner := .iceInfo }
  | .iceInfo => some { s.pcStart c with owner := .newConnection }
  | .newConnection => some { s with owner := .storeHandle }
  | .storeHandle => some { s with signaling := true, owner := .enable }
  | .startFailed _ => some { s with owner := .pcDisconnect }
  | .enable => some { s.pcStart c with owner := .established }
  | .established => some { s with owner := .pcDisconnect }
  | .pcDisconnect => some { s with owner := if s.pc then .clearRunning else .destroyWait }
  | .clearRunning =>
    some { s with rtcRunning := false, owner := if s.rtcRunning then .waitExit else .peerClose }
  | .waitExit => if s.exitBit then some { s with exitBit := false, owner := .peerClose } else none
  | .peerClose => some { s with owner := .clearPc }
  | .clearPc => some { s with pc := false, owner := .destroyWait }
  | .destroyWait => some { s with waitEvent := false, owner := .signalingStop }
  | .signalingStop => some { s with owner := if s.signaling then .stopJanus else .freeRtc }
  | .stopJanus => some { s with running := false, owner := .sendDetach }
  | .sendDetach => some { s with owner := .testPollStarted }
  | .testPollStarted => some { s with owner := if s.pollStarted then .lockSema else .sendDestroy }
  | .lockSema =>
    if s.exitSema then some { s with exitSema := false, owner := .sendDestroy } else none
  | .sendDestroy => some { s with owner := .onClose }
  | .onClose => some { s.call .closed with owner := .destroySema }
  | .destroySema => some { s with owner := .freeJanus }
  | .freeJanus => some { s with owner := .freeWrapper }
  | .freeWrapper => some { s with owner := .clearSignaling }
  | .clearSignaling => some { s with signaling := false, owner := .freeRtc }
  | .freeRtc => some { s with owner := .ended }
  | .ended => none

/-- The objects that a statement accesses. An error of `pc_start` returns from
`esp_webrtc_enable_peer_connection` before its call of `esp_peer_new_connection`. -/
def ownerAccesses (c : OwnerChoice) (s : JanusThreads) : List SessionObject :=
  match s.owner with
  | .createSema | .createPoll | .startFailed _ | .established | .ended => []
  | .setPollStarted | .sendDetach | .testPollStarted | .sendDestroy => [.janus]
  | .iceInfo | .newConnection | .onClose => [.janus, .rtc] ++ s.peerOf
  | .storeHandle => [.wrapper, .rtc]
  | .enable => if s.pc || c = .ok || c = .noThread then [.rtc, .peer] else [.rtc]
  | .pcDisconnect => .rtc :: s.peerOf
  | .clearRunning | .clearPc | .signalingStop | .clearSignaling | .freeRtc => [.rtc]
  | .waitExit => [.rtc, .waitEvent]
  | .peerClose => [.rtc, .peer]
  | .destroyWait => .rtc :: (if s.waitEvent then [.waitEvent] else [])
  | .stopJanus => [.wrapper, .janus]
  | .lockSema | .destroySema => [.janus, .exitSema]
  | .freeJanus => [.janus]
  | .freeWrapper => [.wrapper]

/-- The objects that a statement frees. -/
def ownerFrees (s : JanusThreads) : List SessionObject :=
  match s.owner with
  | .startFailed sema => (if sema then [.exitSema] else []) ++ [.janus, .wrapper]
  | .peerClose => [.peer]
  | .destroyWait => if s.waitEvent then [.waitEvent] else []
  | .destroySema => [.exitSema]
  | .freeJanus => [.janus]
  | .freeWrapper => [.wrapper]
  | .freeRtc => [.rtc]
  | _ => []

/-! ### The peer connection task -/

/-- The effect of a statement of `pc_task`. -/
def execPcTask (report : PeerReport) (s : JanusThreads) : Option JanusThreads :=
  match s.pcTask with
  | .none | .ended => none
  | .whileRunning => some { s with pcTask := if s.rtcRunning then .mainLoop else .setExit }
  | .mainLoop =>
    match report with
    | .nothing => some { s with pcTask := .whileRunning }
    | .message => some { s with pcTask := .onMsg }
    | .state => some { s with pcTask := .onState }
  | .onState => some { s with pcTask := .mainLoop }
  | .onMsg =>
    if s.signaling then some { s with pcTask := .sending }
    else some { s.call .dropped with pcTask := .mainLoop }
  | .sending => some { s.call .sent with pcTask := .mainLoop }
  | .setExit => some { s with exitBit := true, pcTask := .ended }

/-- The objects that it accesses. The event handler takes the peer from `webrtc_t` when it is
paired. Sending reads `janus_signaling_t` before and after its request. -/
def pcTaskAccesses (s : JanusThreads) : List SessionObject :=
  match s.pcTask with
  | .none | .ended => []
  | .whileRunning => [.rtc]
  | .mainLoop | .onState => .rtc :: s.peerOf
  | .onMsg => .rtc :: (if s.signaling then [.wrapper, .janus] else [])
  | .sending => [.janus]
  | .setExit => [.rtc, .waitEvent]

/-! ### The poll thread -/

/-- The effect of a statement of `janus_poll_thread`. `signal_new_msg` reads `rtc->pc` and hands it
to `esp_peer_send_msg`. -/
def execPoll (message : Bool) (s : JanusThreads) : Option JanusThreads :=
  match s.poll with
  | .none | .ended => none
  | .whileRunning => some { s with poll := if s.running then .request else .clearPollStarted }
  | .request => some { s with poll := if message then .events else .whileRunning }
  | .events =>
    if message then
      some { s.call .delivered with poll := if s.pc then .sendToPeer else .events }
    else some { s with poll := .whileRunning }
  | .sendToPeer => some { s with poll := .events }
  | .clearPollStarted => some { s with pollStarted := false, poll := .unlockSema }
  | .unlockSema => some { s with exitSema := true, poll := .ended }

/-- The objects that it accesses. -/
def pollAccesses (message : Bool) (s : JanusThreads) : List SessionObject :=
  match s.poll with
  | .none | .ended => []
  | .whileRunning | .request | .clearPollStarted => [.janus]
  | .events => if message then [.janus, .rtc] else []
  | .sendToPeer => [.peer]
  | .unlockSema => [.janus, .exitSema]

/-! ### Steps -/

/-- One step; none when the thread has ended, waits or was not created. -/
def step (s : JanusThreads) : JanusEvent → Option JanusThreads
  | .owner c => (s.execOwner c).map (access .owner (s.ownerAccesses c) s.ownerFrees)
  | .pcTask report => (s.execPcTask report).map (access .pcTask s.pcTaskAccesses [])
  | .poll message => (s.execPoll message).map (access .poll (s.pollAccesses message) [])

end JanusThreads
end Esp32Robot.Webrtc

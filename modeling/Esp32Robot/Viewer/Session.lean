import Esp32Robot.Viewer.App
import Esp32Robot.Viewer.Janus

/-!
# The viewer's session

The variables and handlers of `webrtc_public_gateway/web/app.js` that make, watch
and end the Janus session, over the MQTT part of `Esp32Robot.Viewer.App`. Each
handler runs without interruption up to its `await`; an awaited `janus.destroy` that
answers at once is followed by the rest of `destroySession` before any other
handler. The page has `janus.js` loaded, in a browser that it supports.
-/

namespace Esp32Robot.Viewer

open Esp32Robot.Base Esp32Robot.Webrtc

/-- The constants of `app.js:53–54`. -/
def VIDEO_STALL_TIMEOUT_MS : Nat := 20000

def VIDEO_STALL_WINDOW_MS : Nat := 45000

/-- The variables of the stall detector, `app.js:8–15`, in milliseconds and bytes. -/
structure Quality where
  prevVideoBytes : Nat
  lastVideoRxMs : Nat
  videoStalled : Bool
  stallWindowStartMs : Nat
  stallCountInWindow : Nat
  deriving DecidableEq, Repr

/-- What a cleanup sets them to. -/
def Quality.initial : Quality := ⟨0, 0, false, 0, 0⟩

/-- What a detected stall leads to: a local re-subscribe, with or without its request, or a
restart, with or without a published command. -/
inductive Recovery where
  | resubscribe (requested : Bool)
  | restart (published : Bool)
  deriving DecidableEq, Repr

/-- The variables of `app.js:2–15`, the two buttons when they are enabled, whether the room field
holds a number, what `janus.js` keeps, the recoveries so far, and for each step of answering an
offer the handle that received it and the one in `subscriberHandle`. -/
structure ViewerState where
  app : App
  pendingWebrtcOpen : Bool
  janus : Option Nat
  managerHandle : Option Nat
  subscriberHandle : Option Nat
  selectedFeedId : Option Nat
  statsTimer : Bool
  quality : Quality
  connectBtn : Bool
  disconnectBtn : Bool
  roomId : Bool
  sessions : List JanusSession
  handles : List PluginHandle
  requests : List JanusRequest
  recoveries : List Recovery
  answers : List (Nat × Option Nat)
  deriving DecidableEq

namespace ViewerState

/-- The page was just loaded. -/
def initial : ViewerState where
  app := .initial
  pendingWebrtcOpen := false
  janus := none
  managerHandle := none
  subscriberHandle := none
  selectedFeedId := none
  statsTimer := false
  quality := .initial
  connectBtn := true
  disconnectBtn := false
  roomId := false
  sessions := []
  handles := []
  requests := []
  recoveries := []
  answers := []

/-- The phase of a session. -/
def phase (k : Nat) (v : ViewerState) : Option JanusPhase := v.sessions[k]?.map JanusSession.phase

/-- The handle is attached, for the role, in a session that is live. -/
def serves (h : Nat) (role : HandleRole) (v : ViewerState) : Bool :=
  match v.handles[h]? with
  | some p => p.attached && p.role = role && v.phase p.session = some .live
  | none => false

/-- Take note of a request. -/
def request (r : JanusRequest) (v : ViewerState) : ViewerState :=
  { v with requests := v.requests ++ [r] }

/-- Put a session in a phase. -/
def setPhase (k : Nat) (phase : JanusPhase) (v : ViewerState) : ViewerState :=
  { v with sessions := v.sessions.modify k (fun s ↦ { s with phase := phase }) }

/-! ### Ending a session -/

/-- The end of `destroySession`, `app.js:80–93`. -/
def reset (v : ViewerState) : ViewerState := { v with
  janus := none
  managerHandle := none
  subscriberHandle := none
  selectedFeedId := none
  quality := .initial
  connectBtn := true
  disconnectBtn := false }

/-- `destroySession`, `app.js:72–94`: `janus.destroy` sends a request when the session is live,
and answers at once when it is not. -/
def destroySession (v : ViewerState) : ViewerState :=
  let v := { v with statsTimer := false }
  match v.janus with
  | none => v.reset
  | some k =>
    if v.phase k = some .live then
      { v with sessions := v.sessions.modify k (fun s ↦ { s with destroying := true }) }
    else v.reset

/-- The answer to a destroy request. It closes the WebSocket, and the `destroyed` callback of
`connect` calls `destroySession` before the awaiting one goes on. -/
def onDestroyed (k : Nat) (v : ViewerState) : ViewerState :=
  (v.setPhase k .ended).destroySession.reset

/-! ### Handles -/

/-- `oncleanup` of a subscriber, `app.js:179–192`. -/
def oncleanup (v : ViewerState) : ViewerState := { v with
  statsTimer := false
  quality := .initial
  subscriberHandle := none }

/-- `cleanupWebrtc`, `janus.js:3108–3172`, which closes the peer connection and calls the
`oncleanup` of the handle. -/
def cleanupWebrtc (h : Nat) (v : ViewerState) : ViewerState :=
  match v.handles[h]? with
  | some p =>
    if p.attached then
      let v := { v with
        handles := v.handles.set h { p with pc := false }
        requests := v.requests.filter (fun r ↦ !r.runsOn h) }
      if p.role = .subscriber then v.oncleanup else v
    else v
  | none => v

/-- `pluginHandle.detach`, which is `destroyHandle`, `janus.js:1799–1857`. -/
def detach (h : Nat) (v : ViewerState) : ViewerState :=
  let v := v.cleanupWebrtc h
  { v with handles := v.handles.modify h (fun p ↦ { p with attached := false }) }

/-- `if (subscriberHandle)`, detach it and forget it. -/
def detachSubscriber (v : ViewerState) : ViewerState :=
  match v.subscriberHandle with
  | some h => { v.detach h with subscriberHandle := none }
  | none => v

/-- `janus.attach`: a request when the session is live. Without a session it throws. -/
def attach (role : HandleRole) (onError : ViewerState → ViewerState) (v : ViewerState) :
    ViewerState :=
  match v.janus with
  | some k => if v.phase k = some .live then v.request (.attach k role) else onError v
  | none => v

/-- `attachSubscriber`, `app.js:96–194`. -/
def attachSubscriber (feedId : Nat) (v : ViewerState) : ViewerState :=
  attach .subscriber (fun v ↦ { v with selectedFeedId := none })
    { v with selectedFeedId := some feedId }

/-- `requestAndAttachPublisher`, `app.js:607–615`, up to its request. -/
def requestAndAttachPublisher (v : ViewerState) : ViewerState :=
  match v.managerHandle.bind (fun m ↦ v.handles[m]?) with
  | some p =>
    if p.attached && v.phase p.session = some .live then v.request (.listparticipants p.session)
    else v
  | none => v

/-- The answer of `listparticipants`, `app.js:616–643`. -/
def onParticipants (participants : List Participant) (v : ViewerState) : ViewerState :=
  match participants.find? Participant.publishes with
  | none => { v with selectedFeedId := none }
  | some p =>
    if v.selectedFeedId = some p.id && v.subscriberHandle.isSome then v
    else v.detachSubscriber.attachSubscriber p.id

/-- The answer of `listparticipants` leads to `attachSubscriber`. -/
def reattaches (participants : List Participant) (v : ViewerState) : Bool :=
  match participants.find? Participant.publishes with
  | some p => !(v.selectedFeedId = some p.id && v.subscriberHandle.isSome)
  | none => false

/-- `attachManager`, `app.js:648–662`. -/
def attachManager (v : ViewerState) : ViewerState := v.attach .manager id

/-- The success of an attach, `app.js:103–115` and `651–654`. -/
def onAttached (k : Nat) (role : HandleRole) (v : ViewerState) : ViewerState :=
  let h := v.handles.length
  let handle : PluginHandle := { session := k, role := role, attached := true, pc := false }
  let v := { v with handles := v.handles ++ [handle] }
  match role with
  | .manager => { v with managerHandle := some h }.requestAndAttachPublisher
  | .subscriber => { v with subscriberHandle := some h }

/-- The failure of an attach, `app.js:116–119` and `655`. -/
def onAttachError (role : HandleRole) (v : ViewerState) : ViewerState :=
  if role = .subscriber then { v with selectedFeedId := none } else v

/-- A subscriber's message with the error "No such feed", `app.js:121–132`. -/
def onNoSuchFeed (v : ViewerState) : ViewerState :=
  { v.detachSubscriber with selectedFeedId := none }.requestAndAttachPublisher

/-- A subscriber's message with an offer, `app.js:137–145`. The handle that creates the answer
gets a peer connection. -/
def onOffer (offered : Nat) (v : ViewerState) : ViewerState :=
  let v := { v with answers := v.answers ++ [(offered, v.subscriberHandle)] }
  match v.subscriberHandle with
  | some h =>
    if (v.handles[h]?.map PluginHandle.attached).getD false then
      { v with handles := v.handles.modify h (fun p ↦ { p with pc := true }) }.request
        (.createAnswer offered h)
    else v
  | none => v

/-- The answer was created and is sent, `app.js:141–143`. -/
def onAnswer (offered : Nat) (v : ViewerState) : ViewerState :=
  { v with answers := v.answers ++ [(offered, v.subscriberHandle)] }

/-- `onremotetrack`, `app.js:148–172`. -/
def onremotetrack (added : Bool) (now : Nat) (v : ViewerState) : ViewerState :=
  if added then { v with
    quality := { v.quality with
      lastVideoRxMs := now
      videoStalled := false
      stallWindowStartMs := 0
      stallCountInWindow := 0 }
    statsTimer := true }
  else v

/-! ### The stall detector -/

/-- The start of `sampleConnectionQuality`, `app.js:198–202`. -/
def onSample (v : ViewerState) : ViewerState :=
  match v.subscriberHandle.bind (fun h ↦ v.handles[h]?) with
  | some p => if p.pc then v.request .getStats else v
  | none => v

end ViewerState

/-- Take note of `bytesReceived`, `app.js:225–237`. -/
def Quality.receive (bytesReceived : Option Nat) (now : Nat) (q : Quality) : Quality :=
  match bytesReceived with
  | some bytes =>
    if q.prevVideoBytes < bytes then
      { q with prevVideoBytes := bytes, lastVideoRxMs := now, videoStalled := false }
    else { q with prevVideoBytes := bytes }
  | none => q

/-- The test of `app.js:250`. -/
def Quality.stalls (now : Nat) (q : Quality) : Bool :=
  !q.videoStalled && 0 < q.lastVideoRxMs && q.lastVideoRxMs + VIDEO_STALL_TIMEOUT_MS < now

/-- The window is over. -/
def Quality.expired (now : Nat) (q : Quality) : Bool :=
  q.stallWindowStartMs + VIDEO_STALL_WINDOW_MS < now

/-- Count a stall, `app.js:251–259`. -/
def Quality.count (now : Nat) (q : Quality) : Quality :=
  let q :=
    if q.expired now then { q with stallWindowStartMs := now, stallCountInWindow := 0 } else q
  { q with videoStalled := true, stallCountInWindow := q.stallCountInWindow + 1 }

namespace ViewerState

/-- The local re-subscribe, `app.js:261–278`. -/
def resubscribe (now : Nat) (v : ViewerState) : ViewerState :=
  let v := { v.detachSubscriber with selectedFeedId := none }
  let requested := v.roomId && v.managerHandle.isSome
  let v := if requested then v.requestAndAttachPublisher else v
  { v with
    recoveries := v.recoveries ++ [.resubscribe requested]
    quality := { v.quality with lastVideoRxMs := now, videoStalled := false } }

/-- The restart, `app.js:280–287`. -/
def restart (v : ViewerState) : ViewerState :=
  destroySession { v with
    app := v.app.onStall
    recoveries := v.recoveries ++ [.restart v.app.canPublish] }

/-- The rest of `sampleConnectionQuality`, `app.js:203–290`, with what it needs of the
statistics. -/
def onStats (bytesReceived : Option Nat) (now : Nat) (v : ViewerState) : ViewerState :=
  let q := v.quality.receive bytesReceived now
  if q.stalls now then
    let q := q.count now
    if q.stallCountInWindow ≤ 2 then { v with quality := q }.resubscribe now
    else { v with quality := q }.restart
  else { v with quality := q }

/-! ### Starting a session -/

/-- `connect`, `app.js:664–708`. -/
def connect (v : ViewerState) : ViewerState :=
  if v.roomId then { v with
    connectBtn := false
    disconnectBtn := true
    janus := some v.sessions.length
    sessions := v.sessions ++ [⟨.creating, false⟩] }
  else { v with connectBtn := true, disconnectBtn := false }

/-- The `success` callback of `connect`, `app.js:692–695`. -/
def onCreated (k : Nat) (v : ViewerState) : ViewerState := (v.setPhase k .live).attachManager

/-- The `error` callback of `connect`, `app.js:696–700`. -/
def onError (v : ViewerState) : ViewerState := { v with connectBtn := true, disconnectBtn := false }

/-- The handler of an MQTT message, `app.js:445–458`; `ready` when it is for the status topic and
its `webrtc` is "ready". -/
def onMessage (ready : Bool) (v : ViewerState) : ViewerState :=
  if ready && v.pendingWebrtcOpen then
    let v := { v with pendingWebrtcOpen := false }
    if v.janus.isNone then v.connect else v
  else v

/-- The rest of the handlers that `Esp32Robot.Viewer.App` models for MQTT. -/
def onMqtt (e : AppEvent) (v : ViewerState) : ViewerState :=
  match e with
  | .connect _ _ _ => { v with pendingWebrtcOpen := true }
  | .close _ =>
    let v := { v with pendingWebrtcOpen := false }
    if v.janus.isSome then v.destroySession else v
  | .disconnect .disconnectBtn => v.destroySession
  | _ => v

/-- Answer a request. -/
def answer (r : JanusRequest) (v : ViewerState) : Option ViewerState :=
  if r ∈ v.requests then some { v with requests := v.requests.erase r } else none

end ViewerState

/-- What can happen in the viewer. Sessions, handles and requests are named by their numbers and
contents. -/
inductive ViewerEvent where
  | mqtt (e : AppEvent)
  | message (ready : Bool)
  | connectBtn
  | editRoom (roomId : Bool)
  | created (session : Nat)
  | refused (session : Nat)
  | dropped (session : Nat)
  | lost (session : Nat)
  | destroyed (session : Nat)
  | attached (session : Nat) (role : HandleRole)
  | attachFailed (session : Nat) (role : HandleRole)
  | participants (session : Nat) (participants : List Participant)
  | listFailed (session : Nat)
  | publishersChanged (handle : Nat)
  | noSuchFeed (handle : Nat)
  | offer (handle : Nat)
  | answered (offered handle : Nat)
  | answerFailed (offered handle : Nat)
  | hangup (handle : Nat)
  | detached (handle : Nat)
  | remoteTrack (handle : Nat) (added : Bool) (now : Nat)
  | sample
  | stats (bytesReceived : Option Nat) (now : Nat)
  | statsFailed
  deriving DecidableEq

/-- The events of handles that were attached or are to be, and of their statistics that fail. -/
def ViewerEvent.ofHandles : ViewerEvent → Bool
  | .attached _ _ | .attachFailed _ _ | .participants _ _ | .listFailed _ => true
  | .publishersChanged _ | .noSuchFeed _ | .offer _ | .answered _ _ | .answerFailed _ _ => true
  | .hangup _ | .detached _ | .remoteTrack _ _ _ | .sample | .statsFailed => true
  | _ => false

namespace ViewerState

/-- Whether an event can happen: the operator clicks enabled buttons, sessions that are live send
answers and messages, and only the interval that is set fires. A stall is no event of its own. -/
def enabled (v : ViewerState) : ViewerEvent → Bool
  | .mqtt .stall => false
  | .mqtt (.disconnect .disconnectBtn) => v.disconnectBtn
  | .mqtt _ | .message _ | .editRoom _ => true
  | .connectBtn => v.connectBtn
  | .created k | .refused k | .dropped k => v.phase k = some .creating
  | .lost k => v.phase k = some .live
  | .destroyed k => v.sessions[k]? = some ⟨.live, true⟩
  | .attached k _ | .attachFailed k _ => v.phase k = some .live
  | .participants k _ | .listFailed k => v.phase k = some .live
  | .publishersChanged h => v.serves h .manager
  | .noSuchFeed h | .offer h => v.serves h .subscriber
  | .hangup h | .detached h => v.serves h .manager || v.serves h .subscriber
  | .remoteTrack h _ _ => (v.handles[h]?.map PluginHandle.role) = some .subscriber
  | .sample => v.statsTimer
  | .answered _ _ | .answerFailed _ _ | .stats _ _ | .statsFailed => true

/-- The handler of an event. -/
def handle (v : ViewerState) : ViewerEvent → Option ViewerState
  | .mqtt e => (v.app.step e).map (fun a ↦ { v with app := a }.onMqtt e)
  | .message ready => some (v.onMessage ready)
  | .connectBtn => some v.connect
  | .editRoom roomId => some { v with roomId }
  | .created k => some (v.onCreated k)
  | .refused k => some (v.setPhase k .refused).onError
  | .dropped k => some (v.setPhase k .dropped)
  | .lost k => some (v.setPhase k .lost).onError
  | .destroyed k => some (v.onDestroyed k)
  | .attached k role => (v.answer (.attach k role)).map (onAttached k role)
  | .attachFailed k role => (v.answer (.attach k role)).map (onAttachError role)
  | .participants k participants =>
    (v.answer (.listparticipants k)).map (onParticipants participants)
  | .listFailed k => v.answer (.listparticipants k)
  | .publishersChanged _ => some v.requestAndAttachPublisher
  | .noSuchFeed _ => some v.onNoSuchFeed
  | .offer h => some (v.onOffer h)
  | .answered offered h => (v.answer (.createAnswer offered h)).map (onAnswer offered)
  | .answerFailed offered h => v.answer (.createAnswer offered h)
  | .hangup h => some (v.cleanupWebrtc h)
  | .detached h => some (v.detach h)
  | .remoteTrack _ added now => some (v.onremotetrack added now)
  | .sample => some v.onSample
  | .stats bytesReceived now => (v.answer .getStats).map (onStats bytesReceived now)
  | .statsFailed => v.answer .getStats

/-- One step. -/
def step (v : ViewerState) (e : ViewerEvent) : Option ViewerState :=
  if v.enabled e then v.handle e else none

/-! ### What the handlers leave alone -/

variable {v w : ViewerState}

/-- An event happens when it is enabled and its handler runs. -/
theorem step_some {e : ViewerEvent} : v.step e = some w ↔ v.enabled e ∧ v.handle e = some w := by
  unfold step
  split
  · next henabled => simp [henabled]
  · next hdisabled => simp [hdisabled]

/-- Answering a request removes it, and nothing else. -/
theorem answer_some {r : JanusRequest} : v.answer r = some w ↔
    r ∈ v.requests ∧ w = { v with requests := v.requests.erase r } := by
  unfold answer
  split
  · next hr => simp [hr, eq_comm]
  · next hr => simp [hr]

/-- A handler of an answer runs without the request. -/
theorem answer_map_some {r : JanusRequest} {f : ViewerState → ViewerState} :
    (v.answer r).map f = some w ↔
      r ∈ v.requests ∧ w = f { v with requests := v.requests.erase r } := by
  rw [Option.map_eq_some_iff]
  constructor
  · rintro ⟨u, hu, rfl⟩
    obtain ⟨hr, rfl⟩ := answer_some.mp hu
    exact ⟨hr, rfl⟩
  · rintro ⟨hr, rfl⟩
    exact ⟨_, answer_some.mpr ⟨hr, rfl⟩, rfl⟩

/-- Listing the participants is at most a request. -/
theorem requestAndAttachPublisher_eq (v : ViewerState) : v.requestAndAttachPublisher =
    { v with requests := v.requestAndAttachPublisher.requests } := by
  unfold requestAndAttachPublisher
  split
  · split <;> rfl
  · rfl

/-- Attaching a manager is at most a request. -/
theorem attachManager_eq (v : ViewerState) :
    v.attachManager = { v with requests := v.attachManager.requests } := by
  unfold attachManager attach
  split
  · split <;> rfl
  · rfl

/-- Attaching a subscriber is at most a request, and selects a feed. -/
theorem attachSubscriber_eq (feedId : Nat) (v : ViewerState) : v.attachSubscriber feedId = { v with
    requests := (v.attachSubscriber feedId).requests
    selectedFeedId := (v.attachSubscriber feedId).selectedFeedId } := by
  unfold attachSubscriber attach
  split
  · split <;> rfl
  · rfl

/-- A cleanup changes the handles and their requests, and what `oncleanup` sets. -/
theorem cleanupWebrtc_eq (h : Nat) (v : ViewerState) : v.cleanupWebrtc h = { v with
    handles := (v.cleanupWebrtc h).handles
    requests := (v.cleanupWebrtc h).requests
    statsTimer := (v.cleanupWebrtc h).statsTimer
    quality := (v.cleanupWebrtc h).quality
    subscriberHandle := (v.cleanupWebrtc h).subscriberHandle } := by
  unfold cleanupWebrtc
  split
  · split
    · split <;> rfl
    · rfl
  · rfl

/-- Detaching changes what a cleanup changes. -/
theorem detach_eq (h : Nat) (v : ViewerState) : v.detach h = { v with
    handles := (v.detach h).handles
    requests := (v.detach h).requests
    statsTimer := (v.detach h).statsTimer
    quality := (v.detach h).quality
    subscriberHandle := (v.detach h).subscriberHandle } := by
  simp only [detach]
  rw [cleanupWebrtc_eq]

/-- Detaching the subscriber changes what a cleanup changes. -/
theorem detachSubscriber_eq (v : ViewerState) : v.detachSubscriber = { v with
    handles := v.detachSubscriber.handles
    requests := v.detachSubscriber.requests
    statsTimer := v.detachSubscriber.statsTimer
    quality := v.detachSubscriber.quality
    subscriberHandle := none } := by
  unfold detachSubscriber
  split
  · simp only
    rw [detach_eq]
  · next hnone => rw [← hnone]

/-- `destroySession` waits for an answer, or is done. -/
theorem destroySession_cases (v : ViewerState) :
    (∃ k, v.janus = some k ∧ v.phase k = some .live ∧ v.destroySession = { v with
      statsTimer := false
      sessions := v.sessions.modify k (fun s ↦ { s with destroying := true }) }) ∨
    ((∀ k ∈ v.janus, v.phase k ≠ some .live) ∧
      v.destroySession = { v with statsTimer := false }.reset) := by
  unfold destroySession
  simp only
  split
  · next hnone => exact .inr ⟨by simp [hnone], rfl⟩
  · next k hk =>
    split
    · next hlive => exact .inl ⟨k, hk, hlive, rfl⟩
    · next hdead =>
      refine .inr ⟨?_, rfl⟩
      intro j hj
      rw [Option.some.inj (hk.symm.trans hj)] at hdead
      exact hdead

/-- `destroySession` makes no session, and leaves in `janus` only one that it asked to end. -/
theorem destroySession_janus (v : ViewerState) :
    v.destroySession.sessions.length = v.sessions.length ∧
      ∀ k, v.destroySession.janus = some k → v.janus = some k ∧
        v.destroySession.sessions[k]?.map JanusSession.destroying = some true := by
  rcases v.destroySession_cases with ⟨k, hk, hlive, heq⟩ | ⟨-, heq⟩
  · rw [heq]
    refine ⟨List.length_modify .., ?_⟩
    intro j hj
    obtain rfl : k = j := Option.some.inj (hk.symm.trans hj)
    obtain ⟨s, hs, -⟩ := Option.map_eq_some_iff.mp hlive
    refine ⟨hk, ?_⟩
    simp only [List.getElem?_modify_eq]
    rw [hs]
    rfl
  · rw [heq]
    exact ⟨rfl, fun k hk ↦ absurd hk (by simp [reset])⟩

/-- The events of handles leave MQTT and the sessions alone. -/
theorem handles_step {e : ViewerEvent} (he : e.ofHandles = true) (h : v.step e = some w) :
    w.app = v.app ∧ w.janus = v.janus ∧ w.sessions = v.sessions := by
  obtain ⟨-, hw⟩ := step_some.mp h
  cases e with
  | attached k role =>
    obtain ⟨-, rfl⟩ := answer_map_some.mp hw
    cases role with
    | manager =>
      simp only [onAttached]
      rw [requestAndAttachPublisher_eq]
      exact ⟨rfl, rfl, rfl⟩
    | subscriber => exact ⟨rfl, rfl, rfl⟩
  | attachFailed k role =>
    obtain ⟨-, rfl⟩ := answer_map_some.mp hw
    cases role <;> exact ⟨rfl, rfl, rfl⟩
  | participants k participants =>
    obtain ⟨-, rfl⟩ := answer_map_some.mp hw
    unfold onParticipants
    split
    · exact ⟨rfl, rfl, rfl⟩
    · split
      · exact ⟨rfl, rfl, rfl⟩
      · rw [attachSubscriber_eq, detachSubscriber_eq]
        exact ⟨rfl, rfl, rfl⟩
  | publishersChanged handle =>
    cases hw
    rw [requestAndAttachPublisher_eq]
    exact ⟨rfl, rfl, rfl⟩
  | noSuchFeed handle =>
    cases hw
    rw [onNoSuchFeed, requestAndAttachPublisher_eq, detachSubscriber_eq]
    exact ⟨rfl, rfl, rfl⟩
  | offer handle =>
    cases hw
    unfold onOffer
    simp only
    split
    · split <;> exact ⟨rfl, rfl, rfl⟩
    · exact ⟨rfl, rfl, rfl⟩
  | answered offered handle =>
    obtain ⟨-, rfl⟩ := answer_map_some.mp hw
    exact ⟨rfl, rfl, rfl⟩
  | hangup handle =>
    cases hw
    rw [cleanupWebrtc_eq]
    exact ⟨rfl, rfl, rfl⟩
  | detached handle =>
    cases hw
    rw [detach_eq]
    exact ⟨rfl, rfl, rfl⟩
  | remoteTrack handle added now =>
    cases hw
    cases added <;> exact ⟨rfl, rfl, rfl⟩
  | sample =>
    cases hw
    unfold onSample
    split
    · split <;> exact ⟨rfl, rfl, rfl⟩
    · exact ⟨rfl, rfl, rfl⟩
  | listFailed k | answerFailed offered handle | statsFailed =>
    obtain ⟨-, rfl⟩ := answer_some.mp hw
    exact ⟨rfl, rfl, rfl⟩
  | _ => exact absurd he (by simp [ViewerEvent.ofHandles])

/-- A local re-subscribe leaves MQTT and the sessions alone. -/
theorem resubscribe_kept (now : Nat) (v : ViewerState) : (v.resubscribe now).app = v.app ∧
    (v.resubscribe now).janus = v.janus ∧ (v.resubscribe now).sessions = v.sessions := by
  simp only [resubscribe]
  rw [detachSubscriber_eq]
  split
  · rw [requestAndAttachPublisher_eq]
    exact ⟨rfl, rfl, rfl⟩
  · exact ⟨rfl, rfl, rfl⟩

/-! ### The MQTT part -/

theorem app_destroySession (v : ViewerState) : v.destroySession.app = v.app := by
  rcases v.destroySession_cases with ⟨k, -, -, heq⟩ | ⟨-, heq⟩
  · rw [heq]
  · rw [heq]
    rfl

theorem app_onMqtt (e : AppEvent) (v : ViewerState) : (v.onMqtt e).app = v.app := by
  cases e with
  | close k =>
    simp only [onMqtt]
    split
    · exact app_destroySession _
    · rfl
  | disconnect how =>
    cases how with
    | disconnectBtn => exact app_destroySession v
    | mqttDisconnect => rfl
  | _ => rfl

theorem app_connect (v : ViewerState) : v.connect.app = v.app := by
  unfold connect
  split <;> rfl

/-- A step of the viewer is one of its MQTT part, or leaves that alone. -/
theorem app_step {e : ViewerEvent} (h : v.step e = some w) :
    w.app = v.app ∨ ∃ a, v.app.step a = some w.app := by
  obtain ⟨-, hw⟩ := step_some.mp h
  cases e with
  | mqtt e =>
    obtain ⟨a, ha, rfl⟩ := Option.map_eq_some_iff.mp hw
    exact .inr ⟨e, by rw [app_onMqtt, ha]⟩
  | message ready =>
    cases hw
    unfold onMessage
    split
    · simp only
      split
      · exact .inl (app_connect _)
      · exact .inl rfl
    · exact .inl rfl
  | connectBtn =>
    cases hw
    exact .inl v.app_connect
  | created k =>
    cases hw
    rw [onCreated, attachManager_eq]
    exact .inl rfl
  | destroyed k =>
    cases hw
    exact .inl (app_destroySession _)
  | stats bytesReceived now =>
    obtain ⟨-, rfl⟩ := answer_map_some.mp hw
    unfold onStats
    simp only
    split
    · split
      · exact .inl (resubscribe_kept now _).1
      · exact .inr ⟨.stall, by rw [restart, app_destroySession]; rfl⟩
    · exact .inl rfl
  | editRoom roomId | refused k | dropped k | lost k =>
    cases hw
    exact .inl rfl
  | _ => exact .inl (handles_step rfl h).1

/-- In every run of the viewer its MQTT part takes a run of its own. -/
theorem app_run {es : List ViewerEvent} (h : run ViewerState.step .initial es = some v) :
    ∃ as, run App.step .initial as = some v.app := by
  refine run_invariant (I := fun v ↦ ∃ as, run App.step .initial as = some v.app)
    ⟨[], rfl⟩ ?_ h
  rintro u e t ⟨as, has⟩ ht
  rcases app_step ht with hsame | ⟨a, ha⟩
  · exact ⟨as, hsame ▸ has⟩
  · exact ⟨as ++ [a], run_concat_some.mpr ⟨u.app, has, ha⟩⟩

end ViewerState

end Esp32Robot.Viewer

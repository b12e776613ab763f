import Esp32Robot.Base.Run
import Esp32Robot.Webrtc.MqttControl

/-!
# The web viewer

What `webrtc_public_gateway/web/app.js` does over MQTT: its client, its heartbeat
interval, and the commands that it publishes. Of the MQTT library the viewer
uses the `connected` flag and two events: `connect`, for a client that is not
ended, and `close`, for any client, also late for one that was ended.
-/

namespace Esp32Robot.Viewer

open Esp32Robot.Base Esp32Robot.Webrtc

/-- A client that `mqtt.connect` returned. -/
structure MqttClient where
  connected : Bool
  ended : Bool
  deriving DecidableEq, Repr

/-- The variables of `app.js:12–13`, every client made so far, the intervals that are set, whether
the topic field holds the command topic of the P4, and what was published there, oldest first. -/
structure App where
  mqttClient : Option Nat
  clients : List MqttClient
  heartbeatTimer : Option Nat
  intervals : List Nat
  nextInterval : Nat
  cmdTopic : Bool
  published : List CString
  deriving DecidableEq

namespace App

/-- The page was just loaded. -/
def initial : App where
  mqttClient := none
  clients := []
  heartbeatTimer := none
  intervals := []
  nextInterval := 0
  cmdTopic := true
  published := []

/-- `mqttClient && mqttClient.connected`. -/
def connected (v : App) : Bool :=
  match v.mqttClient with
  | some k => (v.clients[k]?.map MqttClient.connected).getD false
  | none => false

/-- `mqttClient.publish` of a command. -/
def publish (cmd : CString) (v : App) : App := { v with published := v.published ++ [cmd] }

/-- `mqttClient && mqttClient.connected && cmdTopic`. -/
def canPublish (v : App) : Bool := v.connected && v.cmdTopic

/-- Publish a command when connected, to the topic in the field, as `app.js:283–286`, `463–466`,
`501–511`, `521–530` and `713–716` do. -/
def publishIfConnected (cmd : CString) (v : App) : App := if v.canPublish then v.publish cmd else v

/-- `if (heartbeatTimer) clearInterval(heartbeatTimer)`. -/
def clearHeartbeat (v : App) : App :=
  match v.heartbeatTimer with
  | some id => { v with intervals := v.intervals.filter (· ≠ id) }
  | none => v

/-- `mqttClient.end(true)` with `mqttClient = null`, when there is a client. -/
def endClient (v : App) : App :=
  match v.mqttClient with
  | some k => { v with
      clients := v.clients.modify k (fun c ↦ { c with ended := true })
      mqttClient := none }
  | none => v

/-- `mqttConnect`, `app.js:327–359`; `filled` tells whether the URL, the topics and the password
are given. -/
def mqttConnect (filled : Bool) (v : App) : App :=
  let v := v.endClient
  if filled then
    { v with mqttClient := some v.clients.length, clients := v.clients ++ [⟨false, false⟩] }
  else v

/-- The handler of `connect`, `app.js:361–407`, with the values of the two sliders. These go to the
topic in the field; `OPEN_WEBRTC` and each `HEARTBEAT` go to the topic that `mqttConnect` read,
which is taken to be that of the P4. -/
def onConnect (k : Nat) (speed step : CString) (v : App) : App :=
  let v := { v with clients := v.clients.modify k (fun c ↦ { c with connected := true }) }
  let v := v.publishIfConnected (.append (.lit "ROBOT_SPEED:") speed)
  let v := v.publishIfConnected (.append (.lit "SERVO_STEP:") step)
  let v := v.publish openWebrtcCmd
  let v := v.clearHeartbeat
  { v with
    heartbeatTimer := some v.nextInterval
    intervals := v.intervals ++ [v.nextInterval]
    nextInterval := v.nextInterval + 1 }

/-- The handler of `close`, `app.js:409–441`. -/
def onClose (k : Nat) (v : App) : App :=
  { clearHeartbeat
      { v with clients := v.clients.modify k (fun c ↦ { c with connected := false }) } with
    heartbeatTimer := none }

/-- The body of the heartbeat interval, `app.js:402–406`, for the topic that `mqttConnect` read. -/
def onInterval (v : App) : App := if v.connected then v.publish heartbeatCmd else v

/-- `mqttDisconnect`, `app.js:461–498`. -/
def mqttDisconnect (v : App) : App :=
  endClient { (v.publishIfConnected closeWebrtcCmd).clearHeartbeat with heartbeatTimer := none }

/-- The click handler of `disconnectBtn`, `app.js:711–719`. -/
def disconnectBtn (v : App) : App := v.publishIfConnected closeWebrtcCmd

/-- The end of a long stall, `app.js:280–286`. -/
def onStall (v : App) : App := v.publishIfConnected closeWebrtcCmd

/-- `mqttSendCommand` and `mqttPublishCommand`, `app.js:500–541`. -/
def sendCommand (cmd : CString) (v : App) : App :=
  if cmd.bytes = [] then v else v.publishIfConnected cmd

end App

/-- The two ways to disconnect. -/
inductive Disconnect where
  | disconnectBtn
  | mqttDisconnect
  deriving DecidableEq, Repr

/-- Run the handler of a disconnect. -/
def Disconnect.run : Disconnect → App → App
  | .disconnectBtn => App.disconnectBtn
  | .mqttDisconnect => App.mqttDisconnect

/-- What can happen in the viewer. -/
inductive AppEvent where
  | mqttConnect (filled : Bool)
  | connect (client : Nat) (speed step : CString)
  | close (client : Nat)
  | interval (id : Nat)
  | disconnect (how : Disconnect)
  | stall
  | send (cmd : CString)
  | editTopic (cmdTopic : Bool)
  deriving DecidableEq

/-- One step. A client connects when it is neither connected nor ended, and only an interval that
is set fires. -/
def App.step (v : App) : AppEvent → Option App
  | .mqttConnect filled => some (v.mqttConnect filled)
  | .connect k speed step =>
    if v.clients[k]? = some ⟨false, false⟩ then some (v.onConnect k speed step) else none
  | .close k => if k < v.clients.length then some (v.onClose k) else none
  | .interval id => if id ∈ v.intervals then some v.onInterval else none
  | .disconnect how => some (how.run v)
  | .stall => some v.onStall
  | .send cmd => some (v.sendCommand cmd)
  | .editTopic cmdTopic => some { v with cmdTopic }

/-- The viewer asks for a session: it connects, or the operator sends one of the two commands
that the P4 takes for a request. -/
def AppEvent.isOpenRequest : AppEvent → Bool
  | .connect _ _ _ => true
  | .send cmd => cmd = openWebrtcCmd || cmd = heartbeatCmd
  | _ => false

/-! ### Intervals and requests -/

/-- The command is none that the P4 takes for a request. -/
def NoRequest (cmd : CString) : Prop := cmd ≠ openWebrtcCmd ∧ cmd ≠ heartbeatCmd

theorem noRequest_close : NoRequest closeWebrtcCmd := ⟨by decide, by decide⟩

namespace App

variable {v w : App}

/-- Clearing the heartbeat clears the interval that its variable names. -/
theorem intervals_clearHeartbeat (h : v.intervals = v.heartbeatTimer.toList) :
    v.clearHeartbeat.intervals = [] := by
  unfold clearHeartbeat
  split
  · next id hid =>
    rw [h, hid]
    simp
  · next hnone =>
    rw [h, hnone]
    rfl

/-- Publishing when connected changes nothing but what is published. -/
theorem publishIfConnected_eq (cmd : CString) (v : App) :
    v.publishIfConnected cmd = { v with published := (v.publishIfConnected cmd).published } := by
  unfold publishIfConnected
  split <;> rfl

/-- Publishing when connected adds at most the command. -/
theorem published_publishIfConnected {P : CString → Prop} {cmd : CString} (h : P cmd) (v : App) :
    Extends P v.published (v.publishIfConnected cmd).published := by
  unfold publishIfConnected
  split
  · exact extends_concat v.published h
  · exact .refl v.published

/-- Clearing and ending publish nothing. -/
theorem published_clearHeartbeat (v : App) : v.clearHeartbeat.published = v.published := by
  unfold clearHeartbeat
  split <;> rfl

theorem endClient_kept (v : App) : v.endClient.published = v.published ∧
    v.endClient.intervals = v.intervals ∧ v.endClient.heartbeatTimer = v.heartbeatTimer := by
  unfold endClient
  split <;> exact ⟨rfl, rfl, rfl⟩

/-- The only interval that is set is the one that `heartbeatTimer` names. -/
theorem intervals_step {e : AppEvent} (h : v.intervals = v.heartbeatTimer.toList)
    (hw : v.step e = some w) : w.intervals = w.heartbeatTimer.toList := by
  have hpublish (cmd : CString) : (v.publishIfConnected cmd).intervals =
      (v.publishIfConnected cmd).heartbeatTimer.toList := by
    rw [publishIfConnected_eq]
    exact h
  cases e with
  | mqttConnect filled =>
    cases hw
    obtain ⟨_, hintervals, htimer⟩ := v.endClient_kept
    simp only [mqttConnect]
    split
    · exact hintervals.trans (h.trans (by rw [htimer]))
    · exact hintervals.trans (h.trans (by rw [htimer]))
  | connect k speed servo =>
    simp only [step] at hw
    split at hw
    · cases hw
      simp only [onConnect]
      rw [intervals_clearHeartbeat]
      · rfl
      · simp only [publish]
        rw [publishIfConnected_eq, publishIfConnected_eq]
        exact h
    · exact absurd hw (by simp)
  | close k =>
    simp only [step] at hw
    split at hw
    · cases hw
      exact intervals_clearHeartbeat h
    · exact absurd hw (by simp)
  | interval id =>
    simp only [step] at hw
    split at hw
    · cases hw
      unfold onInterval
      split
      · exact h
      · exact h
    · exact absurd hw (by simp)
  | disconnect how =>
    cases hw
    cases how with
    | disconnectBtn => exact hpublish _
    | mqttDisconnect =>
      simp only [Disconnect.run, mqttDisconnect]
      obtain ⟨_, hintervals, htimer⟩ := endClient_kept
        { (v.publishIfConnected closeWebrtcCmd).clearHeartbeat with heartbeatTimer := none }
      rw [hintervals, htimer]
      exact intervals_clearHeartbeat (hpublish _)
  | stall =>
    cases hw
    exact hpublish _
  | send cmd =>
    cases hw
    unfold sendCommand
    split
    · exact h
    · exact hpublish cmd
  | editTopic cmdTopic =>
    cases hw
    exact h

/-- Without an interval, a viewer that makes no open request sets none. -/
theorem intervals_silent {e : AppEvent} (h : v.intervals = []) (he : e.isOpenRequest = false)
    (hw : v.step e = some w) : w.intervals = [] := by
  have hpublish (cmd : CString) : (v.publishIfConnected cmd).intervals = [] := by
    rw [publishIfConnected_eq]
    exact h
  have hclear {x : App} (hx : x.intervals = []) : x.clearHeartbeat.intervals = [] := by
    unfold clearHeartbeat
    split
    · simp [hx]
    · exact hx
  cases e with
  | mqttConnect filled =>
    cases hw
    obtain ⟨_, hintervals, _⟩ := v.endClient_kept
    simp only [mqttConnect]
    split
    · exact hintervals.trans h
    · exact hintervals.trans h
  | connect k speed servo => exact absurd he (by simp [AppEvent.isOpenRequest])
  | close k =>
    simp only [step] at hw
    split at hw
    · cases hw
      exact hclear h
    · exact absurd hw (by simp)
  | interval id =>
    simp only [step, h, List.not_mem_nil, if_false] at hw
    exact absurd hw (by simp)
  | disconnect how =>
    cases hw
    cases how with
    | disconnectBtn => exact hpublish _
    | mqttDisconnect =>
      simp only [Disconnect.run, mqttDisconnect]
      rw [(endClient_kept _).2.1]
      exact hclear (hpublish _)
  | stall =>
    cases hw
    exact hpublish _
  | send cmd =>
    cases hw
    unfold sendCommand
    split
    · exact h
    · exact hpublish cmd
  | editTopic cmdTopic =>
    cases hw
    exact h

/-- Commands are only added, and without an open request and an interval none is a request. -/
theorem published_step {e : AppEvent} (hw : v.step e = some w) :
    Extends (fun cmd ↦ e.isOpenRequest = false → v.intervals = [] → NoRequest cmd)
      v.published w.published := by
  cases e with
  | mqttConnect filled =>
    cases hw
    simp only [mqttConnect]
    split <;> exact v.endClient_kept.1 ▸ .refl _
  | connect k speed servo =>
    simp only [step] at hw
    split at hw
    · cases hw
      -- the event is an open request, so any command may be added
      have hany {cmd : CString} : (AppEvent.connect k speed servo).isOpenRequest = false →
          v.intervals = [] → NoRequest cmd := fun he ↦ absurd he (by simp [AppEvent.isOpenRequest])
      simp only [onConnect, published_clearHeartbeat]
      apply Extends.trans _ (extends_concat _ hany)
      apply Extends.trans _ (published_publishIfConnected hany _)
      exact published_publishIfConnected hany _
    · exact absurd hw (by simp)
  | close k =>
    simp only [step] at hw
    split at hw
    · cases hw
      simp only [onClose, published_clearHeartbeat]
      exact .refl _
    · exact absurd hw (by simp)
  | interval id =>
    simp only [step] at hw
    split at hw
    · next hid =>
      cases hw
      unfold onInterval
      split
      · apply extends_concat
        intro _ hnone
        rw [hnone] at hid
        exact absurd hid List.not_mem_nil
      · exact .refl _
    · exact absurd hw (by simp)
  | disconnect how =>
    cases hw
    have hpublish := published_publishIfConnected (v := v)
      (P := fun cmd ↦ (AppEvent.disconnect how).isOpenRequest = false → v.intervals = [] →
        NoRequest cmd) (fun _ _ ↦ noRequest_close)
    cases how with
    | disconnectBtn => exact hpublish
    | mqttDisconnect =>
      simp only [Disconnect.run, mqttDisconnect]
      rw [(endClient_kept _).1]
      simp only [published_clearHeartbeat]
      exact hpublish
  | stall =>
    cases hw
    exact published_publishIfConnected (fun _ _ ↦ noRequest_close) v
  | send cmd =>
    cases hw
    unfold sendCommand
    split
    · exact .refl _
    · apply published_publishIfConnected
      intro he _
      simpa [AppEvent.isOpenRequest, NoRequest] using he
  | editTopic cmdTopic =>
    cases hw
    exact .refl _

/-- A disconnect that publishes the close, and what it publishes. -/
theorem published_disconnect (h : v.canPublish = true) (how : Disconnect) :
    (how.run v).published = v.published ++ [closeWebrtcCmd] := by
  have hpublish : (v.publishIfConnected closeWebrtcCmd).published =
      v.published ++ [closeWebrtcCmd] := by
    unfold publishIfConnected
    rw [if_pos h]
    rfl
  cases how with
  | disconnectBtn => exact hpublish
  | mqttDisconnect =>
    simp only [Disconnect.run, mqttDisconnect]
    rw [(endClient_kept _).1]
    simp only [published_clearHeartbeat, hpublish]

end App

end Esp32Robot.Viewer

import Esp32Robot.Webrtc.Sessions

/-!
# Network state

`IDF_esp32p4_webrtc/common/network.c` in the Wi-Fi build: the handler of Wi-Fi and
IP events, the manual reconnect, and the callback that tells the application of
changes. The flag `network_connected` is that of `P4State`, whose
`networkSetConnected` is the notifier.
-/

namespace Esp32Robot.Webrtc

open Esp32Robot.Base

/-- `wifi_config.sta`, without the zeros that fill up the two fields. -/
structure WifiConfig where
  ssid : List UInt8
  password : List UInt8
  deriving DecidableEq, Repr

/-- Calls into the Wi-Fi driver and the credentials store. -/
inductive WifiCall where
  | setConfig (config : WifiConfig)
  | start
  | stop
  | connect
  | disconnect
  | storeToNvs (config : WifiConfig)
  deriving DecidableEq, Repr

/-- The P4 with its Wi-Fi: the values passed to `connect_cb` and the driver calls, oldest
first. -/
structure Network where
  p4 : P4State
  wifiConfig : WifiConfig
  delivered : List Bool
  calls : List WifiCall
  deriving DecidableEq

/-- The first bytes of a text that fit a field of `size` bytes with its terminator:
`strncpy(field, text, sizeof(field) - 1)`. -/
def copyText (size : Nat) (text : CString) : List UInt8 := text.bytes.take (size - 1)

/-- `set_wifi_credentials`, `network.c:55–64`. -/
def setWifiCredentials (ssid password : Option CString) : WifiConfig where
  ssid := (ssid.map (copyText 32)).getD []
  password := (password.map (copyText 64)).getD []

/-- `has_text`, `network.c:53`. -/
def hasText (text : Option CString) : Bool := text.any (fun t ↦ t.bytes ≠ [])

namespace Network

/-- `network_is_connected`, `network.c:41`. -/
def isConnected (s : Network) : Bool := s.p4.networkConnected

/-- Make a driver call. -/
def call (c : WifiCall) (s : Network) : Network := { s with calls := s.calls ++ [c] }

/-- `network_set_connected` with `network_event_handler` as the callback, `network.c:32–39`. -/
def setConnected (rssi : Int) (connected : Bool) (s : Network) : Network :=
  { s with
    p4 := networkSetConnected rssi connected s.p4
    delivered :=
      if s.p4.networkConnected ≠ connected then s.delivered ++ [connected] else s.delivered }

/-- The state after `network_init`, `network.c:130–161`, with the credentials found in the
store. -/
def init (ssid password : Option CString) (nvs : Option WifiConfig) : Network :=
  let config :=
    if hasText ssid then setWifiCredentials ssid password
    else nvs.getD (setWifiCredentials ssid password)
  { p4 := .initial, wifiConfig := config, delivered := [],
    calls := [.setConfig config, .start] }

/-- `network_connect_wifi`, `network.c:168–184`. It clears the flag itself. -/
def connectWifi (ssid password : Option CString) (s : Network) : Network :=
  let config : WifiConfig :=
    { ssid := (ssid.map (copyText 32)).getD s.wifiConfig.ssid
      password := (password.map (copyText 64)).getD s.wifiConfig.password }
  let s := { s with wifiConfig := config, p4 := { s.p4 with networkConnected := false } }
  (((s.call .disconnect).call .stop).call (.setConfig config)).call .start

end Network

/-- The events that `event_handler` is registered for, and tells apart. -/
inductive WifiEvent where
  | staStart
  | staDisconnected
  | staGotIp
  | other
  deriving DecidableEq, Repr

/-- `event_handler`, `network.c:115–128`. -/
def Network.eventHandler (rssi : Int) (event : WifiEvent) (s : Network) : Network :=
  match event with
  | .staStart => s.call .connect
  | .staDisconnected => (s.setConnected rssi false).call .connect
  | .staGotIp => (s.setConnected rssi true).call (.storeToNvs s.wifiConfig)
  | .other => s

/-- What can happen: a Wi-Fi or IP event, a call of `network_connect_wifi`, or anything else on
the P4. -/
inductive NetworkEvent where
  | wifi (rssi : Int) (event : WifiEvent)
  | connectWifi (ssid password : Option CString)
  | p4 (input : P4Input)
  deriving DecidableEq

/-- One step. The network callback of the P4 comes from the notifier only. -/
def Network.step (s : Network) : NetworkEvent → Option Network
  | .wifi rssi event => some (s.eventHandler rssi event)
  | .connectWifi ssid password => some (s.connectWifi ssid password)
  | .p4 input =>
    match input.event with
    | .network _ _ => none
    | _ => (s.p4.step input).map (fun p ↦ { s with p4 := p })

/-! ### The flag and the delivered values -/

/-- The delivered values alternate, beginning with true, and the flag is the last one. -/
structure Notified (s : Network) : Prop where
  alternates : Changes false s.delivered
  flag : s.isConnected = lastOr false s.delivered

/-- From `s` to `t` a loss of the connection, if there is one, was delivered, and MQTT and
WebRTC are stopped. -/
def LossDelivered (s t : Network) : Prop :=
  s.isConnected = true → t.isConnected = false →
    t.delivered = s.delivered ++ [false] ∧ t.p4.mqttStarted = false ∧ t.p4.running = false

/-- All along the run the delivered values agree with the flag, and every loss is delivered. -/
def Notifies (s₀ : Network) (es : List NetworkEvent) : Prop :=
  (∀ pre s, pre <+: es → run Network.step s₀ pre = some s → Notified s) ∧
    StepsMeet (fun s e ↦ ∀ t, s.step e = some t → LossDelivered s t) Network.step s₀ es

/-- A manual reconnect finds the connection down. -/
def ReconnectsWhileDown (s : Network) : NetworkEvent → Prop
  | .connectWifi _ _ => s.isConnected = false
  | _ => True

/-- The notifier sets the flag. -/
theorem networkConnected_networkSetConnected (rssi : Int) (connected : Bool) (s : P4State) :
    (networkSetConnected rssi connected s).networkConnected = connected := by
  unfold networkSetConnected
  split
  · cases connected with
    | true =>
      simp only [networkEventHandler, if_true]
      split <;> rfl
    | false =>
      simp only [networkEventHandler, Bool.false_eq_true, if_false]
      split <;> rfl
  · next h => exact Decidable.not_not.mp h

/-- On a loss of the connection the application stops MQTT and WebRTC. -/
theorem stopped_networkSetConnected (rssi : Int) {s : P4State} (h : s.networkConnected = true) :
    (networkSetConnected rssi false s).mqttStarted = false ∧
      (networkSetConnected rssi false s).running = false := by
  have hlost : networkSetConnected rssi false s =
      networkEventHandler rssi false { s with networkConnected := false } := by
    unfold networkSetConnected
    rw [h]
    rfl
  rw [hlost, networkEventHandler, if_neg Bool.false_ne_true]
  constructor
  · simp only [P4State.stopWebrtc]
    split
    · rfl
    · next hstarted => exact Bool.not_eq_true _ ▸ hstarted
  · have hstop (d : DoorBell) : (stopWebrtc d).webrtc = none := (stopWebrtc_spec d).1
    simp only [P4State.running, P4State.stopWebrtc, webrtcIsRunning, hstop, Option.isSome_none]

/-- Whatever else happens on the P4 leaves the flag. -/
theorem networkConnected_step {s t : P4State} {i : P4Input}
    (hi : ∀ rssi connected, i.event ≠ .network rssi connected) (ht : s.step i = some t) :
    t.networkConnected = s.networkConnected := by
  obtain ⟨now, event⟩ := i
  cases event with
  | command cmd outcome =>
    cases ht
    cases cmd with
    | none => rfl
    | some cmd =>
      rcases mqttControlCmdHandler_cases now cmd outcome s with ⟨_, h⟩ | ⟨_, h⟩ | ⟨_, h⟩
      · rw [h, requestOpen]
        split <;> rfl
      · rw [h]
        rfl
      · rw [h]
  | tick rssi outcome =>
    cases ht
    simp only [mqttControlLoop, publishPeriodically, publishChange, publishWebrtcStatus]
    repeat' split
    all_goals rfl
  | network rssi connected => exact absurd rfl (hi rssi connected)
  | mqtt connected =>
    simp only [P4State.step] at ht
    split at ht
    · cases ht
      rfl
    · exact absurd ht (by simp)
  | webrtcEvent event =>
    simp only [P4State.step] at ht
    split at ht
    · cases ht
      rfl
    · exact absurd ht (by simp)
  | retryStart =>
    obtain ⟨d, _, rfl⟩ := Option.map_eq_some_iff.mp ht
    rfl
  | retryIteration outcome =>
    obtain ⟨d, _, rfl⟩ := Option.map_eq_some_iff.mp ht
    rfl

/-- After `network_init` nothing was delivered, and the network is down. -/
theorem notified_init (ssid password : Option CString) (nvs : Option WifiConfig) :
    Notified (.init ssid password nvs) := ⟨throughout_nil, rfl⟩

/-- The notifier delivers exactly the changes of the flag. -/
theorem notified_setConnected {s : Network} (h : Notified s) (rssi : Int) (connected : Bool) :
    Notified (s.setConnected rssi connected) ∧
      LossDelivered s (s.setConnected rssi connected) := by
  have hflag : (s.setConnected rssi connected).isConnected = connected :=
    networkConnected_networkSetConnected rssi connected s.p4
  by_cases hc : s.isConnected = connected
  · have hsame : (s.setConnected rssi connected).delivered = s.delivered :=
      if_neg (not_not_intro hc)
    refine ⟨⟨by rw [hsame]; exact h.alternates, by rw [hsame, hflag, ← hc]; exact h.flag⟩, ?_⟩
    intro hup hdown
    rw [hflag, ← hc, hup] at hdown
    exact absurd hdown (by decide)
  · have hnew : (s.setConnected rssi connected).delivered = s.delivered ++ [connected] :=
      if_pos hc
    refine ⟨⟨?_, by rw [hnew, lastOr_concat, hflag]⟩, ?_⟩
    · rw [hnew, changes_concat, ← h.flag]
      exact ⟨h.alternates, Ne.symm hc⟩
    · intro hup hdown
      obtain rfl : connected = false := hflag.symm.trans hdown
      exact ⟨hnew, stopped_networkSetConnected rssi hup⟩

/-- Driver calls change neither the flag nor the delivered values. -/
theorem Notified.call {s t : Network} (h : Notified t ∧ LossDelivered s t) (c : WifiCall) :
    Notified (t.call c) ∧ LossDelivered s (t.call c) := ⟨⟨h.1.alternates, h.1.flag⟩, h.2⟩

/-- A step that keeps the flag and delivers nothing loses no notification. -/
theorem Notified.keep {s t : Network} (h : Notified s) (hflag : t.isConnected = s.isConnected)
    (hdelivered : t.delivered = s.delivered) : Notified t ∧ LossDelivered s t := by
  refine ⟨⟨by rw [hdelivered]; exact h.alternates, by rw [hflag, hdelivered]; exact h.flag⟩, ?_⟩
  intro hup hdown
  rw [hflag, hup] at hdown
  exact absurd hdown (by decide)

/-- Every step, if it is no manual reconnect of a connected network, keeps the agreement and
delivers a loss. -/
theorem notified_step {s t : Network} {e : NetworkEvent} (h : Notified s)
    (he : ReconnectsWhileDown s e) (ht : s.step e = some t) : Notified t ∧ LossDelivered s t := by
  cases e with
  | wifi rssi event =>
    cases ht
    cases event with
    | staStart => exact Notified.call (h.keep rfl rfl) .connect
    | staDisconnected => exact Notified.call (notified_setConnected h rssi false) .connect
    | staGotIp => exact Notified.call (notified_setConnected h rssi true) _
    | other => exact h.keep rfl rfl
  | connectWifi ssid password =>
    cases ht
    exact h.keep (Eq.symm he) rfl
  | p4 input =>
    simp only [Network.step] at ht
    split at ht
    · exact absurd ht (by simp)
    · next hevent =>
      obtain ⟨p, hp, rfl⟩ := Option.map_eq_some_iff.mp ht
      exact h.keep (networkConnected_step hevent hp) rfl

/-- A manual reconnect of a connected network clears the flag without telling the callback. -/
theorem not_notified_connectWifi {s : Network} (h : Notified s) (hup : s.isConnected = true)
    (ssid password : Option CString) : ¬ Notified (s.connectWifi ssid password) := by
  intro ht
  have hlast : lastOr false s.delivered = false := ht.flag.symm
  rw [← h.flag, hup] at hlast
  exact absurd hlast (by decide)

/-- The network comes up, is reconnected by hand, and comes up again. -/
private def manualReconnect : List NetworkEvent :=
  [.wifi (-50) .staStart, .wifi (-50) .staGotIp, .connectWifi (some (.lit "home")) none,
    .wifi (-50) .staDisconnected, .wifi (-50) .staGotIp]

/-- After a manual reconnect the flag is false, while the last value delivered is true. -/
theorem connectWifi_loses_notification :
    ¬ ∀ ssid password nvs es, Notifies (.init ssid password nvs) es := by
  intro h
  have hreconnected := (h none none none manualReconnect).1 (manualReconnect.take 3) _
    (List.take_prefix 3 _) rfl
  exact absurd hreconnected.flag (by decide)

/-- All along a run from `network_init` the callback gets alternating values, of which the flag
is the last one, and every loss of the connection, exactly when every manual reconnect finds
the connection down. -/
theorem notifies_iff (ssid password : Option CString) (nvs : Option WifiConfig)
    (es : List NetworkEvent) :
    Notifies (.init ssid password nvs) es ↔
      StepsMeet ReconnectsWhileDown Network.step (.init ssid password nvs) es := by
  have halong : (∀ pre s, pre <+: es → run Network.step (.init ssid password nvs) pre = some s →
      Notified s) ↔ StepsMeet ReconnectsWhileDown Network.step (.init ssid password nvs) es := by
    refine along_iff (notified_init ssid password nvs)
      (fun _ _ _ hu he ht ↦ (notified_step hu he ht).1) (fun _ hu ↦ hu) ?_
    intro s e hs hnext
    cases e with
    | wifi rssi event => trivial
    | p4 input => trivial
    | connectWifi ssid' password' =>
      have hafter := hnext _ rfl
      cases hup : s.isConnected with
      | false => exact hup
      | true => exact absurd hafter (not_notified_connectWifi hs hup ssid' password')
  constructor
  · intro hnotifies
    exact halong.mp hnotifies.1
  · intro hmeet
    refine ⟨halong.mpr hmeet, ?_⟩
    intro pre e post s hes hs t ht
    have hnotified := halong.mpr hmeet pre s ⟨_, hes.symm⟩ hs
    exact (notified_step hnotified (hmeet pre e post s hes hs) ht).2

end Esp32Robot.Webrtc

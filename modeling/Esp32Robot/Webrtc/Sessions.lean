import Esp32Robot.Webrtc.MqttControl

/-!
# What the session functions change

One lemma for each function of `webrtc.c` that starts, stops or retries a
session: the fields it keeps and the calls it can make.
-/

namespace Esp32Robot.Webrtc

open Esp32Robot.Base

/-- The call publishes a status. -/
def Effect.isStatus : Effect → Bool
  | .publishStatus _ => true
  | _ => false

/-- The function from `d` to `e` keeps the speeds and the offered frames, and publishes no
status. -/
structure SessionOnly (d e : DoorBell) : Prop where
  commands : e.commands = d.commands
  effects : Extends (fun x ↦ x.isStatus = false) d.effects e.effects

namespace SessionOnly

variable {a b c : DoorBell}

/-- Doing nothing. -/
theorem refl (d : DoorBell) : SessionOnly d d := ⟨rfl, .refl d.effects⟩

/-- One function after another. -/
theorem trans (hab : SessionOnly a b) (hbc : SessionOnly b c) : SessionOnly a c :=
  ⟨hbc.commands.trans hab.commands, hab.effects.trans hbc.effects⟩

/-- Changing other fields. -/
theorem of_eq (hcommands : b.commands = a.commands) (heffects : b.effects = a.effects) :
    SessionOnly a b := by
  refine ⟨hcommands, ?_⟩
  rw [heffects]
  exact .refl a.effects

/-- A call that is no status message, after changes to other fields. -/
theorem emit {e : Effect} (hcommands : b.commands = a.commands) (heffects : b.effects = a.effects)
    (he : e.isStatus = false) : SessionOnly a (b.emit e) := by
  refine ⟨hcommands, ?_⟩
  rw [DoorBell.emit, heffects]
  exact extends_concat a.effects he

end SessionOnly

/-! ### Closing and retrying -/

/-- Cleaning up leaves no session. -/
@[simp] theorem webrtc_cleanupWebrtcHandle (d : DoorBell) :
    (cleanupWebrtcHandle d).webrtc = none := by
  unfold cleanupWebrtcHandle
  split
  · assumption
  · rfl

/-- Without a session there is nothing to clean up. -/
theorem cleanupWebrtcHandle_of_none {d : DoorBell} (h : d.webrtc = none) :
    cleanupWebrtcHandle d = d := by
  simp only [cleanupWebrtcHandle, h]

/-- Cleaning up keeps the retry state and the count of handles. -/
theorem cleanupWebrtcHandle_kept (d : DoorBell) :
    (cleanupWebrtcHandle d).janusRetryStop = d.janusRetryStop ∧
      (cleanupWebrtcHandle d).nextHandle = d.nextHandle ∧
      (cleanupWebrtcHandle d).retryCreated = d.retryCreated ∧
      (cleanupWebrtcHandle d).retryLooping = d.retryLooping := by
  unfold cleanupWebrtcHandle
  split <;> exact ⟨rfl, rfl, rfl, rfl⟩

/-- Cleaning up only closes a handle. -/
theorem sessionOnly_cleanupWebrtcHandle (d : DoorBell) : SessionOnly d (cleanupWebrtcHandle d) := by
  unfold cleanupWebrtcHandle
  split
  · exact .refl d
  · exact .emit rfl rfl rfl

/-- A retry is not scheduled once it is stopped. -/
theorem scheduleJanusRetry_of_stop {d : DoorBell} (h : d.janusRetryStop = true) (net : Bool) :
    scheduleJanusRetry net d = d := by
  simp [scheduleJanusRetry, h]

/-- Scheduling a retry only creates a thread. -/
theorem sessionOnly_scheduleJanusRetry (net : Bool) (d : DoorBell) :
    SessionOnly d (scheduleJanusRetry net d) := by
  unfold scheduleJanusRetry
  split
  · exact .refl d
  · exact .emit rfl rfl rfl

/-! ### Starting and stopping -/

/-- Opening and starting only makes session calls. -/
theorem sessionOnly_openAndStart (net : Bool) (outcome : StartOutcome) (d : DoorBell) :
    SessionOnly d (openAndStart net outcome d).2 := by
  have hkey : SessionOnly d ({ d with monitorKey := true }.emit .createKeyThread) :=
    .emit rfl rfl rfl
  have hfail (b : DoorBell) : SessionOnly b (scheduleJanusRetry net (cleanupWebrtcHandle b)) :=
    (sessionOnly_cleanupWebrtcHandle b).trans (sessionOnly_scheduleJanusRetry net _)
  have hopen (b : DoorBell) : SessionOnly b (openSession b) := by
    refine .trans ?_ (.emit rfl rfl rfl)
    refine .trans ?_ (.emit rfl rfl rfl)
    refine .trans ?_ (.emit rfl rfl rfl)
    exact .emit rfl rfl rfl
  cases outcome with
  | openFails => exact hkey.trans (hfail _)
  | startFails => exact hkey.trans ((hopen _).trans (hfail _))
  | starts =>
    refine hkey.trans ((hopen _).trans (.trans ?_ (.emit rfl rfl rfl)))
    exact .emit rfl rfl rfl

/-- After its entry, starting only makes session calls. -/
theorem sessionOnly_emit_startWebrtc (net : Bool) (outcome : StartOutcome) (d : DoorBell) :
    SessionOnly (d.emit .startWebrtc) (startWebrtc net outcome d).2 := by
  simp only [startWebrtc]
  split
  · exact .refl _
  · refine .trans ?_ (sessionOnly_openAndStart net outcome _)
    split
    · refine .trans ?_ (sessionOnly_cleanupWebrtcHandle _)
      exact .of_eq rfl rfl
    · exact .of_eq rfl rfl

/-- Starting only makes session calls. -/
theorem sessionOnly_startWebrtc (net : Bool) (outcome : StartOutcome) (d : DoorBell) :
    SessionOnly d (startWebrtc net outcome d).2 :=
  .trans (.emit rfl rfl rfl) (sessionOnly_emit_startWebrtc net outcome d)

/-- Stopping leaves no session, disables the retry and keeps the threads. -/
theorem stopWebrtc_spec (d : DoorBell) :
    (stopWebrtc d).webrtc = none ∧ (stopWebrtc d).janusRetryStop = true := by
  obtain ⟨hstop, _⟩ := cleanupWebrtcHandle_kept
    { d.emit .stopWebrtc with janusRetryStop := true, webrtcConnected := false }
  exact ⟨webrtc_cleanupWebrtcHandle _, hstop⟩

/-- After its entry, stopping only makes session calls. -/
theorem sessionOnly_emit_stopWebrtc (d : DoorBell) :
    SessionOnly (d.emit .stopWebrtc) (stopWebrtc d) := by
  refine .trans ?_ (sessionOnly_cleanupWebrtcHandle _)
  exact .of_eq rfl rfl

/-- Stopping only makes session calls. -/
theorem sessionOnly_stopWebrtc (d : DoorBell) : SessionOnly d (stopWebrtc d) :=
  .trans (.emit rfl rfl rfl) (sessionOnly_emit_stopWebrtc d)

/-! ### Status messages -/

/-- The reason that a status message gives. -/
def Effect.reason : Effect → Option StatusReason
  | .publishStatus status => status.reason
  | _ => none

/-- A call that publishes no status gives no reason. -/
theorem Effect.reason_of_not_status {e : Effect} (h : e.isStatus = false) : e.reason = none := by
  cases e with
  | publishStatus status => exact absurd h (by simp [isStatus])
  | _ => rfl

/-- Between `s` and `t` a status with the reason was published. -/
def Publishes (r : StatusReason) (s t : P4State) : Prop :=
  ∃ ext, t.doorBell.effects = s.doorBell.effects ++ ext ∧ ∃ e ∈ ext, e.reason = some r

/-- A log extended by calls with other reasons published none with this one. -/
theorem not_publishes {r : StatusReason} {s t : P4State}
    (h : Extends (fun e ↦ e.reason ≠ some r) s.doorBell.effects t.doorBell.effects) :
    ¬ Publishes r s t := by
  rintro ⟨ext, hext, e, he, hr⟩
  rw [hext] at h
  exact h.of_append e he hr

/-- The session functions give no reason. -/
theorem SessionOnly.noReason {d e : DoorBell} (h : SessionOnly d e) (r : StatusReason) :
    Extends (fun x ↦ x.reason ≠ some r) d.effects e.effects := by
  apply h.effects.mono
  intro x hx
  rw [Effect.reason_of_not_status hx]
  exact (Option.some_ne_none r).symm

/-- From `s` to `t` only status messages without a reason were published. -/
structure StatusOnly (s t : P4State) : Prop where
  doorBell : t.doorBell = { s.doorBell with effects := t.doorBell.effects }
  lastHeartbeatMs : t.lastHeartbeatMs = s.lastHeartbeatMs
  lastOpenRequestMs : t.lastOpenRequestMs = s.lastOpenRequestMs
  lastRecoverMs : t.lastRecoverMs = s.lastRecoverMs
  effects : Extends (fun x ↦ x.isStatus = true ∧ x.reason = none)
    s.doorBell.effects t.doorBell.effects

namespace StatusOnly

variable {s t u : P4State}

/-- Nothing published. -/
theorem refl (s : P4State) : StatusOnly s s := ⟨rfl, rfl, rfl, rfl, .refl _⟩

/-- One message after another. -/
theorem trans (h : StatusOnly s t) (k : StatusOnly t u) : StatusOnly s u where
  doorBell := by rw [k.doorBell, h.doorBell]
  lastHeartbeatMs := k.lastHeartbeatMs.trans h.lastHeartbeatMs
  lastOpenRequestMs := k.lastOpenRequestMs.trans h.lastOpenRequestMs
  lastRecoverMs := k.lastRecoverMs.trans h.lastRecoverMs
  effects := h.effects.trans k.effects

/-- The session is the same one. -/
theorem webrtc (h : StatusOnly s t) : t.doorBell.webrtc = s.doorBell.webrtc := by rw [h.doorBell]

end StatusOnly

/-- Before its two branches, the control loop only publishes its status. -/
theorem statusOnly_publish (now rssi : Int) (s : P4State) :
    StatusOnly s (publishPeriodically now rssi (publishChange rssi s)) := by
  have hchange : StatusOnly s (publishChange rssi s) := by
    simp only [publishChange]
    split
    · split <;> exact ⟨rfl, rfl, rfl, rfl, extends_concat _ ⟨rfl, rfl⟩⟩
    · exact .refl s
  apply hchange.trans
  unfold publishPeriodically
  split
  · exact ⟨rfl, rfl, rfl, rfl, extends_concat _ ⟨rfl, rfl⟩⟩
  · exact .refl _

end Esp32Robot.Webrtc

import Esp32Robot.Viewer.Session

/-!
# Escalation of stalls

When three stalls in one window lead to two local re-subscribes and a restart. The
window and its counter are also set by `oncleanup`, which the detach of a local
re-subscribe calls, and by `onremotetrack`, which the new subscriber calls.
-/

namespace Esp32Robot.Viewer

open Esp32Robot.Base Esp32Robot.Webrtc

/-- The start of the window and the stalls counted in it. -/
def Quality.window (q : Quality) : Nat × Nat := (q.stallWindowStartMs, q.stallCountInWindow)

/-- How many stalls the window has with one more. -/
def Quality.counted (now : Nat) (q : Quality) : Nat :=
  if q.expired now then 1 else q.stallCountInWindow + 1

namespace ViewerState

/-- A stall is detected. -/
def detects (v : ViewerState) : ViewerEvent → Bool
  | .stats bytesReceived now => (v.quality.receive bytesReceived now).stalls now
  | _ => false

/-- The detector finds more bytes than it found before. -/
def receivesMore (v : ViewerState) : ViewerEvent → Bool
  | .stats (some bytes) _ => v.quality.prevVideoBytes < bytes
  | _ => false

/-- A cleanup of the handle calls the `oncleanup` of a subscriber. -/
def cleansUp (h : Nat) (v : ViewerState) : Bool :=
  (v.handles[h]?.map (fun p ↦ p.attached && p.role = .subscriber)).getD false

/-- `subscriberHandle` is set, to a handle that is attached. -/
def hasSubscriber (v : ViewerState) : Bool := v.subscriberHandle.any (fun h ↦ v.cleansUp h)

/-- `Number.isFinite(roomId) && managerHandle`. -/
def canRequest (v : ViewerState) : Bool := v.roomId && v.managerHandle.isSome

/-- `destroySession` is done without waiting. -/
def endsAtOnce (v : ViewerState) : Bool := v.janus.all (fun k ↦ v.phase k ≠ some .live)

/-- The event runs `oncleanup`, `onremotetrack` for a new track, or `destroySession` to its end. -/
def resets (v : ViewerState) : ViewerEvent → Bool
  | .mqtt (.close _) => v.janus.isSome && v.endsAtOnce
  | .mqtt (.disconnect .disconnectBtn) => v.endsAtOnce
  | .destroyed _ => true
  | .participants _ participants => v.reattaches participants && v.hasSubscriber
  | .noSuchFeed _ => v.hasSubscriber
  | .hangup h | .detached h => v.cleansUp h
  | .remoteTrack _ added _ => added
  | _ => false

end ViewerState

/-- A stall that is detected: the states before and after the rest of a sample, and what it
read. -/
structure Stall where
  before : ViewerState
  after : ViewerState
  bytesReceived : Option Nat
  now : Nat
  step : before.step (.stats bytesReceived now) = some after
  detected : before.detects (.stats bytesReceived now) = true

/-- Three stalls that a run detects one after the other, the third at most a window after the
first. -/
structure ThreeStalls where
  first : Stall
  second : Stall
  third : Stall
  between₁ : List ViewerEvent
  between₂ : List ViewerEvent
  reached : ∃ es, run ViewerState.step .initial es = some first.before
  run₁ : run ViewerState.step first.after between₁ = some second.before
  run₂ : run ViewerState.step second.after between₂ = some third.before
  quiet₁ : StepsMeet (fun v e ↦ v.detects e = false) ViewerState.step first.after between₁
  quiet₂ : StepsMeet (fun v e ↦ v.detects e = false) ViewerState.step second.after between₂
  ordered₁ : first.now ≤ second.now
  ordered₂ : second.now ≤ third.now
  inWindow : third.now ≤ first.now + VIDEO_STALL_WINDOW_MS

/-- A local re-subscribe was performed, and nothing published. -/
structure Stall.Resubscribes (x : Stall) : Prop where
  recovery : x.after.recoveries = x.before.recoveries ++ [.resubscribe true]
  silent : x.after.app.published = x.before.app.published

/-- The close command was published when MQTT is connected, and the session was destroyed, or
asked to end. -/
structure Stall.Restarts (x : Stall) : Prop where
  recovery : x.after.recoveries = x.before.recoveries ++ [.restart x.before.app.connected]
  closed : x.after.app.published =
    x.before.app.published ++ if x.before.app.connected then [closeWebrtcCmd] else []
  destroyed : ∀ k, x.after.janus = some k →
    x.after.sessions[k]?.map JanusSession.destroying = some true

namespace ThreeStalls

/-- The first two stalls re-subscribe, and the third one restarts. -/
def Escalates (x : ThreeStalls) : Prop :=
  x.first.Resubscribes ∧ x.second.Resubscribes ∧ x.third.Restarts

/-- No more bytes are received in between. -/
def Dry (x : ThreeStalls) : Prop :=
  StepsMeet (fun v e ↦ v.receivesMore e = false) ViewerState.step x.first.after x.between₁ ∧
    StepsMeet (fun v e ↦ v.receivesMore e = false) ViewerState.step x.second.after x.between₂

/-- The first stall starts a window that lasts, and nothing resets it: the first two find no
subscriber to detach, and no event in between does. The re-subscribes can request a publisher, and
the close command has a topic. -/
structure OneWindow (x : ThreeStalls) : Prop where
  starts : x.first.before.quality.expired x.first.now = true ∨
    (x.first.before.quality.stallCountInWindow = 0 ∧
      x.first.before.quality.expired x.third.now = false)
  detachesNone₁ : x.first.before.hasSubscriber = false
  detachesNone₂ : x.second.before.hasSubscriber = false
  undisturbed₁ : StepsMeet (fun v e ↦ v.resets e = false) ViewerState.step x.first.after x.between₁
  undisturbed₂ : StepsMeet (fun v e ↦ v.resets e = false) ViewerState.step x.second.after x.between₂
  requests₁ : x.first.before.canRequest = true
  requests₂ : x.second.before.canRequest = true
  topic : x.third.before.app.connected = true → x.third.before.app.cmdTopic = true

end ThreeStalls

/-! ### The window between stalls -/

/-- Taking note of bytes leaves the window. -/
theorem Quality.window_receive (bytesReceived : Option Nat) (now : Nat) (q : Quality) :
    (q.receive bytesReceived now).window = q.window := by
  unfold receive
  split
  · split <;> rfl
  · rfl

namespace ViewerState

variable {v w : ViewerState}

theorem quality_cleanupWebrtc (h : Nat) (v : ViewerState) :
    (v.cleanupWebrtc h).quality = if v.cleansUp h then .initial else v.quality := by
  unfold cleanupWebrtc cleansUp
  split
  · next p hp =>
    by_cases hattached : p.attached
    · by_cases hrole : p.role = .subscriber
      · simp [hp, hattached, hrole, oncleanup]
      · simp [hp, hattached, hrole]
    · simp [hp, hattached]
  · next hnone => simp [hnone]

theorem quality_detach (h : Nat) (v : ViewerState) :
    (v.detach h).quality = if v.cleansUp h then .initial else v.quality :=
  quality_cleanupWebrtc h v

theorem quality_detachSubscriber (v : ViewerState) :
    v.detachSubscriber.quality = if v.hasSubscriber then .initial else v.quality := by
  unfold detachSubscriber hasSubscriber
  split
  · next h hh => simp [hh, quality_detach]
  · next hnone => simp [hnone]

theorem quality_destroySession (v : ViewerState) :
    v.destroySession.quality = if v.endsAtOnce then .initial else v.quality := by
  rcases v.destroySession_cases with ⟨k, hk, hlive, heq⟩ | ⟨hdead, heq⟩
  · simp [heq, endsAtOnce, hk, hlive]
  · have hends : v.endsAtOnce = true := by
      cases hjanus : v.janus with
      | none => simp [endsAtOnce, hjanus]
      | some k => simpa [endsAtOnce, hjanus] using hdead k hjanus
    rw [heq, if_pos hends]
    rfl

theorem quality_requestAndAttachPublisher (v : ViewerState) :
    v.requestAndAttachPublisher.quality = v.quality := by
  rw [requestAndAttachPublisher_eq]

theorem quality_onParticipants (participants : List Participant) (v : ViewerState) :
    (v.onParticipants participants).quality =
      if v.reattaches participants && v.hasSubscriber then .initial else v.quality := by
  cases hfind : participants.find? Participant.publishes with
  | none => simp [onParticipants, reattaches, hfind]
  | some p =>
    cases hsame : (v.selectedFeedId = some p.id && v.subscriberHandle.isSome : Bool) with
    | true => simp [onParticipants, reattaches, hfind, hsame]
    | false =>
      have hreattaches : v.reattaches participants = true := by
        simp only [reattaches, hfind, hsame, Bool.not_false]
      simp only [onParticipants, hfind, hsame, hreattaches, Bool.true_and]
      rw [if_neg (by decide), attachSubscriber_eq]
      exact quality_detachSubscriber v

theorem quality_onMqtt (e : AppEvent) (v : ViewerState) :
    (v.onMqtt e).quality = if v.resets (.mqtt e) then .initial else v.quality := by
  cases e with
  | close k =>
    by_cases hsome : v.janus.isSome
    · have hresets : v.resets (.mqtt (.close k)) = v.endsAtOnce := by simp [resets, hsome]
      have hclose : v.onMqtt (.close k) = destroySession { v with pendingWebrtcOpen := false } :=
        if_pos hsome
      rw [hresets, hclose, quality_destroySession]
      rfl
    · have hresets : v.resets (.mqtt (.close k)) = false := by simp [resets, hsome]
      have hclose : v.onMqtt (.close k) = { v with pendingWebrtcOpen := false } := if_neg hsome
      rw [hresets, hclose]
      rfl
  | disconnect how =>
    cases how with
    | disconnectBtn => exact quality_destroySession v
    | mqttDisconnect => rfl
  | _ => rfl

theorem quality_connect (v : ViewerState) : v.connect.quality = v.quality := by
  unfold connect
  split <;> rfl

/-- An event that detects no stall leaves the window, or resets it. -/
theorem window_step {e : ViewerEvent} (h : v.step e = some w) (hquiet : v.detects e = false) :
    w.quality.window = if v.resets e then (0, 0) else v.quality.window := by
  obtain ⟨-, hw⟩ := step_some.mp h
  have hcleanup (b : Bool) (q : Quality) :
      (if b then Quality.initial else q).window = if b then (0, 0) else q.window := by
    cases b <;> rfl
  cases e with
  | mqtt e =>
    obtain ⟨a, ha, rfl⟩ := Option.map_eq_some_iff.mp hw
    rw [quality_onMqtt, hcleanup]
    cases e with
    | disconnect how => cases how <;> rfl
    | _ => rfl
  | message ready =>
    cases hw
    unfold onMessage
    split
    · simp only
      split
      · rw [quality_connect]
        rfl
      · rfl
    · rfl
  | connectBtn =>
    cases hw
    rw [quality_connect]
    rfl
  | created k =>
    cases hw
    rw [onCreated, attachManager_eq]
    rfl
  | destroyed k =>
    cases hw
    rfl
  | attached k role =>
    obtain ⟨-, rfl⟩ := answer_map_some.mp hw
    cases role with
    | manager =>
      simp only [onAttached, quality_requestAndAttachPublisher]
      rfl
    | subscriber => rfl
  | attachFailed k role =>
    obtain ⟨-, rfl⟩ := answer_map_some.mp hw
    cases role <;> rfl
  | participants k participants =>
    obtain ⟨-, rfl⟩ := answer_map_some.mp hw
    rw [quality_onParticipants, hcleanup]
    rfl
  | publishersChanged handle =>
    cases hw
    rw [quality_requestAndAttachPublisher]
    rfl
  | noSuchFeed handle =>
    cases hw
    simp only [onNoSuchFeed, quality_requestAndAttachPublisher, quality_detachSubscriber, hcleanup]
    rfl
  | offer handle =>
    cases hw
    unfold onOffer
    simp only
    split
    · split <;> rfl
    · rfl
  | answered offered handle =>
    obtain ⟨-, rfl⟩ := answer_map_some.mp hw
    rfl
  | hangup handle =>
    cases hw
    rw [quality_cleanupWebrtc, hcleanup]
    rfl
  | detached handle =>
    cases hw
    rw [quality_detach, hcleanup]
    rfl
  | remoteTrack handle added now =>
    cases hw
    cases added <;> rfl
  | sample =>
    cases hw
    unfold onSample
    split
    · split <;> rfl
    · rfl
  | stats bytesReceived now =>
    obtain ⟨-, rfl⟩ := answer_map_some.mp hw
    have hcalm : (v.quality.receive bytesReceived now).stalls now = false := hquiet
    simp only [onStats, hcalm]
    exact Quality.window_receive bytesReceived now v.quality
  | listFailed k | answerFailed offered handle | statsFailed =>
    obtain ⟨-, rfl⟩ := answer_some.mp hw
    rfl
  | editRoom roomId | refused k | dropped k | lost k =>
    cases hw
    rfl

/-- A run that detects no stall leaves the window, or some event of it resets it. -/
theorem window_run {es : List ViewerEvent} (h : run ViewerState.step v es = some w)
    (hquiet : StepsMeet (fun v e ↦ v.detects e = false) ViewerState.step v es) :
    (StepsMeet (fun v e ↦ v.resets e = false) ViewerState.step v es ∧
      w.quality.window = v.quality.window) ∨
    (¬ StepsMeet (fun v e ↦ v.resets e = false) ViewerState.step v es ∧
      w.quality.window = (0, 0)) := by
  induction es generalizing v with
  | nil =>
    cases h
    exact .inl ⟨stepsMeet_nil, rfl⟩
  | cons e es ih =>
    obtain ⟨u, hu, hrun⟩ := run_cons_some.mp h
    obtain ⟨hfirst, hrest⟩ := stepsMeet_cons.mp hquiet
    have hwindow := window_step hu hfirst
    have hlater := ih hrun (hrest u hu)
    have hsplit : StepsMeet (fun v e ↦ v.resets e = false) ViewerState.step v (e :: es) ↔
        v.resets e = false ∧ StepsMeet (fun v e ↦ v.resets e = false) ViewerState.step u es := by
      rw [stepsMeet_cons]
      simp [hu]
    rw [hsplit]
    cases hresets : v.resets e with
    | false =>
      rw [hresets] at hwindow
      rcases hlater with ⟨hnever, hsame⟩ | ⟨hlater, hzero⟩
      · exact .inl ⟨⟨rfl, hnever⟩, hsame.trans hwindow⟩
      · exact .inr ⟨fun h ↦ hlater h.2, hzero⟩
    | true =>
      rw [hresets] at hwindow
      refine .inr ⟨fun h ↦ absurd h.1 (by decide), ?_⟩
      rcases hlater with ⟨-, hsame⟩ | ⟨-, hzero⟩
      · exact hsame.trans hwindow
      · exact hzero

end ViewerState

/-! ### A stall -/

/-- A stall is counted in a window that it starts, or in the one that lasts. -/
theorem Quality.window_count (bytesReceived : Option Nat) (now : Nat) (q : Quality) :
    ((q.receive bytesReceived now).count now).window =
      (if q.expired now then now else q.stallWindowStartMs, q.counted now) := by
  have hcount (q : Quality) : (q.count now).window =
      (if q.expired now then now else q.stallWindowStartMs, q.counted now) := by
    unfold count counted
    split <;> rfl
  unfold receive
  split
  · split <;> exact hcount _
  · exact hcount _

namespace ViewerState

/-- A local re-subscribe publishes nothing, and resets the window when it detaches the
subscriber. -/
theorem resubscribe_window (now : Nat) (v : ViewerState) :
    (v.resubscribe now).recoveries = v.recoveries ++ [.resubscribe v.canRequest] ∧
      (v.resubscribe now).app = v.app ∧ (v.resubscribe now).quality.window =
        if v.hasSubscriber then (0, 0) else v.quality.window := by
  have hquality : (v.resubscribe now).quality.window = v.detachSubscriber.quality.window := by
    simp only [resubscribe]
    split
    · rw [quality_requestAndAttachPublisher]
      rfl
    · rfl
  refine ⟨?_, ?_, ?_⟩
  · simp only [resubscribe, canRequest]
    rw [detachSubscriber_eq]
    split
    · rw [requestAndAttachPublisher_eq]
    · rfl
  · exact (v.resubscribe_kept now).1
  · rw [hquality, quality_detachSubscriber]
    split <;> rfl

/-- A restart publishes the close command when it can, and the session is destroyed, or asked to
end. -/
theorem restart_kept (v : ViewerState) :
    v.restart.recoveries = v.recoveries ++ [.restart v.app.canPublish] ∧
      v.restart.app = v.app.onStall ∧ ∀ k, v.restart.janus = some k →
        v.restart.sessions[k]?.map JanusSession.destroying = some true := by
  let u : ViewerState := { v with
    app := v.app.onStall
    recoveries := v.recoveries ++ [.restart v.app.canPublish] }
  have hkept : u.destroySession.recoveries = u.recoveries ∧ u.destroySession.app = u.app := by
    rcases u.destroySession_cases with ⟨k, -, -, heq⟩ | ⟨-, heq⟩
    · rw [heq]
      exact ⟨rfl, rfl⟩
    · rw [heq]
      exact ⟨rfl, rfl⟩
  exact ⟨hkept.1, hkept.2, fun k hk ↦ (u.destroySession_janus.2 k hk).2⟩

end ViewerState

namespace Stall

variable (x : Stall)

/-- How many stalls the window has with this one. -/
def counted : Nat := x.before.quality.counted x.now

/-- The state when the stall is counted. -/
private def middle : ViewerState := { x.before with
  requests := x.before.requests.erase .getStats
  quality := (x.before.quality.receive x.bytesReceived x.now).count x.now }

/-- A sample keeps what is not about quality. -/
private theorem kept_of_sample (v : ViewerState) (requests : List JanusRequest)
    (quality : Quality) :
    let u : ViewerState := { v with requests, quality }
    u.recoveries = v.recoveries ∧ u.app = v.app ∧ u.canRequest = v.canRequest ∧
      u.hasSubscriber = v.hasSubscriber :=
  ⟨rfl, rfl, rfl, rfl⟩

private theorem middle_kept :
    x.middle.recoveries = x.before.recoveries ∧ x.middle.app = x.before.app ∧
      x.middle.canRequest = x.before.canRequest ∧
      x.middle.hasSubscriber = x.before.hasSubscriber :=
  kept_of_sample x.before _ _

private theorem after_eq :
    x.after = if x.counted ≤ 2 then x.middle.resubscribe x.now else x.middle.restart := by
  obtain ⟨-, hafter⟩ := ViewerState.step_some.mp x.step
  obtain ⟨-, hafter⟩ := ViewerState.answer_map_some.mp hafter
  have hstalls : (x.before.quality.receive x.bytesReceived x.now).stalls x.now = true := x.detected
  have hcounted : ((x.before.quality.receive x.bytesReceived x.now).count
      x.now).stallCountInWindow = x.counted :=
    congrArg Prod.snd (Quality.window_count x.bytesReceived x.now x.before.quality)
  simp only [ViewerState.onStats, hstalls, if_true, hcounted] at hafter
  rw [hafter]
  split <;> rfl

/-- Up to two stalls in the window lead to a local re-subscribe. -/
theorem after_resubscribe (h : x.counted ≤ 2) :
    x.after.recoveries = x.before.recoveries ++ [.resubscribe x.before.canRequest] ∧
      x.after.app = x.before.app ∧
      x.after.quality.window = if x.before.hasSubscriber then (0, 0) else
        (if x.before.quality.expired x.now then x.now else x.before.quality.stallWindowStartMs,
          x.counted) := by
  have hwindow : x.middle.quality.window =
      (if x.before.quality.expired x.now then x.now else x.before.quality.stallWindowStartMs,
        x.counted) :=
    Quality.window_count x.bytesReceived x.now x.before.quality
  obtain ⟨hrecoveries, happ, hrequest, hsubscriber⟩ := x.middle_kept
  rw [x.after_eq, if_pos h, ← hrecoveries, ← happ, ← hrequest, ← hsubscriber, ← hwindow]
  exact x.middle.resubscribe_window x.now

/-- More of them lead to a restart. -/
theorem after_restart (h : ¬ x.counted ≤ 2) :
    x.after.recoveries = x.before.recoveries ++ [.restart x.before.app.canPublish] ∧
      x.after.app = x.before.app.onStall ∧
      ∀ k, x.after.janus = some k →
        x.after.sessions[k]?.map JanusSession.destroying = some true := by
  obtain ⟨hrecoveries, happ, -, -⟩ := x.middle_kept
  rw [x.after_eq, if_neg h, ← hrecoveries, ← happ]
  exact x.middle.restart_kept

/-- A stall performs a local re-subscribe when it is one of two in the window, and a publisher can
be requested. -/
theorem resubscribes_iff : x.Resubscribes ↔ x.counted ≤ 2 ∧ x.before.canRequest = true := by
  constructor
  · intro h
    by_cases hcounted : x.counted ≤ 2
    · have hrecovery := (x.after_resubscribe hcounted).1.symm.trans h.recovery
      simp at hrecovery
      exact ⟨hcounted, hrecovery⟩
    · have hrecovery := (x.after_restart hcounted).1.symm.trans h.recovery
      exact absurd hrecovery (by simp)
  · rintro ⟨hcounted, hrequest⟩
    obtain ⟨hrecovery, happ, -⟩ := x.after_resubscribe hcounted
    rw [hrequest] at hrecovery
    exact ⟨hrecovery, by rw [happ]⟩

/-- A stall restarts when it is the third in the window, and the close command has a topic. -/
theorem restarts_iff : x.Restarts ↔
    ¬ x.counted ≤ 2 ∧ (x.before.app.connected = true → x.before.app.cmdTopic = true) := by
  constructor
  · intro h
    by_cases hcounted : x.counted ≤ 2
    · have hrecovery := (x.after_resubscribe hcounted).1.symm.trans h.recovery
      exact absurd hrecovery (by simp)
    · have hrecovery := (x.after_restart hcounted).1.symm.trans h.recovery
      simp [App.canPublish] at hrecovery
      exact ⟨hcounted, hrecovery⟩
  · rintro ⟨hcounted, htopic⟩
    obtain ⟨hrecovery, happ, hdestroyed⟩ := x.after_restart hcounted
    have hpublish : x.before.app.canPublish = x.before.app.connected := by
      cases hconnected : x.before.app.connected with
      | false => simp [App.canPublish, hconnected]
      | true => simp [App.canPublish, hconnected, htopic hconnected]
    refine ⟨hpublish ▸ hrecovery, ?_, hdestroyed⟩
    rw [happ, App.onStall, App.publishIfConnected, hpublish]
    cases x.before.app.connected with
    | false => simp
    | true => rfl

/-- Up to the next stall the window stays as this one left it, unless the subscriber was detached or
an event resets it. -/
theorem window_next {es : List ViewerEvent} {w : ViewerState} (h : x.counted ≤ 2)
    (hrun : run ViewerState.step x.after es = some w)
    (hquiet : StepsMeet (fun v e ↦ v.detects e = false) ViewerState.step x.after es) :
    (x.before.hasSubscriber = false ∧
      StepsMeet (fun v e ↦ v.resets e = false) ViewerState.step x.after es ∧
      w.quality.stallCountInWindow = x.counted ∧ w.quality.stallWindowStartMs =
        if x.before.quality.expired x.now then x.now else x.before.quality.stallWindowStartMs) ∨
    (¬ (x.before.hasSubscriber = false ∧
      StepsMeet (fun v e ↦ v.resets e = false) ViewerState.step x.after es) ∧
      w.quality.stallCountInWindow = 0) := by
  have hafter := (x.after_resubscribe h).2.2
  rcases ViewerState.window_run hrun hquiet with ⟨hnever, hsame⟩ | ⟨hsome, hzero⟩
  · cases hsubscriber : x.before.hasSubscriber with
    | false =>
      rw [hsubscriber, if_neg (by decide)] at hafter
      have hwindow := hsame.trans hafter
      exact .inl ⟨rfl, hnever, congrArg Prod.snd hwindow, congrArg Prod.fst hwindow⟩
    | true =>
      rw [hsubscriber, if_pos rfl] at hafter
      exact .inr ⟨fun h ↦ absurd h.1 (by decide), congrArg Prod.snd (hsame.trans hafter)⟩
  · exact .inr ⟨fun h ↦ hsome h.2, congrArg Prod.snd hzero⟩

end Stall

namespace ThreeStalls

/-- Three stalls lead to two local re-subscribes and a restart if and only if one window counts
them. -/
theorem escalates_iff (x : ThreeStalls) : x.Escalates ↔ x.OneWindow := by
  have hordered₁ := x.ordered₁
  have hordered₂ := x.ordered₂
  have hinWindow := x.inWindow
  have hthird : x.third.counted = if x.third.before.quality.expired x.third.now then 1 else
      x.third.before.quality.stallCountInWindow + 1 := rfl
  have hsecond : x.second.counted = if x.second.before.quality.expired x.second.now then 1 else
      x.second.before.quality.stallCountInWindow + 1 := rfl
  have hfirst : x.first.counted = if x.first.before.quality.expired x.first.now then 1 else
      x.first.before.quality.stallCountInWindow + 1 := rfl
  unfold Escalates
  rw [Stall.resubscribes_iff, Stall.resubscribes_iff, Stall.restarts_iff]
  simp only [Quality.expired, decide_eq_true_eq] at hthird hsecond hfirst
  constructor
  · rintro ⟨⟨hle₁, hrequests₁⟩, ⟨hle₂, hrequests₂⟩, hmore, htopic⟩
    rcases x.second.window_next hle₂ x.run₂ x.quiet₂ with
      ⟨hnone₂, hundisturbed₂, hcount₂, hstart₂⟩ | ⟨-, hzero⟩
    · rcases x.first.window_next hle₁ x.run₁ x.quiet₁ with
        ⟨hnone₁, hundisturbed₁, hcount₁, hstart₁⟩ | ⟨-, hzero⟩
      -- the third stall is counted as such only when the first one is counted as the first
      · refine ⟨?_, hnone₁, hnone₂, hundisturbed₁, hundisturbed₂, hrequests₁, hrequests₂, htopic⟩
        simp only [Quality.expired, decide_eq_true_eq, decide_eq_false_iff_not] at hstart₁ hstart₂ ⊢
        grind
      · grind
    · grind
  · intro h
    have hwindow := h.starts
    simp only [Quality.expired, decide_eq_true_eq, decide_eq_false_iff_not] at hwindow
    have hone : x.first.counted = 1 := by grind
    obtain ⟨-, -, hcount₁, hstart₁⟩ | ⟨hreset, -⟩ :=
      x.first.window_next (by omega) x.run₁ x.quiet₁
    · simp only [Quality.expired, decide_eq_true_eq] at hstart₁
      have htwo : x.second.counted = 2 := by grind
      obtain ⟨-, -, hcount₂, hstart₂⟩ | ⟨hreset, -⟩ :=
        x.second.window_next (by omega) x.run₂ x.quiet₂
      · simp only [Quality.expired, decide_eq_true_eq] at hstart₂
        have hthree : x.third.counted = 3 := by grind
        exact ⟨⟨by omega, h.requests₁⟩, ⟨by omega, h.requests₂⟩, by omega, h.topic⟩
      · exact absurd ⟨h.detachesNone₂, h.undisturbed₂⟩ hreset
    · exact absurd ⟨h.detachesNone₁, h.undisturbed₁⟩ hreset

/-- The state after events that can happen one after the other. -/
private def stateAfter (v : ViewerState) (es : List ViewerEvent) : ViewerState :=
  (run ViewerState.step v es).getD v

/-- The viewer connects, and its first subscriber receives a track at 100 s. -/
private def firstStall : List ViewerEvent :=
  [.editRoom true, .connectBtn, .created 0, .attached 0 .manager,
    .participants 0 [⟨7, 1, false⟩], .attached 0 .subscriber, .offer 1, .answered 1 1,
    .remoteTrack 1 true 100000, .sample]

/-- The next subscriber is attached, and receives a track. -/
private def nextStall (handle now : Nat) : List ViewerEvent :=
  [.participants 0 [⟨7, 1, false⟩], .attached 0 .subscriber, .offer handle,
    .answered handle handle, .remoteTrack handle true now, .sample]

/-- A stall that a sample without statistics of a video finds. -/
private def stallAt (v : ViewerState) (now : Nat) (hstep : (v.step (.stats none now)).isSome = true)
    (hdetects : v.detects (.stats none now) = true) : Stall where
  before := v
  after := (v.step (.stats none now)).get hstep
  bytesReceived := none
  now := now
  step := (Option.some_get hstep).symm
  detected := hdetects

private def firstOf : Stall :=
  stallAt (stateAfter .initial firstStall) 122000 (by decide +kernel) (by decide +kernel)

private def secondOf : Stall :=
  stallAt (stateAfter firstOf.after (nextStall 2 122500)) 144500 (by decide +kernel)
    (by decide +kernel)

private def thirdOf : Stall :=
  stallAt (stateAfter secondOf.after (nextStall 3 144600)) 166600 (by decide +kernel)
    (by decide +kernel)

/-- Three stalls in one window, with no more bytes in between, and the third does not restart. -/
theorem third_stall_resubscribes : ¬ ∀ x : ThreeStalls, x.Dry → x.Escalates := by
  intro h
  let x : ThreeStalls :=
    { first := firstOf, second := secondOf, third := thirdOf
      between₁ := nextStall 2 122500, between₂ := nextStall 3 144600
      reached := ⟨firstStall, rfl⟩, run₁ := rfl, run₂ := rfl
      quiet₁ := by decide, quiet₂ := by decide
      ordered₁ := by decide, ordered₂ := by decide, inWindow := by decide }
  have hthird := (h x ⟨by decide, by decide⟩).2.2
  exact absurd hthird.recovery (by decide)

/-- Three samples wait for their statistics when the subscriber loses its feed. -/
private def lateSamples : List ViewerEvent :=
  firstStall ++ [.sample, .sample, .noSuchFeed 1, .remoteTrack 1 true 100500]

private def firstLate : Stall :=
  stallAt (stateAfter .initial lateSamples) 122000 (by decide +kernel) (by decide +kernel)

private def secondLate : Stall :=
  stallAt firstLate.after 143000 (by decide +kernel) (by decide +kernel)

private def thirdLate : Stall :=
  stallAt secondLate.after 164500 (by decide +kernel) (by decide +kernel)

/-- Statistics that come late, when the subscriber is gone, can count three stalls in one
window. -/
example : ∃ x : ThreeStalls, x.OneWindow := by
  refine ⟨
    { first := firstLate, second := secondLate, third := thirdLate
      between₁ := [], between₂ := []
      reached := ⟨lateSamples, rfl⟩, run₁ := rfl, run₂ := rfl
      quiet₁ := stepsMeet_nil, quiet₂ := stepsMeet_nil
      ordered₁ := by decide, ordered₂ := by decide, inWindow := by decide }, ?_⟩
  exact ⟨.inl (by decide +kernel), by decide +kernel, by decide +kernel, stepsMeet_nil,
    stepsMeet_nil, by decide +kernel, by decide +kernel, by decide +kernel⟩

end ThreeStalls

end Esp32Robot.Viewer

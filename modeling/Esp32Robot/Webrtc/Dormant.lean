import Esp32Robot.Webrtc.Sessions

/-!
# Sessions that cannot start by themselves

A stopped P4 without a request for a session: no step but a request starts one,
whichever events, ticks and retry threads come in between.
-/

namespace Esp32Robot.Webrtc

open Esp32Robot.Base

/-- No handle was opened yet and no retry thread exists. -/
def NeverOpened (d : DoorBell) : Prop :=
  d.nextHandle = 0 ∧ d.retryCreated = 0 ∧ d.retryLooping = 0

/-- No session runs, and no retry thread will start one. -/
def Dormant (d : DoorBell) : Prop :=
  d.webrtc = none ∧ (d.janusRetryStop = true ∨ NeverOpened d)

/-- Stopping makes dormant. -/
theorem dormant_stopWebrtc (d : DoorBell) : Dormant (stopWebrtc d) := by
  obtain ⟨hwebrtc, hstop⟩ := stopWebrtc_spec d
  exact ⟨hwebrtc, .inl hstop⟩

/-- What a dormant state reads is the session, the retry switch and the counts. -/
theorem Dormant.congr {d e : DoorBell} (h : Dormant d) (hwebrtc : e.webrtc = d.webrtc)
    (hstop : e.janusRetryStop = d.janusRetryStop) (hnext : e.nextHandle = d.nextHandle)
    (hcreated : e.retryCreated = d.retryCreated) (hlooping : e.retryLooping = d.retryLooping) :
    Dormant e := by
  unfold Dormant NeverOpened at h ⊢
  rw [hwebrtc, hstop, hnext, hcreated, hlooping]
  exact h

/-- A text command starts no session. -/
theorem Dormant.sendCmd {d : DoorBell} (h : Dormant d) (cmd : CString) :
    Dormant (Webrtc.sendCmd cmd d) := by
  simp only [Webrtc.sendCmd]
  repeat' split
  all_goals exact h.congr rfl rfl rfl rfl rfl

/-- Events of the handles opened before start no session: the retry was stopped. -/
theorem Dormant.webrtcEventHandler {d : DoorBell} (h : Dormant d) (hopened : 0 < d.nextHandle)
    (net : Bool) (event : WebrtcEventType) : Dormant (Webrtc.webrtcEventHandler net event d) := by
  obtain ⟨hwebrtc, hretry⟩ := h
  have hstop : d.janusRetryStop = true := by
    rcases hretry with hstop | ⟨hnext, _⟩
    · exact hstop
    · omega
  have hphase (phase : DoorBellPhase) : (doorBellChangeState phase d).webrtc = none ∧
      (doorBellChangeState phase d).janusRetryStop = true := by
    unfold doorBellChangeState
    split <;> exact ⟨hwebrtc, hstop⟩
  have hfailed : Dormant (scheduleJanusRetry net (cleanupWebrtcHandle
      { doorBellChangeState .none d with
        webrtcConnected := false
        senderTransformerCtx := ⟨0, 0⟩
        receiverTransformerCtx := ⟨0, 0⟩ })) := by
    rw [cleanupWebrtcHandle_of_none (by exact (hphase .none).1),
      scheduleJanusRetry_of_stop (by exact (hphase .none).2)]
    exact ⟨(hphase .none).1, .inl (hphase .none).2⟩
  cases event with
  | connected =>
    simp only [Webrtc.webrtcEventHandler]
    split
    · exact ⟨(hphase .connected).1, .inl (hphase .connected).2⟩
    · exact ⟨(hphase .connected).1, .inl (hphase .connected).2⟩
  | connectFailed => exact hfailed
  | disconnected => exact hfailed
  | paired => exact ⟨hwebrtc, .inl hstop⟩
  | other => exact ⟨hwebrtc, .inl hstop⟩

/-- A retry thread that starts will find the retry stopped. -/
theorem Dormant.janusRetryStart {d e : DoorBell} (h : Dormant d)
    (he : Webrtc.janusRetryStart d = some e) : Dormant e := by
  unfold Webrtc.janusRetryStart at he
  split at he
  · exact absurd he (by simp)
  · next n hn =>
    cases he
    refine ⟨h.1, .inl ?_⟩
    rcases h.2 with hstop | ⟨_, hcreated, _⟩
    · exact hstop
    · omega

/-- An iteration of a retry thread finds the retry stopped. -/
theorem Dormant.janusRetryIteration {d e : DoorBell} (h : Dormant d) {net : Bool}
    {outcome : StartOutcome} (he : Webrtc.janusRetryIteration net outcome d = some e) :
    Dormant e := by
  unfold Webrtc.janusRetryIteration at he
  split at he
  · exact absurd he (by simp)
  · next n hn =>
    have hstop : d.janusRetryStop = true := by
      rcases h.2 with hstop | ⟨_, _, hlooping⟩
      · exact hstop
      · omega
    rw [if_pos hstop] at he
    cases he
    exact ⟨h.1, .inl hstop⟩

/-! ### What a dormant P4 calls -/

/-- From `d` to `e` nothing called `start_webrtc`. -/
def NoStart (d e : DoorBell) : Prop := Extends (fun x ↦ x ≠ .startWebrtc) d.effects e.effects

namespace NoStart

variable {a b c : DoorBell}

/-- Making no call. -/
theorem of_eq (h : b.effects = a.effects) : NoStart a b := by
  unfold NoStart
  rw [h]
  exact .refl a.effects

/-- One function after another. -/
theorem trans (hab : NoStart a b) (hbc : NoStart b c) : NoStart a c := Extends.trans hab hbc

/-- Another call. -/
theorem emit {e : Effect} (h : b.effects = a.effects) (he : e ≠ .startWebrtc) :
    NoStart a (b.emit e) := by
  unfold NoStart DoorBell.emit
  rw [h]
  exact extends_concat a.effects he

end NoStart

/-- A text command calls no `start_webrtc`. -/
theorem noStart_sendCmd (cmd : CString) (d : DoorBell) : NoStart d (sendCmd cmd d) := by
  simp only [Webrtc.sendCmd]
  split
  · exact .of_eq rfl
  · split
    · exact .of_eq rfl
    · split
      · exact .of_eq rfl
      · split
        · have hring : NoStart d (d.emit (.sendCustomData d.webrtc (.lit "RING"))) :=
            .emit rfl (by simp)
          split
          · exact hring.trans (.emit rfl (by simp))
          · exact hring
        · exact .of_eq rfl

/-- Stopping calls no `start_webrtc`. -/
theorem noStart_stopWebrtc (d : DoorBell) : NoStart d (stopWebrtc d) := by
  refine .trans (.emit rfl (by simp) : NoStart d (d.emit .stopWebrtc)) ?_
  simp only [stopWebrtc, cleanupWebrtcHandle]
  split
  · exact .of_eq rfl
  · exact .emit rfl (by simp)

/-- An event of a stopped session calls no `start_webrtc`. -/
theorem noStart_webrtcEventHandler {d : DoorBell} (h : d.webrtc = none) (net : Bool)
    (event : WebrtcEventType) : NoStart d (webrtcEventHandler net event d) := by
  have hphase (phase : DoorBellPhase) : NoStart d (doorBellChangeState phase d) ∧
      (doorBellChangeState phase d).webrtc = none := by
    unfold doorBellChangeState
    split
    · exact ⟨.emit rfl (by simp), h⟩
    · exact ⟨.of_eq rfl, h⟩
  have hfailed : NoStart d (scheduleJanusRetry net (cleanupWebrtcHandle
      { doorBellChangeState .none d with
        webrtcConnected := false
        senderTransformerCtx := ⟨0, 0⟩
        receiverTransformerCtx := ⟨0, 0⟩ })) := by
    rw [cleanupWebrtcHandle_of_none (by exact (hphase .none).2)]
    apply (hphase .none).1.trans
    unfold scheduleJanusRetry
    split
    · exact .of_eq rfl
    · exact .emit rfl (by simp)
  cases event with
  | connected =>
    simp only [webrtcEventHandler]
    split
    · exact (hphase .connected).1.trans (.emit rfl (by simp))
    · exact (hphase .connected).1
  | connectFailed => exact hfailed
  | disconnected => exact hfailed
  | paired => exact .emit rfl (by simp)
  | other => exact .of_eq rfl

/-- An iteration of a retry thread that finds the retry stopped calls no `start_webrtc`. -/
theorem noStart_janusRetryIteration {d e : DoorBell} (h : Dormant d) {net : Bool}
    {outcome : StartOutcome} (he : janusRetryIteration net outcome d = some e) : NoStart d e := by
  unfold janusRetryIteration at he
  split at he
  · exact absurd he (by simp)
  · next n hn =>
    have hstop : d.janusRetryStop = true := by
      rcases h.2 with hstop | ⟨_, _, hlooping⟩
      · exact hstop
      · omega
    rw [if_pos hstop] at he
    cases he
    exact .of_eq rfl

/-- Status messages call no `start_webrtc`. -/
theorem StatusOnly.noStart {s t : P4State} (h : StatusOnly s t) :
    NoStart s.doorBell t.doorBell := by
  apply h.effects.mono
  rintro x ⟨hx, _⟩ rfl
  exact absurd hx (by simp [Effect.isStatus])

/-- A dormant P4 does not take the recovery branch. -/
theorem not_recoverDue {now : Int} {s : P4State} (h : s.doorBell.webrtc = none) :
    recoverDue now s = false := by
  simp [recoverDue, P4State.running, webrtcIsRunning, h]

/-- A tick of a dormant P4 leaves it dormant. -/
theorem dormant_tick {s : P4State} (h : Dormant s.doorBell) (now rssi : Int)
    (outcome : StartOutcome) :
    Dormant (mqttControlLoop now rssi outcome s).doorBell ∧
      NoStart s.doorBell (mqttControlLoop now rssi outcome s).doorBell := by
  have hpub := statusOnly_publish now rssi s
  have hnone := hpub.webrtc.trans h.1
  simp only [mqttControlLoop, not_recoverDue hnone, Bool.false_eq_true, if_false]
  split
  · refine ⟨dormant_stopWebrtc _, ?_⟩
    apply (hpub.noStart.trans (noStart_stopWebrtc _)).trans
    exact .emit rfl (by simp)
  · refine ⟨?_, hpub.noStart⟩
    rw [hpub.doorBell]
    exact h.congr rfl rfl rfl rfl rfl

/-- A change of the network leaves a dormant P4 dormant. -/
theorem dormant_network {s : P4State} (h : Dormant s.doorBell) (rssi : Int) (connected : Bool) :
    Dormant (networkSetConnected rssi connected s).doorBell ∧
      NoStart s.doorBell (networkSetConnected rssi connected s).doorBell := by
  unfold networkSetConnected
  split
  · cases connected with
    | true =>
      simp only [networkEventHandler, if_true]
      split <;> exact ⟨h.congr rfl rfl rfl rfl rfl, .emit rfl (by simp)⟩
    | false =>
      simp only [networkEventHandler, Bool.false_eq_true, if_false]
      split <;> exact ⟨dormant_stopWebrtc _, noStart_stopWebrtc _⟩
  · exact ⟨h, .of_eq rfl⟩

/-- A command that is no request leaves a dormant P4 dormant. -/
theorem dormant_command {s : P4State} (h : Dormant s.doorBell) (now : Int) {cmd : CString}
    (hopen : cmd ≠ openWebrtcCmd) (hbeat : cmd ≠ heartbeatCmd) (outcome : StartOutcome) :
    Dormant (mqttControlCmdHandler now (some cmd) outcome s).doorBell ∧
      NoStart s.doorBell (mqttControlCmdHandler now (some cmd) outcome s).doorBell := by
  rcases mqttControlCmdHandler_cases now cmd outcome s with ⟨hcmd, _⟩ | ⟨_, hs⟩ | ⟨_, hs⟩
  · rcases hcmd with hcmd | hcmd
    · exact absurd hcmd hopen
    · exact absurd hcmd hbeat
  · rw [hs]
    exact ⟨dormant_stopWebrtc _, noStart_stopWebrtc _⟩
  · rw [hs]
    exact ⟨h.sendCmd cmd, noStart_sendCmd cmd _⟩

/-- No step but a request wakes a dormant P4, or makes it call `start_webrtc`. -/
theorem dormant_step {s t : P4State} {i : P4Input} (h : Dormant s.doorBell)
    (hi : i.isOpenRequest = false) (ht : s.step i = some t) :
    Dormant t.doorBell ∧ NoStart s.doorBell t.doorBell := by
  obtain ⟨now, event⟩ := i
  cases event with
  | command cmd outcome =>
    cases ht
    cases cmd with
    | none => exact ⟨h, .of_eq rfl⟩
    | some cmd =>
      simp only [P4Input.isOpenRequest, Bool.or_eq_false_iff, decide_eq_false_iff_not] at hi
      exact dormant_command h now hi.1 hi.2 outcome
  | tick rssi outcome =>
    cases ht
    exact dormant_tick h now rssi outcome
  | network rssi connected =>
    cases ht
    exact dormant_network h rssi connected
  | mqtt connected =>
    simp only [P4State.step] at ht
    split at ht
    · cases ht
      exact ⟨h, .of_eq rfl⟩
    · exact absurd ht (by simp)
  | webrtcEvent event =>
    simp only [P4State.step] at ht
    split at ht
    · next hopened =>
      cases ht
      exact ⟨h.webrtcEventHandler hopened _ _, noStart_webrtcEventHandler h.1 _ _⟩
    · exact absurd ht (by simp)
  | retryStart =>
    obtain ⟨d, hd, rfl⟩ := Option.map_eq_some_iff.mp ht
    refine ⟨h.janusRetryStart hd, .of_eq ?_⟩
    unfold janusRetryStart at hd
    split at hd
    · exact absurd hd (by simp)
    · cases hd
      rfl
  | retryIteration outcome =>
    obtain ⟨d, hd, rfl⟩ := Option.map_eq_some_iff.mp ht
    exact ⟨h.janusRetryIteration hd, noStart_janusRetryIteration h hd⟩

end Esp32Robot.Webrtc

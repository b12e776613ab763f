import Esp32Robot.Webrtc.Dormant

/-!
# Heartbeat supervision

A running session has a request not older than the heartbeat timeout after every
tick. The invariant that carries this: without a heartbeat time there is no
session, and no retry thread can start one.
-/

namespace Esp32Robot.Webrtc

open Esp32Robot.Base

/-! ### The two timestamps -/

/-- The heartbeat time is that of the last request, or zero, and the request time is zero or
equal to it; with no heartbeat time everything is dormant. -/
structure SupervisionInv (es : List P4Input) (s : P4State) : Prop where
  dormant : s.lastHeartbeatMs = 0 → Dormant s.doorBell
  requested : s.lastHeartbeatMs ≠ 0 → ∃ i ∈ es, i.isOpenRequest ∧ i.now = s.lastHeartbeatMs
  latest : s.lastHeartbeatMs ≠ 0 → ∀ i ∈ es, i.isOpenRequest → i.now ≤ s.lastHeartbeatMs
  openRequest : s.lastOpenRequestMs = 0 ∨ s.lastOpenRequestMs = s.lastHeartbeatMs

namespace SupervisionInv

variable {es : List P4Input} {s t : P4State} {i : P4Input}

/-- The static initial values. -/
theorem initial : SupervisionInv [] P4State.initial where
  dormant := fun _ ↦ ⟨rfl, .inr ⟨rfl, rfl, rfl⟩⟩
  requested := fun h ↦ absurd rfl h
  latest := fun h ↦ absurd rfl h
  openRequest := .inl rfl

/-- A step that is no request and keeps the heartbeat time. -/
theorem keep (h : SupervisionInv es s) (hi : i.isOpenRequest = false)
    (hheartbeat : t.lastHeartbeatMs = s.lastHeartbeatMs)
    (hopen : t.lastOpenRequestMs = 0 ∨ t.lastOpenRequestMs = s.lastOpenRequestMs)
    (hdormant : s.lastHeartbeatMs = 0 → Dormant s.doorBell → Dormant t.doorBell) :
    SupervisionInv (es ++ [i]) t := by
  constructor
  · intro hz
    rw [hheartbeat] at hz
    exact hdormant hz (h.dormant hz)
  · intro hz
    rw [hheartbeat] at hz ⊢
    obtain ⟨j, hj, hreq⟩ := h.requested hz
    exact ⟨j, List.mem_append_left _ hj, hreq⟩
  · intro hz j hj hreq
    rw [hheartbeat] at hz ⊢
    rcases List.mem_append.mp hj with hj | hj
    · exact h.latest hz j hj hreq
    · rw [List.mem_singleton.mp hj, hi] at hreq
      exact absurd hreq Bool.false_ne_true
  · rw [hheartbeat]
    rcases hopen with hopen | hopen
    · exact .inl hopen
    · rw [hopen]
      exact h.openRequest

/-- A step that stops the session and clears the heartbeat time. -/
theorem clear (hheartbeat : t.lastHeartbeatMs = 0) (hopen : t.lastOpenRequestMs = 0)
    (hdormant : Dormant t.doorBell) : SupervisionInv (es ++ [i]) t where
  dormant := fun _ ↦ hdormant
  requested := fun h ↦ absurd hheartbeat h
  latest := fun h ↦ absurd hheartbeat h
  openRequest := .inl hopen

/-- A request sets both times. -/
theorem request (hi : i.isOpenRequest = true) (hpos : 0 < i.now)
    (htimed : ∀ j ∈ es, j.now ≤ i.now) (hheartbeat : t.lastHeartbeatMs = i.now)
    (hopen : t.lastOpenRequestMs = i.now) : SupervisionInv (es ++ [i]) t := by
  constructor
  · intro hz
    omega
  · intro _
    exact ⟨i, by simp, hi, hheartbeat.symm⟩
  · intro _ j hj _
    rw [hheartbeat]
    rcases List.mem_append.mp hj with hj | hj
    · exact htimed j hj
    · obtain rfl := List.mem_singleton.mp hj
      exact Int.le_refl j.now
  · exact .inr (hopen.trans hheartbeat.symm)

end SupervisionInv

/-! ### One step of the P4 -/

section Step

variable {es : List P4Input} {s t : P4State}

private theorem supervisionInv_command {now : Int} {cmd : Option CString}
    {outcome : StartOutcome} (h : SupervisionInv es s) (hpos : 0 < now)
    (htimed : ∀ j ∈ es, j.now ≤ now) :
    SupervisionInv (es ++ [⟨now, .command cmd outcome⟩])
      (mqttControlCmdHandler now cmd outcome s) := by
  cases cmd with
  | none => exact h.keep rfl rfl (.inr rfl) (fun _ hd ↦ hd)
  | some cmd =>
    have hrequest : (requestOpen now outcome s).lastHeartbeatMs = now ∧
        (requestOpen now outcome s).lastOpenRequestMs = now := by
      unfold requestOpen
      simp only
      split <;> exact ⟨rfl, rfl⟩
    rcases mqttControlCmdHandler_cases now cmd outcome s with
      ⟨hcmd, hs⟩ | ⟨hcmd, hs⟩ | ⟨⟨hopen, _, hbeat⟩, hs⟩
    · rw [hs]
      refine SupervisionInv.request ?_ hpos htimed hrequest.1 hrequest.2
      simpa [P4Input.isOpenRequest] using hcmd
    · rw [hs, hcmd]
      exact h.keep rfl rfl (.inl rfl) (fun _ _ ↦ dormant_stopWebrtc _)
    · rw [hs]
      refine h.keep ?_ rfl (.inr rfl) (fun _ hd ↦ hd.sendCmd cmd)
      simp [P4Input.isOpenRequest, hopen, hbeat]

private theorem supervisionInv_tick {now rssi : Int} {outcome : StartOutcome}
    (h : SupervisionInv es s) :
    SupervisionInv (es ++ [⟨now, .tick rssi outcome⟩]) (mqttControlLoop now rssi outcome s) := by
  have hpub := statusOnly_publish now rssi s
  unfold mqttControlLoop
  simp only
  split
  · next hrec =>
    refine h.keep rfl hpub.lastHeartbeatMs (.inr hpub.lastOpenRequestMs) ?_
    intro _ hd
    rw [not_recoverDue (hpub.webrtc.trans hd.1)] at hrec
    exact absurd hrec Bool.false_ne_true
  · split
    · exact .clear rfl rfl (dormant_stopWebrtc _)
    · apply h.keep rfl hpub.lastHeartbeatMs (.inr hpub.lastOpenRequestMs)
      intro _ hd
      rw [hpub.doorBell]
      exact hd.congr rfl rfl rfl rfl rfl

private theorem supervisionInv_network {now rssi : Int} {connected : Bool}
    (h : SupervisionInv es s) :
    SupervisionInv (es ++ [⟨now, .network rssi connected⟩])
      (networkSetConnected rssi connected s) := by
  unfold networkSetConnected
  split
  · cases connected with
    | true =>
      simp only [networkEventHandler, if_true]
      split <;>
        exact h.keep rfl rfl (.inr rfl) (fun _ hd ↦ hd.congr rfl rfl rfl rfl rfl)
    | false => exact .clear rfl rfl (dormant_stopWebrtc _)
  · exact h.keep rfl rfl (.inr rfl) (fun _ hd ↦ hd)

/-- Every step at a positive time, not before the earlier ones, keeps the invariant. -/
theorem supervisionInv_step {i : P4Input} (h : SupervisionInv es s) (hpos : 0 < i.now)
    (htimed : ∀ j ∈ es, j.now ≤ i.now) (ht : s.step i = some t) :
    SupervisionInv (es ++ [i]) t := by
  obtain ⟨now, event⟩ := i
  cases event with
  | command cmd outcome =>
    cases ht
    exact supervisionInv_command h hpos htimed
  | tick rssi outcome =>
    cases ht
    exact supervisionInv_tick h
  | network rssi connected =>
    cases ht
    exact supervisionInv_network h
  | mqtt connected =>
    simp only [P4State.step] at ht
    split at ht
    · cases ht
      exact h.keep rfl rfl (.inr rfl) (fun _ hd ↦ hd)
    · exact absurd ht (by simp)
  | webrtcEvent event =>
    simp only [P4State.step] at ht
    split at ht
    · next hopened =>
      cases ht
      exact h.keep rfl rfl (.inr rfl) (fun _ hd ↦ hd.webrtcEventHandler hopened _ _)
    · exact absurd ht (by simp)
  | retryStart =>
    obtain ⟨d, hd, rfl⟩ := Option.map_eq_some_iff.mp ht
    exact h.keep rfl rfl (.inr rfl) (fun _ hdormant ↦ hdormant.janusRetryStart hd)
  | retryIteration outcome =>
    obtain ⟨d, hd, rfl⟩ := Option.map_eq_some_iff.mp ht
    exact h.keep rfl rfl (.inr rfl) (fun _ hdormant ↦ hdormant.janusRetryIteration hd)

/-- The invariant holds after every run at positive, non-decreasing times. -/
theorem supervisionInv_run (h : run P4State.step .initial es = some s)
    (hpos : ∀ i ∈ es, 0 < i.now) (htimed : Timed P4Input.now es) : SupervisionInv es s := by
  have hrun := run_history
    (I := fun es s ↦ (∀ i ∈ es, 0 < i.now) → Timed P4Input.now es → SupervisionInv es s)
    (fun _ _ ↦ .initial) ?_ h
  · exact hrun hpos htimed
  · intro es s i t _ ih ht hpos htimed
    obtain ⟨hbefore, hle⟩ := timed_concat.mp htimed
    have hinv := ih (fun j hj ↦ hpos j (List.mem_append_left _ hj)) hbefore
    exact supervisionInv_step hinv (hpos i (by simp)) hle ht

end Step

/-! ### What a tick decides -/

/-- A tick that publishes a heartbeat timeout took the timeout branch. -/
theorem timeoutDue_of_publishes {now rssi : Int} {outcome : StartOutcome} {s : P4State}
    (h : Publishes .heartbeatTimeout s (mqttControlLoop now rssi outcome s)) :
    0 < s.lastHeartbeatMs ∧ now - s.lastHeartbeatMs > webrtcHeartbeatTimeoutMs := by
  have hpub := statusOnly_publish now rssi s
  have hquiet : Extends (fun e ↦ e.reason ≠ some .heartbeatTimeout) s.doorBell.effects
      (publishPeriodically now rssi (publishChange rssi s)).doorBell.effects :=
    hpub.effects.mono (fun e he ↦ by rw [he.2]; exact (Option.some_ne_none _).symm)
  revert h
  unfold mqttControlLoop
  simp only
  split
  · intro h
    refine absurd h (not_publishes (hquiet.trans ?_))
    refine .trans ((sessionOnly_stopWebrtc _).noReason _) (.trans ?_
      ((sessionOnly_startWebrtc _ _ _).noReason _))
    exact extends_concat _ (by simp [Effect.reason])
  · split
    · next hdue =>
      intro _
      simp only [timeoutDue, Bool.and_eq_true, decide_eq_true_eq, hpub.lastHeartbeatMs] at hdue
      exact hdue.2
    · intro h
      exact absurd h (not_publishes hquiet)

/-- What a session that runs after a tick was asked for. -/
theorem request_of_running {now rssi : Int} {outcome : StartOutcome} {es : List P4Input}
    {s : P4State} (hinv : SupervisionInv es s) (hpos : ∀ i ∈ es, 0 < i.now)
    (hrunning : (mqttControlLoop now rssi outcome s).running = true) :
    ∃ i ∈ es, i.isOpenRequest ∧ now - webrtcHeartbeatTimeoutMs ≤ i.now := by
  have hpub := statusOnly_publish now rssi s
  have hrecent (hne : s.lastHeartbeatMs ≠ 0)
      (hage : now - s.lastHeartbeatMs ≤ webrtcHeartbeatTimeoutMs) :
      ∃ i ∈ es, i.isOpenRequest ∧ now - webrtcHeartbeatTimeoutMs ≤ i.now := by
    obtain ⟨i, hi, hreq, htime⟩ := hinv.requested hne
    exact ⟨i, hi, hreq, by omega⟩
  revert hrunning
  unfold mqttControlLoop
  simp only
  split
  · next hrec =>
    intro _
    simp only [recoverDue, Bool.and_eq_true, decide_eq_true_eq, hpub.lastOpenRequestMs] at hrec
    obtain ⟨_, ⟨⟨hopen, hage⟩, _⟩, _⟩ := hrec
    rcases hinv.openRequest with hz | heq
    · omega
    · exact hrecent (by omega) (by omega)
  · split
    · intro h
      have hstopped : (heartbeatTimeout rssi
          (publishPeriodically now rssi (publishChange rssi s))).doorBell.webrtc = none :=
        (stopWebrtc_spec _).1
      simp only [P4State.running, webrtcIsRunning, hstopped, Option.isSome_none] at h
      exact absurd h Bool.false_ne_true
    · next hdue =>
      intro h
      have hne : s.lastHeartbeatMs ≠ 0 := by
        intro hz
        simp only [P4State.running, webrtcIsRunning, hpub.webrtc, (hinv.dormant hz).1,
          Option.isSome_none] at h
        exact absurd h Bool.false_ne_true
      obtain ⟨i, hi, _, htime⟩ := hinv.requested hne
      have hi := hpos i hi
      simp only [timeoutDue, h, Bool.true_and, Bool.and_eq_true, decide_eq_true_eq,
        hpub.lastHeartbeatMs] at hdue
      exact hrecent hne (by omega)

/-- After every tick a running session has a request not older than the timeout, and a session
with such a request is not stopped by the timeout. -/
theorem heartbeat_supervision (es : List P4Input) (s : P4State) (now rssi : Int)
    (outcome : StartOutcome) (h : run P4State.step .initial es = some s)
    (hpos : ∀ i ∈ es, 0 < i.now) (htimed : Timed P4Input.now es) :
    ((mqttControlLoop now rssi outcome s).running = true →
        ∃ i ∈ es, i.isOpenRequest ∧ now - webrtcHeartbeatTimeoutMs ≤ i.now) ∧
      ((∃ i ∈ es, i.isOpenRequest ∧ now - webrtcHeartbeatTimeoutMs ≤ i.now) →
        ¬ Publishes .heartbeatTimeout s (mqttControlLoop now rssi outcome s)) := by
  have hinv := supervisionInv_run h hpos htimed
  constructor
  · exact request_of_running hinv hpos
  · rintro ⟨i, hi, hreq, hrecent⟩ hpublish
    obtain ⟨hheartbeat, hage⟩ := timeoutDue_of_publishes hpublish
    have hlatest := hinv.latest (by omega) i hi hreq
    omega

private def openThenHeartbeat : List P4Input :=
  [⟨500, .network (-50) true⟩, ⟨1000, .command (some openWebrtcCmd) .starts⟩,
    ⟨1200, .webrtcEvent .connected⟩, ⟨40000, .command (some heartbeatCmd) .starts⟩]

/-- A session whose last heartbeat is 45 s old survives the tick. -/
theorem heartbeat_supervision_45s :
    ∃ s, run P4State.step .initial openThenHeartbeat = some s ∧
      (mqttControlLoop 85000 (-50) .starts s).running = true ∧
      ¬ Publishes .heartbeatTimeout s (mqttControlLoop 85000 (-50) .starts s) :=
  ⟨_, rfl, rfl,
    (heartbeat_supervision openThenHeartbeat _ 85000 (-50) .starts rfl (by decide)
      (by simp [openThenHeartbeat, Timed])).2
      ⟨⟨40000, .command (some heartbeatCmd) .starts⟩, by decide, by decide, by decide⟩⟩

end Esp32Robot.Webrtc

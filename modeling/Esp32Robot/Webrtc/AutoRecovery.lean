import Esp32Robot.Webrtc.Sessions

/-!
# Recovery of a stuck connection

The recovery branch measures how long the session is stuck from
`s_last_open_request_ms`, which every `HEARTBEAT` sets again. While the client
sends heartbeats, the branch is therefore never taken.
-/

namespace Esp32Robot.Webrtc

open Esp32Robot.Base

/-- The input is a `HEARTBEAT`. -/
def P4Input.isHeartbeat (i : P4Input) : Bool :=
  match i.event with
  | .command (some cmd) _ => cmd = heartbeatCmd
  | _ => false

/-- A session that was last started by `start`, has run and never connected since, and whose
client keeps sending heartbeats: at `now` it is stuck for longer than the recovery timeout and
the last recovery is longer ago than the cooldown. -/
structure StuckConnecting (pre : List P4Input) (start : P4Input) (since : List P4Input)
    (now : Int) (s : P4State) : Prop where
  reached : run P4State.step .initial (pre ++ start :: since) = some s
  timed : Timed P4Input.now (pre ++ start :: since)
  notLater : ∀ i ∈ pre ++ start :: since, i.now ≤ now
  runsUnconnected : ∃ handle,
    (∀ u, run P4State.step .initial pre = some u → u.doorBell.nextHandle ≤ handle) ∧
      ∀ n v, run P4State.step .initial (pre ++ start :: since.take n) = some v →
        v.doorBell.webrtc = some handle ∧ v.connected = false
  heartbeats : ∀ t, start.now + 20000 ≤ t → t ≤ now →
    ∃ i ∈ pre ++ start :: since, i.isHeartbeat ∧ t - 20000 ≤ i.now ∧ i.now ≤ t
  stuck : start.now + webrtcConnectRecoverTimeoutMs < now
  cooled : s.lastRecoverMs + webrtcConnectRecoverCooldownMs < now

/-- The tick stops the session, publishes the recovery and starts the session again. -/
def AutoRecovers (now rssi : Int) (outcome : StartOutcome) (s : P4State) : Prop :=
  ∃ a b c d status, (mqttControlLoop now rssi outcome s).doorBell.effects =
      s.doorBell.effects ++
        (a ++ .stopWebrtc :: (b ++ .publishStatus status :: (c ++ .startWebrtc :: d))) ∧
    status.reason = some .autoRecoverRestart

/-- The request time is zero, or no request came after it. -/
def RequestTimeInv (es : List P4Input) (s : P4State) : Prop :=
  s.lastOpenRequestMs = 0 ∨ ∀ i ∈ es, i.isOpenRequest → i.now ≤ s.lastOpenRequestMs

/-- A request sets the request time, any other step keeps or clears it. -/
theorem lastOpenRequestMs_step {s t : P4State} {i : P4Input} (ht : s.step i = some t) :
    t.lastOpenRequestMs = i.now ∨
      (i.isOpenRequest = false ∧
        (t.lastOpenRequestMs = s.lastOpenRequestMs ∨ t.lastOpenRequestMs = 0)) := by
  obtain ⟨now, event⟩ := i
  cases event with
  | command cmd outcome =>
    cases ht
    cases cmd with
    | none => exact .inr ⟨rfl, .inl rfl⟩
    | some cmd =>
      rcases mqttControlCmdHandler_cases now cmd outcome s with
        ⟨_, hs⟩ | ⟨hcmd, hs⟩ | ⟨⟨hopen, _, hbeat⟩, hs⟩
      · left
        rw [hs, requestOpen]
        simp only
        split <;> rfl
      · right
        rw [hs, hcmd]
        exact ⟨rfl, .inr rfl⟩
      · right
        rw [hs]
        exact ⟨by simp [P4Input.isOpenRequest, hopen, hbeat], .inl rfl⟩
  | tick rssi outcome =>
    cases ht
    have hpub := (statusOnly_publish now rssi s).lastOpenRequestMs
    right
    refine ⟨rfl, ?_⟩
    unfold mqttControlLoop
    simp only
    split
    · exact .inl hpub
    · split
      · exact .inr rfl
      · exact .inl hpub
  | network rssi connected =>
    cases ht
    right
    refine ⟨rfl, ?_⟩
    unfold networkSetConnected
    split
    · cases connected with
      | true =>
        simp only [networkEventHandler, if_true]
        split <;> exact .inl rfl
      | false => exact .inr rfl
    · exact .inl rfl
  | mqtt connected =>
    simp only [P4State.step] at ht
    split at ht
    · cases ht
      exact .inr ⟨rfl, .inl rfl⟩
    · exact absurd ht (by simp)
  | webrtcEvent event =>
    simp only [P4State.step] at ht
    split at ht
    · cases ht
      exact .inr ⟨rfl, .inl rfl⟩
    · exact absurd ht (by simp)
  | retryStart =>
    obtain ⟨d, _, rfl⟩ := Option.map_eq_some_iff.mp ht
    exact .inr ⟨rfl, .inl rfl⟩
  | retryIteration outcome =>
    obtain ⟨d, _, rfl⟩ := Option.map_eq_some_iff.mp ht
    exact .inr ⟨rfl, .inl rfl⟩

/-- Every step not before the earlier ones keeps the invariant of the request time. -/
theorem requestTimeInv_step {es : List P4Input} {s t : P4State} {i : P4Input}
    (h : RequestTimeInv es s) (htimed : ∀ j ∈ es, j.now ≤ i.now) (ht : s.step i = some t) :
    RequestTimeInv (es ++ [i]) t := by
  rcases lastOpenRequestMs_step ht with hset | ⟨hreq, hkeep | hclear⟩
  · right
    intro j hj _
    rw [hset]
    rcases List.mem_append.mp hj with hj | hj
    · exact htimed j hj
    · obtain rfl := List.mem_singleton.mp hj
      exact Int.le_refl j.now
  · unfold RequestTimeInv
    rw [hkeep]
    rcases h with hz | hle
    · exact .inl hz
    · right
      intro j hj hjreq
      rcases List.mem_append.mp hj with hj | hj
      · exact hle j hj hjreq
      · rw [List.mem_singleton.mp hj, hreq] at hjreq
        exact absurd hjreq Bool.false_ne_true
  · exact .inl hclear

/-- The invariant of the request time holds after every run at non-decreasing times. -/
theorem requestTimeInv_run {es : List P4Input} {s : P4State}
    (h : run P4State.step .initial es = some s) (htimed : Timed P4Input.now es) :
    RequestTimeInv es s := by
  refine run_history (I := fun es s ↦ Timed P4Input.now es → RequestTimeInv es s)
    (fun _ ↦ .inl rfl) ?_ h htimed
  intro es s i t _ ih ht htimed
  obtain ⟨hbefore, hle⟩ := timed_concat.mp htimed
  exact requestTimeInv_step (ih hbefore) hle ht

/-- The condition of the recovery branch reads nothing that the status messages change. -/
theorem recoverDue_publish (now rssi : Int) (s : P4State) :
    recoverDue now (publishPeriodically now rssi (publishChange rssi s)) = recoverDue now s := by
  have hpub := statusOnly_publish now rssi s
  simp only [recoverDue, P4State.running, P4State.connected, hpub.lastOpenRequestMs,
    hpub.lastRecoverMs]
  rw [hpub.doorBell]
  rfl

/-- The calls of the recovery branch, in order. -/
theorem effects_recover (now rssi : Int) (outcome : StartOutcome) (s : P4State) :
    ∃ b d status, (recover now rssi outcome s).doorBell.effects =
        s.doorBell.effects ++
          .stopWebrtc :: (b ++ .publishStatus status :: .startWebrtc :: d) ∧
      status.reason = some .autoRecoverRestart := by
  obtain ⟨b, hb, _⟩ := (sessionOnly_emit_stopWebrtc s.doorBell).effects
  obtain ⟨d, hd, _⟩ := (sessionOnly_emit_startWebrtc s.networkConnected outcome
    (publishWebrtcStatus rssi .connecting (some .autoRecoverRestart)
      (P4State.stopWebrtc { s with lastRecoverMs := now })).doorBell).effects
  let stopped := P4State.stopWebrtc { s with lastRecoverMs := now }
  refine ⟨b, d, ⟨.connecting, stopped.running, stopped.connected, rssi, some .autoRecoverRestart⟩,
    hd.trans ?_, rfl⟩
  simp only [publishWebrtcStatus, P4State.stopWebrtc, DoorBell.emit] at hb ⊢
  rw [hb]
  simp only [List.append_assoc, List.cons_append, List.nil_append]
  rfl

/-- The tick recovers exactly when the condition of the recovery branch holds. -/
theorem autoRecovers_iff (now rssi : Int) (outcome : StartOutcome) (s : P4State) :
    AutoRecovers now rssi outcome s ↔ recoverDue now s = true := by
  have hpub := statusOnly_publish now rssi s
  have hdue := recoverDue_publish now rssi s
  constructor
  · rintro ⟨a, b, c, d, status, heffects, hreason⟩
    have hquiet : Extends (fun e ↦ e.reason ≠ some .autoRecoverRestart) s.doorBell.effects
        (publishPeriodically now rssi (publishChange rssi s)).doorBell.effects :=
      hpub.effects.mono (fun e he ↦ by rw [he.2]; exact (Option.some_ne_none _).symm)
    have hpublishes : Publishes .autoRecoverRestart s (mqttControlLoop now rssi outcome s) :=
      ⟨_, heffects, .publishStatus status, by simp, hreason⟩
    apply Decidable.byContradiction
    intro hnot
    refine not_publishes ?_ hpublishes
    unfold mqttControlLoop
    simp only
    rw [hdue, if_neg hnot]
    split
    · refine hquiet.trans (((sessionOnly_stopWebrtc _).noReason _).trans ?_)
      exact extends_concat _ (by simp [Effect.reason])
    · exact hquiet
  · intro hrec
    obtain ⟨a, ha, _⟩ := hpub.effects
    obtain ⟨b, d, status, heffects, hreason⟩ := effects_recover now rssi outcome
      (publishPeriodically now rssi (publishChange rssi s))
    refine ⟨a, b, [], d, status, ?_, hreason⟩
    unfold mqttControlLoop
    simp only
    rw [hdue, if_pos hrec, heffects, ha, List.append_assoc]
    rfl

/-- With a request in the last recovery timeout, the tick does not recover. -/
theorem not_autoRecovers_of_request {es : List P4Input} {s : P4State}
    (h : RequestTimeInv es s) {now : Int}
    (hreq : ∃ i ∈ es, i.isOpenRequest ∧ now - webrtcConnectRecoverTimeoutMs ≤ i.now)
    (rssi : Int) (outcome : StartOutcome) : ¬ AutoRecovers now rssi outcome s := by
  rw [autoRecovers_iff]
  intro hrec
  obtain ⟨i, hi, hopen, hrecent⟩ := hreq
  simp only [recoverDue, Bool.and_eq_true, decide_eq_true_eq] at hrec
  rcases h with hz | hle
  · omega
  · have hlast := hle i hi hopen
    omega

/-- In a stuck session with heartbeats, the latest heartbeat is a recent request. -/
theorem StuckConnecting.recentRequest {pre since : List P4Input} {start : P4Input} {now : Int}
    {s : P4State} (h : StuckConnecting pre start since now s) :
    ∃ i ∈ pre ++ start :: since, i.isOpenRequest ∧
      now - webrtcConnectRecoverTimeoutMs ≤ i.now := by
  have hstuck := h.stuck
  simp only [webrtcConnectRecoverTimeoutMs] at hstuck ⊢
  obtain ⟨⟨time, event⟩, hi, hbeat, hlo, _⟩ := h.heartbeats now (by omega) (by omega)
  refine ⟨⟨time, event⟩, hi, ?_, hlo⟩
  unfold P4Input.isHeartbeat at hbeat
  unfold P4Input.isOpenRequest
  split at hbeat
  · simp only [decide_eq_true_eq] at hbeat
    simp_all
  · exact absurd hbeat Bool.false_ne_true

private def upAndOpened : List P4Input := [⟨500, .network (-50) true⟩]

private def openAt1s : P4Input := ⟨1000, .command (some openWebrtcCmd) .starts⟩

private def twoHeartbeats : List P4Input :=
  [⟨16000, .command (some heartbeatCmd) .starts⟩, ⟨26000, .command (some heartbeatCmd) .starts⟩]

/-- A session opened at 1 s that never connects, with heartbeats at 16 s and 26 s. -/
private theorem stuckConnecting_example :
    ∃ s, StuckConnecting upAndOpened openAt1s twoHeartbeats 31000 s := by
  refine ⟨_, rfl, ?_, by decide, ⟨0, ?_, ?_⟩, ?_, by decide, by decide⟩
  · simp [upAndOpened, openAt1s, twoHeartbeats, Timed]
  · intro u hu
    cases hu
    exact Nat.le_refl 0
  · intro n v hv
    rcases n with _ | _ | n
    · cases hv
      exact ⟨rfl, rfl⟩
    · cases hv
      exact ⟨rfl, rfl⟩
    · simp only [twoHeartbeats, List.take_succ_cons, List.take_nil] at hv
      cases hv
      exact ⟨rfl, rfl⟩
  · intro t hlo hhi
    simp only [openAt1s] at hlo
    by_cases ht : t < 26000
    · exact ⟨⟨16000, .command (some heartbeatCmd) .starts⟩, by decide, by decide, by simp; omega,
        by simp; omega⟩
    · exact ⟨⟨26000, .command (some heartbeatCmd) .starts⟩, by decide, by decide, by simp; omega,
        by simp; omega⟩

/-- The stuck session is not recovered at 31 s, 30 s after its start. -/
theorem stuck_session_not_recovered :
    ¬ ∀ pre start since now s, StuckConnecting pre start since now s →
      ∀ rssi outcome, AutoRecovers now rssi outcome s := by
  intro h
  obtain ⟨s, hs⟩ := stuckConnecting_example
  exact not_autoRecovers_of_request (requestTimeInv_run hs.reached hs.timed) hs.recentRequest
    (-50) .starts (h _ _ _ _ s hs (-50) .starts)

/-- No tick ever recovers a stuck session whose client keeps sending heartbeats. -/
theorem never_recovers (pre : List P4Input) (start : P4Input) (since : List P4Input) (now : Int)
    (s : P4State) (h : StuckConnecting pre start since now s) (rssi : Int)
    (outcome : StartOutcome) : ¬ AutoRecovers now rssi outcome s :=
  not_autoRecovers_of_request (requestTimeInv_run h.reached h.timed) h.recentRequest rssi outcome

/-- The session opened at 1 s, at its tick at 31 s. -/
theorem never_recovers_31s :
    ∃ s, StuckConnecting upAndOpened openAt1s twoHeartbeats 31000 s ∧
      ¬ AutoRecovers 31000 (-50) .starts s := by
  obtain ⟨s, hs⟩ := stuckConnecting_example
  exact ⟨s, hs, never_recovers upAndOpened openAt1s twoHeartbeats 31000 s hs (-50) .starts⟩

end Esp32Robot.Webrtc

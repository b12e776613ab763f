import Esp32Robot.Viewer.Session

/-!
# Ready notifications

When a "ready" status that clears `pendingWebrtcOpen` finds a session that serves, or
calls `connect`. The handler looks at `janus`, which is set from `connect` until
`destroySession` is done: also when the session could not be made, when its WebSocket was
closed before or after that, and while the answer to `janus.destroy` is awaited.
-/

namespace Esp32Robot.Viewer

open Esp32Robot.Base Esp32Robot.Webrtc

namespace ViewerState

/-- The event calls `destroySession`. -/
def destroys (v : ViewerState) : ViewerEvent → Bool
  | .mqtt (.close _) | .mqtt (.disconnect .disconnectBtn) | .destroyed _ => true
  | .stats bytesReceived now =>
    let q := v.quality.receive bytesReceived now
    q.stalls now && 2 < (q.count now).stallCountInWindow
  | _ => false

/-- A "ready" status clears `pendingWebrtcOpen`. -/
def clears (v : ViewerState) (e : ViewerEvent) : Prop :=
  e = .message true ∧ v.pendingWebrtcOpen = true

end ViewerState

/-- The handler calls `connect`, or leaves a session that is live or being created, and not asked
to end. -/
def Served (v w : ViewerState) : Prop :=
  (v.janus = none ∧ w = ViewerState.connect { v with pendingWebrtcOpen := false }) ∨
    ∃ k s, w.janus = some k ∧ w.sessions[k]? = some s ∧ s.usable = true

/-- Every notification that clears `pendingWebrtcOpen` is served. -/
def ReadyServed (es : List ViewerEvent) : Prop :=
  StepsMeet (fun v e ↦ v.clears e → ∀ w ∈ v.step e, Served v w) ViewerState.step .initial es

/-- `destroySession` was called while `janus` was the session. -/
def AskedToEnd (k : Nat) (es : List ViewerEvent) : Prop :=
  ∃ pre e post v, es = pre ++ e :: post ∧ run ViewerState.step .initial pre = some v ∧
    v.janus = some k ∧ v.destroys e = true

/-- The `error` callback of the session ran, its WebSocket closed before Janus had created it, or
`destroySession` was called on it. -/
def Over (k : Nat) (es : List ViewerEvent) : Prop :=
  .refused k ∈ es ∨ .dropped k ∈ es ∨ .lost k ∈ es ∨ AskedToEnd k es

/-- No notification that clears `pendingWebrtcOpen` finds a session in `janus` that is over. -/
def NoneOver (es : List ViewerEvent) : Prop :=
  ∀ pre post v, es = pre ++ .message true :: post → run ViewerState.step .initial pre = some v →
    v.pendingWebrtcOpen = true → ∀ k, v.janus = some k → ¬ Over k pre

/-! ### What a step does to the sessions -/

namespace ViewerState

variable {v w : ViewerState}

/-- `janus` and the sessions are the same. -/
def SameSessions (v w : ViewerState) : Prop := w.janus = v.janus ∧ w.sessions = v.sessions

/-- `connect` makes a session, or leaves them alone. -/
theorem connect_sessions (v : ViewerState) : SameSessions v v.connect ∨
    (v.connect.janus = some v.sessions.length ∧
      v.connect.sessions = v.sessions ++ [⟨.creating, false⟩]) := by
  unfold connect
  split
  · exact .inr ⟨rfl, rfl⟩
  · exact .inl ⟨rfl, rfl⟩

end ViewerState

/-- No session fails in the event. -/
def ViewerEvent.NoFailure (e : ViewerEvent) : Prop :=
  ∀ k, e ≠ .refused k ∧ e ≠ .dropped k ∧ e ≠ .lost k

/-- What a step does to `janus` and the sessions: nothing, or it makes a session, or changes the
phase of one, or calls `destroySession`. -/
inductive SessionsStep (v w : ViewerState) : ViewerEvent → Prop where
  | same {e : ViewerEvent} : v.SameSessions w → v.destroys e = false → e.NoFailure →
      SessionsStep v w e
  | made {e : ViewerEvent} : w.janus = some v.sessions.length →
      w.sessions = v.sessions ++ [⟨.creating, false⟩] → v.destroys e = false → e.NoFailure →
      SessionsStep v w e
  | created {k : Nat} : v.phase k = some .creating → w.janus = v.janus →
      w.sessions = (v.setPhase k .live).sessions → SessionsStep v w (.created k)
  | refused {k : Nat} : v.phase k = some .creating → w.janus = v.janus →
      w.sessions = (v.setPhase k .refused).sessions → SessionsStep v w (.refused k)
  | dropped {k : Nat} : v.phase k = some .creating → w.janus = v.janus →
      w.sessions = (v.setPhase k .dropped).sessions → SessionsStep v w (.dropped k)
  | lost {k : Nat} : v.phase k = some .live → w.janus = v.janus →
      w.sessions = (v.setPhase k .lost).sessions → SessionsStep v w (.lost k)
  | destroys {e : ViewerEvent} : v.destroys e = true → e.NoFailure →
      w.sessions.length = v.sessions.length →
      (∀ k, w.janus = some k → v.janus = some k ∧
        w.sessions[k]?.map JanusSession.destroying = some true) → SessionsStep v w e

namespace ViewerState

variable {v w : ViewerState}

/-- The handlers of MQTT. -/
theorem sessionsStep_onMqtt {e : AppEvent} {a : App} :
    SessionsStep v ({ v with app := a }.onMqtt e) (.mqtt e) := by
  have hno : (ViewerEvent.mqtt e).NoFailure := by simp [ViewerEvent.NoFailure]
  cases e with
  | close k =>
    unfold onMqtt
    simp only
    split
    · obtain ⟨hlength, hjanus⟩ := destroySession_janus { v with
        app := a
        pendingWebrtcOpen := false }
      exact .destroys rfl hno hlength hjanus
    · next hnone =>
      refine .destroys rfl hno rfl ?_
      intro k hk
      have hk : v.janus = some k := hk
      exact absurd (by simp [hk]) hnone
  | disconnect how =>
    cases how with
    | disconnectBtn =>
      obtain ⟨hlength, hjanus⟩ := destroySession_janus { v with app := a }
      exact .destroys rfl hno hlength hjanus
    | mqttDisconnect => exact .same ⟨rfl, rfl⟩ rfl hno
  | _ => exact .same ⟨rfl, rfl⟩ rfl hno

/-- A sample re-subscribes, restarts, or does nothing. -/
theorem sessionsStep_onStats {bytesReceived : Option Nat} {now : Nat} {rs : List JanusRequest} :
    SessionsStep v ({ v with requests := rs }.onStats bytesReceived now)
      (.stats bytesReceived now) := by
  have hno : (ViewerEvent.stats bytesReceived now).NoFailure := by simp [ViewerEvent.NoFailure]
  unfold onStats
  simp only
  split
  · next hstalls =>
    split
    · next hfew =>
      have hquiet : v.destroys (.stats bytesReceived now) = false := by
        simp only [destroys, hstalls, Bool.true_and, decide_eq_false_iff_not]
        exact Nat.not_lt.mpr hfew
      exact .same (resubscribe_kept now _).2 hquiet hno
    · next hmore =>
      have hrestart : v.destroys (.stats bytesReceived now) = true := by
        simp only [destroys, hstalls, Bool.true_and, decide_eq_true_eq]
        exact Nat.not_le.mp hmore
      obtain ⟨hlength, hjanus⟩ := destroySession_janus { v with
        requests := rs
        quality := (v.quality.receive bytesReceived now).count now
        app := v.app.onStall
        recoveries := v.recoveries ++ [.restart v.app.canPublish] }
      exact .destroys hrestart hno hlength hjanus
  · next hcalm =>
    have hquiet : v.destroys (.stats bytesReceived now) = false := by
      simp only [destroys, Bool.eq_false_iff.mpr hcalm, Bool.false_and]
    exact .same ⟨rfl, rfl⟩ hquiet hno

/-- Every step is one of these. -/
theorem sessionsStep {e : ViewerEvent} (h : v.step e = some w) : SessionsStep v w e := by
  obtain ⟨henabled, hw⟩ := step_some.mp h
  have hno (he : ∀ k, e ≠ .refused k ∧ e ≠ .dropped k ∧ e ≠ .lost k) : e.NoFailure := he
  cases e with
  | mqtt e =>
    obtain ⟨a, -, rfl⟩ := Option.map_eq_some_iff.mp hw
    exact sessionsStep_onMqtt
  | message ready =>
    cases hw
    unfold onMessage
    split
    · simp only
      split
      · rcases connect_sessions { v with pendingWebrtcOpen := false } with hsame | ⟨hjanus, hmade⟩
        · exact .same hsame rfl (hno (by simp))
        · exact .made hjanus hmade rfl (hno (by simp))
      · exact .same ⟨rfl, rfl⟩ rfl (hno (by simp))
    · exact .same ⟨rfl, rfl⟩ rfl (hno (by simp))
  | connectBtn =>
    cases hw
    rcases v.connect_sessions with hsame | ⟨hjanus, hmade⟩
    · exact .same hsame rfl (hno (by simp))
    · exact .made hjanus hmade rfl (hno (by simp))
  | created k =>
    cases hw
    rw [onCreated, attachManager_eq]
    exact .created (of_decide_eq_true henabled) rfl rfl
  | refused k =>
    cases hw
    exact .refused (of_decide_eq_true henabled) rfl rfl
  | dropped k =>
    cases hw
    exact .dropped (of_decide_eq_true henabled) rfl rfl
  | lost k =>
    cases hw
    exact .lost (of_decide_eq_true henabled) rfl rfl
  | destroyed k =>
    cases hw
    refine .destroys rfl (hno (by simp)) ?_ (fun j hj ↦ absurd hj (by simp [onDestroyed, reset]))
    rw [onDestroyed]
    exact (destroySession_janus _).1.trans (List.length_modify ..)
  | stats bytesReceived now =>
    obtain ⟨-, rfl⟩ := answer_map_some.mp hw
    exact sessionsStep_onStats
  | editRoom roomId =>
    cases hw
    exact .same ⟨rfl, rfl⟩ rfl (hno (by simp))
  | _ => exact .same (handles_step rfl h).2 rfl (hno (by simp))

end ViewerState

/-! ### Sessions that are over -/

/-- `destroySession` was called on the session before the last event, or is called by it. -/
theorem askedToEnd_concat {k : Nat} {es : List ViewerEvent} {e : ViewerEvent} {v : ViewerState}
    (h : run ViewerState.step .initial es = some v) : AskedToEnd k (es ++ [e]) ↔
      AskedToEnd k es ∨ (v.janus = some k ∧ v.destroys e = true) := by
  constructor
  · rintro ⟨pre, x, post, u, hes, hu, hjanus, hdestroys⟩
    rcases List.eq_nil_or_concat post with rfl | ⟨post, y, rfl⟩
    · obtain ⟨rfl, hx⟩ := List.append_inj' hes rfl
      cases hx
      obtain rfl : v = u := Option.some.inj (h.symm.trans hu)
      exact .inr ⟨hjanus, hdestroys⟩
    · simp only [List.concat_eq_append, ← List.cons_append, ← List.append_assoc] at hes
      exact .inl ⟨pre, x, post, u, (List.append_inj' hes rfl).1, hu, hjanus, hdestroys⟩
  · rintro (⟨pre, x, post, u, rfl, hu, hjanus, hdestroys⟩ | ⟨hjanus, hdestroys⟩)
    · exact ⟨pre, x, post ++ [e], u, by simp, hu, hjanus, hdestroys⟩
    · exact ⟨es, e, [], v, rfl, h, hjanus, hdestroys⟩

/-- The session was over before the last event, or is because of it. -/
theorem over_concat {k : Nat} {es : List ViewerEvent} {e : ViewerEvent} {v : ViewerState}
    (h : run ViewerState.step .initial es = some v) : Over k (es ++ [e]) ↔
      Over k es ∨ e = .refused k ∨ e = .dropped k ∨ e = .lost k ∨
        (v.janus = some k ∧ v.destroys e = true) := by
  unfold Over
  rw [askedToEnd_concat h]
  simp only [List.mem_append, List.mem_singleton]
  grind

/-- The session in `janus` is usable unless it is over, and no session to come is. -/
structure Tracked (es : List ViewerEvent) (v : ViewerState) : Prop where
  current : ∀ k, v.janus = some k →
    ∃ s, v.sessions[k]? = some s ∧ (s.usable = true ↔ ¬ Over k es)
  fresh : ∀ k, v.sessions.length ≤ k → ¬ Over k es

/-- Nothing happened yet. -/
theorem tracked_initial : Tracked [] .initial where
  current k hk := absurd hk (by simp [ViewerState.initial])
  fresh k _ := by
    rintro (h | h | h | ⟨pre, e, post, -, hes, -⟩)
    · exact absurd h List.not_mem_nil
    · exact absurd h List.not_mem_nil
    · exact absurd h List.not_mem_nil
    · exact absurd hes (by simp)

/-- A change of the phase of a session keeps the others, and the session in `janus` tracked when
the change is. -/
theorem Tracked.setPhase {es fs : List ViewerEvent} {v w : ViewerState} {k : Nat}
    {phase : JanusPhase} (h : Tracked es v) (hjanus : w.janus = v.janus)
    (hsessions : w.sessions = (v.setPhase k phase).sessions)
    (hover : ∀ j, j ≠ k → (Over j fs ↔ Over j es))
    (hself : ∀ s, v.sessions[k]? = some s → (s.usable = true ↔ ¬ Over k es) →
      (JanusSession.usable { s with phase := phase } = true ↔ ¬ Over k fs))
    (hk : k < v.sessions.length) : Tracked fs w where
  current j hj := by
    obtain ⟨s, hs, husable⟩ := h.current j (hjanus ▸ hj)
    rw [hsessions]
    by_cases hjk : j = k
    · subst hjk
      refine ⟨{ s with phase := phase }, ?_, hself s hs husable⟩
      simp [ViewerState.setPhase, List.getElem?_modify_eq, hs]
    · refine ⟨s, ?_, husable.trans (not_congr (hover j hjk).symm)⟩
      simp only [ViewerState.setPhase]
      rw [List.getElem?_modify_ne _ _ (Ne.symm hjk)]
      exact hs
  fresh j hj := by
    rw [hsessions, ViewerState.setPhase] at hj
    simp only [List.length_modify] at hj
    rw [hover j (by omega)]
    exact h.fresh j hj

/-- Every step keeps the sessions tracked. -/
theorem tracked_step {es : List ViewerEvent} {v w : ViewerState} {e : ViewerEvent}
    (hrun : run ViewerState.step .initial es = some v) (h : Tracked es v) (hw : v.step e = some w) :
    Tracked (es ++ [e]) w := by
  have hlength {k : Nat} {phase : JanusPhase} (hphase : v.phase k = some phase) :
      k < v.sessions.length := by
    obtain ⟨s, hs, -⟩ := Option.map_eq_some_iff.mp hphase
    exact (List.getElem?_eq_some_iff.mp hs).1
  cases ViewerState.sessionsStep hw with
  | same hsame hquiet hno =>
    have hover (k : Nat) : Over k (es ++ [e]) ↔ Over k es := by
      simp [over_concat hrun, hquiet, hno k]
    refine ⟨?_, ?_⟩
    · intro k hk
      rw [hsame.2, hover]
      exact h.current k (hsame.1 ▸ hk)
    · intro k hk
      rw [hover]
      exact h.fresh k (hsame.2 ▸ hk)
  | made hjanus hmade hquiet hno =>
    have hover (k : Nat) : Over k (es ++ [e]) ↔ Over k es := by
      simp [over_concat hrun, hquiet, hno k]
    refine ⟨?_, ?_⟩
    · intro k hk
      obtain rfl : v.sessions.length = k := Option.some.inj (hjanus.symm.trans hk)
      refine ⟨⟨.creating, false⟩, by rw [hmade, List.getElem?_concat_length], ?_⟩
      rw [hover]
      exact iff_of_true rfl (h.fresh _ (Nat.le_refl _))
    · intro k hk
      rw [hmade, List.length_append] at hk
      rw [hover]
      exact h.fresh k (by omega)
  | @created k hphase hjanus hsessions =>
    have hover (j : Nat) : Over j (es ++ [.created k]) ↔ Over j es := by
      simp [over_concat hrun, ViewerState.destroys]
    refine h.setPhase hjanus hsessions (fun j _ ↦ hover j) ?_ (hlength hphase)
    intro s hs husable
    have hcreating : s.phase = .creating := by simpa [ViewerState.phase, hs] using hphase
    rw [hover, ← husable]
    simp [JanusSession.usable, hcreating]
  | @refused k hphase hjanus hsessions =>
    refine h.setPhase hjanus hsessions ?_ ?_ (hlength hphase)
    · intro j hj
      simp [over_concat hrun, ViewerState.destroys, Ne.symm hj]
    · intro s _ _
      simp [over_concat hrun, JanusSession.usable]
  | @dropped k hphase hjanus hsessions =>
    refine h.setPhase hjanus hsessions ?_ ?_ (hlength hphase)
    · intro j hj
      simp [over_concat hrun, ViewerState.destroys, Ne.symm hj]
    · intro s _ _
      simp [over_concat hrun, JanusSession.usable]
  | @lost k hphase hjanus hsessions =>
    refine h.setPhase hjanus hsessions ?_ ?_ (hlength hphase)
    · intro j hj
      simp [over_concat hrun, ViewerState.destroys, Ne.symm hj]
    · intro s _ _
      simp [over_concat hrun, JanusSession.usable]
  | destroys hdestroys hno hsame hjanus =>
    refine ⟨?_, ?_⟩
    · intro k hk
      obtain ⟨hbefore, hdestroying⟩ := hjanus k hk
      obtain ⟨s, hs, hended⟩ := Option.map_eq_some_iff.mp hdestroying
      refine ⟨s, hs, ?_⟩
      have hover : Over k (es ++ [e]) :=
        (over_concat hrun).mpr (.inr (.inr (.inr (.inr ⟨hbefore, hdestroys⟩))))
      simp [JanusSession.usable, hended, hover]
    · intro k hk
      rw [hsame] at hk
      have hother : v.janus ≠ some k := by
        intro hk'
        obtain ⟨s, hs, -⟩ := h.current k hk'
        exact absurd (List.getElem?_eq_some_iff.mp hs).1 (Nat.not_lt.mpr hk)
      simp [over_concat hrun, hother, hno k, h.fresh k hk]

/-- After every run the sessions are tracked. -/
theorem tracked_run {es : List ViewerEvent} {v : ViewerState}
    (h : run ViewerState.step .initial es = some v) : Tracked es v :=
  run_history tracked_initial (fun _ _ _ _ hrun hv hw ↦ tracked_step hrun hv hw) h

/-- A "ready" status that finds a session is served when that session is not over. -/
theorem served_iff {es : List ViewerEvent} {v w : ViewerState}
    (hrun : run ViewerState.step .initial es = some v) (hpending : v.pendingWebrtcOpen = true)
    (hw : v.step (.message true) = some w) :
    Served v w ↔ ∀ k, v.janus = some k → ¬ Over k es := by
  have htracked := tracked_run hrun
  obtain ⟨-, hw⟩ := ViewerState.step_some.mp hw
  cases hw
  have hready : (true && v.pendingWebrtcOpen) = true := hpending
  cases hjanus : v.janus with
  | none =>
    refine iff_of_true (.inl ⟨hjanus, ?_⟩) (by simp)
    simp only [ViewerState.onMessage, hready, if_true, hjanus, Option.isNone_none]
  | some k =>
    have hkept : v.onMessage true = { v with pendingWebrtcOpen := false } := by
      simp only [ViewerState.onMessage, hready, if_true, hjanus]
      exact if_neg (by simp)
    obtain ⟨s, hs, husable⟩ := htracked.current k hjanus
    rw [hkept]
    constructor
    · rintro (⟨hnone, -⟩ | ⟨j, x, hj, hx, hxusable⟩) i hi
      · rw [hjanus] at hnone
        exact absurd hnone (by simp)
      · obtain rfl : k = i := Option.some.inj hi
        obtain rfl : k = j := Option.some.inj (hjanus.symm.trans hj)
        obtain rfl : s = x := Option.some.inj (hs.symm.trans hx)
        exact husable.mp hxusable
    · intro h
      exact .inr ⟨k, s, hjanus, hs, husable.mpr (h k rfl)⟩

/-- Every ready notification is served if and only if none finds a session that is over. -/
theorem readyServed_iff (es : List ViewerEvent) : ReadyServed es ↔ NoneOver es := by
  constructor
  · intro h pre post v hes hv hpending k hk
    obtain ⟨w, hw⟩ : ∃ w, v.step (.message true) = some w := ⟨_, rfl⟩
    have hserved := h pre _ post v hes hv ⟨rfl, hpending⟩ w hw
    exact (served_iff hv hpending hw).mp hserved k hk
  · rintro h pre e post v hes hv ⟨rfl, hpending⟩ w hw
    exact (served_iff hv hpending hw).mpr (h pre post v hes hv hpending)

/-- MQTT connects and the session is made; MQTT is lost and connects again before Janus has
answered the destroy request. -/
private def reconnectedEarly : List ViewerEvent :=
  [.editRoom true, .mqtt (.mqttConnect true), .mqtt (.connect 0 (.lit "125") (.lit "5")),
    .message true, .created 0, .mqtt (.close 0), .mqtt (.connect 0 (.lit "125") (.lit "5"))]

/-- A "ready" status that comes while the old session is being destroyed is swallowed. -/
theorem ready_swallowed :
    ¬ ∀ es v, run ViewerState.step .initial es = some v → ReadyServed es := by
  intro h
  have hserved := h (reconnectedEarly ++ [.message true]) _ rfl reconnectedEarly (.message true) []
    _ rfl rfl ⟨rfl, rfl⟩ _ rfl
  rcases hserved with ⟨hnone, -⟩ | ⟨k, s, hk, hs, husable⟩
  · exact absurd hnone (by decide)
  · cases hk
    cases hs
    exact absurd husable (by decide)

end Esp32Robot.Viewer

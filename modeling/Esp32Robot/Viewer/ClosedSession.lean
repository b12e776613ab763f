import Esp32Robot.Viewer.RemoteControl

/-!
# Closed sessions

What holds after the operator disconnected and the P4 handled the `CLOSE_WEBRTC`.
The P4 takes a `HEARTBEAT` for a request, so it depends on the heartbeat interval
that the disconnect leaves; and it depends on the other tasks of the P4, which may be
about to start a session when the close stops the retries.
-/

namespace Esp32Robot.Viewer

open Esp32Robot.Base Esp32Robot.Webrtc

/-- The operator disconnects in `u`, which publishes `CLOSE_WEBRTC`; it is delivered in `s`; and
in `v` the P4 has handled it. The viewer makes no open request in between. -/
structure HandledClose (u : RemoteControl) (how : Disconnect) (between : List RemoteEvent)
    (s : RemoteControl) (now : Int) (during : List RemoteEvent) (v : RemoteControl) : Prop where
  publishes : u.viewer.canPublish = true
  delivered : run RemoteControl.step u (.viewer (.disconnect how) :: between) = some s
  next : s.delivered = u.viewer.published.length
  handled : run RemoteControl.step s (.deliver now :: during) = some v
  done : v.p4.idle = true
  quiet : ∀ e ∈ between ++ during, e.isOpenRequest = false

/-- Before a new open request of the viewer the P4 does not call `start_webrtc`. -/
def StaysClosed (v : RemoteControl) : Prop :=
  ∀ after w, run RemoteControl.step v after = some w →
    (∀ e ∈ after, e.isOpenRequest = false) → NoStart v.doorBell w.doorBell

/-- When the MQTT task sets `janus_retry_stop` in a stop, no task is about to start a session: no
retry task is past its loop test, no `start_webrtc` is about to clear the flag, and the control
loop has not decided to recover. -/
def NothingWakes (s : RemoteControl) : RemoteEvent → Prop
  | .p4 (.exec i _) => i = P4Tasks.mqttTask →
      s.p4.head P4Tasks.mqttTask = some (.webrtc .stopWebrtc) →
      ∀ x ∈ s.p4.pending, x.wakes = false
  | _ => True

instance (s : RemoteControl) : (e : RemoteEvent) → Decidable (NothingWakes s e)
  | .p4 (.exec i _) => inferInstanceAs (Decidable (i = P4Tasks.mqttTask →
      s.p4.head P4Tasks.mqttTask = some (.webrtc .stopWebrtc) →
      ∀ x ∈ s.p4.pending, x.wakes = false))
  | .viewer _ | .deliver _ | .lose => isTrue trivial
  | .p4 (.network _ _) | .p4 (.mqtt _) | .p4 (.webrtcEvent _) => isTrue trivial

/-! ### After the close -/

/-- Number `n` of the published commands is the close, what follows is no request, and no
interval is set. -/
structure Closing (n : Nat) (v : App) : Prop where
  intervals : v.intervals = []
  close : v.published[n]? = some closeWebrtcCmd
  later : ∀ m cmd, n < m → v.published[m]? = some cmd → NoRequest cmd

/-- A viewer that makes no open request stays so. -/
theorem closing_step {n : Nat} {v w : App} {e : AppEvent} (h : Closing n v)
    (he : e.isOpenRequest = false) (hw : v.step e = some w) : Closing n w := by
  obtain ⟨ext, hpublished, hext⟩ := App.published_step hw
  have hn : n < v.published.length := (List.getElem?_eq_some_iff.mp h.close).1
  refine ⟨App.intervals_silent h.intervals he hw, ?_, ?_⟩
  · rw [hpublished, List.getElem?_append_left hn]
    exact h.close
  · intro m cmd hm hcmd
    rw [hpublished] at hcmd
    by_cases hlt : m < v.published.length
    · rw [List.getElem?_append_left hlt] at hcmd
      exact h.later m cmd hm hcmd
    · rw [List.getElem?_append_right (Nat.le_of_not_lt hlt)] at hcmd
      exact hext cmd (List.mem_of_getElem? hcmd) he h.intervals

/-- A disconnect that leaves no interval starts closing. -/
theorem closing_disconnect {v : App} {how : Disconnect} (hpublish : v.canPublish = true)
    (hintervals : (how.run v).intervals = []) : Closing v.published.length (how.run v) := by
  have hpublished := App.published_disconnect hpublish how
  refine ⟨hintervals, by simp [hpublished], ?_⟩
  intro m cmd hm hcmd
  have hlength : (how.run v).published.length ≤ m := by
    rw [hpublished, List.length_append, List.length_singleton]
    omega
  rw [List.getElem?_eq_none hlength] at hcmd
  exact absurd hcmd (by simp)

/-- Until an open request the viewer is closing. -/
theorem closing_remoteStep {n : Nat} {s t : RemoteControl} {e : RemoteEvent}
    (h : Closing n s.viewer) (he : e.isOpenRequest = false) (ht : s.step e = some t) :
    Closing n t.viewer := by
  rcases RemoteControl.viewer_step ht with hsame | ⟨event, rfl, hv⟩
  · rw [hsame]
    exact h
  · exact closing_step h he hv

/-- The close was delivered, and the P4 sleeps. -/
structure Closed (n : Nat) (s : RemoteControl) : Prop where
  closing : Closing n s.viewer
  delivered : n < s.delivered
  asleep : Asleep s.p4

/-- The close was delivered, and the P4 handles it or sleeps. -/
structure Handles (n : Nat) (s : RemoteControl) : Prop where
  closing : Closing n s.viewer
  delivered : n < s.delivered
  onlyMqtt : s.p4.OnlyMqtt
  closes : s.p4.Closes ∨ Asleep s.p4

/-- Until an open request a closed session stays closed, and nothing is started. -/
theorem closed_step {n : Nat} {s t : RemoteControl} {e : RemoteEvent} (h : Closed n s)
    (he : e.isOpenRequest = false) (ht : s.step e = some t) :
    Closed n t ∧ NoStart s.doorBell t.doorBell := by
  have hclosing := closing_remoteStep h.closing he ht
  cases e with
  | viewer event =>
    obtain ⟨v, _, rfl⟩ := Option.map_eq_some_iff.mp ht
    exact ⟨⟨hclosing, h.delivered, h.asleep⟩, .of_eq rfl⟩
  | deliver now =>
    obtain ⟨cmd, p, hcmd, hp, rfl⟩ := RemoteControl.deliver_some ht
    obtain ⟨hopen, hbeat⟩ := h.closing.later s.delivered cmd h.delivered hcmd
    obtain ⟨hasleep, hnone⟩ := P4Tasks.asleep_receive h.asleep hopen hbeat hp
    exact ⟨⟨hclosing, Nat.lt_succ_of_lt h.delivered, hasleep⟩, hnone⟩
  | lose =>
    obtain rfl := RemoteControl.lose_some ht
    exact ⟨⟨hclosing, Nat.lt_succ_of_lt h.delivered, h.asleep⟩, .of_eq rfl⟩
  | p4 event =>
    obtain ⟨p, hp, rfl⟩ := Option.map_eq_some_iff.mp ht
    obtain ⟨hasleep, hnone⟩ := P4Tasks.asleep_step h.asleep hp
    exact ⟨⟨hclosing, h.delivered, hasleep⟩, hnone⟩

/-- Taking the close starts its handling. -/
theorem handles_deliver {n : Nat} {s t : RemoteControl} {now : Int} (h : Closing n s.viewer)
    (hn : s.delivered = n) (honly : s.p4.OnlyMqtt) (ht : s.step (.deliver now) = some t) :
    Handles n t := by
  have honly' := RemoteControl.onlyMqtt_step honly ht
  obtain ⟨cmd, p, hcmd, hp, rfl⟩ := RemoteControl.deliver_some ht
  rw [hn, h.close] at hcmd
  cases hcmd
  exact ⟨h, Nat.lt_succ_of_le (Nat.le_of_eq hn.symm), honly', .inl (P4Tasks.closes_receive hp)⟩

/-- A step while the close is handled. -/
theorem handles_step {n : Nat} {s t : RemoteControl} {e : RemoteEvent} (h : Handles n s)
    (he : e.isOpenRequest = false) (hstop : NothingWakes s e) (ht : s.step e = some t) :
    Handles n t := by
  rcases h.closes with hcloses | hasleep
  · have hclosing := closing_remoteStep h.closing he ht
    have honly := RemoteControl.onlyMqtt_step h.onlyMqtt ht
    cases e with
    | viewer event =>
      obtain ⟨v, _, rfl⟩ := Option.map_eq_some_iff.mp ht
      exact ⟨hclosing, h.delivered, honly, .inl hcloses⟩
    | deliver now =>
      obtain ⟨cmd, p, _, hp, rfl⟩ := RemoteControl.deliver_some ht
      exact absurd (P4Tasks.receive_some hp).1 (by rw [hcloses.not_idle]; decide)
    | lose =>
      obtain rfl := RemoteControl.lose_some ht
      exact ⟨hclosing, Nat.lt_succ_of_lt h.delivered, honly, .inl hcloses⟩
    | p4 event =>
      obtain ⟨p, hp, rfl⟩ := Option.map_eq_some_iff.mp ht
      refine ⟨hclosing, h.delivered, honly, P4Tasks.closes_step hcloses h.onlyMqtt ?_ hp⟩
      rintro c rfl
      exact hstop rfl
  · obtain ⟨hclosed, _⟩ := closed_step ⟨h.closing, h.delivered, hasleep⟩ he ht
    exact ⟨hclosed.closing, hclosed.delivered, RemoteControl.onlyMqtt_step h.onlyMqtt ht,
      .inr hclosed.asleep⟩

/-- All along a run until an open request. -/
theorem closed_run {n : Nat} {s t : RemoteControl} {es : List RemoteEvent} (h : Closed n s)
    (hquiet : ∀ e ∈ es, e.isOpenRequest = false) (ht : run RemoteControl.step s es = some t) :
    Closed n t ∧ NoStart s.doorBell t.doorBell := by
  refine run_invariant_of_meet (P := fun _ e ↦ e.isOpenRequest = false)
    (I := fun t ↦ Closed n t ∧ NoStart s.doorBell t.doorBell) ⟨h, .of_eq rfl⟩ ?_
    (stepsMeet_of_forall hquiet) ht
  rintro x e y ⟨hclosed, hnone⟩ he hy
  obtain ⟨hclosed', hnone'⟩ := closed_step hclosed he hy
  exact ⟨hclosed', hnone.trans hnone'⟩

/-- In every reachable state only the interval of `heartbeatTimer` is set, and only the MQTT task
runs the command handler. -/
theorem reachable_run {es : List RemoteEvent} {u : RemoteControl}
    (h : run RemoteControl.step .initial es = some u) :
    u.viewer.intervals = u.viewer.heartbeatTimer.toList ∧ u.p4.OnlyMqtt := by
  refine run_invariant (I := fun s : RemoteControl ↦
    s.viewer.intervals = s.viewer.heartbeatTimer.toList ∧ s.p4.OnlyMqtt)
    ⟨rfl, P4Tasks.onlyMqtt_initial⟩ ?_ h
  rintro s e t ⟨hintervals, honly⟩ ht
  refine ⟨?_, RemoteControl.onlyMqtt_step honly ht⟩
  rcases RemoteControl.viewer_step ht with hsame | ⟨event, rfl, hv⟩
  · rw [hsame]
    exact hintervals
  · exact App.intervals_step hintervals hv

/-- A disconnect leaves no interval when it is `mqttDisconnect`, or none was set. -/
theorem intervals_disconnect {v : App} (h : v.intervals = v.heartbeatTimer.toList)
    {how : Disconnect} (hhow : how = .disconnectBtn → v.intervals = []) :
    (how.run v).intervals = [] := by
  cases how with
  | disconnectBtn =>
    show (v.publishIfConnected closeWebrtcCmd).intervals = []
    rw [App.publishIfConnected_eq]
    exact hhow rfl
  | mqttDisconnect =>
    simp only [Disconnect.run, App.mqttDisconnect]
    rw [(App.endClient_kept _).2.1]
    apply App.intervals_clearHeartbeat
    rw [App.publishIfConnected_eq]
    exact h

/-- The MQTT task runs its next statements. -/
private def mqttRuns (n : Nat) : List RemoteEvent :=
  List.replicate n (.p4 (.exec P4Tasks.mqttTask ⟨0, -50, true⟩))

/-- The viewer connects, the P4 handles what it publishes, and the session is up. -/
private def viewerConnected : List RemoteEvent :=
  [.p4 (.network (-50) true), .p4 (.mqtt true), .viewer (.mqttConnect true),
    .viewer (.connect 0 (.lit "125") (.lit "5")), .deliver 1000] ++ mqttRuns 1 ++
    [.deliver 1000] ++ mqttRuns 1 ++ [.deliver 1001] ++ mqttRuns 15 ++
    [.p4 (.webrtcEvent .connected), .p4 (.exec 2 ⟨3000, -50, true⟩)]

/-- After a `disconnectBtn` click in a connected session, the P4 starts a session again. -/
theorem disconnectBtn_restarts :
    ¬ ∀ es u how between s now during v, run RemoteControl.step .initial es = some u →
      HandledClose u how between s now during v → StaysClosed v := by
  intro h
  have hrestarts : ∃ u s v w, run RemoteControl.step .initial viewerConnected = some u ∧
      HandledClose u .disconnectBtn [] s 4000 (mqttRuns 7) v ∧
      run RemoteControl.step v ([.viewer (.interval 0), .deliver 6000] ++ mqttRuns 5) = some w ∧
      w.doorBell.effects = v.doorBell.effects ++ [.startWebrtc] := by
    refine ⟨_, _, _, _, rfl, ⟨rfl, rfl, rfl, rfl, ?_, by decide⟩, rfl, ?_⟩
    · rfl
    · rfl
  obtain ⟨u, s, v, w, hu, hclose, hw, heffects⟩ := hrestarts
  have hnone := h viewerConnected u _ _ s _ _ v hu hclose _ w hw (by decide)
  rw [NoStart, heffects] at hnone
  exact hnone.of_append .startWebrtc (List.mem_singleton_self _) rfl

/-- After a disconnect that leaves no interval, and a close that stops the retries while no task is
about to start a session, the session stays closed until a new open request. -/
theorem staysClosed_of_nothingWakes {es between during : List RemoteEvent}
    {u s v : RemoteControl} {how : Disconnect} {now : Int}
    (hu : run RemoteControl.step .initial es = some u)
    (hclose : HandledClose u how between s now during v)
    (hinterval : how = .disconnectBtn → u.viewer.intervals = [])
    (hstop : StepsMeet NothingWakes RemoteControl.step s (.deliver now :: during)) :
    StaysClosed v := by
  obtain ⟨hintervals, honly⟩ := reachable_run hu
  have hbetween : ∀ e ∈ between, e.isOpenRequest = false :=
    fun e he ↦ hclose.quiet e (List.mem_append_left during he)
  have hduring : ∀ e ∈ during, e.isOpenRequest = false :=
    fun e he ↦ hclose.quiet e (List.mem_append_right between he)
  obtain ⟨d, hd, hs⟩ := run_cons_some.mp hclose.delivered
  cases hd
  have hclosing : Closing u.viewer.published.length s.viewer ∧ s.p4.OnlyMqtt :=
    run_invariant_of_meet (P := fun _ e ↦ e.isOpenRequest = false)
      (I := fun s ↦ Closing u.viewer.published.length s.viewer ∧ s.p4.OnlyMqtt)
      ⟨closing_disconnect hclose.publishes (intervals_disconnect hintervals hinterval), honly⟩
      (fun _ _ _ hs he ht ↦
        ⟨closing_remoteStep hs.1 he ht, RemoteControl.onlyMqtt_step hs.2 ht⟩)
      (stepsMeet_of_forall hbetween) hs
  obtain ⟨x, hx, hv⟩ := run_cons_some.mp hclose.handled
  have hhandles : Handles u.viewer.published.length v := by
    refine run_invariant_of_meet
      (P := fun s e ↦ e.isOpenRequest = false ∧ NothingWakes s e)
      (handles_deliver hclosing.1 hclose.next hclosing.2 hx)
      (fun _ _ _ hs he ht ↦ handles_step hs he.1 he.2 ht) ?_ hv
    intro pre e post y hes hy
    exact ⟨stepsMeet_of_forall hduring pre e post y hes hy,
      (stepsMeet_cons.mp hstop).2 x hx pre e post y hes hy⟩
  have hasleep : Asleep v.p4 := by
    rcases hhandles.closes with hcloses | hasleep
    · exact absurd hclose.done (by rw [hcloses.not_idle]; decide)
    · exact hasleep
  intro after w hw hquiet
  exact (closed_run ⟨hhandles.closing, hhandles.delivered, hasleep⟩ hquiet hw).2

/-- `mqttDisconnect` in the connected session, whose close finds no other task at work. -/
theorem staysClosed_mqttDisconnect :
    ∃ u s v, run RemoteControl.step .initial viewerConnected = some u ∧
      HandledClose u .mqttDisconnect [] s 4000 (mqttRuns 7) v ∧ StaysClosed v := by
  have hclose : ∃ u s v, run RemoteControl.step .initial viewerConnected = some u ∧
      HandledClose u .mqttDisconnect [] s 4000 (mqttRuns 7) v ∧
      StepsMeet NothingWakes RemoteControl.step s (.deliver 4000 :: mqttRuns 7) := by
    refine ⟨_, _, _, rfl, ⟨rfl, rfl, rfl, rfl, ?_, by decide⟩, ?_⟩
    · rfl
    · decide
  obtain ⟨u, s, v, hu, hclose, hstop⟩ := hclose
  exact ⟨u, s, v, hu, hclose, staysClosed_of_nothingWakes hu hclose (by simp) hstop⟩

end Esp32Robot.Viewer

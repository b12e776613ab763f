import Esp32Robot.Webrtc.Handles
import Esp32Robot.Webrtc.HeartbeatRace

/-!
# The tasks of the P4

`main.c` and `webrtc.c` of `IDF_esp32p4_webrtc` in their tasks: the control loop, the
MQTT task, the retry tasks, and the callbacks of the network and of WebRTC. The
statements of the loop and of the command handler are those of
`Esp32Robot.Webrtc.HeartbeatRace`; where they call `start_webrtc` or `stop_webrtc`,
the instructions of `Esp32Robot.Webrtc.Handles` follow. Any task may take the next
step. Of the calls to other components only the status messages and the entries of
`start_webrtc` and `stop_webrtc` are logged.
-/

namespace Esp32Robot.Webrtc

open Esp32Robot.Base

/-- What a thread is for. -/
inductive ControlRole where
  | main
  | mqtt
  | callback
  | retry
  deriving DecidableEq, Repr

/-- The variables that `network_event_handler` clears, `main.c:330–333`. -/
inductive ControlTime where
  | lastHeartbeatMs
  | lastOpenRequestMs
  | lastRecoverMs
  | lastStatusPubMs
  deriving DecidableEq, Repr

/-- A statement of `mqtt_control_loop`, of `mqtt_control_cmd_handler`, of `webrtc_event_handler`
or of `network_event_handler`, or an instruction of `webrtc.c`. -/
inductive ControlInstr where
  | loop (phase : LoopPhase)
  | handler (phase : HandlerPhase)
  | webrtcEvent (event : WebrtcEventType)
  | clear (time : ControlTime)
  | webrtc (ins : HandleInstr)
  deriving DecidableEq, Repr

/-- The clock, the signal strength, and the result of the call in an instruction. -/
structure ControlChoice where
  now : Int
  rssi : Int
  ok : Bool
  deriving DecidableEq, Repr

/-- What running an instruction leads to. -/
abbrev ControlOutcome := Outcome P4State ControlRole ControlInstr

/-- The variables after an instruction of `webrtc.c` that left the handles in a state. The entries
of `start_webrtc` and `stop_webrtc` are logged, and `webrtc_connected` is cleared by the latter,
and by the former when it found a session, `webrtc.c:676–679` and `828`. -/
def P4State.afterHandle (ins : HandleInstr) (h : HandleState) (s : P4State) : P4State :=
  let d := match ins with
    | .startWebrtc _ => s.doorBell.emit .startWebrtc
    | .stopWebrtc => { s.doorBell.emit .stopWebrtc with webrtcConnected := false }
    | .testWebrtc _ =>
      if s.doorBell.webrtc.isSome then { s.doorBell with webrtcConnected := false }
      else s.doorBell
    | _ => s.doorBell
  { s with doorBell := { d with
      webrtc := h.webrtc
      janusRetryStop := h.janusRetryStop
      janusRetryRunning := h.janusRetryRunning
      nextHandle := h.nextHandle } }

/-- A retry task that `schedule_janus_retry` created. -/
def retryThread (t : Thread Caller HandleInstr) : Thread ControlRole ControlInstr :=
  ⟨.retry, t.program.map .webrtc⟩

/-- `webrtc_event_handler`, `webrtc.c:586–615`, up to its calls of `cleanup_webrtc_handle` and
`schedule_janus_retry`. -/
def webrtcEventStatement (event : WebrtcEventType) (s : P4State) : ControlOutcome :=
  match event with
  | .connectFailed | .disconnected =>
    let d := { doorBellChangeState .none s.doorBell with
      webrtcConnected := false
      senderTransformerCtx := ⟨0, 0⟩
      receiverTransformerCtx := ⟨0, 0⟩ }
    ⟨{ s with doorBell := d }, [.webrtc .testHandle, .webrtc .scheduleRetry], []⟩
  | event =>
    ⟨{ s with doorBell := webrtcEventHandler s.networkConnected event s.doorBell }, [], []⟩

/-- Clear a variable. -/
def P4State.clear (s : P4State) : ControlTime → P4State
  | .lastHeartbeatMs => { s with lastHeartbeatMs := 0 }
  | .lastOpenRequestMs => { s with lastOpenRequestMs := 0 }
  | .lastRecoverMs => { s with lastRecoverMs := 0 }
  | .lastStatusPubMs => { s with lastStatusPubMs := 0 }

/-- Run one instruction. The statements that call `start_webrtc` or `stop_webrtc` go on with the
instructions of the call. -/
def ControlInstr.exec (s : P4State) (c : ControlChoice) : ControlInstr → Option ControlOutcome
  | .loop (.recoverStop l) => some ⟨s, [.webrtc .stopWebrtc, .loop (.recoverPublish l)], []⟩
  | .loop (.recoverStart _) => some ⟨s, [.webrtc (.startWebrtc .application), .loop .readClock], []⟩
  | .loop (.timeoutStop l) => some ⟨s, [.webrtc .stopWebrtc, .loop (.timeoutPublish l)], []⟩
  | .loop phase =>
    let (t, next) := loopStatement c.now c.rssi .starts s phase
    some ⟨t, [.loop next], []⟩
  | .handler .idle => some ⟨s, [], []⟩
  | .handler .start => some ⟨s, [.webrtc (.startWebrtc .application)], []⟩
  | .handler .stop => some ⟨s, [.webrtc .stopWebrtc], []⟩
  | .handler phase =>
    let (t, next) := handlerStatement .starts s phase
    some ⟨t, [.handler next], []⟩
  | .webrtcEvent event => some (webrtcEventStatement event s)
  | .clear time => some ⟨s.clear time, [], []⟩
  | .webrtc ins =>
    (ins.exec (s.doorBell.handles s.networkConnected false) c.ok).map (fun o ↦
      ⟨s.afterHandle ins o.state, o.calls.map .webrtc, o.created.map retryThread⟩)

/-- The start of `network_event_handler` for a lost network: `mqtt_bridge_stop`. -/
def P4State.networkLost (s : P4State) : P4State := { s with
  networkConnected := false
  mqttStarted := false
  mqttConnected := if s.mqttStarted then false else s.mqttConnected }

/-- The tasks of the P4. -/
abbrev P4Tasks := System P4State ControlRole ControlInstr

/-- A thread takes a step, the network or the broker changes, or a session has an event. -/
inductive P4TaskEvent where
  | exec (thread : Nat) (choice : ControlChoice)
  | network (rssi : Int) (connected : Bool)
  | mqtt (connected : Bool)
  | webrtcEvent (event : WebrtcEventType)
  deriving DecidableEq

namespace P4Tasks

/-- The main task is at the start of its loop, and the MQTT task has no command. -/
def initial : P4Tasks := ⟨.initial, [⟨.main, [.loop .readClock]⟩, ⟨.mqtt, []⟩]⟩

/-- The number of the MQTT task. -/
def mqttTask : Nat := 1

/-- The MQTT task handles no command. -/
def idle (s : P4Tasks) : Bool := (s.threads[mqttTask]?.map Thread.program) = some []

/-- A callback runs in a thread of its own. -/
def callback (program : List ControlInstr) (s : P4Tasks) : P4Tasks :=
  ⟨s.state, s.threads ++ [⟨.callback, program⟩]⟩

/-- The MQTT task takes a command when it is done with the one before. -/
def receive (now : Int) (cmd : CString) (s : P4Tasks) : Option P4Tasks :=
  if s.idle then
    let (t, phase) := receiveCommand now (some cmd) s.state
    some ⟨t, s.threads.set mqttTask ⟨.mqtt, [.handler phase]⟩⟩
  else none

/-- `network_set_connected`, `network.c:32–39`, with `network_event_handler`, `main.c:320–336`,
whose stop and stores follow in a thread. -/
def network (rssi : Int) (connected : Bool) (s : P4Tasks) : P4Tasks :=
  if s.state.networkConnected = connected then s
  else if connected then
    ⟨networkSetConnected rssi true s.state, s.threads⟩
  else
    callback [.webrtc .stopWebrtc, .clear .lastHeartbeatMs, .clear .lastOpenRequestMs,
      .clear .lastRecoverMs, .clear .lastStatusPubMs] ⟨s.state.networkLost, s.threads⟩

/-- One step. A WebRTC event needs a handle that `start_webrtc` opened. -/
def step (s : P4Tasks) : P4TaskEvent → Option P4Tasks
  | .exec i c => System.exec (fun state ins c ↦ ControlInstr.exec state c ins) i c s
  | .network rssi connected => some (s.network rssi connected)
  | .mqtt connected =>
    if s.state.mqttStarted then some ⟨{ s.state with mqttConnected := connected }, s.threads⟩
    else none
  | .webrtcEvent event =>
    if 0 < s.state.doorBell.nextHandle then some (s.callback [.webrtcEvent event]) else none

end P4Tasks

/-! ### Tasks that start nothing -/

/-- The instruction is between the loop test of a retry task and its call of `start_webrtc`, or it
is a call of `start_webrtc` that has not cleared `janus_retry_stop` yet. -/
def HandleInstr.wakes : HandleInstr → Bool
  | .testNetwork | .testNoSession | .startWebrtc _ | .clearRetryStop _ => true
  | _ => false

/-- The instruction leads to a start that nothing stops any more: the control loop has decided to
recover, or the command handler is about a request. -/
def ControlInstr.wakes : ControlInstr → Bool
  | .loop (.testRecover _ recent stuck) => recent && stuck
  | .loop (.recoverStop _) | .loop (.recoverPublish _) | .loop (.recoverStart _) => true
  | .handler (.storeHeartbeat _) | .handler (.storeOpenRequest _) => true
  | .handler .testRunning | .handler .start => true
  | .webrtc ins => ins.wakes
  | _ => false

/-- Nothing asks for a session, retries are stopped, and no instruction leads to a start. -/
structure Asleep (s : P4Tasks) : Prop where
  stopped : s.state.doorBell.janusRetryStop = true
  noRequest : s.state.lastOpenRequestMs = 0
  pending : ∀ x ∈ s.pending, x.wakes = false

/-- The outcome of an instruction keeps the tasks asleep, and starts nothing. -/
structure SleepsOn (s : P4State) (o : ControlOutcome) : Prop where
  stopped : o.state.doorBell.janusRetryStop = true
  noRequest : o.state.lastOpenRequestMs = 0
  calls : ∀ x ∈ o.calls, x.wakes = false
  created : ∀ x ∈ o.created.flatMap Thread.program, x.wakes = false
  noStart : NoStart s.doorBell o.state.doorBell

/-- An instruction of `webrtc.c` that does not lead to a start calls none that does, and leaves
the retries stopped. -/
theorem HandleInstr.exec_wakes {s : HandleState} {ok : Bool} {ins : HandleInstr}
    {o : HandleOutcome} (h : ins.exec s ok = some o) (hins : ins.wakes = false)
    (hstopped : s.janusRetryStop = true) :
    o.state.janusRetryStop = true ∧ (∀ x ∈ o.calls, x.wakes = false) ∧
      ∀ t ∈ o.created, ∀ x ∈ t.program, x.wakes = false := by
  have hresume (caller : Caller) (ok : Bool) : ∀ x ∈ caller.resume ok, x.wakes = false := by
    cases caller <;> cases ok <;> decide
  have hfails (caller : Caller) : ∀ x ∈ startFails caller, x.wakes = false := by
    cases caller <;> decide
  have hnone : ∀ t ∈ ([] : List (Thread Caller HandleInstr)), ∀ x ∈ t.program,
      x.wakes = false := List.forall_mem_nil _
  cases ins with
  | openWebrtc caller =>
    simp only [exec] at h
    split at h
    · cases h
      exact ⟨hstopped, by simp [wakes], hnone⟩
    · cases h
      exact ⟨hstopped, hfails caller, hnone⟩
  | espWebrtcStart caller =>
    simp only [exec] at h
    split at h
    · cases h
      exact ⟨hstopped, List.forall_mem_cons.mpr ⟨rfl, hresume caller true⟩, hnone⟩
    · cases h
      exact ⟨hstopped, hfails caller, hnone⟩
  | testWebrtc caller =>
    cases h
    refine ⟨hstopped, ?_, hnone⟩
    simp only
    split <;> simp [wakes]
  | whileNotStopped =>
    cases h
    refine ⟨hstopped, ?_, hnone⟩
    simp only [hstopped, if_true]
    decide
  | testHandle =>
    cases h
    refine ⟨hstopped, ?_, hnone⟩
    simp only
    split <;> decide
  | scheduleRetry =>
    cases h
    refine ⟨hstopped, List.forall_mem_nil _, ?_⟩
    simp only
    split <;> decide
  | stopWebrtc =>
    cases h
    exact ⟨rfl, by simp [wakes], hnone⟩
  | takeHandle | clearHandle handle | closeHandle handle | enterRetry | leaveRetry | useWebrtc
  | sleepRetry | destroyRetry =>
    cases h
    exact ⟨hstopped, by simp [wakes], hnone⟩
  | startWebrtc caller | clearRetryStop caller | testNetwork | testNoSession =>
    exact absurd hins (by simp [wakes])

/-- Only the entry of `start_webrtc` is logged as one. -/
theorem noStart_afterHandle {s : P4State} {ins : HandleInstr} (hins : ins.wakes = false)
    (h : HandleState) : NoStart s.doorBell (s.afterHandle ins h).doorBell := by
  cases ins with
  | startWebrtc caller => exact absurd hins (by simp [HandleInstr.wakes])
  | stopWebrtc => exact extends_concat s.doorBell.effects (by simp)
  | testWebrtc caller =>
    simp only [P4State.afterHandle]
    split <;> exact .of_eq rfl
  | _ => exact .of_eq rfl

/-- An instruction of `webrtc.c` that does not lead to a start. -/
theorem sleepsOn_webrtc {s : P4State} {c : ControlChoice} {ins : HandleInstr} {o : ControlOutcome}
    (h : (ControlInstr.webrtc ins).exec s c = some o) (hins : ins.wakes = false)
    (hstopped : s.doorBell.janusRetryStop = true) (hrequest : s.lastOpenRequestMs = 0) :
    SleepsOn s o := by
  obtain ⟨x, hx, rfl⟩ := Option.map_eq_some_iff.mp h
  obtain ⟨hstop, hcalls, hcreated⟩ := HandleInstr.exec_wakes hx hins hstopped
  refine ⟨hstop, hrequest, ?_, ?_, noStart_afterHandle hins x.state⟩
  · intro y hy
    obtain ⟨z, hz, rfl⟩ := List.mem_map.mp hy
    exact hcalls z hz
  · intro y hy
    obtain ⟨u, hu, hyu⟩ := List.mem_flatMap.mp hy
    obtain ⟨t, ht, rfl⟩ := List.mem_map.mp hu
    obtain ⟨z, hz, rfl⟩ := List.mem_map.mp hyu
    exact hcreated t ht z hz

/-- A statement without a call of its own goes on with one that does not lead to a start. -/
theorem sleepsOn_next {s t : P4State} {next : List ControlInstr}
    (hstopped : t.doorBell.janusRetryStop = true) (hrequest : t.lastOpenRequestMs = 0)
    (hnext : ∀ x ∈ next, x.wakes = false) (hnone : NoStart s.doorBell t.doorBell) :
    SleepsOn s ⟨t, next, []⟩ :=
  ⟨hstopped, hrequest, hnext, List.forall_mem_nil _, hnone⟩

/-- A statement of the control loop that does not lead to a start. -/
theorem sleepsOn_loop {s : P4State} {c : ControlChoice} {phase : LoopPhase} {o : ControlOutcome}
    (h : (ControlInstr.loop phase).exec s c = some o)
    (hphase : (ControlInstr.loop phase).wakes = false)
    (hstopped : s.doorBell.janusRetryStop = true) (hrequest : s.lastOpenRequestMs = 0) :
    SleepsOn s o := by
  have hstays (next : List ControlInstr) (hnext : ∀ x ∈ next, x.wakes = false) :
      SleepsOn s ⟨s, next, []⟩ := sleepsOn_next hstopped hrequest hnext (.of_eq rfl)
  have hpublish (state : StatusState) (reason : Option StatusReason) (next : LoopPhase)
      (hnext : (ControlInstr.loop next).wakes = false) :
      SleepsOn s ⟨publishWebrtcStatus c.rssi state reason s, [.loop next], []⟩ :=
    sleepsOn_next hstopped hrequest (by simpa using hnext) (.emit rfl (by simp))
  cases phase with
  | recoverStop l | recoverPublish l | recoverStart l =>
    exact absurd hphase (by simp [ControlInstr.wakes])
  | timeoutStop l =>
    cases h
    exact hstays _ (by simp [ControlInstr.wakes, HandleInstr.wakes])
  | publishChange l =>
    cases h
    exact hpublish _ _ _ rfl
  | publishPeriod l =>
    cases h
    exact hpublish _ _ _ rfl
  | timeoutPublish l =>
    cases h
    exact hpublish _ _ _ rfl
  | testChange l =>
    simp only [ControlInstr.exec, loopStatement] at h
    split at h <;> cases h
    · exact sleepsOn_next hstopped hrequest (by simp [ControlInstr.wakes]) (.of_eq rfl)
    · exact hstays _ (by simp [ControlInstr.wakes])
  | testPeriod l =>
    simp only [ControlInstr.exec, loopStatement] at h
    split at h <;> cases h
    · exact sleepsOn_next hstopped hrequest (by simp [ControlInstr.wakes]) (.of_eq rfl)
    · exact hstays _ (by simp [ControlInstr.wakes])
  | readRecent l =>
    simp only [ControlInstr.exec, loopStatement] at h
    split at h <;> cases h
    · exact hstays _ (by simp [ControlInstr.wakes])
    · exact hstays _ (by simp [ControlInstr.wakes])
  | readStuck l recent =>
    cases h
    exact hstays _ (by simp [ControlInstr.wakes, hrequest])
  | testRecover l recent stuck =>
    have hdecided : (recent && stuck) = false := hphase
    simp only [ControlInstr.exec, loopStatement, hdecided, Bool.false_and, Bool.false_eq_true,
      if_false] at h
    cases h
    exact hstays _ (by simp [ControlInstr.wakes])
  | testTimeout l =>
    simp only [ControlInstr.exec, loopStatement] at h
    split at h <;> cases h
    · exact hstays _ (by simp [ControlInstr.wakes])
    · exact hstays _ (by simp [ControlInstr.wakes])
  | resetHeartbeat l | resetOpenRequest l =>
    cases h
    exact sleepsOn_next hstopped (by first | exact hrequest | rfl) (by simp [ControlInstr.wakes])
      (.of_eq rfl)
  | readClock | readConnected now | readRunning now connected
  | loadHeartbeat now connected running =>
    cases h
    exact hstays _ (by simp [ControlInstr.wakes])

/-- A WebRTC event starts nothing. -/
theorem sleepsOn_webrtcEvent {s : P4State} (event : WebrtcEventType)
    (hstopped : s.doorBell.janusRetryStop = true) (hrequest : s.lastOpenRequestMs = 0) :
    SleepsOn s (webrtcEventStatement event s) := by
  have hphase (phase : DoorBellPhase) :
      (doorBellChangeState phase s.doorBell).janusRetryStop = true ∧
        NoStart s.doorBell (doorBellChangeState phase s.doorBell) := by
    unfold doorBellChangeState
    split
    · exact ⟨hstopped, .emit rfl (by simp)⟩
    · exact ⟨hstopped, .of_eq rfl⟩
  have hlost : SleepsOn s ⟨{ s with
      doorBell := { doorBellChangeState .none s.doorBell with
        webrtcConnected := false
        senderTransformerCtx := ⟨0, 0⟩
        receiverTransformerCtx := ⟨0, 0⟩ } },
      [.webrtc .testHandle, .webrtc .scheduleRetry], []⟩ :=
    sleepsOn_next (hphase .none).1 hrequest (by simp [ControlInstr.wakes, HandleInstr.wakes])
      (hphase .none).2
  cases event with
  | connectFailed => exact hlost
  | disconnected => exact hlost
  | connected =>
    simp only [webrtcEventStatement, webrtcEventHandler]
    split
    · exact sleepsOn_next (hphase .connected).1 hrequest (List.forall_mem_nil _)
        ((hphase .connected).2.trans (.emit rfl (by simp)))
    · exact sleepsOn_next (hphase .connected).1 hrequest (List.forall_mem_nil _)
        (hphase .connected).2
  | paired =>
    exact sleepsOn_next hstopped hrequest (List.forall_mem_nil _) (.emit rfl (by simp))
  | other => exact sleepsOn_next hstopped hrequest (List.forall_mem_nil _) (.of_eq rfl)

/-- An instruction that does not lead to a start keeps sleeping tasks asleep. -/
theorem ControlInstr.exec_sleepsOn {s : P4State} {c : ControlChoice} {ins : ControlInstr}
    {o : ControlOutcome} (h : ins.exec s c = some o) (hins : ins.wakes = false)
    (hstopped : s.doorBell.janusRetryStop = true) (hrequest : s.lastOpenRequestMs = 0) :
    SleepsOn s o := by
  have hstays (next : List ControlInstr) (hnext : ∀ x ∈ next, x.wakes = false) :
      SleepsOn s ⟨s, next, []⟩ := sleepsOn_next hstopped hrequest hnext (.of_eq rfl)
  cases ins with
  | loop phase => exact sleepsOn_loop h hins hstopped hrequest
  | handler phase =>
    cases phase with
    | storeHeartbeat now | storeOpenRequest now | testRunning | start =>
      exact absurd hins (by simp [wakes])
    | idle =>
      cases h
      exact hstays _ (List.forall_mem_nil _)
    | clearOpenRequest =>
      cases h
      exact sleepsOn_next hstopped rfl (by simp [wakes]) (.of_eq rfl)
    | stop =>
      cases h
      exact hstays _ (by simp [wakes, HandleInstr.wakes])
  | webrtcEvent event =>
    cases h
    exact sleepsOn_webrtcEvent event hstopped hrequest
  | clear time =>
    cases h
    cases time with
    | lastOpenRequestMs =>
      exact sleepsOn_next hstopped rfl (List.forall_mem_nil _) (.of_eq rfl)
    | _ => exact sleepsOn_next hstopped hrequest (List.forall_mem_nil _) (.of_eq rfl)
  | webrtc ins => exact sleepsOn_webrtc h hins hstopped hrequest

namespace P4Tasks

variable {s t : P4Tasks} {e : P4TaskEvent}

/-- The instruction is one of the command handler. -/
def ofHandler : ControlInstr → Bool
  | .handler _ => true
  | _ => false

/-- What happens to the tasks from outside adds callbacks, which lead to no start and run no
command handler, and makes no request. -/
theorem outside_cases (he : ∀ i c, e ≠ .exec i c) (ht : s.step e = some t) :
    ∃ state added, t = ⟨state, s.threads ++ added⟩ ∧
      (∀ u ∈ added, ∀ x ∈ u.program, x.wakes = false ∧ ofHandler x = false) ∧
      state.doorBell.janusRetryStop = s.state.doorBell.janusRetryStop ∧
      state.lastOpenRequestMs = s.state.lastOpenRequestMs ∧
      NoStart s.state.doorBell state.doorBell := by
  have hnone : ∀ u ∈ ([] : List (Thread ControlRole ControlInstr)), ∀ x ∈ u.program,
      x.wakes = false ∧ ofHandler x = false := List.forall_mem_nil _
  cases e with
  | exec i c => exact absurd rfl (he i c)
  | network rssi connected =>
    cases ht
    unfold network
    split
    · exact ⟨s.state, [], by rw [List.append_nil], hnone, rfl, rfl, .of_eq rfl⟩
    · split
      · refine ⟨networkSetConnected rssi true s.state, [], by rw [List.append_nil], hnone, ?_⟩
        simp only [networkSetConnected, networkEventHandler, if_true]
        repeat' split
        · exact ⟨rfl, rfl, .emit rfl (by simp)⟩
        · exact ⟨rfl, rfl, .emit rfl (by simp)⟩
        · exact ⟨rfl, rfl, .of_eq rfl⟩
      · exact ⟨s.state.networkLost, _, rfl,
          by simp [ControlInstr.wakes, HandleInstr.wakes, ofHandler], rfl, rfl, .of_eq rfl⟩
  | mqtt connected =>
    simp only [step] at ht
    split at ht
    · cases ht
      exact ⟨{ s.state with mqttConnected := connected }, [], by rw [List.append_nil], hnone, rfl,
        rfl, .of_eq rfl⟩
    · exact absurd ht (by simp)
  | webrtcEvent event =>
    simp only [step] at ht
    split at ht
    · cases ht
      exact ⟨s.state, _, rfl, by simp [ControlInstr.wakes, ofHandler], rfl, rfl, .of_eq rfl⟩
    · exact absurd ht (by simp)

/-- What happens from outside keeps sleeping tasks asleep. -/
theorem asleep_outside (h : Asleep s) (he : ∀ i c, e ≠ .exec i c) (ht : s.step e = some t) :
    Asleep t ∧ NoStart s.state.doorBell t.state.doorBell := by
  obtain ⟨state, added, rfl, hadded, hstop, hrequest, hnone⟩ := outside_cases he ht
  refine ⟨⟨hstop.trans h.stopped, hrequest.trans h.noRequest, ?_⟩, hnone⟩
  intro x hx
  simp only [System.pending, List.flatMap_append, List.mem_append] at hx
  rcases hx with hx | hx
  · exact h.pending x hx
  · obtain ⟨u, hu, hx⟩ := List.mem_flatMap.mp hx
    exact (hadded u hu x hx).1

/-- Sleeping tasks stay asleep and start nothing, whichever of them takes a step. -/
theorem asleep_step (h : Asleep s) (ht : s.step e = some t) :
    Asleep t ∧ NoStart s.state.doorBell t.state.doorBell := by
  cases e with
  | exec i c =>
    have hexec : System.exec (fun state ins c ↦ ControlInstr.exec state c ins) i c s =
      some t := ht
    obtain ⟨ins, o, hhead, ho, hstate, hpending⟩ := System.mem_pending_exec hexec
    have hins := h.pending ins (System.mem_pending_of_head hhead)
    have hsleeps := ControlInstr.exec_sleepsOn ho hins h.stopped h.noRequest
    refine ⟨⟨hstate ▸ hsleeps.stopped, hstate ▸ hsleeps.noRequest, ?_⟩, hstate ▸ hsleeps.noStart⟩
    intro x hx
    rcases hpending x hx with hx | hx | hx
    · exact h.pending x hx
    · exact hsleeps.calls x hx
    · exact hsleeps.created x hx
  | network rssi connected => exact asleep_outside h (by simp) ht
  | mqtt connected => exact asleep_outside h (by simp) ht
  | webrtcEvent event => exact asleep_outside h (by simp) ht

/-- A command that is no request starts nothing, and leads to the statements of the close or to
none. -/
theorem receiveCommand_noRequest (now : Int) {cmd : CString} (hopen : cmd ≠ openWebrtcCmd)
    (hbeat : cmd ≠ heartbeatCmd) (s : P4State) :
    let r := receiveCommand now (some cmd) s
    r.1.doorBell.janusRetryStop = s.doorBell.janusRetryStop ∧
      r.1.lastOpenRequestMs = s.lastOpenRequestMs ∧ (ControlInstr.handler r.2).wakes = false ∧
      NoStart s.doorBell r.1.doorBell := by
  have heq (text : CString) : strcmp cmd.bytes text.bytes = 0 ↔ cmd = text := by
    rw [strcmp_eq_zero cmd.noNul text.noNul]
    exact ⟨CString.ext, congrArg CString.bytes⟩
  have hsend : (sendCmd cmd s.doorBell).janusRetryStop = s.doorBell.janusRetryStop := by
    simp only [sendCmd]
    repeat' split
    all_goals rfl
  simp only [receiveCommand, heq, if_neg hopen, if_neg hbeat]
  split
  · exact ⟨rfl, rfl, rfl, .of_eq rfl⟩
  · exact ⟨hsend, rfl, rfl, noStart_sendCmd cmd s.doorBell⟩

/-- Taking a command is a step of the MQTT task when it has none. -/
theorem receive_some {now : Int} {cmd : CString} (ht : s.receive now cmd = some t) :
    s.idle = true ∧ t = ⟨(receiveCommand now (some cmd) s.state).1, s.threads.set mqttTask
      ⟨.mqtt, [.handler (receiveCommand now (some cmd) s.state).2]⟩⟩ := by
  unfold receive at ht
  split at ht
  · next hidle =>
    cases ht
    exact ⟨hidle, rfl⟩
  · exact absurd ht (by simp)

/-- A command that is no request keeps sleeping tasks asleep. -/
theorem asleep_receive (h : Asleep s) {now : Int} {cmd : CString} (hopen : cmd ≠ openWebrtcCmd)
    (hbeat : cmd ≠ heartbeatCmd) (ht : s.receive now cmd = some t) :
    Asleep t ∧ NoStart s.state.doorBell t.state.doorBell := by
  obtain ⟨-, rfl⟩ := receive_some ht
  obtain ⟨hstop, hrequest, hphase, hnone⟩ := receiveCommand_noRequest now hopen hbeat s.state
  refine ⟨⟨hstop.trans h.stopped, hrequest.trans h.noRequest, ?_⟩, hnone⟩
  intro x hx
  obtain ⟨u, hu, hxu⟩ := List.mem_flatMap.mp hx
  rcases List.mem_or_eq_of_mem_set hu with hu | rfl
  · exact h.pending x (List.mem_flatMap.mpr ⟨u, hu, hxu⟩)
  · rw [List.mem_singleton.mp hxu]
    exact hphase

/-! ### The handling of a close -/

/-- Only the MQTT task runs the command handler. -/
def OnlyMqtt (s : P4Tasks) : Prop :=
  ∀ j t, j ≠ mqttTask → s.threads[j]? = some t → ∀ x ∈ t.program, ofHandler x = false

/-- The MQTT task runs one instruction next, and is done with the command after it. -/
def Runs (s : P4Tasks) (ins : ControlInstr) : Prop :=
  s.threads[mqttTask]? = some ⟨.mqtt, [ins]⟩

/-- The MQTT task handles a close and has not set `janus_retry_stop` yet. -/
def Closes (s : P4Tasks) : Prop :=
  Runs s (.handler .clearOpenRequest) ∨
    (s.state.lastOpenRequestMs = 0 ∧ (Runs s (.handler .stop) ∨ Runs s (.webrtc .stopWebrtc)))

/-- An instruction outside the command handler calls none of it, and makes no request. -/
theorem exec_ofHandler {s : P4State} {c : ControlChoice} {ins : ControlInstr} {o : ControlOutcome}
    (h : ins.exec s c = some o) (hins : ofHandler ins = false) :
    (∀ x ∈ o.calls, ofHandler x = false) ∧
      (s.lastOpenRequestMs = 0 → o.state.lastOpenRequestMs = 0) := by
  cases ins with
  | loop phase =>
    cases phase with
    | testChange l | testPeriod l | readRecent l | testRecover l recent stuck | testTimeout l =>
      simp only [ControlInstr.exec, loopStatement] at h
      split at h <;> cases h <;> exact ⟨by simp [ofHandler], id⟩
    | resetOpenRequest l =>
      cases h
      exact ⟨by simp [ofHandler], fun _ ↦ rfl⟩
    | _ =>
      cases h
      exact ⟨by simp [ofHandler], id⟩
  | handler phase => exact absurd hins (by simp [ofHandler])
  | webrtcEvent event =>
    cases h
    cases event <;> exact ⟨by simp [webrtcEventStatement, ofHandler], id⟩
  | clear time =>
    cases h
    cases time with
    | lastOpenRequestMs => exact ⟨List.forall_mem_nil _, fun _ ↦ rfl⟩
    | _ => exact ⟨List.forall_mem_nil _, id⟩
  | webrtc ins =>
    obtain ⟨x, -, rfl⟩ := Option.map_eq_some_iff.mp h
    refine ⟨?_, id⟩
    intro y hy
    obtain ⟨z, -, rfl⟩ := List.mem_map.mp hy
    rfl

/-- A thread that an instruction creates runs `webrtc.c`. -/
theorem exec_created {s : P4State} {c : ControlChoice} {ins : ControlInstr} {o : ControlOutcome}
    (h : ins.exec s c = some o) : ∀ t ∈ o.created, ∀ x ∈ t.program, ofHandler x = false := by
  cases ins with
  | loop phase =>
    cases phase with
    | testChange l | testPeriod l | readRecent l | testRecover l recent stuck | testTimeout l =>
      simp only [ControlInstr.exec, loopStatement] at h
      split at h <;> cases h <;> exact List.forall_mem_nil _
    | _ =>
      cases h
      exact List.forall_mem_nil _
  | handler phase =>
    cases phase with
    | testRunning =>
      simp only [ControlInstr.exec, handlerStatement] at h
      split at h <;> cases h <;> exact List.forall_mem_nil _
    | _ =>
      cases h
      exact List.forall_mem_nil _
  | webrtcEvent event =>
    cases h
    cases event <;> exact List.forall_mem_nil _
  | clear time =>
    cases h
    exact List.forall_mem_nil _
  | webrtc ins =>
    obtain ⟨o, -, rfl⟩ := Option.map_eq_some_iff.mp h
    intro t ht x hx
    obtain ⟨u, -, rfl⟩ := List.mem_map.mp ht
    obtain ⟨y, -, rfl⟩ := List.mem_map.mp hx
    rfl

/-- Another thread leaves the MQTT task alone. -/
theorem mqttTask_other {i : Nat} {c : ControlChoice} (hi : i ≠ mqttTask)
    (ht : System.exec (fun state ins c ↦ ControlInstr.exec state c ins) i c s = some t)
    {u : Thread ControlRole ControlInstr} (hu : s.threads[mqttTask]? = some u) :
    t.threads[mqttTask]? = some u := by
  obtain ⟨role, ins, rest, o, -, -, rfl⟩ := System.exec_some ht
  exact System.getElem?_other hi hu

/-- Nothing runs the command handler yet. -/
theorem onlyMqtt_initial : OnlyMqtt initial := by
  intro j t hj ht x hx
  match j, hj with
  | 0, _ =>
    cases ht
    rw [List.mem_singleton.mp hx]
    rfl
  | 1, hj => exact absurd rfl hj
  | n + 2, _ => exact absurd ht (by simp [initial])

/-- What happens from outside does not run the command handler. -/
theorem onlyMqtt_outside (h : OnlyMqtt s) (he : ∀ i c, e ≠ .exec i c) (ht : s.step e = some t) :
    OnlyMqtt t := by
  obtain ⟨state, added, rfl, hadded, -⟩ := outside_cases he ht
  intro j u hj hu
  simp only [List.getElem?_append] at hu
  split at hu
  · exact h j u hj hu
  · exact fun x hx ↦ (hadded u (List.mem_of_getElem? hu) x hx).2

/-- Every step leaves the command handler to the MQTT task. -/
theorem onlyMqtt_step (h : OnlyMqtt s) (ht : s.step e = some t) : OnlyMqtt t := by
  cases e with
  | exec i c =>
    have hexec : System.exec (fun state ins c ↦ ControlInstr.exec state c ins) i c s =
      some t := ht
    obtain ⟨role, ins, rest, o, hthread, ho, rfl⟩ := System.exec_some hexec
    intro j u hj hu
    rcases System.getElem?_cases hu with ⟨rfl, rfl⟩ | ⟨_, hu⟩ | ⟨_, hu⟩
    · have hprogram := h j _ hj hthread
      obtain ⟨hcalls, -⟩ := exec_ofHandler ho (hprogram ins List.mem_cons_self)
      intro x hx
      rcases List.mem_append.mp hx with hx | hx
      · exact hcalls x hx
      · exact hprogram x (List.mem_cons_of_mem ins hx)
    · exact h j u hj hu
    · exact exec_created ho u (List.mem_of_getElem? hu)
  | network rssi connected => exact onlyMqtt_outside h (by simp) ht
  | mqtt connected => exact onlyMqtt_outside h (by simp) ht
  | webrtcEvent event => exact onlyMqtt_outside h (by simp) ht

/-- So does taking a command. -/
theorem onlyMqtt_receive (h : OnlyMqtt s) {now : Int} {cmd : CString}
    (ht : s.receive now cmd = some t) : OnlyMqtt t := by
  obtain ⟨-, rfl⟩ := receive_some ht
  intro j u hj hu
  rw [List.getElem?_set_ne (Ne.symm hj)] at hu
  exact h j u hj hu

/-- A close that is taken is handled from its first statement on. -/
theorem closes_receive {now : Int} (ht : s.receive now closeWebrtcCmd = some t) : Closes t := by
  obtain ⟨hidle, rfl⟩ := receive_some ht
  left
  have hlt : mqttTask < s.threads.length := by
    obtain ⟨u, hu, -⟩ := Option.map_eq_some_iff.mp (of_decide_eq_true hidle)
    exact (List.getElem?_eq_some_iff.mp hu).1
  exact List.getElem?_set_self hlt

/-- The MQTT task has a command as long as it handles a close. -/
theorem Closes.not_idle (h : Closes s) : s.idle = false := by
  rcases h with h | ⟨-, h | h⟩ <;> · rw [Runs] at h; simp [idle, h]

/-- The MQTT task takes a step of a close: it goes on with the next one, or it has stopped. -/
theorem closes_exec (h : Closes s) {c : ControlChoice}
    (hstop : s.head mqttTask = some (.webrtc .stopWebrtc) → ∀ x ∈ s.pending, x.wakes = false)
    (ht : s.step (.exec mqttTask c) = some t) : Closes t ∨ Asleep t := by
  have hexec : System.exec (fun state ins c ↦ ControlInstr.exec state c ins) mqttTask c s =
    some t := ht
  have hnext {ins next : ControlInstr} {state : P4State} (hruns : Runs s ins)
      (hins : ins.exec s.state c = some ⟨state, [next], []⟩) :
      t.state = state ∧ Runs t next := by
    obtain ⟨role, ins', rest, o, hthread, ho, rfl⟩ := System.exec_some hexec
    rw [Runs] at hruns
    obtain ⟨rfl, hprogram⟩ := Thread.mk.inj (Option.some.inj (hthread.symm.trans hruns))
    obtain ⟨rfl, rfl⟩ := List.cons.inj hprogram
    cases hins.symm.trans ho
    exact ⟨rfl, System.getElem?_stepped hthread⟩
  rcases h with hruns | ⟨hrequest, hruns | hruns⟩
  · obtain ⟨hstate, hruns⟩ := hnext hruns rfl
    exact .inl (.inr ⟨by rw [hstate], .inl hruns⟩)
  · obtain ⟨hstate, hruns⟩ := hnext hruns rfl
    exact .inl (.inr ⟨by rw [hstate]; exact hrequest, .inr hruns⟩)
  · right
    have hhead : s.head mqttTask = some (.webrtc .stopWebrtc) := by
      rw [Runs] at hruns
      rw [System.head, hruns]
      rfl
    obtain ⟨ins, o, hins, ho, hstate, hpending⟩ := System.mem_pending_exec hexec
    cases hhead.symm.trans hins
    cases ho
    refine ⟨by rw [hstate]; rfl, by rw [hstate]; exact hrequest, ?_⟩
    intro x hx
    rcases hpending x hx with hx | hx | hx
    · exact hstop hhead x hx
    · rw [List.mem_singleton.mp hx]
      rfl
    · exact absurd hx List.not_mem_nil

/-- A step that leaves the MQTT task alone, and makes no request. -/
theorem Closes.other (h : Closes s) (hruns : ∀ ins, Runs s ins → Runs t ins)
    (hrequest : s.state.lastOpenRequestMs = 0 → t.state.lastOpenRequestMs = 0) : Closes t :=
  h.imp (hruns _) (fun h ↦ ⟨hrequest h.1, h.2.imp (hruns _) (hruns _)⟩)

/-- What happens from outside leaves the handling of a close alone. -/
theorem closes_outside (h : Closes s) (he : ∀ i c, e ≠ .exec i c) (ht : s.step e = some t) :
    Closes t := by
  obtain ⟨state, added, rfl, -, -, hrequest, -⟩ := outside_cases he ht
  refine h.other ?_ (fun hz ↦ hrequest.trans hz)
  intro ins hruns
  obtain ⟨hlt, -⟩ := List.getElem?_eq_some_iff.mp (show _ = some _ from hruns)
  exact (List.getElem?_append_left hlt).trans hruns

/-- While the MQTT task handles a close no other step is in its way. -/
theorem closes_step (h : Closes s) (honly : OnlyMqtt s)
    (hstop : ∀ c, e = .exec mqttTask c → s.head mqttTask = some (.webrtc .stopWebrtc) →
      ∀ x ∈ s.pending, x.wakes = false)
    (ht : s.step e = some t) : Closes t ∨ Asleep t := by
  cases e with
  | exec i c =>
    by_cases hi : i = mqttTask
    · subst hi
      exact closes_exec h (hstop c rfl) ht
    · left
      refine h.other (fun ins hruns ↦ mqttTask_other hi ht hruns) ?_
      obtain ⟨role, ins, rest, o, hthread, ho, rfl⟩ := System.exec_some
        (show System.exec (fun state ins c ↦ ControlInstr.exec state c ins) i c s = some t from ht)
      exact (exec_ofHandler ho (honly i _ hi hthread ins List.mem_cons_self)).2
  | network rssi connected => exact .inl (closes_outside h (by simp) ht)
  | mqtt connected => exact .inl (closes_outside h (by simp) ht)
  | webrtcEvent event => exact .inl (closes_outside h (by simp) ht)

end P4Tasks

end Esp32Robot.Webrtc

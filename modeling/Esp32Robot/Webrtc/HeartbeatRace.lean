import Esp32Robot.Webrtc.Dormant

/-!
# The control loop against the command handler

`mqtt_control_loop` in the main task and `mqtt_control_cmd_handler` in the MQTT
task, statement by statement. `start_webrtc`, `stop_webrtc` and a publication are
one statement each. The loop decides on a heartbeat time that it read before, and
resets it after a stop and a publication; what the handler stores in between is
erased, although it started WebRTC again.
-/

namespace Esp32Robot.Webrtc

open Esp32Robot.Base

/-- The local variables of `mqtt_control_loop`. -/
structure LoopLocals where
  now : Int
  connected : Bool
  running : Bool
  hb : Int
  deriving DecidableEq, Repr

/-- The test of the timeout branch, `main.c:311`. -/
def LoopLocals.timesOut (l : LoopLocals) : Bool :=
  l.running && (l.hb > 0 && l.now - l.hb > webrtcHeartbeatTimeoutMs)

/-- The next statement of the main task in `mqtt_control_loop`, with the variables set so far. -/
inductive LoopPhase where
  | readClock
  | readConnected (now : Int)
  | readRunning (now : Int) (connected : Bool)
  | loadHeartbeat (now : Int) (connected running : Bool)
  | testChange (l : LoopLocals)
  | publishChange (l : LoopLocals)
  | testPeriod (l : LoopLocals)
  | publishPeriod (l : LoopLocals)
  | readRecent (l : LoopLocals)
  | readStuck (l : LoopLocals) (openRequestedRecently : Bool)
  | testRecover (l : LoopLocals) (openRequestedRecently connectStuck : Bool)
  | recoverStop (l : LoopLocals)
  | recoverPublish (l : LoopLocals)
  | recoverStart (l : LoopLocals)
  | testTimeout (l : LoopLocals)
  | timeoutStop (l : LoopLocals)
  | timeoutPublish (l : LoopLocals)
  | resetHeartbeat (l : LoopLocals)
  | resetOpenRequest (l : LoopLocals)
  deriving DecidableEq, Repr

/-- One statement of `mqtt_control_loop`, `main.c:276–318`. -/
def loopStatement (now rssi : Int) (outcome : StartOutcome) (s : P4State) :
    LoopPhase → P4State × LoopPhase
  | .readClock => (s, .readConnected now)
  | .readConnected now => (s, .readRunning now s.connected)
  | .readRunning now connected => (s, .loadHeartbeat now connected s.running)
  | .loadHeartbeat now connected running =>
    (s, .testChange ⟨now, connected, running, s.lastHeartbeatMs⟩)
  | .testChange l =>
    if l.connected ≠ s.webrtcStateLast then
      ({ s with webrtcStateLast := l.connected }, .publishChange l)
    else (s, .testPeriod l)
  | .publishChange l =>
    (publishWebrtcStatus rssi (if l.connected then .ready else .stopped) none s, .testPeriod l)
  | .testPeriod l =>
    if s.mqttConnected && l.now > s.lastStatusPubMs + webrtcStatusPubPeriodMs then
      ({ s with lastStatusPubMs := l.now }, .publishPeriod l)
    else (s, .readRecent l)
  | .publishPeriod l =>
    (publishWebrtcStatus rssi
      (if l.connected then .ready else if l.running then .connecting else .idle) none s,
      .readRecent l)
  | .readRecent l =>
    if l.running && !l.connected then
      (s, .readStuck l (s.lastOpenRequestMs > 0 &&
        l.now - s.lastOpenRequestMs ≤ webrtcHeartbeatTimeoutMs))
    else (s, .testTimeout l)
  | .readStuck l recent =>
    (s, .testRecover l recent (s.lastOpenRequestMs > 0 &&
      l.now - s.lastOpenRequestMs > webrtcConnectRecoverTimeoutMs))
  | .testRecover l recent stuck =>
    if recent && stuck && l.now - s.lastRecoverMs > webrtcConnectRecoverCooldownMs then
      ({ s with lastRecoverMs := l.now }, .recoverStop l)
    else (s, .testTimeout l)
  | .recoverStop l => (s.stopWebrtc, .recoverPublish l)
  | .recoverPublish l =>
    (publishWebrtcStatus rssi .connecting (some .autoRecoverRestart) s, .recoverStart l)
  | .recoverStart _ => (s.startWebrtc outcome, .readClock)
  | .testTimeout l => if l.timesOut then (s, .timeoutStop l) else (s, .readClock)
  | .timeoutStop l => (s.stopWebrtc, .timeoutPublish l)
  | .timeoutPublish l =>
    (publishWebrtcStatus rssi .stopped (some .heartbeatTimeout) s, .resetHeartbeat l)
  | .resetHeartbeat l => ({ s with lastHeartbeatMs := 0 }, .resetOpenRequest l)
  | .resetOpenRequest _ => ({ s with lastOpenRequestMs := 0 }, .readClock)

/-- The next statement of the MQTT task in `mqtt_control_cmd_handler`. -/
inductive HandlerPhase where
  | idle
  | storeHeartbeat (now : Int)
  | storeOpenRequest (now : Int)
  | testRunning
  | start
  | clearOpenRequest
  | stop
  deriving DecidableEq, Repr

/-- The entry of `mqtt_control_cmd_handler` with its comparisons, `main.c:222–248`. -/
def receiveCommand (now : Int) (cmd : Option CString) (s : P4State) : P4State × HandlerPhase :=
  match cmd with
  | none => (s, .idle)
  | some cmd =>
    if strcmp cmd.bytes openWebrtcCmd.bytes = 0 then (s, .storeHeartbeat now)
    else if strcmp cmd.bytes closeWebrtcCmd.bytes = 0 then (s, .clearOpenRequest)
    else if strcmp cmd.bytes heartbeatCmd.bytes = 0 then (s, .storeHeartbeat now)
    else ({ s with doorBell := sendCmd cmd s.doorBell }, .idle)

/-- One statement of `mqtt_control_cmd_handler` after its comparisons. -/
def handlerStatement (outcome : StartOutcome) (s : P4State) : HandlerPhase → P4State × HandlerPhase
  | .idle => (s, .idle)
  | .storeHeartbeat now => ({ s with lastHeartbeatMs := now }, .storeOpenRequest now)
  | .storeOpenRequest now => ({ s with lastOpenRequestMs := now }, .testRunning)
  | .testRunning => if !s.running then (s, .start) else (s, .idle)
  | .start => (s.startWebrtc outcome, .idle)
  | .clearOpenRequest => ({ s with lastOpenRequestMs := 0 }, .stop)
  | .stop => (s.stopWebrtc, .idle)

/-- Both tasks, and whether the handler stored a heartbeat time since the loop read it last. -/
structure ControlTasks where
  p4 : P4State
  main : LoopPhase
  mqtt : HandlerPhase
  storedSinceLoad : Bool
  deriving DecidableEq

/-- A statement of one of the two tasks, a received command, or what other tasks do. -/
inductive ControlEvent where
  | loop (now rssi : Int) (outcome : StartOutcome)
  | receive (now : Int) (cmd : Option CString)
  | handler (outcome : StartOutcome)
  | background (i : P4Input)
  deriving DecidableEq

/-- What other tasks do: retry threads, WebRTC and broker events, and the network coming up. A
loss of the network resets the heartbeat time on its own. -/
def P4Event.inBackground : P4Event → Bool
  | .command _ _ | .tick _ _ => false
  | .network _ connected => connected
  | .mqtt _ | .webrtcEvent _ | .retryStart | .retryIteration _ => true

namespace ControlTasks

/-- Both tasks before their first statement. -/
def initial : ControlTasks := ⟨.initial, .readClock, .idle, false⟩

/-- The loop reads the heartbeat time next. -/
def loads (s : ControlTasks) : Bool :=
  match s.main with
  | .loadHeartbeat _ _ _ => true
  | _ => false

/-- The loop resets the heartbeat time next. -/
def resets (s : ControlTasks) : Bool :=
  match s.main with
  | .resetHeartbeat _ => true
  | _ => false

/-- The handler stores a heartbeat time next. -/
def stores (s : ControlTasks) : Bool :=
  match s.mqtt with
  | .storeHeartbeat _ => true
  | _ => false

/-- One step. -/
def step (s : ControlTasks) : ControlEvent → Option ControlTasks
  | .loop now rssi outcome =>
    let (p4, main) := loopStatement now rssi outcome s.p4 s.main
    some { s with
      p4 := p4, main := main, storedSinceLoad := if s.loads then false else s.storedSinceLoad }
  | .receive now cmd =>
    if s.mqtt = .idle then
      let (p4, mqtt) := receiveCommand now cmd s.p4
      some { s with p4 := p4, mqtt := mqtt }
    else none
  | .handler outcome =>
    if s.mqtt = .idle then none
    else
      let (p4, mqtt) := handlerStatement outcome s.p4 s.mqtt
      some { s with
        p4 := p4, mqtt := mqtt, storedSinceLoad := if s.stores then true else s.storedSinceLoad }
  | .background i =>
    if i.event.inBackground then (s.p4.step i).map (fun p4 ↦ { s with p4 := p4 }) else none

end ControlTasks

/-! ### The tasks alone -/

/-- Some statements of the loop in a row lead from `x` to `y`. -/
inductive LoopLeads (now rssi : Int) (outcome : StartOutcome) :
    P4State × LoopPhase → P4State × LoopPhase → Prop where
  | refl {x : P4State × LoopPhase} : LoopLeads now rssi outcome x x
  | next {x y : P4State × LoopPhase} :
      LoopLeads now rssi outcome (loopStatement now rssi outcome x.1 x.2) y →
      LoopLeads now rssi outcome x y

section Alone

variable {now rssi : Int} {outcome : StartOutcome}

/-- Statements after statements. -/
theorem LoopLeads.trans {x y z : P4State × LoopPhase} (hxy : LoopLeads now rssi outcome x y)
    (hyz : LoopLeads now rssi outcome y z) : LoopLeads now rssi outcome x z := by
  induction hxy with
  | refl => exact hyz
  | next _ ih => exact .next (ih hyz)

/-- The statements that publish a change of the connection. -/
theorem loopLeads_change (s : P4State) (l : LoopLocals) (hconnected : l.connected = s.connected) :
    LoopLeads now rssi outcome (s, .testChange l) (publishChange rssi s, .testPeriod l) := by
  refine .next ?_
  simp only [loopStatement, publishChange, hconnected]
  split
  · refine .next ?_
    simp only [loopStatement, hconnected]
    split <;> exact .refl
  · exact .refl

/-- The statements that publish the status from time to time. -/
theorem loopLeads_period (s : P4State) (l : LoopLocals) (hconnected : l.connected = s.connected)
    (hrunning : l.running = s.running) :
    LoopLeads now rssi outcome (s, .testPeriod l)
      (publishPeriodically l.now rssi s, .readRecent l) := by
  refine .next ?_
  simp only [loopStatement, publishPeriodically]
  split
  · refine .next ?_
    simp only [loopStatement, hconnected, hrunning]
    exact .refl
  · exact .refl

/-- The recovery and the timeout. -/
theorem loopLeads_branches (s : P4State) (l : LoopLocals) (hconnected : l.connected = s.connected)
    (hrunning : l.running = s.running) (hhb : l.hb = s.lastHeartbeatMs) :
    LoopLeads now rssi outcome (s, .readRecent l)
      (if recoverDue l.now s then recover l.now rssi outcome s
        else if timeoutDue l.now s then heartbeatTimeout rssi s else s, .readClock) := by
  have htimeout : l.timesOut = timeoutDue l.now s := by
    simp only [LoopLocals.timesOut, timeoutDue, hrunning, hhb]
  have hlast : LoopLeads now rssi outcome (s, .testTimeout l)
      (if timeoutDue l.now s then heartbeatTimeout rssi s else s, .readClock) := by
    refine .next ?_
    simp only [loopStatement, htimeout]
    split
    · exact .next (.next (.next (.next .refl)))
    · exact .refl
  have hrecover (recent stuck : Bool) (hdue : (recent && stuck &&
      decide (l.now - s.lastRecoverMs > webrtcConnectRecoverCooldownMs)) = recoverDue l.now s) :
      LoopLeads now rssi outcome (s, .testRecover l recent stuck)
        (if recoverDue l.now s then recover l.now rssi outcome s
          else if timeoutDue l.now s then heartbeatTimeout rssi s else s, .readClock) := by
    refine .next ?_
    simp only [loopStatement, hdue]
    split
    · exact .next (.next (.next .refl))
    · exact hlast
  refine .next ?_
  simp only [loopStatement, hrunning, hconnected]
  split
  · next hwaits =>
    refine .next (hrecover _ _ ?_)
    rw [recoverDue, hwaits, Bool.true_and]
  · next hwaits =>
    rw [if_neg (by simp [recoverDue, hwaits])]
    exact hlast

/-- A turn of the loop that nothing interrupts is one call of `mqtt_control_loop`. -/
theorem loopLeads_loop (s : P4State) :
    LoopLeads now rssi outcome (s, .readClock)
      (mqttControlLoop now rssi outcome s, .readClock) := by
  let l : LoopLocals := ⟨now, s.connected, s.running, s.lastHeartbeatMs⟩
  have hpublish := statusOnly_publish now rssi s
  have hchange : (publishChange rssi s).connected = s.connected ∧
      (publishChange rssi s).running = s.running := by
    simp only [publishChange]
    repeat' split
    all_goals exact ⟨rfl, rfl⟩
  have hconnected :
      l.connected = (publishPeriodically now rssi (publishChange rssi s)).connected := by
    rw [P4State.connected, hpublish.doorBell]
    rfl
  have hrunning : l.running = (publishPeriodically now rssi (publishChange rssi s)).running := by
    rw [P4State.running, hpublish.doorBell]
    rfl
  refine .next (.next (.next (.next ?_)))
  apply (loopLeads_change s l rfl).trans
  apply (loopLeads_period _ l hchange.1.symm hchange.2.symm).trans
  exact loopLeads_branches _ l hconnected hrunning hpublish.lastHeartbeatMs.symm

/-- A command that nothing interrupts is handled as a whole. -/
theorem handler_alone (cmd : Option CString) (s : P4State) :
    ∃ n, Nat.repeat (fun x : P4State × HandlerPhase ↦ handlerStatement outcome x.1 x.2) n
      (receiveCommand now cmd s) = (mqttControlCmdHandler now cmd outcome s, .idle) := by
  cases cmd with
  | none => exact ⟨0, rfl⟩
  | some cmd =>
    have hopen : ∃ n, Nat.repeat
        (fun x : P4State × HandlerPhase ↦ handlerStatement outcome x.1 x.2) n
        (s, .storeHeartbeat now) = (requestOpen now outcome s, .idle) := by
      refine ⟨4, ?_⟩
      cases hrunning : webrtcIsRunning s.doorBell <;>
        simp [Nat.repeat, handlerStatement, requestOpen, P4State.running, hrunning]
    simp only [receiveCommand, mqttControlCmdHandler]
    repeat' split
    · exact hopen
    · exact ⟨2, rfl⟩
    · exact hopen
    · exact ⟨0, rfl⟩

end Alone

/-! ### Heartbeats that stay -/

/-- The step resets a heartbeat time that was stored after the loop read it. -/
def erasesStored (s : ControlTasks) : ControlEvent → Bool
  | .loop _ _ _ => s.resets && s.storedSinceLoad
  | _ => false

/-- A running session has a heartbeat time. -/
def Supervised (s : ControlTasks) : Prop := s.p4.running = true → s.p4.lastHeartbeatMs ≠ 0

/-- No step of the run erases a heartbeat stored after the loop's read, and no state on the way
has a session without a heartbeat time. -/
def KeepsHeartbeats (es : List ControlEvent) : Prop :=
  StepsMeet (fun s e ↦ erasesStored s e = false) ControlTasks.step .initial es ∧
    ∀ pre s, pre <+: es → run ControlTasks.step .initial pre = some s → Supervised s

/-- The loop has read a heartbeat time that is due, and did not reset it yet. -/
def LoopPhase.mayReset : LoopPhase → Bool
  | .testChange l | .publishChange l | .testPeriod l | .publishPeriod l => l.timesOut
  | .readRecent l | .readStuck l _ | .testRecover l _ _ | .testTimeout l => l.timesOut
  | .timeoutStop _ | .timeoutPublish _ | .resetHeartbeat _ => true
  | _ => false

/-- The handler has stored a heartbeat time, and may start WebRTC. -/
def HandlerPhase.opening : HandlerPhase → Bool
  | .storeOpenRequest _ | .testRunning | .start => true
  | _ => false

/-- The loop stops a session after a timeout next. -/
def LoopPhase.stops : LoopPhase → Bool
  | .timeoutStop _ => true
  | _ => false

/-- The handler stores no heartbeat time while the loop may reset the one that it read, and the
loop does not stop after a timeout while the handler is opening. -/
def CommandsApart (s : ControlTasks) : ControlEvent → Prop
  | .loop _ _ _ => s.main.stops = true → s.mqtt.opening = false
  | .handler _ => s.stores = true → s.main.mayReset = false
  | _ => True

instance (s : ControlTasks) (e : ControlEvent) : Decidable (CommandsApart s e) :=
  match e with
  | .loop _ _ _ => inferInstanceAs (Decidable (s.main.stops = true → s.mqtt.opening = false))
  | .handler _ => inferInstanceAs (Decidable (s.stores = true → s.main.mayReset = false))
  | .receive _ _ | .background _ => isTrue trivial

/-- The loop found a session running in this turn, and did not reset the heartbeat time. -/
def LoopPhase.sawRunning : LoopPhase → Bool
  | .loadHeartbeat _ _ running => running
  | .testChange l | .publishChange l | .testPeriod l | .publishPeriod l => l.running
  | .readRecent l | .testTimeout l => l.running
  | .readStuck _ _ | .testRecover _ _ _ => true
  | .recoverStop _ | .recoverPublish _ | .recoverStart _ => true
  | .timeoutStop _ | .timeoutPublish _ | .resetHeartbeat _ => true
  | .readClock | .readConnected _ | .readRunning _ _ | .resetOpenRequest _ => false

/-- The loop has stopped the session after a timeout, and did not reset the heartbeat time. -/
def LoopPhase.stopped : LoopPhase → Bool
  | .timeoutPublish _ | .resetHeartbeat _ => true
  | _ => false

/-- Without a heartbeat time everything is dormant; the parts of the tasks that rely on one have
it; and behind the loop's stop nothing opens. -/
structure Guarded (s : ControlTasks) : Prop where
  dormant : s.p4.lastHeartbeatMs = 0 → Dormant s.p4.doorBell
  opening : s.mqtt.opening = true → s.p4.lastHeartbeatMs ≠ 0
  storing : ∀ now, s.mqtt = .storeHeartbeat now → 0 < now
  sawRunning : s.main.sawRunning = true → s.p4.lastHeartbeatMs ≠ 0
  stopped : s.main.stopped = true → Dormant s.p4.doorBell ∧ s.mqtt.opening = false
  stored : s.main.mayReset = true → s.storedSinceLoad = false

/-- The tasks start guarded. -/
theorem guarded_initial : Guarded .initial where
  dormant _ := ⟨rfl, .inr ⟨rfl, rfl, rfl⟩⟩
  opening h := absurd h (by decide)
  storing _ h := absurd h (by simp [ControlTasks.initial])
  sawRunning h := absurd h (by decide)
  stopped h := absurd h (by decide)
  stored h := absurd h (by decide)

/-- A loop statement from `p` and `main` to `q` keeps the heartbeat time, wakes nothing, and enters
no part that relies on either. -/
structure QuietStatement (p : P4State) (main : LoopPhase) (q : P4State × LoopPhase) : Prop where
  heartbeat : q.1.lastHeartbeatMs = p.lastHeartbeatMs
  dormant : Dormant p.doorBell → Dormant q.1.doorBell
  sawRunning : q.2.sawRunning = true → main.sawRunning = true
  stopped : q.2.stopped = true → main.stopped = true
  mayReset : q.2.mayReset = true → main.mayReset = true

/-- Publishing a status wakes nothing. -/
theorem Dormant.publish {s : P4State} (h : Dormant s.doorBell) (rssi : Int) (state : StatusState)
    (reason : Option StatusReason) :
    Dormant (publishWebrtcStatus rssi state reason s).doorBell := h.congr rfl rfl rfl rfl rfl

/-- The loop statements that are not quiet. -/
theorem loopStatement_cases (now rssi : Int) (outcome : StartOutcome) (p : P4State)
    (main : LoopPhase) :
    QuietStatement p main (loopStatement now rssi outcome p main) ∨
      (∃ now connected, main = .readRunning now connected) ∨
      (∃ now connected running, main = .loadHeartbeat now connected running) ∨
      (∃ l, main = .recoverStart l) ∨ (∃ l, main = .timeoutStop l) ∨
      (∃ l, main = .resetHeartbeat l) := by
  have hpublish (rssi : Int) (state : StatusState) (reason : Option StatusReason)
      (h : Dormant p.doorBell) : Dormant (publishWebrtcStatus rssi state reason p).doorBell :=
    h.publish rssi state reason
  cases main with
  | readRunning now connected => exact .inr (.inl ⟨_, _, rfl⟩)
  | loadHeartbeat now connected running => exact .inr (.inr (.inl ⟨_, _, _, rfl⟩))
  | recoverStart l => exact .inr (.inr (.inr (.inl ⟨l, rfl⟩)))
  | timeoutStop l => exact .inr (.inr (.inr (.inr (.inl ⟨l, rfl⟩))))
  | resetHeartbeat l => exact .inr (.inr (.inr (.inr (.inr ⟨l, rfl⟩))))
  | readClock => exact .inl ⟨rfl, id, nofun, nofun, nofun⟩
  | readConnected now => exact .inl ⟨rfl, id, nofun, nofun, nofun⟩
  | publishChange l => exact .inl ⟨rfl, hpublish _ _ _, id, id, id⟩
  | publishPeriod l => exact .inl ⟨rfl, hpublish _ _ _, id, id, id⟩
  | recoverPublish l => exact .inl ⟨rfl, hpublish _ _ _, id, id, id⟩
  | timeoutPublish l => exact .inl ⟨rfl, hpublish _ _ _, id, id, id⟩
  | readStuck l recent => exact .inl ⟨rfl, id, id, id, id⟩
  | recoverStop l => exact .inl ⟨rfl, fun _ ↦ dormant_stopWebrtc _, id, id, id⟩
  | resetOpenRequest l => exact .inl ⟨rfl, id, nofun, nofun, nofun⟩
  | testChange l =>
    left
    simp only [loopStatement]
    split <;> exact ⟨rfl, id, id, id, id⟩
  | testPeriod l =>
    left
    simp only [loopStatement]
    split <;> exact ⟨rfl, id, id, id, id⟩
  | readRecent l =>
    left
    simp only [loopStatement]
    split
    · next h => exact ⟨rfl, id, fun _ ↦ (Bool.and_eq_true_iff.mp h).1, id, id⟩
    · exact ⟨rfl, id, id, id, id⟩
  | testRecover l recent stuck =>
    left
    simp only [loopStatement]
    split
    · exact ⟨rfl, id, fun _ ↦ rfl, nofun, nofun⟩
    · exact ⟨rfl, id, fun _ ↦ rfl, id, id⟩
  | testTimeout l =>
    left
    simp only [loopStatement]
    split
    · next h => exact ⟨rfl, id, fun _ ↦ (Bool.and_eq_true_iff.mp h).1, nofun, fun _ ↦ h⟩
    · exact ⟨rfl, id, nofun, nofun, nofun⟩

/-- A quiet loop statement keeps the tasks guarded. -/
theorem Guarded.quiet {s : ControlTasks} (h : Guarded s) {q : P4State × LoopPhase} {stored : Bool}
    (hq : QuietStatement s.p4 s.main q) (hstored : stored = false ∨ stored = s.storedSinceLoad) :
    Guarded { s with p4 := q.1, main := q.2, storedSinceLoad := stored } where
  dormant hz := hq.dormant (h.dormant (hq.heartbeat ▸ hz))
  opening ho := by
    rw [hq.heartbeat]
    exact h.opening ho
  storing := h.storing
  sawRunning hr := by
    rw [hq.heartbeat]
    exact h.sawRunning (hq.sawRunning hr)
  stopped hs := (h.stopped (hq.stopped hs)).imp_left hq.dormant
  stored hr := by
    rcases hstored with hstored | hstored
    · exact hstored
    · exact hstored.trans (h.stored (hq.mayReset hr))

/-- A loop statement keeps the tasks guarded. -/
theorem guarded_loop {s t : ControlTasks} {now rssi : Int} {outcome : StartOutcome}
    (h : Guarded s) (he : s.main.stops = true → s.mqtt.opening = false)
    (ht : s.step (.loop now rssi outcome) = some t) : Guarded t := by
  rcases loopStatement_cases now rssi outcome s.p4 s.main with
    hquiet | ⟨now', connected, hmain⟩ | ⟨now', connected, running, hmain⟩ | ⟨l, hmain⟩ |
      ⟨l, hmain⟩ | ⟨l, hmain⟩
  · cases ht
    apply h.quiet hquiet
    split
    · exact .inl rfl
    · exact .inr rfl
  all_goals
    obtain ⟨p4, main, mqtt, stored⟩ := s
    subst hmain
    cases ht
  · refine ⟨h.dormant, h.opening, h.storing, ?_, nofun, nofun⟩
    intro hrunning hz
    have hnone : p4.doorBell.webrtc = none := (h.dormant hz).1
    have hsome : p4.doorBell.webrtc.isSome = true := hrunning
    rw [hnone] at hsome
    exact Bool.false_ne_true hsome
  · exact ⟨h.dormant, h.opening, h.storing, h.sawRunning, nofun, fun _ ↦ rfl⟩
  · have hheartbeat : p4.lastHeartbeatMs ≠ 0 := h.sawRunning rfl
    exact ⟨fun hz ↦ absurd hz hheartbeat, h.opening, h.storing, nofun, nofun, nofun⟩
  · exact ⟨fun _ ↦ dormant_stopWebrtc _, h.opening, h.storing, h.sawRunning,
      fun _ ↦ ⟨dormant_stopWebrtc _, he rfl⟩, h.stored⟩
  · obtain ⟨hdormant, hclosed⟩ := h.stopped rfl
    refine ⟨fun _ ↦ hdormant, ?_, h.storing, nofun, nofun, nofun⟩
    intro hopening
    exact absurd (hclosed.symm.trans hopening) Bool.false_ne_true

/-- Commands that are no request leave a dormant P4 dormant, and every command its heartbeat
time. -/
theorem receiveCommand_spec (now : Int) (cmd : Option CString) (s : P4State) :
    (receiveCommand now cmd s).1.lastHeartbeatMs = s.lastHeartbeatMs ∧
      (Dormant s.doorBell → Dormant (receiveCommand now cmd s).1.doorBell) ∧
      (receiveCommand now cmd s).2.opening = false ∧
      ∀ at', (receiveCommand now cmd s).2 = .storeHeartbeat at' → at' = now := by
  cases cmd with
  | none => exact ⟨rfl, id, rfl, nofun⟩
  | some cmd =>
    simp only [receiveCommand]
    repeat' split
    · exact ⟨rfl, id, rfl, fun _ h ↦ (HandlerPhase.storeHeartbeat.inj h).symm⟩
    · exact ⟨rfl, id, rfl, nofun⟩
    · exact ⟨rfl, id, rfl, fun _ h ↦ (HandlerPhase.storeHeartbeat.inj h).symm⟩
    · exact ⟨rfl, fun h ↦ h.sendCmd cmd, rfl, nofun⟩

/-- A received command keeps the tasks guarded. -/
theorem guarded_receive {s t : ControlTasks} {now : Int} {cmd : Option CString} (h : Guarded s)
    (hnow : 0 < now) (ht : s.step (.receive now cmd) = some t) : Guarded t := by
  obtain ⟨hheartbeat, hdormant, hopening, hstoring⟩ := receiveCommand_spec now cmd s.p4
  simp only [ControlTasks.step] at ht
  split at ht
  · cases ht
    refine ⟨fun hz ↦ hdormant (h.dormant (hheartbeat ▸ hz)), ?_, ?_, ?_, ?_, h.stored⟩
    · intro ho
      exact absurd (hopening.symm.trans ho) Bool.false_ne_true
    · intro at' hat
      rw [hstoring at' hat]
      exact hnow
    · intro hr
      rw [hheartbeat]
      exact h.sawRunning hr
    · intro hs
      exact ⟨hdormant (h.stopped hs).1, hopening⟩
  · exact absurd ht (by simp)

/-- Behind the stop the reset is to come. -/
theorem mayReset_of_stopped {main : LoopPhase} (h : main.stopped = true) :
    main.mayReset = true := by
  cases main <;> first | rfl | exact absurd h Bool.false_ne_true

/-- A handler statement keeps the tasks guarded. -/
theorem guarded_handler {s t : ControlTasks} {outcome : StartOutcome} (h : Guarded s)
    (he : s.stores = true → s.main.mayReset = false)
    (ht : s.step (.handler outcome) = some t) : Guarded t := by
  obtain ⟨p4, main, mqtt, stored⟩ := s
  cases mqtt with
  | idle => exact absurd ht (by simp [ControlTasks.step])
  | storeHeartbeat now =>
    cases ht
    have hpos : 0 < now := h.storing now rfl
    have hreset : main.mayReset = false := he rfl
    have hnonzero : now ≠ 0 := by omega
    refine ⟨fun hz ↦ absurd hz hnonzero, fun _ ↦ hnonzero, nofun, fun _ ↦ hnonzero, ?_, ?_⟩
    · intro hs
      exact absurd (hreset.symm.trans (mayReset_of_stopped hs)) Bool.false_ne_true
    · intro hr
      exact absurd (hreset.symm.trans hr) Bool.false_ne_true
  | storeOpenRequest now =>
    cases ht
    exact ⟨h.dormant, h.opening, nofun, h.sawRunning, h.stopped, h.stored⟩
  | testRunning =>
    simp only [ControlTasks.step, handlerStatement, reduceCtorEq, if_false] at ht
    split at ht
    · cases ht
      exact ⟨h.dormant, h.opening, nofun, h.sawRunning, h.stopped, h.stored⟩
    · cases ht
      exact ⟨h.dormant, nofun, nofun, h.sawRunning, fun hs ↦ ⟨(h.stopped hs).1, rfl⟩, h.stored⟩
  | start =>
    cases ht
    have hheartbeat : p4.lastHeartbeatMs ≠ 0 := h.opening rfl
    refine ⟨fun hz ↦ absurd hz hheartbeat, nofun, nofun, h.sawRunning, ?_, h.stored⟩
    intro hs
    exact absurd (h.stopped hs).2.symm Bool.false_ne_true
  | clearOpenRequest =>
    cases ht
    exact ⟨h.dormant, nofun, nofun, h.sawRunning, h.stopped, h.stored⟩
  | stop =>
    cases ht
    exact ⟨fun _ ↦ dormant_stopWebrtc _, nofun, nofun, h.sawRunning,
      fun _ ↦ ⟨dormant_stopWebrtc _, rfl⟩, h.stored⟩

/-- What other tasks do keeps the heartbeat time. -/
theorem lastHeartbeatMs_background {s t : P4State} {i : P4Input}
    (hi : i.event.inBackground = true) (ht : s.step i = some t) :
    i.isOpenRequest = false ∧ t.lastHeartbeatMs = s.lastHeartbeatMs := by
  obtain ⟨now, event⟩ := i
  cases event with
  | command cmd outcome => exact absurd hi Bool.false_ne_true
  | tick rssi outcome => exact absurd hi Bool.false_ne_true
  | network rssi connected =>
    cases ht
    obtain rfl : connected = true := hi
    refine ⟨rfl, ?_⟩
    simp only [networkSetConnected, networkEventHandler, if_true]
    repeat' split
    all_goals rfl
  | mqtt connected =>
    simp only [P4State.step] at ht
    split at ht
    · cases ht
      exact ⟨rfl, rfl⟩
    · exact absurd ht (by simp)
  | webrtcEvent event =>
    simp only [P4State.step] at ht
    split at ht
    · cases ht
      exact ⟨rfl, rfl⟩
    · exact absurd ht (by simp)
  | retryStart =>
    obtain ⟨d, _, rfl⟩ := Option.map_eq_some_iff.mp ht
    exact ⟨rfl, rfl⟩
  | retryIteration outcome =>
    obtain ⟨d, _, rfl⟩ := Option.map_eq_some_iff.mp ht
    exact ⟨rfl, rfl⟩

/-- What other tasks do keeps the tasks guarded. -/
theorem guarded_background {s t : ControlTasks} {i : P4Input} (h : Guarded s)
    (ht : s.step (.background i) = some t) : Guarded t := by
  simp only [ControlTasks.step] at ht
  split at ht
  · next hi =>
    obtain ⟨p4, hp4, rfl⟩ := Option.map_eq_some_iff.mp ht
    obtain ⟨hrequest, hheartbeat⟩ := lastHeartbeatMs_background hi hp4
    have hdormant (hd : Dormant s.p4.doorBell) : Dormant p4.doorBell :=
      (dormant_step hd hrequest hp4).1
    refine ⟨fun hz ↦ hdormant (h.dormant (hheartbeat ▸ hz)), ?_, h.storing, ?_,
      fun hs ↦ (h.stopped hs).imp_left hdormant, h.stored⟩
    · intro ho
      rw [hheartbeat]
      exact h.opening ho
    · intro hr
      rw [hheartbeat]
      exact h.sawRunning hr
  · exact absurd ht (by simp)

/-- A command is received on a positive clock. -/
def ControlEvent.onClock : ControlEvent → Bool
  | .receive now _ => 0 < now
  | _ => true

/-- All along a run whose statements keep apart the tasks are guarded. -/
theorem guarded_run {es : List ControlEvent} {s : ControlTasks} (hclock : ∀ e ∈ es, e.onClock)
    (hmeet : StepsMeet CommandsApart ControlTasks.step .initial es)
    (h : run ControlTasks.step .initial es = some s) : Guarded s := by
  induction es using concat_induction generalizing s with
  | nil =>
    cases h
    exact guarded_initial
  | concat es e ih =>
    obtain ⟨u, hu, ht⟩ := run_concat_some.mp h
    have hguarded : Guarded u :=
      ih (fun x hx ↦ hclock x (List.mem_append_left _ hx)) hmeet.left hu
    have hapart : CommandsApart u e := hmeet.last hu
    cases e with
    | loop now rssi outcome => exact guarded_loop hguarded hapart ht
    | receive now cmd =>
      have hnow : (ControlEvent.receive now cmd).onClock := hclock _ (by simp)
      exact guarded_receive hguarded (of_decide_eq_true hnow) ht
    | handler outcome => exact guarded_handler hguarded hapart ht
    | background i => exact guarded_background hguarded ht

/-- Guarded tasks have a heartbeat time while a session runs. -/
theorem Guarded.supervised {s : ControlTasks} (h : Guarded s) : Supervised s := by
  intro hrunning hz
  have hsome : s.p4.doorBell.webrtc.isSome = true := hrunning
  rw [(h.dormant hz).1] at hsome
  exact Bool.false_ne_true hsome

/-- Guarded tasks erase no heartbeat that was stored after the loop's read. -/
theorem Guarded.erasesNothing {s : ControlTasks} (h : Guarded s) (e : ControlEvent) :
    erasesStored s e = false := by
  cases e with
  | loop now rssi outcome =>
    obtain ⟨p4, main, mqtt, stored⟩ := s
    cases main with
    | resetHeartbeat l => exact h.stored rfl
    | _ => rfl
  | _ => rfl

/-- WebRTC is opened by a command and connects; 46 seconds later the loop times out and stops
it. -/
private def timedOut : List ControlEvent :=
  [.background ⟨1, .network (-50) true⟩, .receive 1000 (some openWebrtcCmd)] ++
    List.replicate 4 (.handler .starts) ++ [.background ⟨2000, .webrtcEvent .connected⟩] ++
    List.replicate 10 (.loop 47000 (-50) .starts)

/-- A heartbeat that comes after the loop's stop starts WebRTC again and is then erased. -/
theorem heartbeat_erased :
    ¬ ∀ es : List ControlEvent, (∀ e ∈ es, e.onClock) → KeepsHeartbeats es := by
  intro h
  have hlost := (h (timedOut ++ .receive 47001 (some heartbeatCmd) ::
    (List.replicate 4 (.handler .starts) ++ List.replicate 2 (.loop 47000 (-50) .starts)))
    (by decide)).2 _ _ (List.prefix_refl _) rfl
  exact absurd rfl (hlost rfl)

/-- No heartbeat is lost in a run in which the handler stores none between the loop's read of
one that is due and the reset, and in which the loop's timeout does not stop a session that
the handler is opening. -/
theorem keepsHeartbeats_of_apart {es : List ControlEvent} (hclock : ∀ e ∈ es, e.onClock)
    (hmeet : StepsMeet CommandsApart ControlTasks.step .initial es) : KeepsHeartbeats es := by
  have hguarded {pre post : List ControlEvent} {s : ControlTasks} (hes : pre ++ post = es)
      (hs : run ControlTasks.step .initial pre = some s) : Guarded s := by
    refine guarded_run (fun e he ↦ hclock e ?_) (StepsMeet.left (hes ▸ hmeet)) hs
    rw [← hes]
    exact List.mem_append_left _ he
  constructor
  · intro pre e post s hes hs
    exact (hguarded hes.symm hs).erasesNothing e
  · rintro pre s ⟨post, hes⟩ hs
    exact (hguarded hes hs).supervised

/-- A timeout that nothing interrupts. -/
theorem keepsHeartbeats_timeout :
    KeepsHeartbeats (timedOut ++ List.replicate 3 (.loop 47000 (-50) .starts)) :=
  keepsHeartbeats_of_apart (by decide) (by decide)

end Esp32Robot.Webrtc

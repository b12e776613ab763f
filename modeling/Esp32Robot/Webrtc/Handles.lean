import Esp32Robot.Base.Run
import Esp32Robot.Base.Threads
import Esp32Robot.Webrtc.DoorBell

/-!
# The handle variable and its tasks

`start_webrtc`, `stop_webrtc`, `cleanup_webrtc_handle` and `janus_retry_task` of
`IDF_esp32p4_webrtc/main/webrtc.c` as the instructions of interleaved threads. Each
read and each write of the static `webrtc`, each `esp_webrtc_open` and each
`esp_webrtc_close` is an instruction of its own; there is no lock around any two of
them. Run without interruption they are the functions of `Esp32Robot.Webrtc.DoorBell`.
-/

namespace Esp32Robot.Webrtc

open Esp32Robot.Base

/-- The variables that the tasks share, the handle that `esp_webrtc_open` returns next, and the
handles closed so far. `cancelled` holds from a `stop_webrtc` on until a caller other than a
retry task calls `start_webrtc`. -/
structure HandleState where
  webrtc : Option Nat
  janusRetryStop : Bool
  janusRetryRunning : Bool
  networkConnected : Bool
  nextHandle : Nat
  closed : List Nat
  cancelled : Bool
  deriving DecidableEq, Repr

/-- The static initial values. -/
def HandleState.initial : HandleState where
  webrtc := none
  janusRetryStop := false
  janusRetryRunning := false
  networkConnected := false
  nextHandle := 0
  closed := []
  cancelled := false

/-- Who calls `start_webrtc`, and what a thread is for. -/
inductive Caller where
  | application
  | retry
  deriving DecidableEq, Repr

/-- The instructions. Those of `start_webrtc` know the caller that they return to; those of the
cleanup carry the handle that it read. -/
inductive HandleInstr where
  | startWebrtc (caller : Caller)
  | clearRetryStop (caller : Caller)
  | testWebrtc (caller : Caller)
  | openWebrtc (caller : Caller)
  | useWebrtc
  | espWebrtcStart (caller : Caller)
  | testHandle
  | takeHandle
  | clearHandle (handle : Option Nat)
  | closeHandle (handle : Option Nat)
  | scheduleRetry
  | stopWebrtc
  | enterRetry
  | whileNotStopped
  | testNetwork
  | testNoSession
  | sleepRetry
  | leaveRetry
  | destroyRetry
  deriving DecidableEq, Repr

/-- Where `start_webrtc` returns to: a retry task leaves its loop after a success and sleeps
after a failure, `webrtc.c:122–127`. -/
def Caller.resume (ok : Bool) : Caller → List HandleInstr
  | .application => []
  | .retry => if ok then [.leaveRetry] else [.sleepRetry, .whileNotStopped]

/-- What `start_webrtc` does when opening or starting fails, `webrtc.c:764–769` and `803–807`. -/
def startFails (caller : Caller) : List HandleInstr :=
  [.testHandle, .scheduleRetry] ++ caller.resume false

/-- The guard of `schedule_janus_retry`, `webrtc.c:134`. -/
def HandleState.schedules (s : HandleState) : Bool :=
  !(s.janusRetryStop || s.janusRetryRunning || !s.networkConnected)

/-- What running an instruction can lead to. -/
abbrev HandleOutcome := Outcome HandleState Caller HandleInstr

/-- Run one instruction; `ok` is the result of the call in it. -/
def HandleInstr.exec (s : HandleState) (ok : Bool) : HandleInstr → Option HandleOutcome
  -- `start_webrtc`, `webrtc.c:668–816`
  | .startWebrtc caller =>
    let s := if caller = .application then { s with cancelled := false } else s
    some ⟨s, if s.networkConnected then [.clearRetryStop caller] else caller.resume false, []⟩
  | .clearRetryStop caller =>
    some ⟨{ s with janusRetryStop := false }, [.testWebrtc caller], []⟩
  | .testWebrtc caller =>
    some ⟨s, if s.webrtc.isSome then [.testHandle, .openWebrtc caller] else [.openWebrtc caller],
      []⟩
  | .openWebrtc caller =>
    if ok then
      some ⟨{ s with webrtc := some s.nextHandle, nextHandle := s.nextHandle + 1 },
        List.replicate 5 .useWebrtc ++ [.espWebrtcStart caller], []⟩
    else some ⟨s, startFails caller, []⟩
  -- the setters get the value of `webrtc`, and leave the variables alone
  | .useWebrtc => some ⟨s, [], []⟩
  | .espWebrtcStart caller =>
    if ok && s.webrtc.isSome then some ⟨s, .useWebrtc :: caller.resume true, []⟩
    else some ⟨s, startFails caller, []⟩
  -- `cleanup_webrtc_handle`, `webrtc.c:100–111`
  | .testHandle => some ⟨s, if s.webrtc.isSome then [.takeHandle] else [], []⟩
  | .takeHandle => some ⟨s, [.clearHandle s.webrtc], []⟩
  | .clearHandle handle => some ⟨{ s with webrtc := none }, [.closeHandle handle], []⟩
  | .closeHandle handle => some ⟨{ s with closed := s.closed ++ handle.toList }, [], []⟩
  -- `schedule_janus_retry`, `webrtc.c:133–139`
  | .scheduleRetry => some ⟨s, [], if s.schedules then [⟨.retry, [.enterRetry]⟩] else []⟩
  -- `stop_webrtc`, `webrtc.c:824–831`
  | .stopWebrtc => some ⟨{ s with janusRetryStop := true, cancelled := true }, [.testHandle], []⟩
  -- `janus_retry_task`, `webrtc.c:114–131`
  | .enterRetry => some ⟨{ s with janusRetryRunning := true }, [.whileNotStopped], []⟩
  | .whileNotStopped =>
    some ⟨s, if s.janusRetryStop then [.leaveRetry] else [.testNetwork], []⟩
  | .testNetwork => some ⟨s, if s.networkConnected then [.testNoSession] else [.leaveRetry], []⟩
  | .testNoSession =>
    some ⟨s, if s.webrtc.isNone then [.startWebrtc .retry] else [.sleepRetry, .whileNotStopped],
      []⟩
  | .sleepRetry => some ⟨s, [], []⟩
  | .leaveRetry => some ⟨{ s with janusRetryRunning := false }, [.destroyRetry], []⟩
  | .destroyRetry => some ⟨s, [], []⟩

/-- The calls of the MQTT task and the main task, and the event handler's reaction to a lost
connection. -/
inductive HandleCall where
  | start
  | stop
  | connectionLost
  deriving DecidableEq, Repr

/-- The instructions of a call. -/
def HandleCall.instrs : HandleCall → List HandleInstr
  | .start => [.startWebrtc .application]
  | .stop => [.stopWebrtc]
  | .connectionLost => [.testHandle, .scheduleRetry]

/-- What can happen: a task makes a call, a thread takes a step, or the network changes. -/
inductive HandleEvent where
  | call (f : HandleCall)
  | exec (thread : Nat) (ok : Bool)
  | network (connected : Bool)
  deriving DecidableEq, Repr

/-- The shared variables with the threads that work on them. -/
abbrev HandleTasks := System HandleState Caller HandleInstr

namespace HandleTasks

/-- Nothing runs yet. -/
def initial : HandleTasks := ⟨.initial, []⟩

/-- One step. -/
def step (s : HandleTasks) : HandleEvent → Option HandleTasks
  | .call f => some ⟨s.state, s.threads ++ [⟨.application, f.instrs⟩]⟩
  | .exec i ok => System.exec (fun state ins ok ↦ ins.exec state ok) i ok s
  | .network connected => some ⟨{ s.state with networkConnected := connected }, s.threads⟩

end HandleTasks

/-! ### A task alone -/

/-- The handle that a call closes. -/
def Effect.closed : Effect → Option Nat
  | .closeHandle handle => some handle
  | _ => none

/-- The variables of `webrtc.c` that the tasks share. -/
def DoorBell.handles (net cancelled : Bool) (d : DoorBell) : HandleState where
  webrtc := d.webrtc
  janusRetryStop := d.janusRetryStop
  janusRetryRunning := d.janusRetryRunning
  networkConnected := net
  nextHandle := d.nextHandle
  closed := d.effects.filterMap Effect.closed
  cancelled := cancelled

/-- The program, run without interruption, leads from `d` to `e`, and creates the retry threads
that `e` has more. -/
def RunsAs (net cancelled : Bool) (d : DoorBell) (program : List HandleInstr) (cancelled' : Bool)
    (e : DoorBell) : Prop :=
  ∃ created, System.Alone (fun state ins ok ↦ HandleInstr.exec state ok ins)
    (d.handles net cancelled) program (e.handles net cancelled') created ∧
      e.retryCreated = d.retryCreated + created.length

section RunsAs

variable {net a b c : Bool} {d e f : DoorBell} {p q : List HandleInstr}

/-- One program after another. -/
theorem RunsAs.append (hp : RunsAs net a d p b e) (hq : RunsAs net b e q c f) :
    RunsAs net a d (p ++ q) c f := by
  obtain ⟨x, hx, hxe⟩ := hp
  obtain ⟨y, hy, hyf⟩ := hq
  refine ⟨x ++ y, hx.append hy, ?_⟩
  rw [hyf, hxe, List.length_append]
  omega

/-- An instruction that creates no thread, and what it calls. -/
theorem RunsAs.next {ins : HandleInstr} {calls : List HandleInstr} (ok : Bool)
    (hins : ins.exec (d.handles net a) ok = some ⟨e.handles net b, calls, []⟩)
    (hcreated : e.retryCreated = d.retryCreated) (hcalls : RunsAs net b e calls c f) :
    RunsAs net a d [ins] c f := by
  obtain ⟨x, hx, hxf⟩ := hcalls
  rw [← List.append_nil calls] at hx
  exact ⟨x, .next hins hx, by rw [hxf, hcreated]⟩

/-- Nothing to run. -/
theorem RunsAs.done : RunsAs net a d [] a d := ⟨[], .done, rfl⟩

/-- `cleanup_webrtc_handle`. -/
theorem runsAs_cleanup : RunsAs net a d [.testHandle] a (cleanupWebrtcHandle d) := by
  cases h : d.webrtc with
  | none =>
    have htest : HandleInstr.exec (d.handles net a) true .testHandle =
        some ⟨d.handles net a, [], []⟩ := by
      simp [HandleInstr.exec, DoorBell.handles, h]
    simp only [cleanupWebrtcHandle, h]
    exact .next true htest rfl .done
  | some handle =>
    have htest : HandleInstr.exec (d.handles net a) true .testHandle =
        some ⟨d.handles net a, [.takeHandle], []⟩ := by
      simp [HandleInstr.exec, DoorBell.handles, h]
    have htake : HandleInstr.exec (d.handles net a) true .takeHandle =
        some ⟨d.handles net a, [.clearHandle (some handle)], []⟩ := by
      simp [HandleInstr.exec, DoorBell.handles, h]
    have hclose (d : DoorBell) :
        HandleInstr.exec (d.handles net a) true (.closeHandle (some handle)) =
          some ⟨(d.emit (.closeHandle handle)).handles net a, [], []⟩ := by
      simp [HandleInstr.exec, DoorBell.handles, DoorBell.emit, Effect.closed]
    simp only [cleanupWebrtcHandle, h]
    exact .next true htest rfl (.next true htake rfl
      (.next (e := { d with monitorKey := false, webrtc := none }) true rfl rfl
        (.next true (hclose _) rfl .done)))

/-- `schedule_janus_retry`. -/
theorem runsAs_schedule : RunsAs net a d [.scheduleRetry] a (scheduleJanusRetry net d) := by
  have hguard : (d.handles net a).schedules =
      !(d.janusRetryStop || d.janusRetryRunning || !net) := rfl
  cases h : d.janusRetryStop || d.janusRetryRunning || !net with
  | true =>
    rw [scheduleJanusRetry, if_pos h]
    refine .next true ?_ rfl .done
    simp [HandleInstr.exec, hguard, h]
  | false =>
    rw [scheduleJanusRetry, if_neg (Bool.eq_false_iff.mp h)]
    have hcreate : HandleInstr.exec (d.handles net a) true .scheduleRetry =
        some ⟨d.handles net a, [], [⟨.retry, [.enterRetry]⟩]⟩ := by
      simp [HandleInstr.exec, hguard, h]
    have hhandles : (({ d with retryCreated := d.retryCreated + 1 } : DoorBell).emit
        .createRetryThread).handles net a = d.handles net a := by
      simp [DoorBell.handles, DoorBell.emit, Effect.closed]
    refine ⟨[⟨.retry, [.enterRetry]⟩] ++ [], .next hcreate ?_, rfl⟩
    rw [hhandles]
    exact .done

/-- `stop_webrtc`. -/
theorem runsAs_stop : RunsAs net a d [.stopWebrtc] true (stopWebrtc d) := by
  have hstop : HandleInstr.exec (d.handles net a) true .stopWebrtc =
      some ⟨({ d.emit .stopWebrtc with
        janusRetryStop := true, webrtcConnected := false } : DoorBell).handles net true,
        [.testHandle], []⟩ := by
    simp [HandleInstr.exec, DoorBell.handles, DoorBell.emit, Effect.closed]
  exact .next true hstop rfl runsAs_cleanup

/-- What `start_webrtc` does once opening or starting failed. -/
theorem runsAs_startFails : RunsAs net a d (startFails .application) a
    (scheduleJanusRetry net (cleanupWebrtcHandle d)) :=
  runsAs_cleanup.append (p := [.testHandle]) runsAs_schedule

/-- A call that closes no handle leaves the shared variables. -/
theorem handles_emit {x : Effect} (h : x.closed = none) :
    (d.emit x).handles net a = d.handles net a := by
  simp [DoorBell.handles, DoorBell.emit, h]

/-- The calls of the setters. -/
theorem runsAs_uses (n : Nat) : RunsAs net a d (List.replicate n .useWebrtc) a d := by
  induction n with
  | zero => exact .done
  | succ n ih =>
    have huse : RunsAs net a d [.useWebrtc] a d := .next true rfl rfl .done
    exact huse.append ih

/-- A call of `esp_webrtc_start` that fails. -/
theorem runsAs_startFailed : RunsAs net a d [.espWebrtcStart .application] a
    (scheduleJanusRetry net (cleanupWebrtcHandle d)) :=
  .next (e := d) false rfl rfl runsAs_startFails

/-- A call of `esp_webrtc_start` that succeeds. -/
theorem runsAs_started (h : d.webrtc.isSome = true) :
    RunsAs net a d [.espWebrtcStart .application] a
      ((d.emit (.enablePeerConnection d.webrtc true)).emit (.playTone .joinSuccess)) := by
  have hstarted : HandleInstr.exec (d.handles net a) true (.espWebrtcStart .application) =
      some ⟨((d.emit (.enablePeerConnection d.webrtc true)).emit
        (.playTone .joinSuccess)).handles net a, [.useWebrtc], []⟩ := by
    rw [handles_emit rfl, handles_emit rfl]
    simp [HandleInstr.exec, DoorBell.handles, h, Caller.resume]
  exact .next true hstarted rfl (runsAs_uses 1)

/-- The rest of `start_webrtc` once the old session is gone. -/
theorem runsAs_openAndStart (outcome : StartOutcome) :
    RunsAs net a d [.openWebrtc .application] a (openAndStart net outcome d).2 := by
  let e : DoorBell := ({ d with monitorKey := true } : DoorBell).emit .createKeyThread
  have hkey : e.handles net a = d.handles net a := handles_emit rfl
  have hopen : HandleInstr.exec (d.handles net a) true (.openWebrtc .application) =
      some ⟨(openSession e).handles net a,
        List.replicate 5 .useWebrtc ++ [.espWebrtcStart .application], []⟩ := by
    simp [HandleInstr.exec, DoorBell.handles, openSession, e, DoorBell.emit, Effect.closed]
  cases outcome with
  | openFails =>
    have hfails : HandleInstr.exec (d.handles net a) false (.openWebrtc .application) =
        some ⟨e.handles net a, startFails .application, []⟩ := by
      rw [hkey]
      rfl
    exact .next (e := e) false hfails rfl runsAs_startFails
  | startFails =>
    exact .next (e := openSession e) true hopen rfl ((runsAs_uses 5).append runsAs_startFailed)
  | starts =>
    exact .next (e := openSession e) true hopen rfl ((runsAs_uses 5).append (runsAs_started rfl))

/-- The test of `webrtc` in `start_webrtc`, and the rest after it. -/
theorem runsAs_testWebrtc (outcome : StartOutcome) :
    RunsAs net a d [.testWebrtc .application] a
      (openAndStart net outcome (if d.webrtc.isSome then
        cleanupWebrtcHandle { d with webrtcConnected := false } else d)).2 := by
  cases h : d.webrtc.isSome with
  | false =>
    refine .next (e := d) true ?_ rfl (runsAs_openAndStart outcome)
    simp [HandleInstr.exec, DoorBell.handles, h]
  | true =>
    refine .next (e := { d with webrtcConnected := false }) true ?_ rfl
      (runsAs_cleanup.append (runsAs_openAndStart outcome))
    simp [HandleInstr.exec, DoorBell.handles, h]

/-- `start_webrtc`. -/
theorem runsAs_start (outcome : StartOutcome) :
    RunsAs net a d [.startWebrtc .application] false (startWebrtc net outcome d).2 := by
  have hcall : (d.emit .startWebrtc).handles net false = d.handles net false := handles_emit rfl
  cases net with
  | false =>
    refine .next (e := d.emit .startWebrtc) true ?_ rfl .done
    rw [hcall]
    rfl
  | true =>
    let e : DoorBell := { d.emit .startWebrtc with janusRetryStop := false }
    have hstart : HandleInstr.exec (d.handles true a) true (.startWebrtc .application) =
        some ⟨(d.emit .startWebrtc).handles true false, [.clearRetryStop .application], []⟩ := by
      rw [hcall]
      rfl
    have hclear : HandleInstr.exec ((d.emit .startWebrtc).handles true false) true
        (.clearRetryStop .application) =
          some ⟨e.handles true false, [.testWebrtc .application], []⟩ := rfl
    exact .next true hstart rfl (.next true hclear rfl (runsAs_testWebrtc outcome))

end RunsAs

end Esp32Robot.Webrtc

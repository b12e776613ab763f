import Esp32Robot.Robot.DeadMan
import Esp32Robot.Robot.DriveCommands
import Esp32Robot.Robot.RampConvergence

/-!
# Driving from the command text to the wheels

The P4 with its two command entry points, an ordered bus that can lose frames, and the robot
node with its motor task and its watchdog. As long as no frame is lost, the request of the
robot node is what an operator asked for with some first commands; once every frame is
delivered it is what was asked for with all of them, or the watchdog has stopped the robot.
-/

namespace Esp32Robot.Robot

open Esp32Robot.Base Esp32Robot.Can Esp32Robot.Webrtc

/-- Both nodes, how many of the offered frames were delivered, and what was asked so far, oldest
first. -/
structure RemoteDrive where
  p4 : P4State
  delivered : Nat
  robot : RobotState
  asks : List DriveAsk
  deriving DecidableEq

/-- An event of the P4 other than a signaling message, a signaling message, the delivery of the next
frame or its loss, the delivery of an idle heartbeat, and the two tasks of the robot node. -/
inductive DriveEvent where
  | p4 (i : P4Input)
  | signaling (text : CString) (size : Nat)
  | deliver (now : Int)
  | lose
  | beat (now : Int)
  | updateLed (boottime : Int)
  | motorControl (now : Int)
  deriving DecidableEq

namespace RemoteDrive

/-- Both nodes after their start. -/
def initial : RemoteDrive := ⟨.initial, 0, Robot.initial, []⟩

/-- What an event asks of the wheels. A speed over MQTT, which `send_cmd` ignores, asks nothing. -/
def asked (s : RemoteDrive) : DriveEvent → Option DriveAsk
  | .p4 ⟨_, .command (some text) _⟩ => mqttAskOf text
  | .signaling text size =>
    if size = 0 || s.p4.doorBell.webrtc.isNone then none else askOf text
  | _ => none

/-- One step; nothing can be delivered or lost when every frame was. -/
def step (s : RemoteDrive) (e : DriveEvent) : Option RemoteDrive :=
  match e with
  | .p4 i => (s.p4.step i).map (fun p ↦ { s with p4 := p, asks := s.asks ++ (s.asked e).toList })
  | .signaling text size => some { s with
      p4 := { s.p4 with doorBell := doorBellOnCmd .signaling text size s.p4.doorBell }
      asks := s.asks ++ (s.asked e).toList }
  | .deliver now =>
    (s.p4.doorBell.commands.offered[s.delivered]?).bind (fun m ↦
      (receive now m s.robot).map (fun r ↦ { s with delivered := s.delivered + 1, robot := r }))
  | .lose =>
    (s.p4.doorBell.commands.offered[s.delivered]?).map (fun _ ↦
      { s with delivered := s.delivered + 1 })
  | .beat now => (receive now txMsgBeats s.robot).map (fun r ↦ { s with robot := r })
  | .updateLed boottime => some { s with robot := Robot.updateLed boottime s.robot }
  | .motorControl _ => some { s with robot := motorControlTask s.robot }

/-- Every frame was delivered. -/
def Drained (s : RemoteDrive) : Prop := s.delivered = s.p4.doorBell.commands.offered.length

/-- The watchdog does not find the bus silent. -/
def Heard (s : RemoteDrive) : DriveEvent → Prop
  | .updateLed boottime => boottime - s.robot.ledUpdatedTime ≤ noMessageStopDelay
  | _ => True

instance (s : RemoteDrive) (e : DriveEvent) : Decidable (s.Heard e) := by
  cases e <;> unfold Heard <;> infer_instance

/-- The request of the robot node. -/
def request (s : RemoteDrive) : MotionCmd × Int := (s.robot.requestedMotion, s.robot.requestedSpeed)

/-- The request that asks lead to. -/
def requestOf (asks : List DriveAsk) : MotionCmd × Int :=
  ((driveAimOf asks).motion, (driveAimOf asks).speed)

/-- What frames lead to. -/
def obeyed (fs : List DriveFrame) : MotionCmd × Int := fs.foldl (fun r f ↦ f.obey r) (.stop, 0)

/-! ### The P4 -/

/-- Session functions leave the speeds and the frames. -/
theorem commands_startWebrtc (outcome : StartOutcome) (s : P4State) :
    (s.startWebrtc outcome).doorBell.commands = s.doorBell.commands :=
  (sessionOnly_startWebrtc s.networkConnected outcome s.doorBell).commands

/-- Stopping leaves the speeds and the frames. -/
theorem commands_stopWebrtc (s : P4State) :
    s.stopWebrtc.doorBell.commands = s.doorBell.commands :=
  (sessionOnly_stopWebrtc s.doorBell).commands

/-- The control loop only publishes, stops and starts. -/
theorem commands_mqttControlLoop (now rssi : Int) (outcome : StartOutcome) (s : P4State) :
    (mqttControlLoop now rssi outcome s).doorBell.commands = s.doorBell.commands := by
  have hpub : (publishPeriodically now rssi (publishChange rssi s)).doorBell.commands =
      s.doorBell.commands := by
    rw [(statusOnly_publish now rssi s).doorBell]
  simp only [mqttControlLoop]
  split
  · simp only [recover]
    rw [commands_startWebrtc]
    exact (commands_stopWebrtc _).trans hpub
  · split
    · exact (commands_stopWebrtc _).trans hpub
    · exact hpub

/-- A change of the network starts or stops the bridge and stops the session. -/
theorem commands_networkSetConnected (rssi : Int) (connected : Bool) (s : P4State) :
    (networkSetConnected rssi connected s).doorBell.commands = s.doorBell.commands := by
  simp only [networkSetConnected, networkEventHandler]
  split
  · split
    · split <;> rfl
    · split <;> exact commands_stopWebrtc _
  · rfl

/-- The event handler of the session sends nothing to the bus. -/
theorem commands_webrtcEventHandler (net : Bool) (event : WebrtcEventType) (d : DoorBell) :
    (webrtcEventHandler net event d).commands = d.commands := by
  have hphase (phase : DoorBellPhase) : (doorBellChangeState phase d).commands = d.commands := by
    simp only [doorBellChangeState]
    split <;> rfl
  have hclose (b : DoorBell) :
      (scheduleJanusRetry net (cleanupWebrtcHandle b)).commands = b.commands :=
    ((sessionOnly_cleanupWebrtcHandle b).trans (sessionOnly_scheduleJanusRetry net _)).commands
  cases event with
  | connected =>
    simp only [webrtcEventHandler]
    split <;> exact hphase _
  | connectFailed => exact (hclose _).trans (hphase .none)
  | disconnected => exact (hclose _).trans (hphase .none)
  | paired => rfl
  | other => rfl

/-- The retry thread only opens sessions. -/
theorem commands_janusRetryIteration {net : Bool} {outcome : StartOutcome} {d e : DoorBell}
    (h : janusRetryIteration net outcome d = some e) : e.commands = d.commands := by
  have hstart := (sessionOnly_startWebrtc net outcome d).commands
  rcases hres : startWebrtc net outcome d with ⟨ok, started⟩
  unfold janusRetryIteration at h
  rw [hres] at hstart h
  dsimp only at hstart h
  split at h
  · cases h
  · repeat' split at h
    all_goals
      cases h
      first
      | rfl
      | exact hstart

/-- Only commands change the speeds and the frames of the P4. -/
theorem commands_step {s t : P4State} {i : P4Input} (h : s.step i = some t)
    (hno : ∀ text outcome, i.event ≠ .command (some text) outcome) :
    t.doorBell.commands = s.doorBell.commands := by
  obtain ⟨now, event⟩ := i
  cases event with
  | command cmd outcome =>
    cases cmd with
    | none =>
      cases h
      rfl
    | some text => exact absurd rfl (hno text outcome)
  | tick rssi outcome =>
    cases h
    exact commands_mqttControlLoop now rssi outcome s
  | network rssi connected =>
    cases h
    exact commands_networkSetConnected rssi connected s
  | mqtt connected =>
    simp only [P4State.step, Option.ite_none_right_eq_some, Option.some.injEq] at h
    obtain ⟨_, rfl⟩ := h
    rfl
  | webrtcEvent event =>
    simp only [P4State.step, Option.ite_none_right_eq_some, Option.some.injEq] at h
    obtain ⟨_, rfl⟩ := h
    exact commands_webrtcEventHandler _ event _
  | retryStart =>
    simp only [P4State.step, Option.map_eq_some_iff] at h
    obtain ⟨d, hd, rfl⟩ := h
    unfold janusRetryStart at hd
    split at hd
    · cases hd
    · cases hd
      rfl
  | retryIteration outcome =>
    simp only [P4State.step, Option.map_eq_some_iff] at h
    obtain ⟨d, hd, rfl⟩ := h
    exact commands_janusRetryIteration hd

/-- The P4 answers what an MQTT command asks. -/
theorem command_answers (now : Int) (text : CString) (outcome : StartOutcome) (s : P4State) :
    Answers s.doorBell.commands
      (mqttControlCmdHandler now (some text) outcome s).doorBell.commands (mqttAskOf text) := by
  have hnone : ∀ t ∈ [openWebrtcCmd, closeWebrtcCmd, heartbeatCmd], mqttAskOf t = none := by decide
  have hkept {c c' : CommandState} (hc : c' = c) : Answers c c' none := by
    subst hc
    exact ⟨rfl, .inl rfl⟩
  have hrequest : (requestOpen now outcome s).doorBell.commands = s.doorBell.commands := by
    simp only [requestOpen]
    split
    · exact commands_startWebrtc _ _
    · rfl
  rcases mqttControlCmdHandler_cases now text outcome s with ⟨hcmd, h⟩ | ⟨hcmd, h⟩ | ⟨_, h⟩
  · rw [hnone text (by rcases hcmd with rfl | rfl <;> simp), h]
    exact hkept hrequest
  · rw [hnone text (by simp [hcmd]), h]
    exact hkept (commands_stopWebrtc _)
  · rw [h]
    exact sendCmd_answers text s.doorBell

/-! ### The invariant -/

/-- The frames `fs` were offered. They lead where the asks lead, also those before any one of them,
and the robot node is where the delivered ones lead, or was stopped since. -/
structure Follows (fs : List DriveFrame) (s : RemoteDrive) : Prop where
  offered : s.p4.doorBell.commands.offered = fs.map DriveFrame.message
  delivered : s.delivered ≤ fs.length
  velocity : ∃ v : Fin 256, s.p4.doorBell.commands.currentVelocity = UInt32.ofNat v ∧
    (driveAimOf s.asks).velocity = v
  leads : obeyed fs = requestOf s.asks
  before : ∀ n ≤ fs.length, ∃ m ≤ s.asks.length, obeyed (fs.take n) = requestOf (s.asks.take m)
  robot : s.request = obeyed (fs.take s.delivered) ∨ s.request = (.stop, 0)
  motor : MotorInv s.robot

/-- One more frame. -/
theorem obeyed_concat (fs : List DriveFrame) (f : DriveFrame) :
    obeyed (fs ++ [f]) = f.obey (obeyed fs) := by
  rw [obeyed, List.foldl_append]
  rfl

/-- One more ask. -/
theorem driveAimOf_concat (asks : List DriveAsk) (a : DriveAsk) :
    driveAimOf (asks ++ [a]) = (driveAimOf asks).obey a := by
  rw [driveAimOf, List.foldl_append]
  rfl

/-- A frame takes the request where it leads from there, or leaves it a stop. -/
theorem obey_or_stop {r q : MotionCmd × Int} (h : r = q ∨ r = (.stop, 0)) (f : DriveFrame) :
    f.obey r = f.obey q ∨ f.obey r = (.stop, 0) := by
  rcases h with rfl | rfl
  · exact .inl rfl
  · cases f with
    | move m v => exact .inl rfl
    | stop => exact .inl rfl
    | speed v => exact .inr rfl
    | servo type value h => exact .inr rfl

/-- What the processors answer leads where the ask leads. -/
theorem follows_of_answers {c c' : CommandState} {ask : Option DriveAsk} {fs : List DriveFrame}
    {asks : List DriveAsk} (h : Answers c c' ask) (hoffered : c.offered = fs.map DriveFrame.message)
    (hvelocity : ∃ v : Fin 256, c.currentVelocity = UInt32.ofNat v ∧
      (driveAimOf asks).velocity = v)
    (hleads : obeyed fs = requestOf asks) :
    ∃ gs, c'.offered = (fs ++ gs).map DriveFrame.message ∧ gs.length ≤ 1 ∧
      (∃ v : Fin 256, c'.currentVelocity = UInt32.ofNat v ∧
        (driveAimOf (asks ++ ask.toList)).velocity = v) ∧
      obeyed (fs ++ gs) = requestOf (asks ++ ask.toList) := by
  obtain ⟨v, hv, haim⟩ := hvelocity
  have hfields : (obeyed fs).1 = (driveAimOf asks).motion ∧
      (obeyed fs).2 = (driveAimOf asks).speed := by
    rw [hleads]
    exact ⟨rfl, rfl⟩
  have hone (f : DriveFrame) (frames : List TwaiMessage)
      (hframes : frames = c.offered ++ [f.message]) :
      frames = (fs ++ [f]).map DriveFrame.message := by
    rw [hframes, hoffered, List.map_append]
    rfl
  match ask, h with
  | some (.move m), ⟨hkept, hmore⟩ =>
    refine ⟨[.move m v], hone _ _ (by rw [hmore, hv]; rfl), by simp, ⟨v, hkept.trans hv, ?_⟩, ?_⟩
    · rw [Option.toList_some, driveAimOf_concat]
      exact haim
    · rw [Option.toList_some, requestOf, driveAimOf_concat, obeyed_concat]
      exact Prod.ext rfl haim.symm
  | some .stop, ⟨hkept, hmore⟩ =>
    refine ⟨[.stop], hone _ _ hmore, by simp, ⟨v, hkept.trans hv, ?_⟩, ?_⟩
    · rw [Option.toList_some, driveAimOf_concat]
      exact haim
    · rw [Option.toList_some, requestOf, driveAimOf_concat, obeyed_concat]
      rfl
  | some (.speed n), ⟨hset, hmore, hlow, hhigh⟩ =>
    have hn : ((n.toNat : Nat) : Int) = n := Int.toNat_of_nonneg hlow
    let w : Fin 256 := ⟨n.toNat, by omega⟩
    refine ⟨[.speed w], hone _ _ hmore, by simp, ⟨w, hset, ?_⟩, ?_⟩
    · rw [Option.toList_some, driveAimOf_concat]
      exact hn.symm
    · rw [Option.toList_some, requestOf, driveAimOf_concat, obeyed_concat]
      refine Prod.ext hfields.1 ?_
      simp only [DriveFrame.obey, DriveAim.obey, hfields.1, hfields.2, w, hn]
  | none, ⟨hkept, hmore⟩ =>
    rw [Option.toList_none, List.append_nil]
    rcases hmore with hmore | ⟨type, htype, value, hmore⟩
    · refine ⟨[], ?_, by simp, ⟨v, hkept.trans hv, haim⟩, ?_⟩
      · rw [List.append_nil, hmore, hoffered]
      · rw [List.append_nil, hleads]
    · refine ⟨[.servo type value htype], hone _ _ hmore, by simp, ⟨v, hkept.trans hv, haim⟩, ?_⟩
      rw [obeyed_concat]
      exact hleads

namespace Follows

variable {fs : List DriveFrame} {s : RemoteDrive}

/-- Nothing was asked, and the robot stands. -/
theorem initial : Follows [] RemoteDrive.initial where
  offered := rfl
  delivered := Nat.le_refl 0
  velocity := ⟨125, rfl, rfl⟩
  leads := rfl
  before := fun n _ ↦ ⟨0, Nat.le_refl 0, by rw [List.take_nil]; rfl⟩
  robot := .inl rfl
  motor := motorInv_initial

/-- New frames do not change where the delivered ones lead. -/
theorem take_append (h : Follows fs s) (gs : List DriveFrame) :
    obeyed ((fs ++ gs).take s.delivered) = obeyed (fs.take s.delivered) := by
  rw [List.take_append_of_le_length h.delivered]

/-- The P4 answers. -/
theorem answer {p : P4State} {ask : Option DriveAsk} (h : Follows fs s)
    (hp : Answers s.p4.doorBell.commands p.doorBell.commands ask) :
    ∃ gs, Follows (fs ++ gs) { s with p4 := p, asks := s.asks ++ ask.toList } := by
  obtain ⟨gs, hoffered, hgs, hvelocity, hleads⟩ :=
    follows_of_answers hp h.offered h.velocity h.leads
  refine ⟨gs, hoffered, ?_, hvelocity, hleads, ?_, ?_, h.motor⟩
  · exact Nat.le_trans h.delivered (by simp)
  · intro n hn
    rcases Nat.lt_or_ge fs.length n with hlt | hle
    · -- All frames: the last one is the answer.
      refine ⟨_, Nat.le_refl _, ?_⟩
      rw [List.take_length, List.take_of_length_le, hleads]
      rw [List.length_append]
      omega
    · obtain ⟨m, hm, heq⟩ := h.before n hle
      refine ⟨m, Nat.le_trans hm (by simp), ?_⟩
      rw [List.take_append_of_le_length hle, List.take_append_of_le_length hm, heq]
  · exact (h.take_append gs) ▸ h.robot

/-- The P4 does something else. -/
theorem keep {p : P4State} (h : Follows fs s)
    (hp : p.doorBell.commands = s.p4.doorBell.commands) :
    Follows fs { s with p4 := p } where
  offered := (congrArg CommandState.offered hp).trans h.offered
  delivered := h.delivered
  velocity := by
    rw [hp]
    exact h.velocity
  leads := h.leads
  before := h.before
  robot := h.robot
  motor := h.motor

/-- The robot node does something that leaves its request, or stops it. -/
theorem turn {r : RobotState} (h : Follows fs s) (hr : MotorInv r)
    (hrequest : (r.requestedMotion, r.requestedSpeed) = s.request ∨
      (r.requestedMotion, r.requestedSpeed) = (.stop, 0)) :
    Follows fs { s with robot := r } := by
  refine ⟨h.offered, h.delivered, h.velocity, h.leads, h.before, ?_, hr⟩
  rcases hrequest with hrequest | hrequest
  · exact h.robot.imp hrequest.trans hrequest.trans
  · exact .inr hrequest

/-- The next frame is delivered. -/
theorem deliver {t : RemoteDrive} {now : Int} (h : Follows fs s)
    (ht : s.step (.deliver now) = some t) : Follows fs t ∧
      ∃ f, fs.take t.delivered = fs.take s.delivered ++ [f] ∧ t.request = f.obey s.request := by
  simp only [RemoteDrive.step, Option.bind_eq_some_iff, Option.map_eq_some_iff, h.offered,
    List.getElem?_map] at ht
  obtain ⟨m, ⟨f, hf, rfl⟩, r, hr, rfl⟩ := ht
  obtain ⟨r', hr', hobeys, _⟩ := receive_message now f s.robot
  obtain rfl := Option.some.inj (hr.symm.trans hr')
  obtain ⟨hlt, hget⟩ := List.getElem?_eq_some_iff.mp hf
  have htake : fs.take (s.delivered + 1) = fs.take s.delivered ++ [f] := by
    rw [List.take_add_one, hf]
    rfl
  have hmotor : MotorInv r := by
    unfold receive at hr
    split at hr
    · cases hr
      exact h.motor
    · exact (motorInv_handleControlMessage h.motor hr).1
  refine ⟨⟨h.offered, hlt, h.velocity, h.leads, h.before, ?_, hmotor⟩, f, htake, hobeys⟩
  show (r.requestedMotion, r.requestedSpeed) = obeyed (fs.take (s.delivered + 1)) ∨
    (r.requestedMotion, r.requestedSpeed) = (.stop, 0)
  rw [htake, obeyed_concat, hobeys]
  exact obey_or_stop h.robot f

/-- Every step but a loss keeps the invariant, and one that hears the bus does not stop the robot by
itself. -/
theorem step {t : RemoteDrive} {e : DriveEvent} (h : Follows fs s) (ht : s.step e = some t)
    (hkept : e ≠ .lose) : ∃ gs, Follows gs t ∧ (s.Heard e →
      s.request = obeyed (fs.take s.delivered) → t.request = obeyed (gs.take t.delivered)) := by
  cases e with
  | p4 i =>
    simp only [RemoteDrive.step, Option.map_eq_some_iff] at ht
    obtain ⟨p, hp, rfl⟩ := ht
    by_cases hcommand : ∃ text outcome, i.event = .command (some text) outcome
    · obtain ⟨now, event⟩ := i
      obtain ⟨text, outcome, rfl⟩ := hcommand
      cases hp
      obtain ⟨gs, hgs⟩ := h.answer (command_answers now text outcome s.p4)
      exact ⟨_, hgs, fun _ hs ↦ hs.trans (h.take_append gs).symm⟩
    · have hno : ∀ text outcome, i.event ≠ .command (some text) outcome :=
        fun text outcome he ↦ hcommand ⟨text, outcome, he⟩
      have hnone : s.asked (.p4 i) = none := by
        obtain ⟨now, event⟩ := i
        cases event with
        | command cmd outcome =>
          cases cmd with
          | none => rfl
          | some text => exact absurd rfl (hno text outcome)
        | _ => rfl
      rw [hnone, Option.toList_none, List.append_nil]
      exact ⟨fs, h.keep (commands_step hp hno), fun _ hs ↦ hs⟩
  | signaling text size =>
    cases ht
    obtain ⟨gs, hgs⟩ := h.answer
      (p := { s.p4 with doorBell := doorBellOnCmd .signaling text size s.p4.doorBell })
      (doorBellOnCmd_answers text size s.p4.doorBell)
    exact ⟨_, hgs, fun _ hs ↦ hs.trans (h.take_append gs).symm⟩
  | deliver now =>
    obtain ⟨hfollows, f, htake, hobeys⟩ := h.deliver ht
    refine ⟨fs, hfollows, fun _ hs ↦ ?_⟩
    rw [hobeys, hs, htake, obeyed_concat]
  | lose => exact absurd rfl hkept
  | beat now =>
    simp only [RemoteDrive.step, receive_beat, Option.map_some, Option.some.injEq] at ht
    subst ht
    exact ⟨fs, h.turn (motorInv_noteMessage h.motor now) (.inl rfl), fun _ hs ↦ hs⟩
  | updateLed boottime =>
    cases ht
    refine ⟨fs, h.turn (motorInv_updateLed h.motor boottime).1 ?_, fun hheard hs ↦ ?_⟩
    · unfold updateLed
      split
      · exact .inr rfl
      · exact .inl rfl
    · rw [updateLed_of_recent (Int.not_lt.mpr hheard)]
      exact hs
  | motorControl now =>
    cases ht
    obtain ⟨hm, hs, _⟩ := motorControlTask_request s.robot
    have hsame : ((motorControlTask s.robot).requestedMotion,
        (motorControlTask s.robot).requestedSpeed) = s.request := by
      rw [hm, hs]
      rfl
    exact ⟨fs, h.turn (motorInv_motorControlTask h.motor).1 (.inl hsame),
      fun _ hrequest ↦ hsame.trans hrequest⟩

end Follows

/-! ### The wheels -/

variable {es : List DriveEvent} {s : RemoteDrive}

/-- The invariant holds after every run without losses, and when the bus was always heard, the robot
node is where the delivered frames lead. -/
theorem follows_run (h : run step initial es = some s) (hkept : DriveEvent.lose ∉ es) :
    ∃ fs, Follows fs s ∧
      (StepsMeet Heard step initial es → s.request = obeyed (fs.take s.delivered)) := by
  induction es using concat_induction generalizing s with
  | nil =>
    cases h
    exact ⟨[], .initial, fun _ ↦ rfl⟩
  | concat es e ih =>
    obtain ⟨u, hu, he⟩ := run_concat_some.mp h
    obtain ⟨fs, hfs, hrequest⟩ := ih hu (fun hmem ↦ hkept (by simp [hmem]))
    obtain ⟨gs, hgs, hstep⟩ := hfs.step he (fun heq ↦ hkept (by simp [heq]))
    exact ⟨gs, hgs, fun hheard ↦ hstep (hheard.last hu) (hrequest hheard.left)⟩

/-- Once every frame is delivered, the delivered ones are all. -/
theorem Follows.drained {fs : List DriveFrame} (h : Follows fs s) (hs : s.Drained) :
    obeyed (fs.take s.delivered) = requestOf s.asks := by
  have hlen : s.delivered = fs.length := by
    rw [hs, h.offered, List.length_map]
  rw [hlen, List.take_length, h.leads]

/-- Periods keep the motor invariant. -/
theorem motorInv_iterate {r : RobotState} (h : MotorInv r) (n : Nat) :
    MotorInv (motorControlTask^[n] r) := by
  induction n generalizing r with
  | zero => exact h
  | succ n ih => exact ih (motorInv_motorControlTask h).1

/-- After every run without losses, the robot node has the request that some first asks lead to.
Once every frame is delivered, it has that of all of them or was stopped by its watchdog; if
the watchdog never found the bus silent it has that of all of them, and after 54 more motor
periods the wheels turn accordingly. -/
theorem drives_as_asked (es : List DriveEvent) (s : RemoteDrive)
    (h : run step initial es = some s) (hkept : DriveEvent.lose ∉ es) :
    (∃ m ≤ s.asks.length, s.request = requestOf (s.asks.take m)) ∧
      (s.Drained → s.request = requestOf s.asks ∨ s.request = (.stop, 0)) ∧
      (s.Drained → StepsMeet Heard step initial es → s.request = requestOf s.asks ∧
        ∀ n ≥ 54, (motionAt s.robot n, speedAt s.robot n) = requestOf s.asks ∧
          ∀ channel, lastDuty (motorControlTask^[n] s.robot).hw channel =
            some (requestOf s.asks).2) := by
  obtain ⟨fs, hfs, hheard⟩ := follows_run h hkept
  refine ⟨?_, ?_, ?_⟩
  · rcases hfs.robot with hrequest | hstopped
    · obtain ⟨m, hm, hasked⟩ := hfs.before s.delivered hfs.delivered
      exact ⟨m, hm, hrequest.trans hasked⟩
    · exact ⟨0, Nat.zero_le _, hstopped⟩
  · intro hdrained
    rw [← hfs.drained hdrained]
    exact hfs.robot
  · intro hdrained hmeet
    have hrequest : s.request = requestOf s.asks := (hheard hmeet).trans (hfs.drained hdrained)
    refine ⟨hrequest, fun n hn ↦ ?_⟩
    obtain ⟨k, hk, _, hramps⟩ := rampsTo_request hfs.motor.speeds
    obtain ⟨hmotion, hspeed⟩ := hramps.arrives n hn
    rw [← hrequest]
    refine ⟨Prod.ext hmotion hspeed, fun channel ↦ ?_⟩
    rw [(motorInv_iterate hfs.motor n).duties channel]
    exact congrArg some hspeed

private def driveRun : List DriveEvent :=
  [.p4 ⟨10, .network (-60) true⟩, .p4 ⟨20, .command (some openWebrtcCmd) .starts⟩,
    .signaling (.lit "ROBOT_SPEED:200") 15, .p4 ⟨30, .command (some (.lit "Up")) .starts⟩,
    .deliver 30000, .deliver 31000, .motorControl 40000, .signaling (.lit "ROBOT_SPEED:90") 14,
    .updateLed 100000, .signaling (.lit "ROBOT_LEFT") 10, .signaling (.lit "SERVO_UP") 8,
    .deliver 130000, .deliver 131000, .motorControl 140000, .deliver 150000]

/-- An operator sets a speed, drives off with another client, slows down and turns. -/
theorem drives_as_asked_turns :
    ∃ s, run step initial driveRun = some s ∧
      s.asks = [.speed 200, .move .up, .speed 90, .move .left] ∧ s.request = (.left, 90) ∧
      s.robot.currentMotion = .forward ∧
      (motionAt s.robot 54, speedAt s.robot 54) = (.left, 90) := by
  obtain ⟨s, hs⟩ := Option.isSome_iff_exists.mp
    (show (run step initial driveRun).isSome = true by decide +kernel)
  have hasks : (run step initial driveRun).map (fun s ↦ (s.asks, s.robot.currentMotion)) =
      some ([.speed 200, .move .up, .speed 90, .move .left], .forward) := by decide +kernel
  have hdrained : (run step initial driveRun).map
      (fun s ↦ (s.delivered, s.p4.doorBell.commands.offered.length)) = some (5, 5) := by
    decide +kernel
  have hheard : StepsMeet Heard step initial driveRun := by decide +kernel
  rw [hs, Option.map_some, Option.some.injEq, Prod.mk.injEq] at hasks hdrained
  obtain ⟨_, _, hall⟩ := drives_as_asked driveRun s hs (by decide)
  obtain ⟨hrequest, hwheels⟩ := hall (hdrained.1.trans hdrained.2.symm) hheard
  rw [hasks.1] at hrequest hwheels
  exact ⟨s, hs, hasks.1, hrequest, hasks.2, (hwheels 54 (Nat.le_refl 54)).1⟩

end RemoteDrive
end Esp32Robot.Robot

import Esp32Robot.Robot.DeadMan

/-!
# The watchdog against a fresh command

`HandleControlMessage` in the CAN task and `UpdateLed` in the main task, step by
step. The motor lock makes the change of the request atomic, but the watchdog
timestamp is written outside it by both tasks, and the watchdog's comparison and
its stop are two steps. A command that arrives between them is cancelled at once.
-/

namespace Esp32Robot.Robot

open Esp32Robot.Base Esp32Robot.Can

/-- Where the CAN task is: between messages, or behind the locked section of a message. -/
inductive CanPhase where
  | idle
  | handled (motion : Bool)
  deriving DecidableEq, Repr

/-- Where the main task is in its loop, with the time it sampled. -/
inductive MainPhase where
  | idle
  | sampled (boottime : Int)
  | exceeded (boottime : Int)
  | stopping (boottime : Int)
  deriving DecidableEq, Repr

/-- The time that the main task sampled in this turn. -/
def MainPhase.boottime : MainPhase → Option Int
  | .idle => none
  | .sampled t | .exceeded t | .stopping t => some t

/-- The same, once the watchdog has decided to stop. -/
def MainPhase.decided : MainPhase → Option Int
  | .idle | .sampled _ => none
  | .exceeded t | .stopping t => some t

/-- The node with its two tasks. -/
structure RacingNode where
  robot : RobotState
  can : CanPhase
  main : MainPhase
  deriving DecidableEq, Repr

/-- The steps of both tasks, and a period of the motor task. Each carries the clock. -/
inductive RaceEvent where
  | lockedSection (now len : Int) (value : List UInt8)
  | noteMessage (now : Int)
  | sample (now : Int)
  | compare (now : Int)
  | noteStop (now : Int)
  | lockedStop (now : Int)
  | motorControl (now : Int)
  deriving DecidableEq, Repr

/-- The clock at a step. -/
def RaceEvent.time : RaceEvent → Int
  | .lockedSection now _ _ => now
  | .noteMessage now => now
  | .sample now => now
  | .compare now => now
  | .noteStop now => now
  | .lockedStop now => now
  | .motorControl now => now

/-- The types of the motion commands. -/
def motionCommandTypes : List UInt8 := [2, 4, 6, 7, 8, 9]

/-- The message is a motion command. -/
def isMotionCommand (value : List UInt8) : Bool := value.getD 0 0 ∈ motionCommandTypes

/-- What `HandleControlMessage` does under the motor lock, `control_callback.c:282–331`; none is
the reboot. -/
def handleLocked (len : Int) (value : List UInt8) (s : RobotState) : Option RobotState :=
  let speed := parseSpeedOrDefault len value s
  match (value.getD 0 0).toNat with
  | 66 => none
  | 8 => some (setMotionTargetLocked .forward speed s)
  | 2 => some (setMotionTargetLocked .backward speed s)
  | 4 => some (setMotionTargetLocked .left speed s)
  | 5 => some (setMotionTargetLocked .stop 0 s)
  | 6 => some (setMotionTargetLocked .right speed s)
  | 7 => some (setMotionTargetLocked .rotateLeft speed s)
  | 9 => some (setMotionTargetLocked .rotateRight speed s)
  | 10 => some (updateSpeed speed s)
  | _ => some s

namespace RacingNode

/-- Both tasks before their first step. -/
def initial : RacingNode := ⟨Robot.initial, .idle, .idle⟩

/-- One step of a task; a message of no length takes none. -/
def step (s : RacingNode) : RaceEvent → Option RacingNode
  | .lockedSection _ len value =>
    if s.can = .idle ∧ 0 < len then
      (handleLocked len value s.robot).map (fun r ↦
        { s with robot := r, can := .handled (isMotionCommand value) })
    else none
  | .noteMessage now =>
    match s.can with
    | .handled _ => some { s with robot := Robot.noteMessage now s.robot, can := .idle }
    | .idle => none
  | .sample now => if s.main = .idle then some { s with main := .sampled now } else none
  | .compare _ =>
    match s.main with
    | .sampled t =>
      if t - s.robot.ledUpdatedTime > noMessageStopDelay then some { s with main := .exceeded t }
      else some { s with main := .idle }
    | _ => none
  | .noteStop _ =>
    match s.main with
    | .exceeded t =>
      some { s with
        robot := { s.robot with
          ledUpdatedTime := t, hw := s.robot.hw ++ [.gpioSetLevel ledLightOff] }
        main := .stopping t }
    | _ => none
  | .lockedStop _ =>
    match s.main with
    | .stopping _ =>
      some { s with robot := setMotionTargetLocked .stop 0 s.robot, main := .idle }
    | _ => none
  | .motorControl _ => some { s with robot := motorControlTask s.robot }

end RacingNode

/-! ### The tasks alone -/

/-- A message that nothing interrupts is handled as a whole. -/
theorem run_message (now len : Int) (value : List UInt8) (s : RacingNode) (hcan : s.can = .idle)
    (hlen : 0 < len) :
    run RacingNode.step s [.lockedSection now len value, .noteMessage now] =
      (handleControlMessage now len (some value) s.robot).map (fun r ↦ { s with robot := r }) := by
  have hwhole : handleControlMessage now len (some value) s.robot =
      (handleLocked len value s.robot).map (noteMessage now) := by
    rw [handleControlMessage, if_neg (Int.not_le.mpr hlen)]
    rfl
  rw [hwhole, run_cons, RacingNode.step, if_pos ⟨hcan, hlen⟩]
  cases handleLocked len value s.robot with
  | none => rfl
  | some r => simp [RacingNode.step, hcan]

/-- A watchdog turn that nothing interrupts is one call of `UpdateLed`. -/
theorem run_updateLed (now : Int) (s : RacingNode) (hmain : s.main = .idle) :
    run RacingNode.step s ([.sample now, .compare now] ++
        if now - s.robot.ledUpdatedTime > noMessageStopDelay then [.noteStop now, .lockedStop now]
        else []) =
      some { s with robot := updateLed now s.robot } := by
  rw [updateLed]
  split
  · next h => simp [run_cons, RacingNode.step, hmain, h]
  · next h => simp [run_cons, RacingNode.step, hmain, h]

/-! ### Commands that keep their time -/

/-- The motion commands among the steps took effect no later than the delay before `t`. -/
def NoneWithinDelay (es : List RaceEvent) (t : Int) : Prop :=
  ∀ m len value, .lockedSection m len value ∈ es → isMotionCommand value →
    m + noMessageStopDelay ≤ t

/-- No watchdog stop of the run replaces another request before the delay after a motion
command. -/
def KeepsFreshCommands (es : List RaceEvent) : Prop :=
  ∀ pre τ post s t, es = pre ++ .lockedStop τ :: post →
    run RacingNode.step .initial pre = some s → s.step (.lockedStop τ) = some t →
      s.robot.requestedMotion ≠ .stop → NoneWithinDelay pre τ

/-- The comparison that comes next finds the delay exceeded. -/
def RacingNode.exceeds (s : RacingNode) : Bool :=
  match s.main with
  | .sampled t => t - s.robot.ledUpdatedTime > noMessageStopDelay
  | _ => false

/-- A motion command takes effect while the watchdog has not decided to stop, and the watchdog
does not decide to stop while a motion command waits for its timestamp. -/
def Undisturbed (s : RacingNode) : RaceEvent → Prop
  | .lockedSection _ _ value => isMotionCommand value → s.main.decided = none
  | .compare _ => s.can = .handled true → s.exceeds = false
  | _ => True

instance (s : RacingNode) (e : RaceEvent) : Decidable (Undisturbed s e) :=
  match e with
  | .lockedSection _ _ value =>
    inferInstanceAs (Decidable (isMotionCommand value → s.main.decided = none))
  | .compare _ => inferInstanceAs (Decidable (s.can = .handled true → s.exceeds = false))
  | .noteMessage _ | .sample _ | .noteStop _ | .lockedStop _ | .motorControl _ => isTrue trivial

/-- The watchdog timestamp is not before the motion commands, unless one waits for it; a
watchdog that decided to stop did so on a time late enough, which it sampled before. -/
structure Fresh (es : List RaceEvent) (s : RacingNode) : Prop where
  noted : s.can = .handled true ∨
    ∀ m len value, .lockedSection m len value ∈ es → isMotionCommand value →
      m ≤ s.robot.ledUpdatedTime
  decided : ∀ t, s.main.decided = some t → NoneWithinDelay es t
  sampled : ∀ t, s.main.boottime = some t → .sample t ∈ es

/-- Nothing happened yet. -/
theorem fresh_initial : Fresh [] .initial where
  noted := .inr fun _ _ _ h ↦ absurd h List.not_mem_nil
  decided _ h := absurd h (by simp [RacingNode.initial, MainPhase.decided])
  sampled _ h := absurd h (by simp [RacingNode.initial, MainPhase.boottime])

/-- A late enough stop stays late enough when no motion command was added. -/
theorem NoneWithinDelay.concat {es : List RaceEvent} {e : RaceEvent} {t : Int}
    (h : NoneWithinDelay es t)
    (he : ∀ m len value, e = .lockedSection m len value → ¬ isMotionCommand value) :
    NoneWithinDelay (es ++ [e]) t := by
  intro m len value hmem hmotion
  rcases List.mem_append.mp hmem with hmem | hmem
  · exact h m len value hmem hmotion
  · exact absurd hmotion (he m len value (List.mem_singleton.mp hmem).symm)

/-- The locked section leaves the watchdog timestamp. -/
theorem ledUpdatedTime_handleLocked {len : Int} {value : List UInt8} {s r : RobotState}
    (h : handleLocked len value s = some r) : r.ledUpdatedTime = s.ledUpdatedTime := by
  simp only [handleLocked] at h
  split at h <;> cases h <;> rfl

/-- A step that is no motion command and leaves timestamp and decision keeps them fresh. -/
theorem Fresh.keep {es : List RaceEvent} {s t : RacingNode} {e : RaceEvent} (h : Fresh es s)
    (he : ∀ m len value, e = .lockedSection m len value → ¬ isMotionCommand value)
    (hled : t.robot.ledUpdatedTime = s.robot.ledUpdatedTime)
    (hcan : s.can = .handled true → t.can = .handled true)
    (hdecided : ∀ x, t.main.decided = some x → s.main.decided = some x)
    (hsampled : ∀ x, t.main.boottime = some x → s.main.boottime = some x ∨ e = .sample x) :
    Fresh (es ++ [e]) t where
  noted := by
    apply h.noted.imp hcan
    intro hnoted m len value hmem hmotion
    rw [hled]
    rcases List.mem_append.mp hmem with hmem | hmem
    · exact hnoted m len value hmem hmotion
    · exact absurd hmotion (he m len value (List.mem_singleton.mp hmem).symm)
  decided x hx := (h.decided x (hdecided x hx)).concat he
  sampled x hx := by
    rcases hsampled x hx with hx | rfl
    · exact List.mem_append_left _ (h.sampled x hx)
    · exact List.mem_append_right _ List.mem_cons_self

/-- A handled message keeps the timestamps fresh, a motion command if the watchdog has not
decided to stop. -/
theorem fresh_lockedSection {es : List RaceEvent} {s : RacingNode} {now len : Int}
    {value : List UInt8} {r : RobotState} (h : Fresh es s)
    (he : isMotionCommand value → s.main.decided = none) (hcan : s.can = .idle)
    (hr : handleLocked len value s.robot = some r) :
    Fresh (es ++ [.lockedSection now len value])
      { s with robot := r, can := .handled (isMotionCommand value) } := by
  cases hmotion : isMotionCommand value with
  | false =>
    refine h.keep ?_ (ledUpdatedTime_handleLocked hr) ?_ (fun _ hx ↦ hx) (fun _ hx ↦ .inl hx)
    · rintro m len' value' he'
      cases he'
      simp [hmotion]
    · intro hhandled
      rw [hcan] at hhandled
      exact absurd hhandled (by decide)
  | true =>
    refine ⟨.inl rfl, ?_, fun x hx ↦ List.mem_append_left _ (h.sampled x hx)⟩
    intro x hx
    rw [he hmotion] at hx
    exact absurd hx (by simp)

/-- A comparison keeps the timestamps fresh, if no motion command waits for its timestamp when
the watchdog decides to stop. -/
theorem fresh_exceeded {es : List RaceEvent} {s : RacingNode} {now t : Int} (h : Fresh es s)
    (hmain : s.main = .sampled t) (hcan : s.can ≠ .handled true)
    (hexceeded : t - s.robot.ledUpdatedTime > noMessageStopDelay) :
    Fresh (es ++ [.compare now]) { s with main := .exceeded t } := by
  have hnoted := h.noted.resolve_left hcan
  refine ⟨.inr ?_, ?_, ?_⟩
  · intro m len value hmem hmotion
    rcases List.mem_append.mp hmem with hmem | hmem
    · exact hnoted m len value hmem hmotion
    · exact absurd (List.mem_singleton.mp hmem) (by simp)
  · rintro x hx
    cases hx
    refine NoneWithinDelay.concat ?_ (by simp)
    intro m len value hmem hmotion
    have hm : m ≤ s.robot.ledUpdatedTime := hnoted m len value hmem hmotion
    omega
  · rintro x hx
    cases hx
    exact List.mem_append_left _ (h.sampled t (by rw [hmain]; rfl))

/-- Every undisturbed step keeps the timestamps fresh. -/
theorem fresh_step {es : List RaceEvent} {s t : RacingNode} {e : RaceEvent}
    (htimed : Timed RaceEvent.time (es ++ [e])) (h : Fresh es s) (he : Undisturbed s e)
    (ht : s.step e = some t) : Fresh (es ++ [e]) t := by
  cases e with
  | lockedSection now len value =>
    simp only [RacingNode.step] at ht
    split at ht
    · next hready =>
      obtain ⟨r, hr, rfl⟩ := Option.map_eq_some_iff.mp ht
      exact fresh_lockedSection h he hready.1 hr
    · exact absurd ht (by simp)
  | noteMessage now =>
    simp only [RacingNode.step] at ht
    split at ht
    · cases ht
      refine ⟨.inr ?_, fun x hx ↦ (h.decided x hx).concat (by simp),
        fun x hx ↦ List.mem_append_left _ (h.sampled x hx)⟩
      intro m len value hmem _
      rcases List.mem_append.mp hmem with hmem | hmem
      · exact (timed_concat.mp htimed).2 _ hmem
      · exact absurd (List.mem_singleton.mp hmem) (by simp)
    · exact absurd ht (by simp)
  | sample now =>
    simp only [RacingNode.step] at ht
    split at ht
    · cases ht
      refine h.keep (by simp) rfl id ?_ ?_
      · simp [MainPhase.decided]
      · simp [MainPhase.boottime, eq_comm]
    · exact absurd ht (by simp)
  | compare now =>
    simp only [RacingNode.step] at ht
    split at ht
    · next x hmain =>
      split at ht
      · next hexceeded =>
        cases ht
        have hexceeds : s.exceeds = true := by
          rw [RacingNode.exceeds, hmain]
          exact decide_eq_true hexceeded
        refine fresh_exceeded h hmain (fun hcan ↦ ?_) hexceeded
        exact Bool.false_ne_true ((he hcan).symm.trans hexceeds)
      · cases ht
        exact h.keep (by simp) rfl id (by simp [MainPhase.decided]) (by simp [MainPhase.boottime])
    · exact absurd ht (by simp)
  | noteStop now =>
    simp only [RacingNode.step] at ht
    split at ht
    · next x hmain =>
      cases ht
      have hdecided : NoneWithinDelay es x := h.decided x (by rw [hmain]; rfl)
      refine ⟨.inr ?_, ?_, ?_⟩
      · intro m len value hmem hmotion
        rcases List.mem_append.mp hmem with hmem | hmem
        · have hm := hdecided m len value hmem hmotion
          simp only [noMessageStopDelay] at hm
          show m ≤ x
          omega
        · exact absurd (List.mem_singleton.mp hmem) (by simp)
      · rintro y hy
        cases hy
        exact hdecided.concat (by simp)
      · rintro y hy
        cases hy
        exact List.mem_append_left _ (h.sampled x (by rw [hmain]; rfl))
    · exact absurd ht (by simp)
  | lockedStop now =>
    simp only [RacingNode.step] at ht
    split at ht
    · cases ht
      exact h.keep (by simp) rfl id (by simp [MainPhase.decided]) (by simp [MainPhase.boottime])
    · exact absurd ht (by simp)
  | motorControl now =>
    cases ht
    exact h.keep (by simp) (motorControlTask_request s.robot).2.2 id (fun _ hx ↦ hx)
      (fun _ hx ↦ .inl hx)

/-- After every timed run of undisturbed steps the timestamps are fresh. -/
theorem fresh_run {es : List RaceEvent} {s : RacingNode} (htimed : Timed RaceEvent.time es)
    (hmeet : StepsMeet Undisturbed RacingNode.step .initial es)
    (h : run RacingNode.step .initial es = some s) : Fresh es s := by
  induction es using concat_induction generalizing s with
  | nil =>
    cases h
    exact fresh_initial
  | concat es e ih =>
    obtain ⟨u, hu, he⟩ := run_concat_some.mp h
    exact fresh_step htimed (ih htimed.left hmeet.left hu) (hmeet.last hu) he

/-- The watchdog decides to stop after a second of silence, and a command to go forward comes
before it does. -/
private def lateCommand : List RaceEvent :=
  [.sample 1000001, .compare 1000001, .lockedSection 1000002 5 [8, 100, 0, 0, 0],
    .noteMessage 1000003, .noteStop 1000004, .lockedStop 1000005]

/-- A command that takes effect between the watchdog's comparison and its stop is cancelled at
once. -/
theorem fresh_command_cancelled :
    ¬ ∀ es, Timed RaceEvent.time es → KeepsFreshCommands es := by
  intro h
  have htimed : Timed RaceEvent.time lateCommand := by
    unfold Timed
    decide
  have hlate := h lateCommand htimed (lateCommand.take 5) 1000005 [] _ _ rfl rfl rfl (by decide)
    1000002 5 [8, 100, 0, 0, 0] (by decide) rfl
  exact absurd hlate (by decide)

/-- The watchdog cancels no fresh command in a run whose motion commands take effect while it
has not decided to stop, and in which it does not decide to while one waits for its timestamp. -/
theorem keepsFreshCommands_of_undisturbed {es : List RaceEvent}
    (htimed : Timed RaceEvent.time es)
    (hmeet : StepsMeet Undisturbed RacingNode.step .initial es) : KeepsFreshCommands es := by
  rintro pre τ post s t rfl hs ht _ m len value hmem hmotion
  have hfresh : Fresh pre s := fresh_run htimed.left hmeet.left hs
  simp only [RacingNode.step] at ht
  split at ht
  · next x hmain =>
    have hdecided : m + noMessageStopDelay ≤ x :=
      hfresh.decided x (by rw [hmain]; rfl) m len value hmem hmotion
    have hsampled : .sample x ∈ pre := hfresh.sampled x (by rw [hmain]; rfl)
    have hlater : x ≤ τ :=
      (List.pairwise_append.mp htimed).2.2 _ hsampled _ List.mem_cons_self
    exact Int.le_trans hdecided hlater
  · exact absurd ht (by simp)

/-- A command, and a second later the stop. -/
private def expiredCommand : List RaceEvent :=
  [.lockedSection 0 5 [8, 100, 0, 0, 0], .noteMessage 1, .sample 1000002, .compare 1000002,
    .noteStop 1000003, .lockedStop 1000004]

/-- The watchdog stops the robot only when the delay after the command is over. -/
theorem keepsFreshCommands_expired : KeepsFreshCommands expiredCommand := by
  refine keepsFreshCommands_of_undisturbed ?_ (by decide)
  unfold Timed
  decide

end Esp32Robot.Robot

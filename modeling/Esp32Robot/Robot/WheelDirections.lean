import Mathlib.Logic.Function.Basic
import Esp32Robot.Robot.RampConvergence

/-!
# The wheel directions on the expander

Every `mcp23x17_set_level` may fail, and a failed one leaves its pin alone. The driver
calls of a run determine the pins together with the outcomes of the calls, which are
named by their numbers in the log.
-/

namespace Esp32Robot.Robot

open Esp32Robot.Base

variable {ok : Nat → Bool} {pins₀ : Nat → Nat}

/-- The pin that a call sets. -/
def HwCall.pin : HwCall → Option Nat
  | .mcpSetLevel pin _ => some pin
  | _ => none

/-- The pins after one call with its outcome. -/
def pinsStep (success : Bool) (pins : Nat → Nat) : HwCall → Nat → Nat
  | .mcpSetLevel pin level => if success then Function.update pins pin level else pins
  | _ => pins

/-- The pins after the calls so far, from the pins before them. -/
def pinsAfter (ok : Nat → Bool) (pins₀ : Nat → Nat) (log : List HwCall) : Nat → Nat :=
  log.zipIdx.foldl (fun pins c ↦ pinsStep (ok c.2) pins c.1) pins₀

/-- The eight direction pins hold the pattern of the motion, and the standby pin is high. -/
structure Confirmed (pins : Nat → Nat) (motion : MotionCmd) : Prop where
  moving : motion ≠ .stop
  standby : pins motorStbyMcpPin = 1
  wheels : ∀ pin ∈ directionPins, ∀ level,
    .mcpSetLevel pin level ∈ applyMotionDirection motion → pins pin = level

/-- Every positive duty that is written between two states is written with the directions of
`current_motion_` confirmed. -/
def DrivesConfirmed (ok : Nat → Bool) (pins₀ : Nat → Nat) (s t : RobotState) : Prop :=
  ∀ calls, t.hw = s.hw ++ calls →
    Throughout (fun pre c ↦ ∀ channel duty, c = .ledcSetDuty channel duty → 0 < duty →
      Confirmed (pinsAfter ok pins₀ (s.hw ++ pre)) t.currentMotion) calls

/-- After the calls so far the next one, where it sets a pin, succeeds or finds the pin at its
level. -/
def Takes (ok : Nat → Bool) (pins₀ : Nat → Nat) (log : List HwCall) (c : HwCall) : Prop :=
  ∀ pin level, c = .mcpSetLevel pin level →
    ok log.length = true ∨ pinsAfter ok pins₀ log pin = level

/-- If the step changes the direction, every pin that this sets takes its level. -/
def ChangeTaken (ok : Nat → Bool) (pins₀ : Nat → Nat) (s : RobotState) (e : RobotEvent) : Prop :=
  ∀ now, e = .motorControl now → s.currentMotion ≠ s.requestedMotion → s.currentSpeed = 0 →
    Throughout (fun pre c ↦ Takes ok pins₀ (s.hw ++ pre) c)
      (applyMotionDirection s.requestedMotion)

/-! ### Pins after a log -/

/-- One more call. -/
theorem pinsAfter_concat (log : List HwCall) (c : HwCall) :
    pinsAfter ok pins₀ (log ++ [c]) =
      pinsStep (ok log.length) (pinsAfter ok pins₀ log) c := by
  simp [pinsAfter, List.zipIdx_append]

/-- A pin that no further call sets keeps its level. -/
theorem pinsAfter_append_of_not_set {log ext : List HwCall} {pin : Nat}
    (h : ∀ c ∈ ext, c.pin ≠ some pin) :
    pinsAfter ok pins₀ (log ++ ext) pin = pinsAfter ok pins₀ log pin := by
  induction ext using concat_induction with
  | nil => rw [List.append_nil]
  | concat ext c ih =>
    have hc : c.pin ≠ some pin := h c (by simp)
    rw [← List.append_assoc, pinsAfter_concat, ← ih (fun c hc ↦ h c (by simp [hc]))]
    cases c with
    | mcpSetLevel p level =>
      simp only [pinsStep]
      split
      · exact Function.update_of_ne (fun hp ↦ hc (by rw [hp]; rfl)) _ _
      · rfl
    | _ => rfl

/-- After calls that all take, each pin has the level that it was set to, provided that no two of
them set one pin to different levels. -/
theorem pinsAfter_of_takes {log ext : List HwCall}
    (htakes : Throughout (fun pre c ↦ Takes ok pins₀ (log ++ pre) c) ext)
    (hagree : ∀ c ∈ ext, ∀ d ∈ ext, c.pin ≠ none → c.pin = d.pin → c = d) {pin level : Nat}
    (hmem : .mcpSetLevel pin level ∈ ext) : pinsAfter ok pins₀ (log ++ ext) pin = level := by
  induction ext using concat_induction with
  | nil => exact absurd hmem List.not_mem_nil
  | concat ext c ih =>
    obtain ⟨htakes, hc⟩ := throughout_concat.mp htakes
    rw [← List.append_assoc, pinsAfter_concat]
    by_cases hset : c = .mcpSetLevel pin level
    · -- The call sets the pin, or finds it at the level.
      subst hset
      simp only [pinsStep]
      split
      · exact Function.update_self ..
      · next hfailed => exact (hc pin level rfl).resolve_left hfailed
    · have hmem : .mcpSetLevel pin level ∈ ext :=
        (List.mem_append.mp hmem).resolve_right (fun h ↦ hset (List.mem_singleton.mp h).symm)
      have hother : c.pin ≠ some pin := fun hpin ↦
        hset (hagree c (by simp) _ (by simp [hmem]) (by simp [hpin]) hpin)
      rw [← pinsAfter_concat, pinsAfter_append_of_not_set (by simpa using hother)]
      exact ih htakes (fun c hc d hd ↦ hagree c (by simp [hc]) d (by simp [hd])) hmem

/-- Calls that set no pin leave all of them. -/
theorem pinsAfter_append_noLevel {log ext : List HwCall} (h : ∀ c ∈ ext, c.NoLevel) :
    pinsAfter ok pins₀ (log ++ ext) = pinsAfter ok pins₀ log := by
  funext pin
  apply pinsAfter_append_of_not_set
  intro c hc
  have := h c hc
  cases c with
  | mcpSetLevel p level => exact this.elim
  | _ => simp [HwCall.pin]

/-! ### Direction changes -/

/-- The calls of a change set no pin twice. -/
theorem nodup_pins (motion : MotionCmd) :
    ((applyMotionDirection motion).filterMap HwCall.pin).Nodup := by
  cases motion <;> decide

/-- The calls of a change set the standby pin high, and direction pins. -/
theorem pin_applyMotionDirection (motion : MotionCmd) : ∀ c ∈ applyMotionDirection motion,
    c.pin = none ∨ c = .mcpSetLevel motorStbyMcpPin 1 ∨
      ∃ pin ∈ directionPins, c.pin = some pin := by
  cases motion <;> decide

/-- A change whose calls all take confirms the directions. -/
theorem confirmed_of_takes {log : List HwCall} {motion : MotionCmd} (hmoving : motion ≠ .stop)
    (htakes : Throughout (fun pre c ↦ Takes ok pins₀ (log ++ pre) c)
      (applyMotionDirection motion)) :
    Confirmed (pinsAfter ok pins₀ (log ++ applyMotionDirection motion)) motion := by
  have hagree : ∀ c ∈ applyMotionDirection motion, ∀ d ∈ applyMotionDirection motion,
      c.pin ≠ none → c.pin = d.pin → c = d := by
    cases motion <;> decide
  have hstandby : .mcpSetLevel motorStbyMcpPin 1 ∈ applyMotionDirection motion := by
    cases motion with
    | stop => exact absurd rfl hmoving
    | _ => decide
  exact
    { moving := hmoving
      standby := pinsAfter_of_takes htakes hagree hstandby
      wheels := fun _ _ _ hmem ↦ pinsAfter_of_takes htakes hagree hmem }

/-- In a change that confirms the directions every call takes. -/
theorem takes_of_confirmed {log : List HwCall} {motion : MotionCmd}
    (h : Confirmed (pinsAfter ok pins₀ (log ++ applyMotionDirection motion)) motion) :
    Throughout (fun pre c ↦ Takes ok pins₀ (log ++ pre) c) (applyMotionDirection motion) := by
  rintro pre c post hcalls pin level rfl
  have hmem : .mcpSetLevel pin level ∈ applyMotionDirection motion := by simp [hcalls]
  have hlevel : pinsAfter ok pins₀ (log ++ applyMotionDirection motion) pin = level := by
    rcases pin_applyMotionDirection motion _ hmem with hnone | hstandby | ⟨p, hp, hpin⟩
    · exact absurd hnone (by simp [HwCall.pin])
    · cases hstandby
      exact h.standby
    · cases hpin
      exact h.wheels pin hp level hmem
  -- No later call of the change sets the pin.
  have hlater : ∀ c ∈ post, c.pin ≠ some pin := by
    have hnodup := nodup_pins motion
    rw [hcalls, List.filterMap_append, List.filterMap_cons_some (f := HwCall.pin) rfl] at hnodup
    intro c hc hpin
    have hnot := (List.nodup_cons.mp (List.nodup_append.mp hnodup).2.1).1
    exact hnot (List.mem_filterMap.mpr ⟨c, hc, hpin⟩)
  have hsplit : log ++ (pre ++ .mcpSetLevel pin level :: post) =
      log ++ pre ++ [.mcpSetLevel pin level] ++ post := by simp
  rw [hcalls, hsplit, pinsAfter_append_of_not_set hlater, pinsAfter_concat] at hlevel
  cases hok : ok (log ++ pre).length with
  | true => exact .inl rfl
  | false =>
    simp only [pinsStep, hok, Bool.false_eq_true, if_false] at hlevel
    exact .inr hlevel

/-! ### One period -/

/-- What a period writes: the direction change, if it makes one, and then the speed. -/
theorem motorControlTask_writes (s : RobotState) :
    ∃ change, (motorControlTask s).hw = s.hw ++ (change ++
        motorSetSpeed (motorControlTask s).currentSpeed (motorControlTask s).currentSpeed
          (motorControlTask s).currentSpeed (motorControlTask s).currentSpeed) ∧
      ((change = [] ∧ (motorControlTask s).currentMotion = s.currentMotion) ∨
        (s.currentMotion ≠ s.requestedMotion ∧ s.currentSpeed = 0 ∧
          change = applyMotionDirection s.requestedMotion ∧
          (motorControlTask s).currentMotion = s.requestedMotion)) := by
  have houtput : (motorControlTask s).hw = (changeDirection s).hw ++
      motorSetSpeed (motorControlTask s).currentSpeed (motorControlTask s).currentSpeed
        (motorControlTask s).currentSpeed (motorControlTask s).currentSpeed := by
    simp only [motorControlTask, outputSpeed]
    split <;> rfl
  rw [houtput, motorControlTask_currentMotion, changeDirection]
  split
  · next hchange =>
    refine ⟨applyMotionDirection s.requestedMotion, ?_, .inr ⟨hchange.1, hchange.2, rfl, rfl⟩⟩
    simp only [List.append_assoc]
    split
    · rfl
    · next hstop => simp [Decidable.not_not.mp hstop, applyMotionDirection]
  · exact ⟨[], by simp, .inl ⟨rfl, rfl⟩⟩

/-- Setting all four speeds writes no other duty. -/
theorem duty_motorSetSpeed (v : Int) : ∀ c ∈ motorSetSpeed v v v v, ∀ channel duty,
    c = .ledcSetDuty channel duty → duty = v := by
  simp [motorSetSpeed, eq_comm]

/-- What holds between two steps: a motor with a direction has it confirmed. -/
structure DirectionsInv (ok : Nat → Bool) (pins₀ : Nat → Nat) (s : RobotState) : Prop where
  motor : MotorInv s
  confirmed : s.currentMotion ≠ .stop → Confirmed (pinsAfter ok pins₀ s.hw) s.currentMotion

/-- A period that takes its change keeps the invariant, and writes only with the directions
confirmed. -/
theorem directionsInv_motorControlTask {s : RobotState} {now : Int}
    (h : DirectionsInv ok pins₀ s) (htaken : ChangeTaken ok pins₀ s (.motorControl now)) :
    DirectionsInv ok pins₀ (motorControlTask s) ∧
      DrivesConfirmed ok pins₀ s (motorControlTask s) := by
  have hmotor := (motorInv_motorControlTask h.motor).1
  obtain ⟨change, hwrites, hchange⟩ := motorControlTask_writes s
  have hconfirmed : (motorControlTask s).currentMotion ≠ .stop →
      Confirmed (pinsAfter ok pins₀ (s.hw ++ change)) (motorControlTask s).currentMotion := by
    rcases hchange with ⟨rfl, hmotion⟩ | ⟨hother, hzero, rfl, hmotion⟩
    · rw [hmotion, List.append_nil]
      exact h.confirmed
    · rw [hmotion]
      exact fun hmoving ↦ confirmed_of_takes hmoving (htaken now rfl hother hzero)
  have hquiet : ∀ c ∈ change, c.Quiet := by
    rcases hchange with ⟨rfl, _⟩ | ⟨_, _, rfl, _⟩
    · exact List.forall_mem_nil _
    · exact quiet_applyMotionDirection _
  constructor
  · refine ⟨hmotor, ?_⟩
    rw [hwrites, ← List.append_assoc, pinsAfter_append_noLevel (noLevel_motorSetSpeed _)]
    exact hconfirmed
  · intro calls hcalls
    rw [← List.append_cancel_left (hwrites.symm.trans hcalls)]
    refine throughout_append.mpr ⟨?_, ?_⟩
    · rintro pre c post rfl channel duty rfl hpositive
      have hduty : duty = 0 := hquiet (.ledcSetDuty channel duty) (by simp)
      omega
    · intro pre c post hspeeds channel duty hc hpositive
      have hduty := duty_motorSetSpeed (motorControlTask s).currentSpeed c (by simp [hspeeds])
        channel duty hc
      have hpre : ∀ c ∈ pre, c.NoLevel := fun c hc ↦
        noLevel_motorSetSpeed (motorControlTask s).currentSpeed c (by simp [hspeeds, hc])
      rw [← List.append_assoc, pinsAfter_append_noLevel hpre]
      apply hconfirmed
      intro hstop
      have := hmotor.stops.current hstop
      omega

/-- A period that starts the motor in a new direction writes only with the directions confirmed
exactly when it takes its change. -/
theorem drivesConfirmed_change_iff {s : RobotState} {now : Int} (h : DirectionsInv ok pins₀ s)
    (hother : s.currentMotion ≠ s.requestedMotion) (hzero : s.currentSpeed = 0)
    (hrequested : 0 < s.requestedSpeed) :
    DrivesConfirmed ok pins₀ s (motorControlTask s) ↔
      ChangeTaken ok pins₀ s (.motorControl now) := by
  constructor
  · intro hdrives _ _ _ _
    obtain ⟨change, hwrites, hchange⟩ := motorControlTask_writes s
    rcases hchange with ⟨_, hsame⟩ | ⟨_, _, rfl, hmotion⟩
    · have hready := (motorControlTask_of_ready (.inr hzero) (by omega) (by omega)).1
      exact absurd (hsame.symm.trans hready) hother
    · have hspeed : 0 < (motorControlTask s).currentSpeed := by
        rw [(motorControlTask_of_ready (.inr hzero) (by omega) (by omega)).2, hzero,
          approach_of_le (by decide) (by omega)]
        simp only [motorAccelStep]
        omega
      -- The first duty that follows the change is positive.
      have hconfirmed := hdrives _ hwrites (applyMotionDirection s.requestedMotion) _ _ rfl _ _
        rfl hspeed
      rw [hmotion] at hconfirmed
      exact takes_of_confirmed hconfirmed
  · exact fun htaken ↦ (directionsInv_motorControlTask h htaken).2

/-! ### Runs -/

/-- Messages and the watchdog only drive the LED. -/
theorem step_led {s t : RobotState} {e : RobotEvent} (ht : step s e = some t)
    (he : ∀ now, e ≠ .motorControl now) :
    t.currentMotion = s.currentMotion ∧
      ∃ calls, t.hw = s.hw ++ calls ∧ ∀ c ∈ calls, c.NoLevel ∧ c.Quiet := by
  cases e with
  | message now len value =>
    rcases handleControlMessage_cases ht with ⟨_, rfl⟩ |
      ⟨data, _, _, ⟨motion, speed, rfl⟩ | rfl | rfl⟩
    · exact ⟨rfl, [], by simp, List.forall_mem_nil _⟩
    all_goals exact ⟨rfl, [.gpioSetLevel ledLightOn], rfl, by simp [HwCall.NoLevel, HwCall.Quiet]⟩
  | updateLed boottime =>
    cases ht
    unfold updateLed
    split
    · exact ⟨rfl, [.gpioSetLevel ledLightOff], rfl, by simp [HwCall.NoLevel, HwCall.Quiet]⟩
    · exact ⟨rfl, [], by simp, List.forall_mem_nil _⟩
  | motorControl now => exact absurd rfl (he now)

/-- A step that takes its change, if it makes one, keeps the invariant, and writes only with the
directions confirmed. -/
theorem directionsInv_step {s t : RobotState} {e : RobotEvent} (h : DirectionsInv ok pins₀ s)
    (htaken : ChangeTaken ok pins₀ s e) (ht : step s e = some t) :
    DirectionsInv ok pins₀ t ∧ DrivesConfirmed ok pins₀ s t := by
  by_cases he : ∃ now, e = .motorControl now
  · obtain ⟨now, rfl⟩ := he
    cases ht
    exact directionsInv_motorControlTask h htaken
  · obtain ⟨hmotion, calls, hwrites, hcalls⟩ := step_led ht (fun now hnow ↦ he ⟨now, hnow⟩)
    refine ⟨⟨motorInv_step h.motor ht, ?_⟩, ?_⟩
    · rw [hmotion, hwrites, pinsAfter_append_noLevel (fun c hc ↦ (hcalls c hc).1)]
      exact h.confirmed
    · intro calls' hwrites'
      rw [← List.append_cancel_left (hwrites.symm.trans hwrites')]
      rintro pre c post rfl channel duty rfl hpositive
      have hduty : duty = 0 := (hcalls (.ledcSetDuty channel duty) (by simp)).2
      omega

/-- In every run whose direction changes all take, no matter how the other calls turn out, every
positive duty is written with the directions of `current_motion_` confirmed. -/
theorem drivesConfirmed_of_taken {es : List RobotEvent} {e : RobotEvent} {s t : RobotState}
    (htaken : StepsMeet (ChangeTaken ok pins₀) step initial (es ++ [e]))
    (hs : run step initial es = some s) (ht : step s e = some t) :
    DrivesConfirmed ok pins₀ s t := by
  have hinit : DirectionsInv ok pins₀ initial := ⟨motorInv_initial, fun h ↦ absurd rfl h⟩
  have hinv : DirectionsInv ok pins₀ s := run_invariant_of_meet hinit
    (fun _ _ _ h htaken ht ↦ (directionsInv_step h htaken ht).1) htaken.left hs
  exact (directionsInv_step hinv (htaken.last hs) ht).2

/-- A drive forward whose calls all succeed is such a run. -/
theorem drivesConfirmed_forward :
    ∃ s t, run step initial [.message 0 5 (some [8, 200, 0, 0, 0])] = some s ∧
      step s (.motorControl 20000) = some t ∧
      DrivesConfirmed (fun _ ↦ true) (fun _ ↦ 0) s t := by
  have htaken (es : List RobotEvent) :
      StepsMeet (ChangeTaken (fun _ ↦ true) (fun _ ↦ 0)) step initial es :=
    fun _ _ _ _ _ _ _ _ _ _ _ _ _ _ _ _ _ ↦ .inl rfl
  exact ⟨_, _, rfl, rfl, drivesConfirmed_of_taken
    (htaken ([.message 0 5 (some [8, 200, 0, 0, 0])] ++ [.motorControl 20000])) rfl rfl⟩

/-- On a drive backward the write to the first pin of wheel A fails, and the motor starts in the
same period. -/
theorem backward_without_wheel_a :
    ∃ s t, run step initial [.message 0 5 (some [2, 200, 0, 0, 0])] = some s ∧
      step s (.motorControl 20000) = some t ∧
      ¬ DrivesConfirmed (fun i ↦ i ≠ 16) (fun _ ↦ 0) s t := by
  refine ⟨_, _, rfl, rfl, fun h ↦ ?_⟩
  have hconfirmed := h _ rfl (applyMotionDirection .backward) _ _ rfl .motorA 8 rfl (by decide)
  exact absurd (hconfirmed.wheels motorABin1McpPin (by decide) 1 (by decide)) (by decide)

end Esp32Robot.Robot

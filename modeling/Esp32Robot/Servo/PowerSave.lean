import Esp32Robot.Servo.ServoControl

/-!
# Servo power save

The enabled flag and the two PWM outputs agree exactly as long as every stop
command is handled while the output is enabled: the stop command drives both
channels without setting the flag, and the idle task then leaves them driven.
-/

namespace Esp32Robot.Servo

open Esp32Robot.Base

/-- Both channels are driven if and only if the output is flagged as enabled. -/
def OutputMatches (s : ServoState) : Prop :=
  (s.channel0.driven = true ↔ s.outputEnabled = true) ∧
    (s.channel1.driven = true ↔ s.outputEnabled = true)

/-- An idle iteration at least the timeout after the last activity ends both outputs. -/
def IdleReleases (s : ServoState) : Prop :=
  ∀ now, servoIdlePowerSaveTimeoutMs * 1000 ≤ now - s.lastActivityUs →
    (servoIdlePowerSaveTask now s).channel0.driven = false ∧
      (servoIdlePowerSaveTask now s).channel1.driven = false

/-- Flag and outputs agree, and the idle task releases the outputs, in every state of the
run from initialization at `t₀`. -/
def PowerSaveHolds (t₀ : Int) (es : List ServoEvent) : Prop :=
  ∀ pre s, pre <+: es → run step (servoControlInit t₀) pre = some s →
    OutputMatches s ∧ IdleReleases s

/-- A stop command finds the output enabled. -/
def StopWhileEnabled (s : ServoState) (e : ServoEvent) : Prop :=
  ∀ now dlc bytes, e = .canMessage now dlc (some bytes) → 0 < dlc →
    bytes.getD 0 0 = cmdServoStop → s.outputEnabled = true

/-- Setting both angles drives both channels, so the flag has to be set. -/
theorem outputMatches_setBothAngles (s : ServoState) :
    OutputMatches (setBothAngles s) ↔ s.outputEnabled = true := by
  simp [OutputMatches]

/-- Enabling or disabling sets the flag and keeps the initialization. -/
theorem setServoOutputEnabled_flag (enabled : Bool) (s : ServoState) :
    (setServoOutputEnabled enabled s).outputEnabled = enabled ∧
      (setServoOutputEnabled enabled s).initialized = s.initialized := by
  unfold setServoOutputEnabled
  split
  · next he => exact ⟨he.symm, rfl⟩
  · cases enabled with
    | true =>
      obtain ⟨-, -, hkept, -, -⟩ := kept_of_flag (setBothAngles s) true
      exact ⟨rfl, hkept.trans (setBothAngles_initialized s)⟩
    | false => exact ⟨rfl, rfl⟩

/-- Enabling or disabling keeps the outputs in agreement with the flag. -/
theorem outputMatches_setServoOutputEnabled {s : ServoState} (h : OutputMatches s)
    (enabled : Bool) : OutputMatches (setServoOutputEnabled enabled s) := by
  unfold setServoOutputEnabled
  split
  · exact h
  · cases enabled
    · simp [OutputMatches, ledcStop]
    · exact (outputMatches_setBothAngles { s with outputEnabled := true }).mpr rfl

/-- A move leaves both channels driven and the output enabled. -/
theorem finishMove_spec (now : Int) (s : ServoState) (lr ud : Int) :
    let t := finishMove now { setServoOutputEnabled true s with lrAngle := lr, udAngle := ud }
    OutputMatches t ∧ t.initialized = s.initialized := by
  obtain ⟨he, hi⟩ := setServoOutputEnabled_flag true s
  refine ⟨?_, hi⟩
  unfold finishMove
  exact (outputMatches_setBothAngles _).mpr he

/-- Agreement of flag and outputs makes the idle task release the outputs. -/
theorem idleReleases_of_matches {s : ServoState} (h : OutputMatches s)
    (hi : s.initialized = true) : IdleReleases s := by
  intro now hnow
  unfold servoIdlePowerSaveTask
  cases he : s.outputEnabled with
  | false =>
    simp only [OutputMatches, he, Bool.false_eq_true, iff_false, Bool.not_eq_true] at h
    simpa [hi] using h
  | true => simp [hi, hnow, setServoOutputEnabled, he, ledcStop]

/-- Initialization establishes the agreement. -/
theorem outputMatches_init (t₀ : Int) :
    OutputMatches (servoControlInit t₀) ∧ (servoControlInit t₀).initialized = true :=
  ⟨⟨⟨fun _ ↦ rfl, fun _ ↦ rfl⟩, ⟨fun _ ↦ rfl, fun _ ↦ rfl⟩⟩, rfl⟩

/-- A step whose stop command finds the output enabled keeps the agreement. -/
theorem outputMatches_step {s t : ServoState} {e : ServoEvent}
    (h : OutputMatches s ∧ s.initialized = true) (hstop : StopWhileEnabled s e)
    (ht : step s e = some t) : OutputMatches t ∧ t.initialized = true := by
  cases e with
  | canMessage now dlc data =>
    cases ht
    rcases handler_cases now dlc data s with he | ⟨⟨bytes, rfl, hdlc, hcmd⟩, he⟩ | ⟨lr, ud, he⟩
    · rw [he]
      exact h
    · have hen := hstop now dlc bytes rfl hdlc hcmd
      rw [he]
      exact ⟨(outputMatches_setBothAngles s).mpr hen, (setBothAngles_initialized s).trans h.2⟩
    · obtain ⟨hm, hi⟩ := finishMove_spec now s lr ud
      rw [he]
      exact ⟨hm, hi.trans h.2⟩
  | idleTask now =>
    cases ht
    rcases idleTask_cases now s with he | he
    · rw [he]
      exact h
    · rw [he]
      exact ⟨outputMatches_setServoOutputEnabled h.1 false,
        (setServoOutputEnabled_flag false s).2.trans h.2⟩

/-- A stop command handled while the output is disabled breaks the agreement. -/
theorem not_outputMatches_stop {s : ServoState} {now dlc : Int} {bytes : List UInt8}
    (hi : s.initialized = true) (hdlc : 0 < dlc) (hcmd : bytes.getD 0 0 = cmdServoStop)
    (he : s.outputEnabled = false) :
    ¬ OutputMatches (servoControlCanbusMessageHandler now dlc (some bytes) s) := by
  rw [handler_stop hi hdlc hcmd, outputMatches_setBothAngles, he]
  exact Bool.false_ne_true

/-- Nothing clears the initialization. -/
theorem initialized_step {s t : ServoState} {e : ServoEvent} (h : s.initialized = true)
    (ht : step s e = some t) : t.initialized = true := by
  cases e with
  | canMessage now dlc data =>
    cases ht
    rcases handler_cases now dlc data s with he | ⟨_, he⟩ | ⟨lr, ud, he⟩
    · rw [he]
      exact h
    · rw [he]
      exact (setBothAngles_initialized s).trans h
    · rw [he]
      exact (finishMove_spec now s lr ud).2.trans h
  | idleTask now =>
    cases ht
    rcases idleTask_cases now s with he | he
    · rw [he]
      exact h
    · rw [he]
      exact (setServoOutputEnabled_flag false s).2.trans h

private def stopAfterIdle : List ServoEvent :=
  [.canMessage 1000000 5 (some [18, 5, 0, 0, 0]), .idleTask 4000000,
    .canMessage 5000000 5 (some [15, 0, 0, 0, 0])]

/-- A move, an idle timeout and then a stop command leave both channels driven behind a
cleared flag. -/
theorem stop_after_idle_drives : ¬ ∀ t₀ es, PowerSaveHolds t₀ es := by
  intro h
  have hm := (h 0 stopAfterIdle stopAfterIdle _ (List.prefix_refl _) rfl).1
  exact absurd (hm.1.mp rfl) (by decide)

/-- Flag and outputs agree, and the idle task releases the outputs, all along a run exactly
when every stop command of the run is handled while the output is enabled. -/
theorem powerSaveHolds_iff (t₀ : Int) (es : List ServoEvent) :
    PowerSaveHolds t₀ es ↔ StepsMeet StopWhileEnabled step (servoControlInit t₀) es := by
  refine along_iff (I := fun u ↦ OutputMatches u ∧ u.initialized = true)
    (outputMatches_init t₀) (fun _ _ _ hu hP ht ↦ outputMatches_step hu hP ht)
    (fun _ hu ↦ ⟨hu.1, idleReleases_of_matches hu.1 hu.2⟩) ?_
  rintro s e ⟨_, hinit⟩ hnext now dlc bytes rfl hdlc hcmd
  have hm := (hnext _ rfl).1
  cases he : s.outputEnabled with
  | true => rfl
  | false => exact absurd hm (not_outputMatches_stop hinit hdlc hcmd he)

end Esp32Robot.Servo

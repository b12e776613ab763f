import Esp32Robot.Servo.PowerSave
import Esp32Robot.Servo.RemoteStep

/-!
# Servo angles and duties

The angles of the servo node are the saturating fold of the moves that it was sent, and
each channel has the duty of its angle. The conversion works in 32 bits, where no
product overflows.
-/

namespace Esp32Robot.Servo

open Esp32Robot.Base Esp32Robot.Can

/-! ### The conversion -/

/-- The 32-bit sum of two words, unless it overflows. -/
def checkedAdd (a b : UInt32) : Option UInt32 :=
  if a.toNat + b.toNat < 4294967296 then some (a + b) else none

/-- The 32-bit product of two words, unless it overflows. -/
def checkedMul (a b : UInt32) : Option UInt32 :=
  if a.toNat * b.toNat < 4294967296 then some (a * b) else none

/-- No sum and no product of `angle_to_duty` overflows: with each of them checked, the
computation returns, and with the same duty. -/
def NoOverflow (angle : Int) : Prop :=
  angleToDutyWith checkedAdd checkedMul angle = some (angleToDuty angle)

/-- The clamped angle. -/
theorem clampAngle_range (angle : Int) : 0 ≤ clampAngle angle ∧ clampAngle angle ≤ 180 := by
  rw [clampAngle_eq, saturated]
  omega

/-- The duty of an angle in exact arithmetic. -/
def exactDuty (angle : Int) : Nat :=
  (500 + (clampAngle angle).toNat * 2000 / 180) * 50 * 16384 / 1000000

/-- A quotient of words. -/
theorem ofNat_div_ofNat {a b : Nat} (ha : a < 4294967296) (hb : b < 4294967296) :
    UInt32.ofNat a / UInt32.ofNat b = UInt32.ofNat (a / b) := by
  apply UInt32.toNat_inj.mp
  rw [UInt32.toNat_div, UInt32.toNat_ofNat_of_lt' ha, UInt32.toNat_ofNat_of_lt' hb,
    UInt32.toNat_ofNat_of_lt' (Nat.lt_of_le_of_lt (Nat.div_le_self a b) ha)]

/-- With any addition and multiplication that are exact below `2 ^ 32` the duty is the exact
one, as no argument reaches that bound. -/
theorem angleToDutyWith_eq {m : Type → Type} [Monad m] [LawfulMonad m]
    {add mul : UInt32 → UInt32 → m UInt32}
    (hadd : ∀ a b, a + b < 4294967296 →
      add (UInt32.ofNat a) (UInt32.ofNat b) = pure (UInt32.ofNat (a + b)))
    (hmul : ∀ a b, a * b < 4294967296 →
      mul (UInt32.ofNat a) (UInt32.ofNat b) = pure (UInt32.ofNat (a * b))) (angle : Int) :
    angleToDutyWith add mul angle = pure (UInt32.ofNat (exactDuty angle)) := by
  obtain ⟨hlow, hhigh⟩ := clampAngle_range angle
  obtain ⟨k, hk⟩ : ∃ k : Nat, (clampAngle angle).toNat = k := ⟨_, rfl⟩
  have hoffset : (clampAngle angle - servoMinAngle).toNat = k := by
    simp only [servoMinAngle]
    omega
  have hscaled : mul (UInt32.ofNat k) (servoMaxPulseUs - servoMinPulseUs) =
      pure (UInt32.ofNat (k * 2000)) := hmul k 2000 (by omega)
  have hwidth : UInt32.ofNat (k * 2000) / UInt32.ofNat (servoMaxAngle - servoMinAngle).toNat =
      UInt32.ofNat (k * 2000 / 180) := ofNat_div_ofNat (by omega) (by decide)
  have hpulse : add servoMinPulseUs (UInt32.ofNat (k * 2000 / 180)) =
      pure (UInt32.ofNat (500 + k * 2000 / 180)) := hadd 500 _ (by omega)
  have hrange : add (((1 : UInt32) <<< servoPwmRes) - 1) 1 = pure 16384 :=
    hadd 16383 1 (by decide)
  have hfrequency : mul (UInt32.ofNat (500 + k * 2000 / 180)) servoPwmFreqHz =
      pure (UInt32.ofNat ((500 + k * 2000 / 180) * 50)) := hmul _ 50 (by omega)
  have hduty : mul (UInt32.ofNat ((500 + k * 2000 / 180) * 50)) 16384 =
      pure (UInt32.ofNat ((500 + k * 2000 / 180) * 50 * 16384)) := hmul _ 16384 (by omega)
  have hquotient : UInt32.ofNat ((500 + k * 2000 / 180) * 50 * 16384) / 1000000 =
      UInt32.ofNat (exactDuty angle) := by
    rw [exactDuty, hk]
    exact ofNat_div_ofNat (by omega) (by decide)
  have hbound : ¬ UInt32.ofNat (exactDuty angle) > ((1 : UInt32) <<< servoPwmRes) - 1 := by
    rw [gt_iff_lt, UInt32.lt_iff_toNat_lt, exactDuty, hk, UInt32.toNat_ofNat_of_lt' (by
      simp only [UInt32.size]
      omega)]
    show ¬ 16383 < (500 + k * 2000 / 180) * 50 * 16384 / 1000000
    omega
  simp only [angleToDutyWith, hoffset, hscaled, pure_bind, hwidth, hpulse, hrange, hfrequency,
    hduty, hquotient, if_neg hbound]

/-- The duty of an angle is the exact one. -/
theorem angleToDuty_eq (angle : Int) : angleToDuty angle = UInt32.ofNat (exactDuty angle) :=
  angleToDutyWith_eq (m := Id) (fun a b _ ↦ (UInt32.ofNat_add a b).symm)
    (fun a b _ ↦ (UInt32.ofNat_mul a b).symm) angle

/-- No angle makes `angle_to_duty` overflow. -/
theorem noOverflow (angle : Int) : NoOverflow angle := by
  have hle (a : Nat) : (UInt32.ofNat a).toNat ≤ a := by
    rw [UInt32.toNat_ofNat']
    exact Nat.mod_le a _
  rw [NoOverflow, angleToDuty_eq]
  refine angleToDutyWith_eq (fun a b h ↦ ?_) (fun a b h ↦ ?_) angle
  · rw [checkedAdd, ← UInt32.ofNat_add]
    exact if_pos (Nat.lt_of_le_of_lt (Nat.add_le_add (hle a) (hle b)) h)
  · rw [checkedMul, ← UInt32.ofNat_mul]
    exact if_pos (Nat.lt_of_le_of_lt (Nat.mul_le_mul (hle a) (hle b)) h)

/-- A greater angle has a duty that is not smaller. -/
theorem angleToDuty_mono {a b : Int} (h : a ≤ b) : angleToDuty a ≤ angleToDuty b := by
  have hclamp : (clampAngle a).toNat ≤ (clampAngle b).toNat := by
    rw [clampAngle_eq, clampAngle_eq, saturated, saturated]
    omega
  have hexact (angle : Int) : (angleToDuty angle).toNat = exactDuty angle := by
    obtain ⟨hlow, hhigh⟩ := clampAngle_range angle
    rw [angleToDuty_eq]
    apply UInt32.toNat_ofNat_of_lt'
    simp only [exactDuty, UInt32.size]
    omega
  rw [UInt32.le_iff_toNat_le, hexact, hexact, exactDuty, exactDuty]
  omega

/-! ### The moves -/

/-- The move of a command byte. -/
def ServoMove.ofCmd (cmd : UInt8) : Option ServoMove :=
  [ServoMove.up, .down, .left, .right].find? (fun m ↦ cmd = m.type)

/-- The step that a message carries in four bytes after its command, the least significant
first, of which at most 20 counts. A message that carries none, or zero, asks for three. -/
def carriedStep (data : List UInt8) (dlc : Int) : Int :=
  let value := (data.getD 1 0).toNat + 256 * (data.getD 2 0).toNat +
    65536 * (data.getD 3 0).toNat + 16777216 * (data.getD 4 0).toNat
  if dlc < 5 ∨ value = 0 then 3 else min value 20

/-- The move of an event with its step. -/
def ServoEvent.move? : ServoEvent → Option (ServoMove × Int)
  | .canMessage _ dlc (some data) =>
    if 0 < dlc then (ServoMove.ofCmd (data.getD 0 0)).map (fun m ↦ (m, carriedStep data dlc))
    else none
  | _ => none

/-- The moves of a run, oldest first. -/
def movesOf (es : List ServoEvent) : List (ServoMove × Int) := es.filterMap ServoEvent.move?

/-- The angles that moves turn to, each saturated. -/
def Angles.turnAll (a : Angles) (moves : List (ServoMove × Int)) : Angles :=
  moves.foldl (fun a m ↦ a.turn m.2 m.1) a

/-- Each channel has the duty of its angle. -/
structure DutiesFollow (s : ServoState) : Prop where
  lr : s.channel0.duty = angleToDuty s.lrAngle
  ud : s.channel1.duty = angleToDuty s.udAngle

/-- A carried step is in `1..20`. -/
theorem carriedStep_range (data : List UInt8) (dlc : Int) :
    1 ≤ carriedStep data dlc ∧ carriedStep data dlc ≤ 20 := by
  simp only [carriedStep]
  split <;> omega

/-- The servo node decodes the step that a message carries. -/
theorem decodeStep_eq (data : List UInt8) (dlc : Int) :
    decodeStep data dlc = carriedStep data dlc := by
  obtain ⟨value, hvalue⟩ : ∃ value, (messageValue data).toNat = value := ⟨_, rfl⟩
  have hbytes : (data.getD 1 0).toNat + 256 * (data.getD 2 0).toNat +
      65536 * (data.getD 3 0).toNat + 16777216 * (data.getD 4 0).toNat = value := by
    rw [← hvalue, messageValue, toNat_leWord]
  have hzero : messageValue data = 0 ↔ value = 0 := by
    rw [← hvalue]
    exact UInt32.toNat_inj.symm
  have hlarge : messageValue data > 20 ↔ 20 < value := by
    rw [← hvalue]
    exact UInt32.lt_iff_toNat_lt
  simp only [decodeStep, carriedStep, hbytes, hzero, hlarge, hvalue]
  by_cases hdlc : dlc < 5
  · simp [hdlc]
  · simp only [hdlc, if_false, false_or]
    split
    · rfl
    · split <;> omega

/-- What is no move keeps the angles. -/
theorem anglesOf_handler_other (now dlc : Int) {bytes : List UInt8} (s : ServoState)
    (h : ServoMove.ofCmd (bytes.getD 0 0) = none) :
    anglesOf (servoControlCanbusMessageHandler now dlc (some bytes) s) = anglesOf s := by
  simp only [ServoMove.ofCmd, List.find?_eq_none, List.mem_cons, List.not_mem_nil, or_false,
    forall_eq_or_imp, forall_eq, decide_eq_true_eq] at h
  obtain ⟨hup, hdown, hleft, hright⟩ := h
  simp only [servoControlCanbusMessageHandler]
  rw [if_neg (c := _ = cmdServoUp) hup, if_neg (c := _ = cmdServoDown) hdown,
    if_neg (c := _ = cmdServoLeft) hleft, if_neg (c := _ = cmdServoRight) hright]
  split
  · rfl
  · split
    · exact anglesOf_setBothAngles s
    · rfl

/-- A message of the running node turns the angles by its move, if it is one. -/
theorem anglesOf_handler {s : ServoState} (hi : s.initialized = true)
    (hr : (anglesOf s).InRange) (now dlc : Int) (data : Option (List UInt8)) :
    anglesOf (servoControlCanbusMessageHandler now dlc data s) =
      (anglesOf s).turnAll (movesOf [.canMessage now dlc data]) := by
  cases data with
  | none => rfl
  | some bytes =>
    by_cases hdlc : 0 < dlc
    · simp only [movesOf, List.filterMap_cons, List.filterMap_nil, ServoEvent.move?, if_pos hdlc]
      cases hmove : ServoMove.ofCmd (bytes.getD 0 0) with
      | none => exact anglesOf_handler_other now dlc s hmove
      | some m =>
        have htype : bytes.getD 0 0 = m.type := by simpa using List.find?_some hmove
        rw [(anglesOf_handler_move hi hr now hdlc htype).1, decodeStep_eq]
        rfl
    · simp only [movesOf, List.filterMap_cons, List.filterMap_nil, ServoEvent.move?, if_neg hdlc]
      simp only [servoControlCanbusMessageHandler]
      rw [if_pos (by simp [show dlc ≤ 0 by omega])]
      rfl

/-! ### Runs -/

/-- Both channels set to the angles have their duties. -/
theorem dutiesFollow_setBothAngles (s : ServoState) : DutiesFollow (setBothAngles s) := by
  constructor <;> simp

/-- Switching the output keeps the duties, which enabling sets once more. -/
theorem dutiesFollow_setServoOutputEnabled {s : ServoState} (h : DutiesFollow s)
    (enabled : Bool) : DutiesFollow (setServoOutputEnabled enabled s) := by
  unfold setServoOutputEnabled
  split
  · exact h
  · cases enabled with
    | true =>
      obtain ⟨lr, ud⟩ := dutiesFollow_setBothAngles s
      obtain ⟨hlr, hud, -, h₀, h₁⟩ := kept_of_flag (setBothAngles s) true
      constructor
      · exact (congrArg LedcChannel.duty h₀).trans (lr.trans (congrArg angleToDuty hlr.symm))
      · exact (congrArg LedcChannel.duty h₁).trans (ud.trans (congrArg angleToDuty hud.symm))
    | false => exact ⟨h.lr, h.ud⟩

/-- Turning ends in the range of the servos. -/
theorem inRange_turnAll {a : Angles} (h : a.InRange) (moves : List (ServoMove × Int)) :
    (a.turnAll moves).InRange := by
  induction moves generalizing a with
  | nil => exact h
  | cons m moves ih => exact ih (Angles.inRange_turn h m.2 m.1)

/-- What holds after the events so far, whenever `s_servo_lock` is free. -/
structure ServoInv (es : List ServoEvent) (s : ServoState) : Prop where
  initialized : s.initialized = true
  angles : anglesOf s = Angles.turnAll ⟨servoInitAngle, servoInitAngle⟩ (movesOf es)
  duties : DutiesFollow s

/-- The angles of the invariant are in range. -/
theorem ServoInv.inRange {es : List ServoEvent} {s : ServoState} (h : ServoInv es s) :
    (anglesOf s).InRange := by
  rw [h.angles]
  exact inRange_turnAll ⟨rfl, rfl⟩ _

/-- Initialization establishes the invariant. -/
theorem servoInv_init (t₀ : Int) : ServoInv [] (servoControlInit t₀) where
  initialized := rfl
  angles := rfl
  duties :=
    ⟨(dutiesFollow_setBothAngles staticState).lr, (dutiesFollow_setBothAngles staticState).ud⟩

/-- Every event keeps the invariant. -/
theorem servoInv_step {es : List ServoEvent} {s t : ServoState} {e : ServoEvent}
    (h : ServoInv es s) (ht : step s e = some t) : ServoInv (es ++ [e]) t := by
  have hmoves : Angles.turnAll ⟨servoInitAngle, servoInitAngle⟩ (movesOf (es ++ [e])) =
      (anglesOf s).turnAll (movesOf [e]) := by
    rw [movesOf, List.filterMap_append, Angles.turnAll, List.foldl_append, h.angles]
    rfl
  refine ⟨initialized_step h.initialized ht, ?_, ?_⟩
  · rw [hmoves]
    cases e with
    | canMessage now dlc data =>
      cases ht
      exact anglesOf_handler h.initialized h.inRange now dlc data
    | idleTask now =>
      cases ht
      exact (anglesOf_idleTask now s).1
  · cases e with
    | canMessage now dlc data =>
      cases ht
      rcases handler_cases now dlc data s with he | ⟨_, he⟩ | ⟨lr, ud, he⟩
      · rw [he]
        exact h.duties
      · rw [he]
        exact dutiesFollow_setBothAngles s
      · rw [he]
        exact dutiesFollow_setBothAngles _
    | idleTask now =>
      cases ht
      rcases idleTask_cases now s with he | he
      · rw [he]
        exact h.duties
      · rw [he]
        exact dutiesFollow_setServoOutputEnabled h.duties false

/-- The invariant holds after every run of the node. -/
theorem servoInv_run {t₀ : Int} {es : List ServoEvent} {s : ServoState}
    (h : run step (servoControlInit t₀) es = some s) : ServoInv es s :=
  run_history (servoInv_init t₀) (fun _ _ _ _ _ hs ht ↦ servoInv_step hs ht) h

/-- After every run both angles are in `0..180` and the saturating fold of the moves, each by a
step in `1..20`, and each channel has the duty of its angle; the duty is monotone in the angle, and
no angle makes its 32-bit arithmetic overflow. -/
theorem angles_and_duties {t₀ : Int} {es : List ServoEvent} {s : ServoState}
    (h : run step (servoControlInit t₀) es = some s) :
    (0 ≤ s.lrAngle ∧ s.lrAngle ≤ 180) ∧ (0 ≤ s.udAngle ∧ s.udAngle ≤ 180) ∧
      anglesOf s = Angles.turnAll ⟨90, 90⟩ (movesOf es) ∧
      (∀ m ∈ movesOf es, 1 ≤ m.2 ∧ m.2 ≤ 20) ∧
      s.channel0.duty = angleToDuty s.lrAngle ∧ s.channel1.duty = angleToDuty s.udAngle ∧
      (∀ a b, a ≤ b → angleToDuty a ≤ angleToDuty b) ∧ ∀ angle, NoOverflow angle := by
  have hinv := servoInv_run h
  have hrange (angle : Int) (hsat : saturated angle = angle) : 0 ≤ angle ∧ angle ≤ 180 := by
    simp only [saturated] at hsat
    omega
  refine ⟨hrange _ hinv.inRange.1, hrange _ hinv.inRange.2, hinv.angles, ?_, hinv.duties.lr,
    hinv.duties.ud, fun _ _ ↦ angleToDuty_mono, noOverflow⟩
  intro m hm
  obtain ⟨e, _, hmove⟩ := List.mem_filterMap.mp hm
  cases e with
  | canMessage now dlc data =>
    cases data with
    | none => exact absurd hmove (by simp [ServoEvent.move?])
    | some bytes =>
      simp only [ServoEvent.move?] at hmove
      split at hmove
      · obtain ⟨move, _, rfl⟩ := Option.map_eq_some_iff.mp hmove
        exact carriedStep_range bytes dlc
      · exact absurd hmove (by simp)
  | idleTask now => exact absurd hmove (by simp [ServoEvent.move?])

private def movesAfterIdle : List ServoEvent :=
  [.canMessage 1000000 8 (some [18, 200, 0, 0, 0]), .idleTask 4000000,
    .canMessage 5000000 1 (some [14])]

/-- Moves with a large step, the idle task and a move by the default step are such a run. -/
theorem angles_and_duties_moves :
    ∃ s, run step (servoControlInit 0) movesAfterIdle = some s ∧
      (0 ≤ s.lrAngle ∧ s.lrAngle ≤ 180) ∧ (0 ≤ s.udAngle ∧ s.udAngle ≤ 180) ∧
      anglesOf s = Angles.turnAll ⟨90, 90⟩ (movesOf movesAfterIdle) ∧
      (∀ m ∈ movesOf movesAfterIdle, 1 ≤ m.2 ∧ m.2 ≤ 20) ∧
      s.channel0.duty = angleToDuty s.lrAngle ∧ s.channel1.duty = angleToDuty s.udAngle ∧
      (∀ a b, a ≤ b → angleToDuty a ≤ angleToDuty b) ∧ ∀ angle, NoOverflow angle :=
  ⟨_, rfl, angles_and_duties rfl⟩

end Esp32Robot.Servo

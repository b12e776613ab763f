import Esp32Robot.Robot.ControlCallback

/-!
# The message watchdog

`UpdateLed` stops the robot when no message has arrived for
`NO_MESSAGE_STOP_DELAY`. The timestamp it compares with is written by every
handled message, so the silence it detects is that of the whole bus.
-/

namespace Esp32Robot.Robot

open Esp32Robot.Base Esp32Robot.Can

/-- The event is a handled message: not empty, of whatever type. -/
def isMessage : RobotEvent → Bool
  | .message _ len (some _) => 0 < len
  | _ => false

/-- The types that `HandleControlMessage` gives a meaning for driving. -/
def driveTypes : List UInt8 := [2, 4, 5, 6, 7, 8, 9, 10]

/-- The event is a handled message of one of the driving types. -/
def isDriveMessage : RobotEvent → Bool
  | .message _ len (some data) => 0 < len && data.getD 0 0 ∈ driveTypes
  | _ => false

/-- If no message of the counted kind was handled in the last `NO_MESSAGE_STOP_DELAY`
microseconds before `t`, the watchdog call at `t` leaves a stop request. -/
def StopsOnSilence (counts : RobotEvent → Bool) (es : List RobotEvent) (s : RobotState)
    (t : Int) : Prop :=
  (∀ e ∈ es, counts e → e.time < t - noMessageStopDelay) →
    (updateLed t s).requestedMotion = .stop ∧ (updateLed t s).requestedSpeed = 0

/-- The request is a stop, or the watchdog timestamp is that of a handled message. -/
def WatchdogInv (es : List RobotEvent) (s : RobotState) : Prop :=
  (s.requestedMotion = .stop ∧ s.requestedSpeed = 0) ∨
    ∃ e ∈ es, isMessage e ∧ e.time = s.ledUpdatedTime

/-- A watchdog call that finds the delay exceeded requests a stop. -/
theorem updateLed_of_exceeded {t : Int} {s : RobotState}
    (h : t - s.ledUpdatedTime > noMessageStopDelay) :
    (updateLed t s).requestedMotion = .stop ∧ (updateLed t s).requestedSpeed = 0 := by
  rw [updateLed, if_pos h]
  exact ⟨rfl, rfl⟩

/-- A watchdog call within the delay changes nothing. -/
theorem updateLed_of_recent {t : Int} {s : RobotState}
    (h : ¬ t - s.ledUpdatedTime > noMessageStopDelay) : updateLed t s = s := if_neg h

private theorem WatchdogInv.extend {es : List RobotEvent} {e : RobotEvent} {s t : RobotState}
    (h : WatchdogInv es s) (hm : t.requestedMotion = s.requestedMotion)
    (hs : t.requestedSpeed = s.requestedSpeed) (hl : t.ledUpdatedTime = s.ledUpdatedTime) :
    WatchdogInv (es ++ [e]) t := by
  rcases h with h | ⟨a, ha, hmsg, htime⟩
  · exact .inl (by rw [hm, hs]; exact h)
  · exact .inr ⟨a, by simp [ha], hmsg, by rw [hl, htime]⟩

/-- Every step keeps the watchdog invariant. -/
theorem watchdogInv_step {es : List RobotEvent} {s t : RobotState} {e : RobotEvent}
    (h : WatchdogInv es s) (ht : step s e = some t) : WatchdogInv (es ++ [e]) t := by
  cases e with
  | message now len value =>
    rcases handleControlMessage_cases ht with ⟨_, rfl⟩ | ⟨data, rfl, hlen, hcase⟩
    · exact h.extend rfl rfl rfl
    · refine .inr ⟨.message now len (some data), by simp, by simpa [isMessage] using hlen, ?_⟩
      rcases hcase with ⟨motion, speed, rfl⟩ | rfl | rfl <;> rfl
  | updateLed boottime =>
    cases ht
    by_cases hd : boottime - s.ledUpdatedTime > noMessageStopDelay
    · exact .inl (updateLed_of_exceeded hd)
    · rw [updateLed_of_recent hd]
      exact h.extend rfl rfl rfl
  | motorControl now =>
    cases ht
    obtain ⟨hm, hs, hl⟩ := motorControlTask_request s
    exact h.extend hm hs hl

/-- The watchdog invariant holds after every run. -/
theorem watchdogInv_run {es : List RobotEvent} {s : RobotState}
    (h : run step initial es = some s) : WatchdogInv es s :=
  run_history (I := WatchdogInv) (.inl ⟨rfl, rfl⟩)
    (fun _ _ _ _ _ hi ht ↦ watchdogInv_step hi ht) h

private def heartbeatRun : List RobotEvent :=
  [.message 0 5 (some (addMessageToSend 8 125).data.toList), .motorControl 20000,
    .message 500000 5 (some (addMessageToSend 12 5).data.toList),
    .updateLed 1200000,
    .message 1400000 2 (some txMsgBeats.data.toList), .updateLed 2000000,
    .message 2300000 2 (some txMsgBeats.data.toList)]

/-- Counting only the driving types, the law fails: a servo frame and idle heartbeats keep
a forward request alive for seconds after the last driving frame. -/
theorem heartbeats_keep_driving :
    ¬ ∀ es s t, Timed RobotEvent.time (es ++ [.updateLed t]) → run step initial es = some s →
      StopsOnSilence isDriveMessage es s t := by
  intro h
  have hs := h heartbeatRun _ 3200000 (by simp [heartbeatRun, Timed, RobotEvent.time]) rfl
    (by decide)
  exact absurd hs.1 (by decide)

/-- After every run, a watchdog call at `t` leaves a stop request if no message of any type
was handled in the last `NO_MESSAGE_STOP_DELAY` microseconds. -/
theorem stops_on_bus_silence (es : List RobotEvent) (s : RobotState) (t : Int)
    (h : run step initial es = some s) : StopsOnSilence isMessage es s t := by
  intro hsilent
  by_cases hd : t - s.ledUpdatedTime > noMessageStopDelay
  · exact updateLed_of_exceeded hd
  · rw [updateLed_of_recent hd]
    rcases watchdogInv_run h with hstop | ⟨e, he, hmsg, htime⟩
    · exact hstop
    · have hlt := hsilent e he hmsg
      omega

/-- The same run, with the watchdog call more than a second after the last heartbeat. -/
theorem stops_on_bus_silence_heartbeats :
    ∃ s, run step initial heartbeatRun = some s ∧ s.requestedMotion = .forward ∧
      (updateLed 3300001 s).requestedMotion = .stop ∧ (updateLed 3300001 s).requestedSpeed = 0 :=
  ⟨_, rfl, rfl, stops_on_bus_silence heartbeatRun _ 3300001 rfl (by decide)⟩

end Esp32Robot.Robot

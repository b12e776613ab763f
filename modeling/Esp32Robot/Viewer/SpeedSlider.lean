import Esp32Robot.Viewer.App

/-!
# The speed slider

The throttle of `publishRobotSpeed` in `webrtc_public_gateway/web/app.js` while the MQTT
client stays connected: forced calls and late ones publish at once, the others wait for
a timer. A publish needs a command topic in its field, which the throttle does not look
at.
-/

namespace Esp32Robot.Viewer

open Esp32Robot.Base Esp32Robot.Webrtc

/-- `throttleMs`, `app.js:562`. -/
def throttleMs : Int := 120

/-- A command that was published, with the clock before and after, and whether it was forced. -/
structure SpeedPublish where
  topic : CString
  cmd : CString
  forced : Bool
  now : Int
  done : Int
  deriving DecidableEq

/-- The variables of `app.js:16–18`, a timer being the time at which it is due; whether the client
is connected, the command topic without blanks around it, the clock at the end of the last
handler, and what was published. -/
structure SpeedSlider where
  connected : Bool
  cmdTopic : CString
  lastRobotSpeedPublishMs : Int
  robotSpeedPublishTimer : Option Int
  pendingRobotSpeedValue : Option CString
  clock : Int
  published : List SpeedPublish
  deriving DecidableEq

/-- The command for a value. -/
def robotSpeedCmd (value : CString) : CString := .append (.lit "ROBOT_SPEED:") value

namespace SpeedSlider

/-- The client just connected, at some time after the last publish. -/
def start (cmdTopic : CString) (last clock : Int) : SpeedSlider where
  connected := true
  cmdTopic := cmdTopic
  lastRobotSpeedPublishMs := last
  robotSpeedPublishTimer := none
  pendingRobotSpeedValue := none
  clock := clock
  published := []

/-- `mqttPublishCommand`, `app.js:520–538`, called between two times. -/
def mqttPublishCommand (cmd : CString) (forced : Bool) (now done : Int) (s : SpeedSlider) :
    SpeedSlider :=
  if !s.connected then s
  else if s.cmdTopic.bytes = [] then s
  else { s with published := s.published ++ [⟨s.cmdTopic, cmd, forced, now, done⟩] }

/-- `publish` of `publishRobotSpeed`, `app.js:563–566`. -/
def publish (value : CString) (forced : Bool) (now done : Int) (s : SpeedSlider) : SpeedSlider :=
  { mqttPublishCommand (robotSpeedCmd value) forced now done s with
    lastRobotSpeedPublishMs := done }

/-- `publishRobotSpeed`, `app.js:557–588`. -/
def publishRobotSpeed (speedValue : CString) (forceImmediate : Bool) (now done : Int)
    (s : SpeedSlider) : SpeedSlider :=
  if !s.connected then s
  else if forceImmediate || throttleMs ≤ now - s.lastRobotSpeedPublishMs then
    publish speedValue forceImmediate now done
      { s with robotSpeedPublishTimer := none, pendingRobotSpeedValue := none }
  else
    { s with
      pendingRobotSpeedValue := some speedValue
      robotSpeedPublishTimer :=
        s.robotSpeedPublishTimer.or
          (some (now + (throttleMs - (now - s.lastRobotSpeedPublishMs)))) }

/-- The callback of the timer, `app.js:580–586`. -/
def onTimer (now done : Int) (s : SpeedSlider) : SpeedSlider :=
  let s := { s with robotSpeedPublishTimer := none }
  match s.pendingRobotSpeedValue with
  | some value => { publish value false now done s with pendingRobotSpeedValue := none }
  | none => s

end SpeedSlider

/-- A call of `publishRobotSpeed`, the timer, each with the clock before and after, or an edit of
the topic field. -/
inductive SliderEvent where
  | call (speedValue : CString) (forceImmediate : Bool) (now done : Int)
  | timer (now done : Int)
  | editTopic (cmdTopic : CString)
  deriving DecidableEq

namespace SpeedSlider

/-- One step. The clock does not go back, and the timer fires when it is due or later. -/
def step (s : SpeedSlider) : SliderEvent → Option SpeedSlider
  | .call speedValue forceImmediate now done =>
    if s.clock ≤ now ∧ now ≤ done then
      some { publishRobotSpeed speedValue forceImmediate now done s with clock := done }
    else none
  | .timer now done =>
    match s.robotSpeedPublishTimer with
    | some due =>
      if due ≤ now ∧ s.clock ≤ now ∧ now ≤ done then some { onTimer now done s with clock := done }
      else none
    | none => none
  | .editTopic cmdTopic => some { s with cmdTopic }

end SpeedSlider

/-- The value of a call. -/
def SliderEvent.value? : SliderEvent → Option CString
  | .call speedValue _ _ _ => some speedValue
  | _ => none

/-- The value of the last call. -/
def lastValue (es : List SliderEvent) : Option CString := (es.filterMap SliderEvent.value?).getLast?

/-- The event leaves a command topic in the field. -/
def SliderEvent.KeepsTopic (e : SliderEvent) : Prop :=
  ∀ cmdTopic, e = .editTopic cmdTopic → cmdTopic.bytes ≠ []

namespace SpeedSlider

/-- Every publish that is not forced begins at least `throttleMs` after the earlier ones ended. -/
def RateLimited (published : List SpeedPublish) : Prop :=
  Throughout (fun pre p ↦ p.forced = false → ∀ q ∈ pre, q.done + throttleMs ≤ p.now) published

/-- After the events so far, the last command is the one of the last call unless the timer is set;
then it is pending and published when the timer fires. Publishes that are not forced are rate
limited, and every next one is that of the last call. -/
structure ThrottleKept (es : List SliderEvent) (s : SpeedSlider) : Prop where
  idle : s.robotSpeedPublishTimer = none →
    s.published.getLast?.map SpeedPublish.cmd = (lastValue es).map robotSpeedCmd
  armed : ∀ due, s.robotSpeedPublishTimer = some due →
    ∃ value, lastValue es = some value ∧ s.pendingRobotSpeedValue = some value ∧
      ∀ now done t, s.step (.timer now done) = some t →
        ∃ p, t.published = s.published ++ [p] ∧ p.cmd = robotSpeedCmd value
  rate : RateLimited s.published
  fresh : ∀ e t, s.step e = some t → ∃ new, t.published = s.published ++ new ∧
    ∀ p ∈ new, some p.cmd = (lastValue (es ++ [e])).map robotSpeedCmd

/-! ### One step -/

variable {es : List SliderEvent} {s t : SpeedSlider}

/-- A publish writes one command at most. -/
theorem published_publish (value : CString) (forced : Bool) (now done : Int) (s : SpeedSlider) :
    ∃ new, (publish value forced now done s).published = s.published ++ new ∧
      ∀ p ∈ new, p.cmd = robotSpeedCmd value := by
  simp only [publish, mqttPublishCommand]
  split
  · exact ⟨[], by simp, List.forall_mem_nil _⟩
  · split
    · exact ⟨[], by simp, List.forall_mem_nil _⟩
    · exact ⟨_, rfl, by simp⟩

/-- While the client is connected and there is a topic, a publish writes its command. -/
theorem publish_eq (hconnected : s.connected = true) (htopic : s.cmdTopic.bytes ≠ [])
    (value : CString) (forced : Bool) (now done : Int) :
    publish value forced now done s = { s with
      published := s.published ++ [⟨s.cmdTopic, robotSpeedCmd value, forced, now, done⟩]
      lastRobotSpeedPublishMs := done } := by
  simp [publish, mqttPublishCommand, hconnected, htopic]

/-- A call while the client is connected publishes at once, or sets the timer if it is not set. -/
theorem publishRobotSpeed_cases (hconnected : s.connected = true) (value : CString)
    (force : Bool) (now done : Int) :
    ((force = false → throttleMs ≤ now - s.lastRobotSpeedPublishMs) ∧
      publishRobotSpeed value force now done s = publish value force now done
        { s with robotSpeedPublishTimer := none, pendingRobotSpeedValue := none }) ∨
    publishRobotSpeed value force now done s = { s with
      pendingRobotSpeedValue := some value
      robotSpeedPublishTimer := s.robotSpeedPublishTimer.or
        (some (now + (throttleMs - (now - s.lastRobotSpeedPublishMs)))) } := by
  unfold publishRobotSpeed
  rw [if_neg (by simp [hconnected])]
  split
  · next hnow =>
    simp only [Bool.or_eq_true, decide_eq_true_eq] at hnow
    exact .inl ⟨fun hforce ↦ hnow.resolve_left (by simp [hforce]), rfl⟩
  · exact .inr rfl

/-- The timer publishes the pending value. -/
theorem onTimer_eq {value : CString} (hpending : s.pendingRobotSpeedValue = some value)
    (now done : Int) :
    onTimer now done s = { publish value false now done { s with robotSpeedPublishTimer := none }
      with pendingRobotSpeedValue := none } := by
  simp only [onTimer, hpending]

/-- The value of the last call after one more event. -/
theorem lastValue_concat (es : List SliderEvent) (e : SliderEvent) :
    lastValue (es ++ [e]) = e.value?.or (lastValue es) := by
  unfold lastValue
  rw [List.filterMap_append]
  cases hvalue : e.value? with
  | none => simp [hvalue]
  | some value => simp [hvalue]

/-- What was published while there was a topic in the field. -/
structure PublishInv (s : SpeedSlider) : Prop where
  connected : s.connected = true
  topic : s.cmdTopic.bytes ≠ []
  clock : s.lastRobotSpeedPublishMs ≤ s.clock
  logged : ∀ p ∈ s.published, p.done ≤ s.lastRobotSpeedPublishMs
  rate : RateLimited s.published

/-- What holds after the events so far. -/
structure SliderInv (es : List SliderEvent) (s : SpeedSlider) : Prop extends PublishInv s where
  idle : s.robotSpeedPublishTimer = none →
    s.published.getLast?.map SpeedPublish.cmd = (lastValue es).map robotSpeedCmd
  armed : ∀ due, s.robotSpeedPublishTimer = some due →
    due = s.lastRobotSpeedPublishMs + throttleMs ∧
      ∃ value, lastValue es = some value ∧ s.pendingRobotSpeedValue = some value

/-- The client just connected. -/
theorem sliderInv_start {cmdTopic : CString} {last clock : Int} (htopic : cmdTopic.bytes ≠ [])
    (hclock : last ≤ clock) : SliderInv [] (start cmdTopic last clock) where
  connected := rfl
  topic := htopic
  clock := hclock
  idle _ := rfl
  armed _ h := absurd h (by simp [start])
  logged := List.forall_mem_nil _
  rate := throughout_nil

/-- A publish of the last value, when it is forced or late enough, leaves no timer and is the last
one. -/
theorem sliderInv_publish {value : CString} {forced : Bool} {now done : Int} (h : PublishInv s)
    (htimer : s.robotSpeedPublishTimer = none) (hvalue : lastValue es = some value)
    (hclock : s.clock ≤ now) (hdone : now ≤ done)
    (hlate : forced = false → s.lastRobotSpeedPublishMs + throttleMs ≤ now)
    (pending : Option CString) :
    SliderInv es { publish value forced now done s with
      pendingRobotSpeedValue := pending
      clock := done } := by
  rw [publish_eq h.connected h.topic]
  constructor
  · constructor
    case connected => exact h.connected
    case topic => exact h.topic
    case clock => exact Int.le_refl done
    case logged =>
      have := h.clock
      intro p hp
      rcases List.mem_append.mp hp with hp | hp
      · have := h.logged p hp
        simp only
        omega
      · cases List.mem_singleton.mp hp
        exact Int.le_refl done
    case rate =>
      refine throughout_concat.mpr ⟨h.rate, ?_⟩
      intro hforced q hq
      have := h.logged q hq
      have := hlate hforced
      simp only at *
      omega
  · intro _
    simp [hvalue]
  · intro due hdue
    exact absurd (htimer.symm.trans hdue) (by simp)

/-- Every event that leaves a topic keeps what holds. -/
theorem sliderInv_step {e : SliderEvent} (h : SliderInv es s) (htopic : e.KeepsTopic)
    (ht : s.step e = some t) : SliderInv (es ++ [e]) t := by
  cases e with
  | call value force now done =>
    have hvalue : lastValue (es ++ [.call value force now done]) = some value := by
      rw [lastValue_concat]
      rfl
    simp only [step] at ht
    split at ht
    · next hclock =>
      cases ht
      rcases publishRobotSpeed_cases h.connected value force now done with ⟨hnow, heq⟩ | heq
      · rw [heq]
        refine sliderInv_publish (s := { s with
          robotSpeedPublishTimer := none, pendingRobotSpeedValue := none }) ?_ rfl hvalue hclock.1
          hclock.2 ?_ _
        · exact ⟨h.connected, h.topic, h.clock, h.logged, h.rate⟩
        · intro hforce
          have := hnow hforce
          simp only
          omega
      · rw [heq]
        constructor
        · have := h.clock
          exact ⟨h.connected, h.topic, by simp only; omega, h.logged, h.rate⟩
        · intro hnone
          exact absurd hnone (by simp)
        · intro due hdue
          refine ⟨?_, value, hvalue, rfl⟩
          cases htimer : s.robotSpeedPublishTimer with
          | none =>
            simp only [htimer, Option.none_or, Option.some.injEq] at hdue
            simp only
            omega
          | some due' =>
            simp only [htimer, Option.some_or, Option.some.injEq] at hdue
            exact hdue ▸ (h.armed due' htimer).1
    · exact absurd ht (by simp)
  | timer now done =>
    have hsame : lastValue (es ++ [.timer now done]) = lastValue es := lastValue_concat es _
    simp only [step] at ht
    split at ht
    · next due htimer =>
      obtain ⟨hdue, value, hvalue, hpending⟩ := h.armed due htimer
      split at ht
      · next hclock =>
        cases ht
        rw [onTimer_eq hpending]
        refine sliderInv_publish (s := { s with robotSpeedPublishTimer := none }) ?_ rfl
          (hsame.trans hvalue) hclock.2.1 hclock.2.2 ?_ none
        · exact ⟨h.connected, h.topic, h.clock, h.logged, h.rate⟩
        · intro _
          simp only
          omega
      · exact absurd ht (by simp)
    · exact absurd ht (by simp)
  | editTopic cmdTopic =>
    have hsame : lastValue (es ++ [.editTopic cmdTopic]) = lastValue es := lastValue_concat es _
    cases ht
    exact
      { connected := h.connected
        topic := htopic cmdTopic rfl
        clock := h.clock
        logged := h.logged
        rate := h.rate
        idle := by rw [hsame]; exact h.idle
        armed := by rw [hsame]; exact h.armed }

/-- A step publishes nothing, or the value of the last call. -/
theorem sliderInv_fresh {e : SliderEvent} (h : SliderInv es s) (ht : s.step e = some t) :
    ∃ new, t.published = s.published ++ new ∧
      ∀ p ∈ new, some p.cmd = (lastValue (es ++ [e])).map robotSpeedCmd := by
  rw [lastValue_concat]
  cases e with
  | call value force now done =>
    simp only [step] at ht
    split at ht
    · cases ht
      rcases publishRobotSpeed_cases h.connected value force now done with ⟨_, heq⟩ | heq
      · rw [heq]
        obtain ⟨new, hnew, hcmd⟩ := published_publish value force now done
          { s with robotSpeedPublishTimer := none, pendingRobotSpeedValue := none }
        exact ⟨new, hnew, fun p hp ↦ congrArg some (hcmd p hp)⟩
      · rw [heq]
        exact ⟨[], (List.append_nil _).symm, List.forall_mem_nil _⟩
    · exact absurd ht (by simp)
  | timer now done =>
    simp only [step] at ht
    split at ht
    · next due htimer =>
      obtain ⟨_, value, hvalue, hpending⟩ := h.armed due htimer
      split at ht
      · cases ht
        rw [onTimer_eq hpending]
        obtain ⟨new, hnew, hcmd⟩ := published_publish value false now done
          { s with robotSpeedPublishTimer := none }
        refine ⟨new, hnew, fun p hp ↦ ?_⟩
        simp [hcmd p hp, hvalue, SliderEvent.value?]
      · exact absurd ht (by simp)
    · exact absurd ht (by simp)
  | editTopic cmdTopic =>
    cases ht
    exact ⟨[], (List.append_nil _).symm, List.forall_mem_nil _⟩

/-- When the timer fires, the pending value is published. -/
theorem sliderInv_timer {now done : Int} {value : CString} (h : SliderInv es s)
    (hpending : s.pendingRobotSpeedValue = some value) (ht : s.step (.timer now done) = some t) :
    ∃ p, t.published = s.published ++ [p] ∧ p.cmd = robotSpeedCmd value := by
  simp only [step] at ht
  split at ht
  · split at ht
    · cases ht
      rw [onTimer_eq hpending,
        publish_eq (s := { s with robotSpeedPublishTimer := none }) h.connected h.topic]
      exact ⟨_, rfl, rfl⟩
    · exact absurd ht (by simp)
  · exact absurd ht (by simp)

/-! ### Runs -/

/-- While the client stays connected and there is a command topic in the field, the throttle keeps
the last value: it is published or pending, at the limited rate, and nothing older follows it. -/
theorem throttleKept {cmdTopic : CString} {last clock : Int} (htopic : cmdTopic.bytes ≠ [])
    (hclock : last ≤ clock) (hkeeps : ∀ e ∈ es, e.KeepsTopic)
    (h : run step (start cmdTopic last clock) es = some s) : ThrottleKept es s := by
  have hinv : SliderInv es s := by
    refine run_history (I := fun es s ↦ (∀ e ∈ es, e.KeepsTopic) → SliderInv es s)
      (fun _ ↦ sliderInv_start htopic hclock) ?_ h hkeeps
    intro es s e t _ hs ht hkeeps
    exact sliderInv_step (hs fun e he ↦ hkeeps e (by simp [he])) (hkeeps e (by simp)) ht
  exact
    { idle := hinv.idle
      armed := fun due hdue ↦
        have ⟨_, value, hvalue, hpending⟩ := hinv.armed due hdue
        ⟨value, hvalue, hpending, fun _ _ _ ht ↦ sliderInv_timer hinv hpending ht⟩
      rate := hinv.rate
      fresh := fun _ _ ht ↦ sliderInv_fresh hinv ht }

/-- A drag of the slider with a pending value that the timer publishes. -/
private def drag : List SliderEvent :=
  [.call (.lit "100") false 1000 1001, .call (.lit "150") false 1050 1050, .timer 1121 1122,
    .call (.lit "160") true 1130 1130]

/-- The drag is such a run. -/
theorem throttleKept_drag :
    ∃ s, run step (start (.lit "robot/cmd") 0 1000) drag = some s ∧ ThrottleKept drag s := by
  obtain ⟨s, hs⟩ : ∃ s, run step (start (.lit "robot/cmd") 0 1000) drag = some s := ⟨_, rfl⟩
  exact ⟨s, hs, throttleKept (by decide) (by decide) (by simp [drag, SliderEvent.KeepsTopic]) hs⟩

/-- The topic field is emptied before a forced call. -/
private def emptiedTopic : List SliderEvent :=
  [.editTopic (.lit ""), .call (.lit "200") true 1000 1000]

/-- With an empty topic field the last value is neither published nor pending. -/
theorem emptied_topic_drops :
    ¬ ∀ cmdTopic last clock es s, last ≤ clock →
      run step (start cmdTopic last clock) es = some s → ThrottleKept es s := by
  intro h
  have hkept := h (.lit "robot/cmd") 0 1000 emptiedTopic _ (by decide) rfl
  exact absurd (hkept.idle rfl) (by decide)

/-! ### The viewer's model -/

/-- The commands that were published to a topic. -/
def commandsTo (topic : CString) (s : SpeedSlider) : List CString :=
  (s.published.filter (fun p ↦ p.topic = topic)).map SpeedPublish.cmd

/-- To the command topic of the P4 both models of `mqttPublishCommand` publish the same. -/
theorem commandsTo_mqttPublishCommand {v : App} {topic cmd : CString} (htopic : topic.bytes ≠ [])
    (hcmd : cmd.bytes ≠ []) (hconnected : v.connected = s.connected)
    (hcmdTopic : v.cmdTopic = decide (s.cmdTopic = topic))
    (hpublished : s.commandsTo topic = v.published) (forced : Bool) (now done : Int) :
    (s.mqttPublishCommand cmd forced now done).commandsTo topic =
      (v.sendCommand cmd).published := by
  simp only [mqttPublishCommand, App.sendCommand, if_neg hcmd, App.publishIfConnected,
    App.canPublish, hconnected, hcmdTopic]
  cases hs : s.connected with
  | false => simpa using hpublished
  | true =>
    by_cases hsame : s.cmdTopic = topic
    · simp [hsame, htopic, commandsTo, App.publish, ← hpublished]
    · by_cases hempty : s.cmdTopic.bytes = []
      · simp [hempty, hsame, hpublished]
      · simp [hempty, hsame, commandsTo, ← hpublished]

end SpeedSlider

end Esp32Robot.Viewer

import Esp32Robot.Webrtc.MqttControl

/-!
# The MQTT bridge

`IDF_esp32p4_webrtc/main/mqtt_bridge.c`: the client with its flags, and the
telemetry task that every start creates. An instance of the task polls `s_started`
once in two seconds and ends when it finds it false. A stop that is followed by a
start within that time goes unnoticed, and the instance runs on beside the next one.
-/

namespace Esp32Robot.Webrtc

open Esp32Robot.Base

/-- An instance of `mqtt_pub_task`, and the started period in which it was created. -/
structure PubTask where
  period : Nat
  alive : Bool
  deriving DecidableEq, Repr

/-- The static variables of `mqtt_bridge.c`, whether there is a client, every instance of the task
made so far, the number of started periods, and the instances that published, oldest first. -/
structure MqttBridge where
  client : Bool
  pubTask : Option Nat
  connected : Bool
  started : Bool
  tasks : List PubTask
  periods : Nat
  published : List Nat
  deriving DecidableEq, Repr

namespace MqttBridge

/-- The static initial values. -/
def initial : MqttBridge where
  client := false
  pubTask := none
  connected := false
  started := false
  tasks := []
  periods := 0
  published := []

/-- `mqtt_bridge_start`, `mqtt_bridge.c:78–100`, with the outcomes of `esp_mqtt_client_init` and
`xTaskCreate`; the latter is not looked at. -/
def mqttBridgeStart (clientInit taskCreated : Bool) (s : MqttBridge) : MqttBridge × Int :=
  if s.started then (s, 0)
  else if clientInit then
    let s := { s with
      client := true
      started := true
      connected := false
      periods := s.periods + 1 }
    if taskCreated then
      ({ s with pubTask := some s.tasks.length, tasks := s.tasks ++ [⟨s.periods, true⟩] }, 0)
    else (s, 0)
  else ({ s with client := false }, -1)

/-- `mqtt_bridge_stop`, `mqtt_bridge.c:102–116`. -/
def mqttBridgeStop (s : MqttBridge) : MqttBridge :=
  if s.started then
    { s with started := false, connected := false, client := false, pubTask := none }
  else s

/-- What `mqtt_event_handler` does to `s_connected`, `mqtt_bridge.c:51–57`. -/
def mqttEventHandler (connected : Bool) (s : MqttBridge) : MqttBridge :=
  { s with connected := connected }

/-- One turn of instance `i` of `mqtt_pub_task`, `mqtt_bridge.c:32–44`: it publishes when there is
a connection and sleeps, or ends. -/
def mqttPubTask (i : Nat) (s : MqttBridge) : MqttBridge :=
  if s.started then
    { s with published := if s.connected && s.client then s.published ++ [i] else s.published }
  else { s with tasks := s.tasks.modify i (fun t ↦ { t with alive := false }) }

end MqttBridge

/-- What can happen: a call, a change of the broker connection, or a turn of an instance. -/
inductive BridgeEvent where
  | start (clientInit taskCreated : Bool)
  | stop
  | connection (connected : Bool)
  | pubTask (i : Nat)
  deriving DecidableEq, Repr

namespace MqttBridge

/-- One step. Only a client reports its connection, and only an instance that is alive runs. -/
def step (s : MqttBridge) : BridgeEvent → Option MqttBridge
  | .start clientInit taskCreated => some (s.mqttBridgeStart clientInit taskCreated).1
  | .stop => some s.mqttBridgeStop
  | .connection connected => if s.client then some (s.mqttEventHandler connected) else none
  | .pubTask i =>
    if (s.tasks[i]?.map PubTask.alive).getD false then some (s.mqttPubTask i) else none

/-- The two flags are those that the model of the P4 has. -/
def FlagsOf (p : P4State) (s : MqttBridge) : Prop :=
  s.started = p.mqttStarted ∧ s.connected = p.mqttConnected

/-- The network callback of the P4 starts and stops the bridge, and the flags stay the same on both
sides, as long as the client can be made. -/
theorem flagsOf_networkEventHandler {p : P4State} {s : MqttBridge} (h : s.FlagsOf p)
    (rssi : Int) (connected taskCreated : Bool) :
    (if connected then (s.mqttBridgeStart true taskCreated).1 else s.mqttBridgeStop).FlagsOf
      (networkEventHandler rssi connected p) := by
  obtain ⟨hstarted, hconnected⟩ := h
  cases connected with
  | true =>
    simp only [if_true, networkEventHandler, mqttBridgeStart, ← hstarted]
    split
    · exact ⟨rfl, hconnected⟩
    · cases taskCreated <;> exact ⟨rfl, rfl⟩
  | false =>
    simp only [Bool.false_eq_true, if_false, networkEventHandler, mqttBridgeStop, ← hstarted]
    split
    · exact ⟨rfl, rfl⟩
    · exact ⟨hstarted, hconnected⟩

/-! ### One instance -/

/-- While the bridge is started at most one instance is alive, and it was created since. -/
def SingleTask (s : MqttBridge) : Prop :=
  s.started = true →
    s.tasks.countP PubTask.alive ≤ 1 ∧ ∀ t ∈ s.tasks, t.alive = true → t.period = s.periods

/-- There is a single instance all along the run. -/
def KeepsSingleTask (es : List BridgeEvent) : Prop :=
  ∀ pre s, pre <+: es → run step initial pre = some s → SingleTask s

/-- A start that begins a new period finds no instance alive. -/
def StartsAlone (s : MqttBridge) : BridgeEvent → Prop
  | .start true _ => s.started = false → ∀ t ∈ s.tasks, t.alive = false
  | _ => True

/-- Instances are created in the periods so far, and there is a single one. -/
structure TasksInv (s : MqttBridge) : Prop where
  period : ∀ t ∈ s.tasks, t.period ≤ s.periods
  single : SingleTask s

/-- A start that begins no period leaves the instances. -/
theorem start_cases (clientInit taskCreated : Bool) (s : MqttBridge) :
    ((s.started = true ∨ clientInit = false) ∧
      (s.mqttBridgeStart clientInit taskCreated).1.started = s.started ∧
      (s.mqttBridgeStart clientInit taskCreated).1.tasks = s.tasks ∧
      (s.mqttBridgeStart clientInit taskCreated).1.periods = s.periods) ∨
    ((s.started = false ∧ clientInit = true) ∧
      (s.mqttBridgeStart clientInit taskCreated).1.started = true ∧
      (s.mqttBridgeStart clientInit taskCreated).1.tasks =
        s.tasks ++ (if taskCreated then [⟨s.periods + 1, true⟩] else []) ∧
      (s.mqttBridgeStart clientInit taskCreated).1.periods = s.periods + 1) := by
  cases hstarted : s.started with
  | true => exact .inl ⟨.inl rfl, by simp [mqttBridgeStart, hstarted]⟩
  | false =>
    cases clientInit with
    | false => exact .inl ⟨.inr rfl, by simp [mqttBridgeStart, hstarted]⟩
    | true =>
      refine .inr ⟨⟨rfl, rfl⟩, ?_⟩
      cases taskCreated <;> simp [mqttBridgeStart, hstarted]

/-- Instances that stay as they are keep a single one. -/
theorem TasksInv.keep {s t : MqttBridge} (h : TasksInv s) (htasks : t.tasks = s.tasks)
    (hperiods : t.periods = s.periods) (hstarted : t.started = true → s.started = true) :
    TasksInv t where
  period := by
    rw [htasks, hperiods]
    exact h.period
  single := by
    intro ht
    rw [htasks, hperiods]
    exact h.single (hstarted ht)

/-- Every step, if it is no start beside an instance that is alive, keeps a single one. -/
theorem tasksInv_step {s t : MqttBridge} {e : BridgeEvent} (h : TasksInv s)
    (he : StartsAlone s e) (ht : s.step e = some t) : TasksInv t := by
  cases e with
  | start clientInit taskCreated =>
    cases ht
    rcases start_cases clientInit taskCreated s with
      ⟨_, hstarted, htasks, hperiods⟩ | ⟨⟨hstopped, rfl⟩, _, htasks, hperiods⟩
    · exact h.keep htasks hperiods (fun ht ↦ hstarted ▸ ht)
    · have halone : ∀ t ∈ s.tasks, t.alive = false := he hstopped
      have hcount : s.tasks.countP PubTask.alive = 0 :=
        List.countP_eq_zero.mpr fun t ht ↦ by simp [halone t ht]
      constructor
      · rw [htasks, hperiods]
        intro t ht
        rcases List.mem_append.mp ht with ht | ht
        · exact Nat.le_succ_of_le (h.period t ht)
        · split at ht
          · exact Nat.le_of_eq (by rw [List.mem_singleton.mp ht])
          · exact absurd ht List.not_mem_nil
      · intro _
        rw [htasks, hperiods]
        constructor
        · rw [List.countP_append, hcount]
          split <;> simp
        · intro t ht halive
          rcases List.mem_append.mp ht with ht | ht
          · rw [halone t ht] at halive
            exact absurd halive Bool.false_ne_true
          · split at ht
            · rw [List.mem_singleton.mp ht]
            · exact absurd ht List.not_mem_nil
  | stop =>
    cases ht
    refine h.keep ?_ ?_ ?_ <;> unfold mqttBridgeStop <;> split <;> simp_all
  | connection connected =>
    simp only [step] at ht
    split at ht
    · cases ht
      exact h.keep rfl rfl id
    · exact absurd ht (by simp)
  | pubTask i =>
    simp only [step] at ht
    split at ht
    · cases ht
      unfold mqttPubTask
      split
      · exact h.keep rfl rfl id
      · next hstopped =>
        constructor
        · intro t ht
          obtain ⟨j, hj⟩ := List.getElem?_of_mem ht
          rw [List.getElem?_modify] at hj
          obtain ⟨u, hu, rfl⟩ := Option.map_eq_some_iff.mp hj
          have hperiod := h.period u (List.mem_of_getElem? hu)
          dsimp only
          split <;> exact hperiod
        · intro hstarted
          exact absurd hstarted hstopped
    · exact absurd ht (by simp)

/-- A start that begins a period beside an instance that is alive breaks the rule. -/
theorem not_singleTask_start {s : MqttBridge} (h : TasksInv s) {t : PubTask} (ht : t ∈ s.tasks)
    (halive : t.alive = true) (hstopped : s.started = false) (taskCreated : Bool) :
    ¬ SingleTask (s.mqttBridgeStart true taskCreated).1 := by
  intro hsingle
  rcases start_cases true taskCreated s with ⟨hno, _⟩ | ⟨_, hstarted, htasks, hperiods⟩
  · simp [hstopped] at hno
  · have hperiod := (hsingle hstarted).2 t (by rw [htasks]; exact List.mem_append_left _ ht) halive
    have hle := h.period t ht
    omega

/-- The network is lost and comes back while the first instance sleeps. -/
private def networkFlap : List BridgeEvent :=
  [.start true true, .pubTask 0, .stop, .start true true]

/-- After a short loss of the network two instances are alive. -/
theorem two_telemetry_tasks : ¬ ∀ es, KeepsSingleTask es := by
  intro h
  have hflap := h networkFlap networkFlap _ (List.prefix_refl _) rfl
  exact absurd (hflap rfl).1 (by decide)

/-- There is a single instance of the telemetry task all along a run exactly when every start that
begins a period finds none alive. -/
theorem keepsSingleTask_iff (es : List BridgeEvent) :
    KeepsSingleTask es ↔ StepsMeet StartsAlone step initial es := by
  have hinit : TasksInv initial := ⟨fun t ht ↦ absurd ht List.not_mem_nil, fun h ↦ nomatch h⟩
  apply along_iff hinit (fun _ _ _ hs he ht ↦ tasksInv_step hs he ht) (fun _ hs ↦ hs.single)
  intro s e hs hnext
  unfold StartsAlone
  split
  · next taskCreated =>
    intro hstopped t ht
    rw [← Bool.not_eq_true]
    intro halive
    exact not_singleTask_start hs ht halive hstopped taskCreated (hnext _ rfl)
  · trivial

end MqttBridge

end Esp32Robot.Webrtc

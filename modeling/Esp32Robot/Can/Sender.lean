import Esp32Robot.Base.Queue
import Esp32Robot.Base.Run
import Esp32Robot.Webrtc.Commands

/-!
# CAN sender of the P4

The command processors of `IDF_esp32p4_webrtc/main/webrtc.c` in their two tasks,
the send queue and `canbus_send_task` of `submodules/robot_canbus`. No result is
looked at: a frame is lost when `xQueueSend` gives up on the full queue, and when
`twai_transmit` returns an error.
-/

namespace Esp32Robot.Can

open Esp32Robot.Base Esp32Robot.Webrtc

/-- `MAX_QUEUE_ELEMENT`, `robot_canbus.c:64`. -/
def maxQueueElement : Nat := 10

/-- The tasks that run the command processors. -/
inductive Producer where
  | mqtt
  | signaling
  deriving DecidableEq, Repr

/-- The command processors. -/
inductive Processor where
  | servo
  | servoConfig
  | move
  | moveConfig
  deriving DecidableEq, Repr

/-- The processor's function. -/
def Processor.run : Processor → CString → CommandState → Bool × CommandState
  | .servo => processServoCommand
  | .servoConfig => processServoConfigCommand
  | .move => processMoveCommand
  | .moveConfig => processMoveConfigCommand

/-- A frame that `xQueueSend` took or refused, numbered in the order of these returns. -/
structure SentFrame where
  ticket : Nat
  message : TwaiMessage
  deriving DecidableEq, Repr

/-- A call of a processor: its command, and the boolean that it returns. -/
structure ProcessorCall where
  processor : Processor
  cmd : CString
  result : Bool
  deriving DecidableEq

/-- A call that waits in `xQueueSend` with its frame. -/
structure WaitingCall where
  call : ProcessorCall
  message : TwaiMessage
  deriving DecidableEq

/-- A call that returned, with the ticket of the frame that it offered, if it offered one. -/
structure ReturnedCall where
  call : ProcessorCall
  ticket : Option Nat
  deriving DecidableEq

/-- The speeds, the call of each task that waits in `xQueueSend`, the number of the returns of
`xQueueSend` so far, the calls that returned, the queue with the send task's message, and the
bus; an idle heartbeat is none. -/
structure CanSender where
  commands : CommandState
  sending : Producer → Option WaitingCall
  returned : Nat
  returns : List ReturnedCall
  queue : Fifo SentFrame
  bus : List (Option SentFrame)

namespace CanSender

/-- The state after `InitializeCanbus`. -/
def init : CanSender := ⟨.initial, fun _ ↦ none, 0, [], .empty, []⟩

/-- The frames on the bus, without heartbeats. -/
def frames (s : CanSender) : List SentFrame := s.bus.filterMap id

end CanSender

/-- A processor runs up to `xQueueSend`, or returns when it offers no frame; `xQueueSend` returns,
and its processor; the send task receives a message, or gets the result of `twai_transmit` for
it, or for a heartbeat. -/
inductive SenderEvent where
  | process (p : Producer) (processor : Processor) (cmd : CString)
  | queueReturns (p : Producer)
  | receive
  | transmitted (ok : Bool)
  | heartbeat (ok : Bool)
  deriving DecidableEq

/-- One step. A waiting `xQueueSend` returns when there is room, or gives up when there is none;
heartbeats are sent while the send task has no message. -/
def CanSender.step (s : CanSender) : SenderEvent → Option CanSender
  | .process p processor cmd =>
    if (s.sending p).isSome then none
    else
      let (result, c) := processor.run cmd s.commands
      let call : ProcessorCall := ⟨processor, cmd, result⟩
      match c.offered[s.commands.offered.length]? with
      | none => some { s with commands := c, returns := s.returns ++ [⟨call, none⟩] }
      | some m =>
        some { s with
          commands := c
          sending := fun q ↦ if q = p then some ⟨call, m⟩ else s.sending q }
  | .queueReturns p =>
    (s.sending p).map (fun w ↦
      { s with
        sending := fun q ↦ if q = p then none else s.sending q
        returned := s.returned + 1
        returns := s.returns ++ [⟨w.call, some s.returned⟩]
        queue := s.queue.send maxQueueElement ⟨s.returned, w.message⟩ })
  | .receive => s.queue.receive.map (fun q ↦ { s with queue := q })
  | .transmitted ok =>
    (s.queue.finish ok).map (fun q ↦
      { s with queue := q, bus := if ok then s.bus ++ [s.queue.held] else s.bus })
  | .heartbeat ok =>
    if s.queue.held = none then
      some { s with bus := if ok then s.bus ++ [none] else s.bus }
    else none

/-- Steps of `canbus_send_task` on queued frames. -/
def SenderEvent.ofSendTask : SenderEvent → Bool
  | .receive | .transmitted _ => true
  | _ => false

/-- The frame `{5, 0, 0, 0, 0}` of a stop. -/
def stopFrame : TwaiMessage := ⟨0x1F, 5, #v[5, 0, 0, 0, 0, 0, 0, 0]⟩

/-- A call of `ProcessMoveCommand` with a stop command. -/
def ProcessorCall.IsStop (call : ProcessorCall) : Prop :=
  call.processor = .move ∧ call.cmd ∈ stopCommands

/-- The types of the frames that move or stop the robot. -/
def robotTypes : List UInt8 := 5 :: motionTypes

/-- The type byte of a frame. -/
def TwaiMessage.type (m : TwaiMessage) : UInt8 := m.data.toList.getD 0 0

/-- The last robot frame on the bus. -/
def CanSender.lastRobotFrame (s : CanSender) : Option SentFrame :=
  (s.frames.filter (fun f ↦ f.message.type ∈ robotTypes)).getLast?

/-- Frames come to the bus in the order of their tickets, none twice. -/
def CanSender.Ordered (s : CanSender) : Prop :=
  s.frames.Pairwise (fun a b ↦ a.ticket < b.ticket)

/-- The last robot frame on the bus is no motion frame that was queued before the stop. -/
def CanSender.EndsStopped (s : CanSender) (stop : SentFrame) : Prop :=
  ∀ last, s.lastRobotFrame = some last → last.message.type ∈ motionTypes →
    stop.ticket < last.ticket

/-- Every stop for which the processor returned true has its frame on the bus, and no earlier
motion frame is the last robot frame, once the queue is drained. -/
def CanSender.StopsArrive (s : CanSender) : Prop :=
  s.Ordered ∧ (s.queue.Drained → ∀ r ∈ s.returns, r.call.IsStop → r.call.result = true →
    ∃ t, r.ticket = some t ∧ ⟨t, stopFrame⟩ ∈ s.frames ∧ s.EndsStopped ⟨t, stopFrame⟩)

/-- A frame that the queue took gets to the bus, unless `twai_transmit` failed for it, and when it
is a stop, from then on no earlier motion frame is the last robot frame. -/
def CanSender.Arrives (s : CanSender) (f : SentFrame) : Prop :=
  (f ∈ s.frames ∧ (f.message = stopFrame → s.EndsStopped f)) ∨ (f, false) ∈ s.queue.handled

/-- Frames come to the bus in order, and those that the queue took arrive once it is drained. A
stop for which the processor returned true has offered the stop frame under a ticket of its own,
and the queue took it or refused it. -/
structure CanSender.KeepsFrames (s : CanSender) : Prop where
  ordered : s.Ordered
  arrives : s.queue.Drained → ∀ f ∈ s.queue.accepted, s.Arrives f
  stops : ∀ r ∈ s.returns, r.call.IsStop → r.call.result = true →
    ∃ t, r.ticket = some t ∧
      (⟨t, stopFrame⟩ ∈ s.queue.accepted ∨ ⟨t, stopFrame⟩ ∈ s.queue.rejected)
  tickets : (s.returns.filterMap ReturnedCall.ticket).Pairwise (fun a b ↦ a < b)

/-- A frame is refused only by a full queue. -/
def RefusedWhenFull (s : CanSender) (e : SenderEvent) : Prop :=
  ∀ t, s.step e = some t → t.queue.rejected ≠ s.queue.rejected →
    s.queue.waiting.length = maxQueueElement

/-! ### The processors -/

/-- A processor offers nothing, or one frame, and then it returns true. It offers the stop frame
exactly for a stop command. -/
theorem Processor.run_offers (processor : Processor) (cmd : CString) (c : CommandState) :
    ((processor.run cmd c).2.offered = c.offered ∧ ¬ (processor = .move ∧ cmd ∈ stopCommands)) ∨
      ∃ m, (processor.run cmd c).2.offered = c.offered ++ [m] ∧ (processor.run cmd c).1 = true ∧
        (m = stopFrame ↔ processor = .move ∧ cmd ∈ stopCommands) := by
  have hstop : stopFrame = addMessageToSend 5 0 := rfl
  have hother {type : UInt8} {value : UInt32} (h : type ≠ 5) :
      addMessageToSend type value ≠ stopFrame := by
    rw [hstop]
    exact fun he ↦ h (addMessageToSend_inj he).1
  cases processor with
  | servo =>
    simp only [Processor.run, reduceCtorEq, false_and, not_false_eq_true, and_true, iff_false]
    simp only [processServoCommand]
    repeat' split
    all_goals first
      | exact .inr ⟨_, rfl, rfl, hother (by decide)⟩
      | exact .inl rfl
  | servoConfig =>
    simp only [Processor.run, reduceCtorEq, false_and, not_false_eq_true, and_true, iff_false]
    left
    rcases processServoConfigCommand_cases cmd c with ⟨_, step, h⟩ | ⟨_, h⟩
    all_goals rw [h]
  | move =>
    simp only [Processor.run, true_and]
    rcases processMoveCommand_cases cmd c with ⟨hcmd, type, htype, h⟩ | ⟨hcmd, h⟩ | ⟨_, hcmd, h⟩
    · have hne : type ≠ 5 := by
        rintro rfl
        exact absurd htype (by decide)
      have hmotion : ∀ text ∈ motionCommands, text ∉ stopCommands := by decide
      right
      rw [h]
      exact ⟨_, rfl, rfl, iff_of_false (hother hne) (hmotion cmd hcmd)⟩
    · right
      rw [h]
      exact ⟨_, rfl, rfl, iff_of_true rfl hcmd⟩
    · left
      rw [h]
      exact ⟨rfl, hcmd⟩
  | moveConfig =>
    simp only [Processor.run, reduceCtorEq, false_and, not_false_eq_true, and_true, iff_false]
    rcases processMoveConfigCommand_cases cmd c with ⟨_, speed, h⟩ | ⟨_, h⟩
    · right
      rw [h]
      exact ⟨_, rfl, rfl, hother (by decide)⟩
    · left
      rw [h]

/-- A step of a processor: it returns, with a command that is no stop, or waits with a frame,
which is the stop frame when its command is a stop. -/
theorem process_cases {s t : CanSender} {p : Producer} {processor : Processor} {cmd : CString}
    (ht : s.step (.process p processor cmd) = some t) :
    ∃ c result, (¬ (ProcessorCall.mk processor cmd result).IsStop ∧
        t = { s with
          commands := c
          returns := s.returns ++ [⟨⟨processor, cmd, result⟩, none⟩] }) ∨
      ∃ m, ((ProcessorCall.mk processor cmd result).IsStop → m = stopFrame) ∧
        t = { s with
          commands := c
          sending := fun q ↦
            if q = p then some ⟨⟨processor, cmd, result⟩, m⟩ else s.sending q } := by
  simp only [CanSender.step] at ht
  split at ht
  · exact absurd ht (by simp)
  · refine ⟨(processor.run cmd s.commands).2, (processor.run cmd s.commands).1, ?_⟩
    rcases processor.run_offers cmd s.commands with ⟨hoffered, hno⟩ | ⟨m, hoffered, _, hstop⟩
    · rw [hoffered, List.getElem?_eq_none (Nat.le_refl _)] at ht
      cases ht
      exact .inl ⟨hno, rfl⟩
    · rw [hoffered, List.getElem?_concat_length] at ht
      cases ht
      exact .inr ⟨m, hstop.mpr, rfl⟩

/-! ### The run -/

/-- The queue is in order, within its limit, and holds ascending tickets; what it handled with
success is on the bus. -/
structure CanSender.Sound (s : CanSender) : Prop where
  inOrder : s.queue.InOrder
  room : s.queue.waiting.length ≤ maxQueueElement
  onBus : s.frames = s.queue.done
  ascending : s.queue.accepted.Pairwise (fun a b ↦ a.ticket < b.ticket)
  below : ∀ f ∈ s.queue.accepted, f.ticket < s.returned

namespace CanSender

/-- The sender starts sound. -/
theorem sound_init : Sound .init where
  inOrder := Fifo.inOrder_empty
  room := Nat.zero_le _
  onBus := rfl
  ascending := .nil
  below _ hf := absurd hf List.not_mem_nil

/-- An `xQueueSend` that returns keeps the sender sound. -/
theorem Sound.queueReturns {s : CanSender} (h : s.Sound) (p : Producer) (w : WaitingCall) :
    Sound { s with
      sending := fun q ↦ if q = p then none else s.sending q
      returned := s.returned + 1
      returns := s.returns ++ [⟨w.call, some s.returned⟩]
      queue := s.queue.send maxQueueElement ⟨s.returned, w.message⟩ } := by
  have hbelow : ∀ f ∈ s.queue.accepted, f.ticket < s.returned + 1 :=
    fun f hf ↦ Nat.lt_succ_of_lt (h.below f hf)
  have horder := h.inOrder.send maxQueueElement ⟨s.returned, w.message⟩
  unfold Fifo.send at horder ⊢
  split
  · next hroom =>
    rw [if_pos hroom] at horder
    refine ⟨horder, ?_, h.onBus, ?_, ?_⟩
    · simp only [List.length_append, List.length_singleton]
      omega
    · refine List.pairwise_append.mpr ⟨h.ascending, List.pairwise_singleton _ _, ?_⟩
      intro a ha b hb
      rw [List.mem_singleton.mp hb]
      exact h.below a ha
    · intro f hf
      rcases List.mem_append.mp hf with hf | hf
      · exact hbelow f hf
      · rw [List.mem_singleton.mp hf]
        exact Nat.lt_succ_self _
  · next hroom =>
    rw [if_neg hroom] at horder
    exact ⟨horder, h.room, h.onBus, h.ascending, hbelow⟩

/-- The result of `twai_transmit` for a queued frame keeps the sender sound. -/
theorem Sound.transmitted {s : CanSender} (h : s.Sound) {ok : Bool} {q : Fifo SentFrame}
    (hq : s.queue.finish ok = some q) :
    Sound { s with queue := q, bus := if ok then s.bus ++ [s.queue.held] else s.bus } := by
  have horder := h.inOrder.finish hq
  obtain ⟨f, hheld, rfl⟩ := Option.map_eq_some_iff.mp hq
  refine ⟨horder, h.room, ?_, h.ascending, h.below⟩
  have honbus : s.bus.filterMap id = s.queue.done := h.onBus
  cases ok with
  | false => simpa [frames, Fifo.done] using honbus
  | true => simpa [frames, Fifo.done, hheld] using honbus

/-- Every step keeps the sender sound. -/
theorem sound_step {s t : CanSender} {e : SenderEvent} (h : s.Sound) (ht : s.step e = some t) :
    t.Sound := by
  cases e with
  | process p processor cmd =>
    obtain ⟨c, result, ⟨_, rfl⟩ | ⟨m, _, rfl⟩⟩ := process_cases ht
    all_goals exact ⟨h.inOrder, h.room, h.onBus, h.ascending, h.below⟩
  | queueReturns p =>
    obtain ⟨w, _, rfl⟩ := Option.map_eq_some_iff.mp ht
    exact h.queueReturns p w
  | receive =>
    obtain ⟨q, hq, rfl⟩ := Option.map_eq_some_iff.mp ht
    have horder := h.inOrder.receive hq
    obtain ⟨f, rest, _, hwaiting, rfl⟩ := Fifo.receive_some.mp hq
    have hroom := h.room
    rw [hwaiting, List.length_cons] at hroom
    exact ⟨horder, Nat.le_of_succ_le hroom, h.onBus, h.ascending, h.below⟩
  | transmitted ok =>
    obtain ⟨q, hq, rfl⟩ := Option.map_eq_some_iff.mp ht
    exact h.transmitted hq
  | heartbeat ok =>
    simp only [step] at ht
    split at ht
    · cases ht
      refine ⟨h.inOrder, h.room, ?_, h.ascending, h.below⟩
      have honbus : s.bus.filterMap id = s.queue.done := h.onBus
      cases ok with
      | false => exact honbus
      | true => simpa [frames] using honbus
    · exact absurd ht (by simp)

/-- A stop on the bus comes before every motion frame that is the last robot frame. -/
theorem Ordered.endsStopped {s : CanSender} (h : s.Ordered) {f : SentFrame} (hf : f ∈ s.frames)
    (hstop : f.message = stopFrame) : s.EndsStopped f := by
  intro last hlast hmotion
  have hrobot : f.message.type ∈ robotTypes := by
    rw [hstop]
    decide
  have hmem : f ∈ s.frames.filter (fun f ↦ f.message.type ∈ robotTypes) :=
    List.mem_filter.mpr ⟨hf, decide_eq_true hrobot⟩
  rcases pairwise_last (h.sublist List.filter_sublist) hmem hlast with rfl | hlt
  · rw [hstop] at hmotion
    exact absurd hmotion (by decide)
  · exact hlt

/-- A sound sender brings its frames to the bus in order. -/
theorem Sound.ordered {s : CanSender} (h : s.Sound) : s.Ordered := by
  rw [Ordered, h.onBus]
  exact h.ascending.sublist h.inOrder.done_sublist

/-- A frame that a drained sound sender took arrives. -/
theorem Sound.arrives {s : CanSender} (h : s.Sound) (hdrained : s.queue.Drained) {f : SentFrame}
    (hf : f ∈ s.queue.accepted) : s.Arrives f := by
  rcases h.inOrder.of_drained hdrained hf with hdone | hfailed
  · rw [← h.onBus] at hdone
    exact .inl ⟨hdone, h.ordered.endsStopped hdone⟩
  · exact .inr hfailed

/-- A sound sender refuses a frame only when its queue is full. -/
theorem Sound.refusedWhenFull {s : CanSender} (h : s.Sound) (e : SenderEvent) :
    RefusedWhenFull s e := by
  intro t ht hrefused
  cases e with
  | process p processor cmd =>
    obtain ⟨c, result, ⟨_, rfl⟩ | ⟨m, _, rfl⟩⟩ := process_cases ht
    all_goals exact absurd rfl hrefused
  | queueReturns p =>
    obtain ⟨w, _, rfl⟩ := Option.map_eq_some_iff.mp ht
    have hroom := h.room
    simp only [Fifo.send] at hrefused
    split at hrefused
    · exact absurd rfl hrefused
    · omega
  | receive =>
    obtain ⟨q, hq, rfl⟩ := Option.map_eq_some_iff.mp ht
    obtain ⟨f, rest, _, _, rfl⟩ := Fifo.receive_some.mp hq
    exact absurd rfl hrefused
  | transmitted ok =>
    obtain ⟨q, hq, rfl⟩ := Option.map_eq_some_iff.mp ht
    obtain ⟨f, _, rfl⟩ := Option.map_eq_some_iff.mp hq
    exact absurd rfl hrefused
  | heartbeat ok =>
    simp only [step] at ht
    split at ht
    · cases ht
      exact absurd rfl hrefused
    · exact absurd ht (by simp)

/-- The send task can always drain its queue. -/
theorem drains (s : CanSender) :
    ∃ fs t, (∀ e ∈ fs, e.ofSendTask) ∧ run step s fs = some t ∧ t.queue.Drained := by
  generalize hn : s.queue.left = n
  induction n using Nat.strongRecOn generalizing s with
  | ind n ih =>
    -- One step of the send task, then the rest.
    have hnext {e : SenderEvent} {t : CanSender} (he : e.ofSendTask) (ht : s.step e = some t)
        (hlt : t.queue.left < n) :
        ∃ fs t, (∀ e ∈ fs, e.ofSendTask) ∧ run step s fs = some t ∧ t.queue.Drained := by
      obtain ⟨fs, u, hfs, hu, hdrained⟩ := ih _ hlt t rfl
      exact ⟨e :: fs, u, List.forall_mem_cons.mpr ⟨he, hfs⟩, run_cons_some.mpr ⟨t, ht, hu⟩,
        hdrained⟩
    by_cases hdrained : s.queue.Drained
    · exact ⟨[], s, List.forall_mem_nil _, rfl, hdrained⟩
    · rcases Fifo.progress hdrained with ⟨q, hq, hlt⟩ | hfinish
      · exact hnext (e := .receive) rfl (Option.map_eq_some_iff.mpr ⟨q, hq, rfl⟩) (hn ▸ hlt)
      · obtain ⟨q, hq, hlt⟩ := hfinish true
        exact hnext (e := .transmitted true) rfl (Option.map_eq_some_iff.mpr ⟨q, hq, rfl⟩)
          (hn ▸ hlt)

/-- After every run the sender is sound. -/
theorem sound_run {es : List SenderEvent} {s : CanSender} (h : run step .init es = some s) :
    s.Sound :=
  run_invariant sound_init (fun _ _ _ hs ht ↦ sound_step hs ht) h

/-! ### The calls that returned -/

/-- The stop frame was offered under the ticket of the call. -/
def Offered (q : Fifo SentFrame) (r : ReturnedCall) : Prop :=
  ∃ t, r.ticket = some t ∧ (⟨t, stopFrame⟩ ∈ q.accepted ∨ ⟨t, stopFrame⟩ ∈ q.rejected)

/-- Waiting stops hold the stop frame, and those that returned have offered it, each call under a
ticket of its own. -/
structure Accounted (s : CanSender) : Prop where
  waiting : ∀ p w, s.sending p = some w → w.call.IsStop → w.message = stopFrame
  offered : ∀ r ∈ s.returns, r.call.IsStop → Offered s.queue r
  tickets : (s.returns.filterMap ReturnedCall.ticket).Pairwise (fun a b ↦ a < b)
  below : ∀ t ∈ s.returns.filterMap ReturnedCall.ticket, t < s.returned

/-- No call returned yet. -/
theorem accounted_init : Accounted .init where
  waiting _ _ hw := absurd hw (by simp [init])
  offered _ hr := absurd hr List.not_mem_nil
  tickets := .nil
  below _ ht := absurd ht List.not_mem_nil

/-- What the queue took or refused, it keeps in its history. -/
theorem Offered.mono {q q' : Fifo SentFrame} {r : ReturnedCall} (h : Offered q r)
    (haccepted : q.accepted ⊆ q'.accepted) (hrejected : q.rejected ⊆ q'.rejected) :
    Offered q' r := by
  obtain ⟨t, hticket, hframe⟩ := h
  exact ⟨t, hticket, hframe.imp (fun hf ↦ haccepted hf) (fun hf ↦ hrejected hf)⟩

/-- An `xQueueSend` takes or refuses its frame, and keeps the others. -/
theorem send_history (q : Fifo SentFrame) (f : SentFrame) :
    let t := q.send maxQueueElement f
    (f ∈ t.accepted ∨ f ∈ t.rejected) ∧ q.accepted ⊆ t.accepted ∧ q.rejected ⊆ t.rejected := by
  simp only [Fifo.send]
  split
  · exact ⟨.inl (List.mem_append_right _ List.mem_cons_self), List.subset_append_left _ _,
      List.Subset.refl _⟩
  · exact ⟨.inr (List.mem_append_right _ List.mem_cons_self), List.Subset.refl _,
      List.subset_append_left _ _⟩

/-- An `xQueueSend` that returns keeps the account. -/
theorem Accounted.queueReturns {s : CanSender} (h : s.Accounted) {p : Producer} {w : WaitingCall}
    (hw : s.sending p = some w) :
    Accounted { s with
      sending := fun q ↦ if q = p then none else s.sending q
      returned := s.returned + 1
      returns := s.returns ++ [⟨w.call, some s.returned⟩]
      queue := s.queue.send maxQueueElement ⟨s.returned, w.message⟩ } := by
  obtain ⟨hframe, haccepted, hrejected⟩ := send_history s.queue ⟨s.returned, w.message⟩
  have htickets :
      (s.returns ++ [ReturnedCall.mk w.call (some s.returned)]).filterMap ReturnedCall.ticket =
        s.returns.filterMap ReturnedCall.ticket ++ [s.returned] := by
    rw [List.filterMap_append]
    rfl
  refine ⟨?_, ?_, ?_, ?_⟩
  · intro q v hv
    simp only at hv
    split at hv
    · exact absurd hv (by simp)
    · exact h.waiting q v hv
  · intro r hr hstop
    rcases List.mem_append.mp hr with hr | hr
    · exact (h.offered r hr hstop).mono haccepted hrejected
    · cases List.mem_singleton.mp hr
      rw [h.waiting p w hw hstop] at hframe ⊢
      exact ⟨s.returned, rfl, hframe⟩
  · rw [htickets]
    refine List.pairwise_append.mpr ⟨h.tickets, List.pairwise_singleton _ _, ?_⟩
    intro a ha b hb
    rw [List.mem_singleton.mp hb]
    exact h.below a ha
  · intro t ht
    rw [htickets] at ht
    rcases List.mem_append.mp ht with ht | ht
    · exact Nat.lt_succ_of_lt (h.below t ht)
    · rw [List.mem_singleton.mp ht]
      exact Nat.lt_succ_self _

/-- Every step keeps the account. -/
theorem accounted_step {s t : CanSender} {e : SenderEvent} (h : s.Accounted)
    (ht : s.step e = some t) : t.Accounted := by
  cases e with
  | process p processor cmd =>
    obtain ⟨c, result, ⟨hno, rfl⟩ | ⟨m, hstop, rfl⟩⟩ := process_cases ht
    · have htickets :
          (s.returns ++ [ReturnedCall.mk ⟨processor, cmd, result⟩ none]).filterMap
            ReturnedCall.ticket = s.returns.filterMap ReturnedCall.ticket := by
        rw [List.filterMap_append]
        exact List.append_nil _
      refine ⟨h.waiting, ?_, by rw [htickets]; exact h.tickets, by rw [htickets]; exact h.below⟩
      intro r hr hr'
      rcases List.mem_append.mp hr with hr | hr
      · exact h.offered r hr hr'
      · cases List.mem_singleton.mp hr
        exact absurd hr' hno
    · refine ⟨?_, h.offered, h.tickets, h.below⟩
      intro q w hw
      simp only at hw
      split at hw
      · cases hw
        exact hstop
      · exact h.waiting q w hw
  | queueReturns p =>
    obtain ⟨w, hw, rfl⟩ := Option.map_eq_some_iff.mp ht
    exact h.queueReturns hw
  | receive =>
    obtain ⟨q, hq, rfl⟩ := Option.map_eq_some_iff.mp ht
    obtain ⟨f, rest, _, _, rfl⟩ := Fifo.receive_some.mp hq
    exact ⟨h.waiting, h.offered, h.tickets, h.below⟩
  | transmitted ok =>
    obtain ⟨q, hq, rfl⟩ := Option.map_eq_some_iff.mp ht
    obtain ⟨f, _, rfl⟩ := Option.map_eq_some_iff.mp hq
    exact ⟨h.waiting, h.offered, h.tickets, h.below⟩
  | heartbeat ok =>
    simp only [step] at ht
    split at ht
    · cases ht
      exact ⟨h.waiting, h.offered, h.tickets, h.below⟩
    · exact absurd ht (by simp)

/-- After every run the calls are accounted for. -/
theorem accounted_run {es : List SenderEvent} {s : CanSender} (h : run step .init es = some s) :
    s.Accounted :=
  run_invariant accounted_init (fun _ _ _ hs ht ↦ accounted_step hs ht) h

end CanSender

/-- The robot moves up, and the transmission of the stop fails. -/
private def failedStop : List SenderEvent :=
  [.process .mqtt .move (.lit "ROBOT_UP"), .queueReturns .mqtt, .receive, .transmitted true,
    .process .mqtt .move (.lit "ROBOT_STOP"), .queueReturns .mqtt, .receive, .transmitted false]

/-- A stop whose transmission fails is lost. -/
theorem stop_lost_on_error :
    ¬ ∀ es s, run CanSender.step .init es = some s → s.StopsArrive := by
  intro h
  obtain ⟨t, ht, hframe, _⟩ := (h failedStop _ rfl).2 ⟨rfl, rfl⟩
    ⟨⟨.move, .lit "ROBOT_STOP", true⟩, some 1⟩ (by decide) ⟨rfl, by decide⟩ rfl
  cases ht
  exact absurd hframe (by decide)

/-- After every run frames come to the bus in order and none twice. A stop for which the processor
returned true has offered its frame; a frame is refused only by the full queue; and once
the send task has drained the queue, which it can, every frame that was taken is on the
bus or its transmission failed, and no motion frame before a transmitted stop is the last
robot frame. -/
theorem stops_arrive_unless_lost {es : List SenderEvent} {s : CanSender}
    (h : run CanSender.step .init es = some s) :
    s.KeepsFrames ∧ StepsMeet RefusedWhenFull CanSender.step .init es ∧
      ∃ fs t, (∀ e ∈ fs, e.ofSendTask) ∧ run CanSender.step s fs = some t ∧ t.queue.Drained := by
  have hsound := CanSender.sound_run h
  have haccount := CanSender.accounted_run h
  refine ⟨⟨hsound.ordered, fun hd _ hf ↦ hsound.arrives hd hf,
    fun r hr hstop _ ↦ haccount.offered r hr hstop, haccount.tickets⟩, ?_, s.drains⟩
  intro pre e post u _ hu
  exact (CanSender.sound_run hu).refusedWhenFull e

/-- The run with the failed transmission. -/
theorem stops_arrive_failed : ∃ s, run CanSender.step .init failedStop = some s ∧ s.KeepsFrames :=
  ⟨_, rfl, (@stops_arrive_unless_lost failedStop _ rfl).1⟩

end Esp32Robot.Can

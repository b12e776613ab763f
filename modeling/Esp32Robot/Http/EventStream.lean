import Esp32Robot.Base.Run
import Esp32Robot.Base.Threads

/-!
# The event stream of the signaling server

`IDF_esp32p4_webrtc/main/webrtc_http_server.c`: the handler of GET requests, the
task that sends the messages of the event stream, and the start and end of the
server, as instructions of interleaved threads, each of which calls the next one of
its function. The server runs its handlers in one task, one after the other. The flags
of the stream stay consistent as long as the handler's two creations succeed and the
end of the server asks only a sender to stop that has not ended by itself, or that the
handler is still to create.
-/

namespace Esp32Robot.Http

open Esp32Robot.Base

/-- The static variables of `webrtc_http_server.c:27–32`, and whether the server task is in a GET
handler. A queue is named by its number. -/
structure StreamState where
  server : Bool
  signalingQueue : Option Nat
  nextQueue : Nat
  eventStreamConnected : Bool
  eventStreamStopping : Bool
  eventStreamReq : Bool
  getHandler : Bool
  deriving DecidableEq, Repr

/-- The function that a thread runs. -/
inductive StreamRole where
  | getHandler
  | sender
  | init
  | deinit
  deriving DecidableEq, Repr

/-- The instructions of `webrtc_signal_get_handler`, of `signaling_msg_send_task`, of
`webrtc_http_server_init` and of `webrtc_http_server_deinit`. -/
inductive StreamInstr where
  | testListener
  | setConnected
  | asyncBegin
  | createSender
  | endHandler
  | whileNotStopping
  | sendMessages
  | asyncComplete
  | clearReq
  | clearConnected
  | clearStopping
  | createQueue
  | startServer
  | testQueue (sig : Nat)
  | testStream
  | setStopping
  | whileConnected
  | stopServer
  | deleteQueue
  deriving DecidableEq, Repr

/-- What an instruction of the stream does. -/
abbrev StreamOutcome := Outcome StreamState StreamRole StreamInstr

/-- The start of `webrtc_signal_get_handler`, `webrtc_http_server.c:80–100`. -/
def webrtcSignalGetHandler : List StreamInstr := [.testListener]

/-- The start of `signaling_msg_send_task`, `webrtc_http_server.c:46–77`. -/
def signalingMsgSendTask : List StreamInstr := [.whileNotStopping]

/-- The start of `webrtc_http_server_init`, `webrtc_http_server.c:291–317`. -/
def webrtcHttpServerInit : List StreamInstr := [.createQueue]

/-- The start of `webrtc_http_server_deinit`, `webrtc_http_server.c:389–421`. -/
def webrtcHttpServerDeinit (sig : Nat) : List StreamInstr := [.testQueue sig]

/-- One instruction; `ok` is the outcome of what it creates or sends. -/
def StreamInstr.exec (s : StreamState) (ok : Bool) : StreamInstr → Option StreamOutcome
  | .testListener =>
    some ⟨s, if s.eventStreamConnected then [.endHandler] else [.setConnected], []⟩
  | .setConnected => some ⟨{ s with eventStreamConnected := true }, [.asyncBegin], []⟩
  -- The request is stored by `httpd_req_async_handler_begin`, and only when that succeeds.
  | .asyncBegin =>
    some ⟨if ok then { s with eventStreamReq := true } else s, [.createSender], []⟩
  | .createSender =>
    some ⟨s, [.endHandler],
      if s.eventStreamReq && ok then [⟨.sender, signalingMsgSendTask⟩] else []⟩
  | .endHandler => some ⟨{ s with getHandler := false }, [], []⟩
  | .whileNotStopping =>
    some ⟨s, if s.eventStreamStopping then [.asyncComplete] else [.sendMessages], []⟩
  -- A message or a heartbeat that cannot be sent ends the loop.
  | .sendMessages => some ⟨s, if ok then [.whileNotStopping] else [.asyncComplete], []⟩
  | .asyncComplete => some ⟨s, [.clearReq], []⟩
  | .clearReq => some ⟨{ s with eventStreamReq := false }, [.clearConnected], []⟩
  | .clearConnected => some ⟨{ s with eventStreamConnected := false }, [.clearStopping], []⟩
  | .clearStopping => some ⟨{ s with eventStreamStopping := false }, [], []⟩
  | .createQueue =>
    if ok then
      some ⟨{ s with signalingQueue := some s.nextQueue, nextQueue := s.nextQueue + 1 },
        [.startServer], []⟩
    else some ⟨{ s with signalingQueue := none }, [], []⟩
  -- The port is taken while a server runs.
  | .startServer =>
    if ok && !s.server then some ⟨{ s with server := true }, [], []⟩
    else some ⟨{ s with signalingQueue := none }, [], []⟩
  | .testQueue sig => some ⟨s, if s.signalingQueue = some sig then [.testStream] else [], []⟩
  | .testStream =>
    some ⟨s, if s.eventStreamConnected then [.setStopping] else [.stopServer], []⟩
  | .setStopping => some ⟨{ s with eventStreamStopping := true }, [.whileConnected], []⟩
  | .whileConnected =>
    some ⟨s, if s.eventStreamConnected then [.whileConnected] else [.stopServer], []⟩
  -- Ending the server waits for the handler in progress.
  | .stopServer =>
    if s.server && s.getHandler then none
    else some ⟨{ s with server := false }, [.deleteQueue], []⟩
  | .deleteQueue => some ⟨{ s with signalingQueue := none }, [], []⟩

/-- The threads over the state of the stream. -/
abbrev StreamTasks := System StreamState StreamRole StreamInstr

/-- A GET request, a call of the start or the end, or the next instruction of a thread. -/
inductive StreamEvent where
  | get
  | init
  | deinit (sig : Nat)
  | exec (thread : Nat) (ok : Bool)
  deriving DecidableEq, Repr

namespace StreamTasks

/-- The static initial values, without a thread. -/
def initial : StreamTasks where
  state :=
    { server := false, signalingQueue := none, nextQueue := 0, eventStreamConnected := false,
      eventStreamStopping := false, eventStreamReq := false, getHandler := false }
  threads := []

/-- Start a thread. -/
def spawn (role : StreamRole) (program : List StreamInstr) (s : StreamTasks) : StreamTasks :=
  { s with threads := s.threads ++ [⟨role, program⟩] }

/-- One step. The server takes the next request when it is in no handler. -/
def step (s : StreamTasks) : StreamEvent → Option StreamTasks
  | .get =>
    if s.state.server && !s.state.getHandler then
      some (StreamTasks.spawn .getHandler webrtcSignalGetHandler
        { s with state := { s.state with getHandler := true } })
    else none
  | .init => some (s.spawn .init webrtcHttpServerInit)
  | .deinit sig => some (s.spawn .deinit (webrtcHttpServerDeinit sig))
  | .exec i ok => System.exec (fun s ins ok ↦ ins.exec s ok) i ok s

end StreamTasks

/-! ### The flags and the sender -/

/-- From this instruction on `signaling_msg_send_task` will clear `event_stream_connected`. -/
def StreamInstr.clearsConnected : StreamInstr → Bool
  | .whileNotStopping | .sendMessages | .asyncComplete | .clearReq | .clearConnected => true
  | _ => false

/-- From this instruction on `signaling_msg_send_task` will clear `event_stream_stopping`. -/
def StreamInstr.clearsStopping (ins : StreamInstr) : Bool :=
  ins.clearsConnected || ins = .clearStopping

namespace StreamTasks

/-- A sender is alive that will do it. -/
def SenderWill (p : StreamInstr → Bool) (s : StreamTasks) : Prop :=
  ∃ t ∈ s.threads, t.role = .sender ∧ t.program.any p

instance (p : StreamInstr → Bool) (s : StreamTasks) : Decidable (s.SenderWill p) :=
  inferInstanceAs (Decidable (∃ t ∈ s.threads, _))

/-- While no GET handler is in progress a sender will clear each flag that is set, and a handler
refuses a listener only beside such a sender. -/
structure FlagsCleared (s : StreamTasks) : Prop where
  connected : s.state.getHandler = false → s.state.eventStreamConnected = true →
    s.SenderWill StreamInstr.clearsConnected
  stopping : s.state.getHandler = false → s.state.eventStreamStopping = true →
    s.SenderWill StreamInstr.clearsStopping
  refused : ∀ i, s.head i = some .testListener → s.state.eventStreamConnected = true →
    s.SenderWill StreamInstr.clearsConnected

end StreamTasks

/-- From this instruction on `webrtc_signal_get_handler` will create a sender, when both creations
succeed. -/
def StreamInstr.createsSender (connected : Bool) : StreamInstr → Bool
  | .testListener => !connected
  | .setConnected | .asyncBegin | .createSender => true
  | _ => false

/-- A handler is at work that will. -/
def StreamTasks.HandlerWill (s : StreamTasks) : Prop :=
  ∃ t ∈ s.threads, t.role = .getHandler ∧
    t.program.any (StreamInstr.createsSender s.state.eventStreamConnected)

instance (s : StreamTasks) : Decidable s.HandlerWill :=
  inferInstanceAs (Decidable (∃ t ∈ s.threads, _))

/-- The two creations of the handler succeed, and the end of the server asks a sender to stop that
will clear the flag for that, or that the handler will create. -/
def StreamInstr.Answered (s : StreamTasks) (ok : Bool) : StreamInstr → Prop
  | .asyncBegin | .createSender => ok = true
  | .setStopping => s.SenderWill clearsStopping ∨ s.HandlerWill
  | _ => True

instance (s : StreamTasks) (ok : Bool) (ins : StreamInstr) : Decidable (ins.Answered s ok) :=
  match ins with
  | .asyncBegin | .createSender => inferInstanceAs (Decidable (ok = true))
  | .setStopping =>
    inferInstanceAs (Decidable (s.SenderWill StreamInstr.clearsStopping ∨ s.HandlerWill))
  | .testListener | .setConnected | .endHandler => isTrue trivial
  | .whileNotStopping | .sendMessages | .asyncComplete => isTrue trivial
  | .clearReq | .clearConnected | .clearStopping => isTrue trivial
  | .createQueue | .startServer | .testQueue _ | .testStream => isTrue trivial
  | .whileConnected | .stopServer | .deleteQueue => isTrue trivial

namespace StreamTasks

/-- The condition on an event. -/
def Answered (s : StreamTasks) : StreamEvent → Prop
  | .exec i ok => ∀ ins ∈ s.head i, ins.Answered s ok
  | _ => True

instance (s : StreamTasks) (e : StreamEvent) : Decidable (s.Answered e) :=
  match e with
  | .exec i ok => inferInstanceAs (Decidable (∀ ins ∈ s.head i, ins.Answered s ok))
  | .get | .init | .deinit _ => isTrue trivial

/-- The flags stay consistent all along the run. -/
def KeepsFlags (es : List StreamEvent) : Prop :=
  ∀ pre s, pre <+: es → run step initial pre = some s → s.FlagsCleared

/-! ### How many instructions are still to be run -/

/-- How many of the waiting instructions are of a kind. -/
def todo (p : StreamInstr → Bool) (s : StreamTasks) : Nat := s.pending.countP p

end StreamTasks

/-- A sender will clear `event_stream_stopping`, or the handler will create one that does. -/
def StopSeen (n : (StreamInstr → Bool) → Nat) (s : StreamState) : Prop :=
  0 < n StreamInstr.clearsStopping + n (· = .setConnected) + n (· = .asyncBegin) +
      n (· = .createSender) ∨
    0 < n (· = .testListener) ∧ s.eventStreamConnected = false

/-- It is kept when no such instruction is gone and no listener is connected. -/
theorem StopSeen.mono {n m : (StreamInstr → Bool) → Nat} {s t : StreamState} (h : StopSeen n s)
    (hclears : n StreamInstr.clearsStopping + n (· = .setConnected) + n (· = .asyncBegin) +
        n (· = .createSender) ≤ m StreamInstr.clearsStopping + m (· = .setConnected) +
        m (· = .asyncBegin) + m (· = .createSender))
    (htests : s.eventStreamConnected = false →
      n (· = .testListener) ≤ m (· = .testListener) ∧ t.eventStreamConnected = false) :
    StopSeen m t := by
  rcases h with hclear | ⟨htest, hset⟩
  · exact .inl (Nat.lt_of_lt_of_le hclear hclears)
  · obtain ⟨hle, hset'⟩ := htests hset
    exact .inr ⟨Nat.lt_of_lt_of_le htest hle, hset'⟩

/-- What the numbers of waiting instructions say about the flags: the handler in progress is the
only one, it sets the flag when it is not set, and one sender will clear a flag that is set, unless
the handler still has to create it. -/
structure Numbers (n : (StreamInstr → Bool) → Nat) (s : StreamState) : Prop where
  handler : n (· = .testListener) + n (· = .setConnected) + n (· = .asyncBegin) +
    n (· = .createSender) + n (· = .endHandler) = s.getHandler.toNat
  unset : n (· = .setConnected) + s.eventStreamConnected.toNat ≤ 1
  owned : n StreamInstr.clearsConnected + n (· = .asyncBegin) + n (· = .createSender) =
    s.eventStreamConnected.toNat
  request : 0 < n (· = .createSender) → s.eventStreamReq = true
  stopping : s.eventStreamStopping = true → StopSeen n s

/-- The numbers that matter. -/
def watched : List (StreamInstr → Bool) :=
  [(· = .testListener), (· = .setConnected), (· = .asyncBegin), (· = .createSender),
    (· = .endHandler), StreamInstr.clearsConnected, StreamInstr.clearsStopping]

/-- The same numbers. -/
theorem Numbers.congr {n m : (StreamInstr → Bool) → Nat} {s : StreamState} (h : Numbers n s)
    (hm : ∀ p ∈ watched, m p = n p) : Numbers m s := by
  simp only [watched, List.forall_mem_cons] at hm
  obtain ⟨h₁, h₂, h₃, h₄, h₅, h₆, h₇, _⟩ := hm
  obtain ⟨handler, unset, owned, request, stopping⟩ := h
  constructor <;> simpa only [StopSeen, h₁, h₂, h₃, h₄, h₅, h₆, h₇]

/-- The instructions that change none of these numbers, and no flag but `event_stream_stopping`. -/
def StreamInstr.quiet : StreamInstr → Bool
  | .testListener | .setConnected | .asyncBegin | .createSender | .endHandler => false
  | .clearReq | .clearConnected | .clearStopping => false
  | _ => true

/-- What the other instructions do when what they create is created. -/
inductive StreamInstr.Changes (s : StreamState) : StreamInstr → StreamOutcome → Prop where
  | refuses (h : s.eventStreamConnected = true) :
    Changes s .testListener ⟨s, [.endHandler], []⟩
  | accepts (h : s.eventStreamConnected = false) :
    Changes s .testListener ⟨s, [.setConnected], []⟩
  | connects :
    Changes s .setConnected ⟨{ s with eventStreamConnected := true }, [.asyncBegin], []⟩
  | keepsRequest :
    Changes s .asyncBegin ⟨{ s with eventStreamReq := true }, [.createSender], []⟩
  | creates :
    Changes s .createSender ⟨s, [.endHandler], [⟨.sender, signalingMsgSendTask⟩]⟩
  | createsNone (h : s.eventStreamReq = false) :
    Changes s .createSender ⟨s, [.endHandler], []⟩
  | returns : Changes s .endHandler ⟨{ s with getHandler := false }, [], []⟩
  | drops : Changes s .clearReq ⟨{ s with eventStreamReq := false }, [.clearConnected], []⟩
  | disconnects :
    Changes s .clearConnected ⟨{ s with eventStreamConnected := false }, [.clearStopping], []⟩
  | stops : Changes s .clearStopping ⟨{ s with eventStreamStopping := false }, [], []⟩

section Step

variable {n m : (StreamInstr → Bool) → Nat} {s : StreamState} {o : StreamOutcome}
  {ins : StreamInstr} {ok : Bool}

/-- A quiet instruction calls what is counted like itself. -/
theorem exec_quiet (hins : ins.quiet = true) (ho : ins.exec s ok = some o) :
    (∀ p ∈ watched, o.calls.countP p = [ins].countP p) ∧ o.created = [] ∧
      o.state.getHandler = s.getHandler ∧
      o.state.eventStreamConnected = s.eventStreamConnected ∧
      o.state.eventStreamReq = s.eventStreamReq ∧
      (o.state.eventStreamStopping = s.eventStreamStopping ∨ ins = .setStopping) := by
  cases ins
  all_goals first
    | exact Bool.noConfusion hins
    | simp only [StreamInstr.exec] at ho
  all_goals repeat' split at ho
  all_goals cases ho
  all_goals simp [watched, StreamInstr.clearsStopping, StreamInstr.clearsConnected]

/-- The numbers after a quiet instruction. -/
theorem Numbers.step_quiet (h : Numbers n s) (hins : ins.quiet = true)
    (hstop : ins = .setStopping → StopSeen n s) (ho : ins.exec s ok = some o)
    (hm : ∀ p, m p + [ins].countP p = n p + o.calls.countP p +
      (o.created.flatMap Thread.program).countP p) : Numbers m o.state := by
  obtain ⟨hcalls, hcreated, hget, hconnected, hreq, hstopping⟩ := exec_quiet hins ho
  have hsame : ∀ p ∈ watched, m p = n p := by
    intro p hp
    have hnumber := hm p
    rw [hcalls p hp, hcreated] at hnumber
    exact Nat.add_right_cancel hnumber
  obtain ⟨handler, unset, owned, request, stopping⟩ := h.congr hsame
  constructor
  · rw [hget]
    exact handler
  · rw [hconnected]
    exact unset
  · rw [hconnected]
    exact owned
  · rw [hreq]
    exact request
  · intro hset
    rcases hstopping with hkept | hasked
    · exact (stopping (hkept.symm.trans hset)).mono (Nat.le_refl _)
        fun hnone ↦ ⟨Nat.le_refl _, hconnected.trans hnone⟩
    · refine (hstop hasked).mono (Nat.le_of_eq ?_)
        fun hnone ↦ ⟨Nat.le_of_eq ?_, hconnected.trans hnone⟩
      · rw [hsame _ (by simp [watched]), hsame _ (by simp [watched]), hsame _ (by simp [watched]),
          hsame _ (by simp [watched])]
      · rw [hsame _ (by simp [watched])]

/-- An instruction that is not quiet changes a flag or what is still to be run. -/
theorem changes_of_exec (hquiet : ins.quiet = false)
    (hok : ins = .asyncBegin ∨ ins = .createSender → ok = true) (ho : ins.exec s ok = some o) :
    ins.Changes s o := by
  cases ins
  case testListener =>
    cases hset : s.eventStreamConnected <;> simp only [StreamInstr.exec, hset] at ho <;> cases ho
    · exact .accepts hset
    · exact .refuses hset
  case asyncBegin =>
    cases hok (.inl rfl)
    cases ho
    exact .keepsRequest
  case createSender =>
    cases hok (.inr rfl)
    cases hreq : s.eventStreamReq <;> simp only [StreamInstr.exec, hreq] at ho <;> cases ho
    · exact .createsNone hreq
    · exact .creates
  case setConnected => cases ho; exact .connects
  case endHandler => cases ho; exact .returns
  case clearReq => cases ho; exact .drops
  case clearConnected => cases ho; exact .disconnects
  case clearStopping => cases ho; exact .stops
  all_goals exact Bool.noConfusion hquiet

/-- The numbers after an instruction that is not quiet. -/
theorem Numbers.step_changes (h : Numbers n s) (hpos : ∀ p, p ins = true → 0 < n p)
    (hchanges : ins.Changes s o)
    (hm : ∀ p, m p + [ins].countP p = n p + o.calls.countP p +
      (o.created.flatMap Thread.program).countP p) : Numbers m o.state := by
  obtain ⟨handler, unset, owned, request, stopping⟩ := h
  have m₁ := hm (· = .endHandler)
  have m₂ := hm (· = .testListener)
  have m₃ := hm (· = .setConnected)
  have m₄ := hm (· = .asyncBegin)
  have m₅ := hm (· = .createSender)
  have m₆ := hm StreamInstr.clearsConnected
  have m₇ := hm StreamInstr.clearsStopping
  have p₁ := hpos (· = ins) (decide_eq_true rfl)
  have p₂ := hpos StreamInstr.clearsConnected
  have b₁ := s.getHandler.toNat_le
  clear hm hpos
  cases hchanges
  all_goals
    simp only [List.countP_cons, List.countP_nil, List.flatMap_nil, List.flatMap_cons,
      List.append_nil, signalingMsgSendTask, StreamInstr.clearsConnected,
      StreamInstr.clearsStopping, decide_true, decide_false, reduceCtorEq, if_true, if_false,
      Bool.or_false, Bool.or_true, Bool.false_eq_true, Nat.add_zero, Nat.zero_add]
      at m₁ m₂ m₃ m₄ m₅ m₆ m₇ p₂
  case refuses hset =>
    refine ⟨?_, ?_, ?_, fun _ ↦ request (by omega), fun hs ↦ (stopping hs).mono (by omega)
      fun hnone ↦ absurd (hset.symm.trans hnone) (by decide)⟩ <;>
      · simp only
        omega
  case accepts hset =>
    have hzero : s.eventStreamConnected.toNat = 0 := by rw [hset, Bool.toNat_false]
    refine ⟨?_, ?_, ?_, fun _ ↦ request (by omega), fun _ ↦ .inl (by omega)⟩ <;>
      · simp only
        omega
  case connects =>
    refine ⟨?_, ?_, ?_, fun _ ↦ request (by omega), fun _ ↦ .inl (by omega)⟩ <;>
      · simp only [Bool.toNat_true]
        omega
  case keepsRequest =>
    refine ⟨?_, ?_, ?_, fun _ ↦ rfl, fun _ ↦ .inl (by omega)⟩ <;>
      · simp only
        omega
  case creates =>
    refine ⟨?_, ?_, ?_, fun _ ↦ request (by omega), fun _ ↦ .inl (by omega)⟩ <;>
      · simp only
        omega
  case createsNone hreq =>
    exact absurd ((request p₁).symm.trans hreq) (by decide)
  case returns =>
    refine ⟨?_, ?_, ?_, fun _ ↦ request (by omega), fun hs ↦ (stopping hs).mono (by omega)
      fun hnone ↦ ⟨by omega, hnone⟩⟩ <;>
      · simp only [Bool.toNat_false]
        omega
  case drops =>
    have hone := s.eventStreamConnected.toNat_le
    have hclears := p₂ trivial
    refine ⟨?_, ?_, ?_, fun _ ↦ by omega, fun hs ↦ (stopping hs).mono (by omega)
      fun hnone ↦ ⟨by omega, hnone⟩⟩ <;>
      · simp only
        omega
  case disconnects =>
    have hone := s.eventStreamConnected.toNat_le
    have hclears := p₂ trivial
    refine ⟨?_, ?_, ?_, fun _ ↦ request (by omega), fun hs ↦ (stopping hs).mono (by omega)
      fun _ ↦ ⟨by omega, rfl⟩⟩ <;>
      · simp only [Bool.toNat_false]
        omega
  case stops =>
    refine ⟨?_, ?_, ?_, fun _ ↦ request (by omega), fun hs ↦ nomatch hs⟩ <;>
      · simp only
        omega

/-- The numbers after one instruction. -/
theorem Numbers.step (h : Numbers n s) (hpos : ∀ p, p ins = true → 0 < n p)
    (hok : ins = .asyncBegin ∨ ins = .createSender → ok = true)
    (hstop : ins = .setStopping → StopSeen n s) (ho : ins.exec s ok = some o)
    (hm : ∀ p, m p + [ins].countP p = n p + o.calls.countP p +
      (o.created.flatMap Thread.program).countP p) : Numbers m o.state := by
  cases hquiet : ins.quiet with
  | true => exact h.step_quiet hquiet hstop ho hm
  | false => exact h.step_changes hpos (changes_of_exec hquiet hok ho) hm

end Step

namespace StreamTasks

/-- Instructions that clear a flag run in a sender, and the numbers agree with the flags. -/
structure StreamInv (s : StreamTasks) : Prop where
  roles : ∀ t ∈ s.threads, t.program.any StreamInstr.clearsStopping → t.role = .sender
  numbers : Numbers s.todo s.state

/-- A new thread adds its program. -/
theorem todo_spawn (role : StreamRole) (program : List StreamInstr) (s : StreamTasks)
    (p : StreamInstr → Bool) : (s.spawn role program).todo p = s.todo p + program.countP p :=
  System.countP_pending_add s ⟨role, program⟩ p

/-- A sender will clear a flag exactly when an instruction that does is still to be run. -/
theorem StreamInv.senderWill_iff {s : StreamTasks} (h : StreamInv s) {p : StreamInstr → Bool}
    (hp : ∀ ins, p ins = true → ins.clearsStopping = true) : s.SenderWill p ↔ 0 < s.todo p :=
  System.RunsIn.exists_iff h.roles hp

/-- The sender that the end of the server asks to stop is alive, or still to be created. -/
theorem StreamInv.stopSeen {s : StreamTasks} (h : StreamInv s)
    (hwill : s.SenderWill StreamInstr.clearsStopping ∨ s.HandlerWill) :
    StopSeen s.todo s.state := by
  unfold StopSeen
  dsimp only
  rcases hwill with hsender | ⟨t, ht, _, hany⟩
  · have hpos := (h.senderWill_iff fun _ h ↦ h).mp hsender
    exact .inl (by omega)
  · obtain ⟨ins, hmem, hcreates⟩ := List.any_eq_true.mp hany
    have hpos : 0 < s.todo (· = ins) :=
      List.countP_pos_iff.mpr ⟨ins, List.mem_flatMap.mpr ⟨t, ht, hmem⟩, decide_eq_true rfl⟩
    cases ins with
    | testListener => exact .inr ⟨hpos, (Bool.not_eq_true' _).mp hcreates⟩
    | setConnected => exact .inl (by omega)
    | asyncBegin => exact .inl (by omega)
    | createSender => exact .inl (by omega)
    | _ => exact Bool.noConfusion hcreates

/-- What clears the connected flag clears the other one afterwards. -/
theorem clearsStopping_of_clearsConnected (ins : StreamInstr)
    (h : ins.clearsConnected = true) : ins.clearsStopping = true := by
  simp [StreamInstr.clearsStopping, h]

/-- An instruction calls one that clears the flags only if it will clear them itself, and creates
only senders. -/
theorem exec_roles {s : StreamState} {o : StreamOutcome} {ins : StreamInstr} {ok : Bool}
    (ho : ins.exec s ok = some o) :
    (o.calls.any StreamInstr.clearsStopping → ins.clearsStopping = true) ∧
      ∀ t ∈ o.created, t.role = .sender := by
  cases ins
  all_goals
    simp only [StreamInstr.exec] at ho
    repeat' split at ho
  all_goals cases ho
  all_goals simp [StreamInstr.clearsStopping, StreamInstr.clearsConnected]

/-- Without a thread no flag is set. -/
theorem streamInv_initial : StreamInv initial := by
  refine ⟨fun t ht ↦ absurd ht List.not_mem_nil, ⟨?_, ?_, ?_, ?_, nofun⟩⟩ <;> decide

/-- A call of the start or the end changes none of the numbers. -/
theorem StreamInv.spawn {s : StreamTasks} (h : StreamInv s) (role : StreamRole)
    {ins : StreamInstr} (hins : ∀ p ∈ watched, p ins = false) : StreamInv (s.spawn role [ins]) := by
  refine ⟨System.RunsIn.add h.roles ?_, h.numbers.congr ?_⟩
  · intro hany
    rw [List.any_cons, hins StreamInstr.clearsStopping (by simp [watched])] at hany
    exact absurd hany Bool.false_ne_true
  · intro p hp
    rw [todo_spawn, List.countP_singleton, hins p hp, if_neg Bool.false_ne_true, Nat.add_zero]

/-- A request brings its handler, when there is none. -/
theorem StreamInv.get {s : StreamTasks} (h : StreamInv s) (hidle : s.state.getHandler = false) :
    StreamInv (StreamTasks.spawn .getHandler webrtcSignalGetHandler
      { s with state := { s.state with getHandler := true } }) := by
  obtain ⟨handler, unset, owned, request, stopping⟩ := h.numbers
  refine ⟨System.RunsIn.add h.roles fun hany ↦ absurd hany (by decide), ?_⟩
  have htodo (p : StreamInstr → Bool) : StreamTasks.todo p (StreamTasks.spawn .getHandler
      webrtcSignalGetHandler { s with state := { s.state with getHandler := true } }) =
      s.todo p + [StreamInstr.testListener].countP p := todo_spawn ..
  rw [hidle] at handler
  constructor <;> simp only [htodo, List.countP_singleton]
  · simp only [decide_true, decide_false, reduceCtorEq, if_true, Bool.false_eq_true, if_false]
    simp only [Bool.toNat_false, StreamTasks.spawn, Bool.toNat_true] at handler ⊢
    omega
  · exact unset
  · exact owned
  · exact request
  · exact fun hset ↦ (stopping hset).mono (Nat.le_refl _) fun hnone ↦ ⟨Nat.le_succ _, hnone⟩

/-- The next instruction of a thread keeps the invariant when it meets the condition. -/
theorem streamInv_exec {s t : StreamTasks} {i : Nat} {ok : Bool} (h : StreamInv s)
    (he : s.Answered (.exec i ok)) (ht : s.step (.exec i ok) = some t) : StreamInv t := by
  have hexec : System.exec (fun s ins ok ↦ StreamInstr.exec s ok ins) i ok s = some t := ht
  obtain ⟨ins, o, hhead, ho, hstate, hcount⟩ := System.countP_exec hexec
  have hanswered : ins.Answered s ok := he ins hhead
  refine ⟨?_, ?_⟩
  · exact System.RunsIn.exec h.roles hexec fun _ _ ↦ exec_roles
  · rw [hstate]
    refine h.numbers.step ?_ ?_ ?_ ho hcount
    · intro p hp
      exact System.countP_pos_of_head hhead hp
    · rintro (rfl | rfl)
      · exact hanswered
      · exact hanswered
    · rintro rfl
      exact h.stopSeen hanswered

/-- Every step that meets the condition keeps the invariant. -/
theorem streamInv_step {s t : StreamTasks} {e : StreamEvent} (h : StreamInv s)
    (he : s.Answered e) (ht : s.step e = some t) : StreamInv t := by
  cases e with
  | get =>
    simp only [step] at ht
    split at ht
    · next hserver =>
      cases ht
      simp only [Bool.and_eq_true, Bool.not_eq_true'] at hserver
      exact h.get hserver.2
    · exact absurd ht (by simp)
  | init =>
    cases ht
    exact h.spawn .init (by decide)
  | deinit sig =>
    cases ht
    apply h.spawn .deinit
    simp [watched, StreamInstr.clearsStopping, StreamInstr.clearsConnected]
  | exec i ok => exact streamInv_exec h he ht

/-- The invariant says what becomes of the flags. -/
theorem StreamInv.flagsCleared {s : StreamTasks} (h : StreamInv s) : FlagsCleared s := by
  obtain ⟨handler, unset, owned, request, stopping⟩ := h.numbers
  refine ⟨?_, ?_, ?_⟩
  · intro hidle hconnected
    apply (h.senderWill_iff clearsStopping_of_clearsConnected).mpr
    rw [hidle, Bool.toNat_false] at handler
    rw [hconnected, Bool.toNat_true] at owned
    omega
  · intro hidle hstopping
    apply (h.senderWill_iff fun _ h ↦ h).mpr
    rw [hidle, Bool.toNat_false] at handler
    have hseen := stopping hstopping
    simp only [StopSeen] at hseen
    omega
  · intro i hhead hconnected
    have htest : 0 < s.todo (· = .testListener) := System.countP_pos_of_head hhead rfl
    have hone := s.state.getHandler.toNat_le
    apply (h.senderWill_iff clearsStopping_of_clearsConnected).mpr
    rw [hconnected, Bool.toNat_true] at owned
    omega

/-- The server starts, and a listener comes whose request cannot be kept. -/
private def unkeptRequest : List StreamEvent :=
  [.init, .exec 0 true, .exec 0 true, .get, .exec 1 true, .exec 1 true, .exec 1 false,
    .exec 1 true, .exec 1 true]

/-- A request that cannot be kept leaves the flag of a listener without one. -/
theorem listener_without_sender : ¬ ∀ es, KeepsFlags es := by
  intro h
  have hflags := h unkeptRequest unkeptRequest _ (List.prefix_refl _) rfl
  exact absurd (hflags.connected rfl rfl) (by decide)

/-- The flags stay consistent all along a run in which the creations of the handler succeed and
the end of the server asks only a sender to stop that will clear the flag for that, or that the
handler will create. -/
theorem keepsFlags_of_answered {es : List StreamEvent}
    (h : StepsMeet Answered step initial es) : KeepsFlags es := by
  rintro pre s ⟨post, rfl⟩ hs
  have hinv : StreamInv s := run_invariant_of_meet streamInv_initial
    (fun _ _ _ hu he ht ↦ streamInv_step hu he ht) h.left hs
  exact hinv.flagsCleared

/-- A listener comes, and the end of the server stops its sender. -/
private def listenAndStop : List StreamEvent :=
  [.init, .exec 0 true, .exec 0 true, .get, .exec 1 true, .exec 1 true, .exec 1 true, .exec 1 true,
    .exec 1 true, .exec 2 true, .exec 2 true, .deinit 0, .exec 3 true, .exec 3 true, .exec 3 true,
    .exec 2 true, .exec 2 true, .exec 2 true, .exec 2 true, .exec 2 true, .exec 3 true]

/-- A session of the event stream that meets the condition. -/
theorem keepsFlags_listenAndStop :
    (run step initial listenAndStop).isSome = true ∧ KeepsFlags listenAndStop :=
  ⟨rfl, keepsFlags_of_answered (by decide)⟩

end StreamTasks

end Esp32Robot.Http

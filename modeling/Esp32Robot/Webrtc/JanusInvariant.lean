import Esp32Robot.Webrtc.JanusThreads

/-!
# What holds while a Janus session is closed

How far the application is decides which objects are gone and which of the other two threads can
still run: `pc_task` until its exit bit was waited for, the poll thread, up to the statement that
resets `poll_started`, until its semaphore was.
-/

namespace Esp32Robot.Webrtc

open Esp32Robot.Base

/-- How far the application is. -/
def OwnerAt.stage : OwnerAt → Nat
  | .createSema => 0
  | .createPoll => 1
  | .setPollStarted => 2
  | .iceInfo => 3
  | .newConnection => 4
  | .storeHandle => 5
  | .enable => 6
  | .established => 7
  | .startFailed _ => 7
  | .pcDisconnect => 8
  | .clearRunning => 9
  | .waitExit => 10
  | .peerClose => 11
  | .clearPc => 12
  | .destroyWait => 13
  | .signalingStop => 14
  | .stopJanus => 15
  | .sendDetach => 16
  | .testPollStarted => 17
  | .lockSema => 18
  | .sendDestroy => 19
  | .onClose => 20
  | .destroySema => 21
  | .freeJanus => 22
  | .freeWrapper => 23
  | .clearSignaling => 24
  | .freeRtc => 25
  | .ended => 26

/-- The stage from which on the object is gone. -/
def SessionObject.gone : SessionObject → Nat
  | .peer => 12
  | .waitEvent => 14
  | .exitSema => 22
  | .janus => 23
  | .wrapper => 24
  | .rtc => 26

/-- The object is one of the signaling, which a failed start frees. -/
def SessionObject.ofSignaling : SessionObject → Bool
  | .exitSema | .janus | .wrapper => true
  | _ => false

/-- The task was created and has not set its exit bit. -/
def PcTaskAt.active : PcTaskAt → Bool
  | .none | .ended => false
  | _ => true

/-- The thread was created and has not reset `poll_started`. -/
def PollAt.polling : PollAt → Bool
  | .none | .unlockSema | .ended => false
  | _ => true

namespace JanusThreads

/-- The start failed, and neither thread was created. -/
def Unstarted (s : JanusThreads) : Prop :=
  s.signaling = false ∧ s.poll = .none ∧ s.pcTask = .none

/-- What the application has freed, and the pointers that it has set, by its progress. -/
structure ObjectsInv (s : JanusThreads) : Prop where
  freed : ∀ o ∈ s.freed, o.gone ≤ s.owner.stage ∨
    (8 ≤ s.owner.stage ∧ s.Unstarted ∧ o.ofSignaling = true)
  destroyed : 22 ≤ s.owner.stage → s.poll ≠ .none → .exitSema ∈ s.freed
  pc : s.pc = true → 4 ≤ s.owner.stage ∧ s.owner.stage ≤ 12
  signaling : s.signaling = true → 6 ≤ s.owner.stage ∧ s.owner.stage ≤ 24
  unsignaled : s.signaling = false →
    s.owner.stage ≤ 5 ∨ 25 ≤ s.owner.stage ∨ (7 ≤ s.owner.stage ∧ s.Unstarted)
  stopping : 15 ≤ s.owner.stage → s.owner.stage ≤ 24 → s.signaling = true
  failing : ∀ sema, s.owner = .startFailed sema → s.Unstarted
  pcTask : s.pcTask ≠ .none → 4 ≤ s.owner.stage
  poll : s.poll ≠ .none → 2 ≤ s.owner.stage

/-- While the task is active, the application is not past the wait for its exit bit. -/
structure TaskInv (s : JanusThreads) : Prop where
  running : s.rtcRunning = true → s.pc = true ∧ s.owner.stage ≤ 9
  active : s.pcTask.active = true → s.pc = true ∧ s.waitEvent = true ∧ s.exitBit = false ∧
    s.owner.stage ≤ 10 ∧ (s.owner.stage ≤ 9 → s.rtcRunning = true)
  leaving : s.pcTask = .setExit ∨ s.pcTask = .ended → 10 ≤ s.owner.stage
  ended : s.pcTask = .ended → s.owner.stage ≤ 10 → s.exitBit = true
  exitBit : s.exitBit = true → s.pcTask = .ended

/-- While the poll thread has not reset `poll_started`, the application is not past the wait for its
semaphore. -/
structure PollInv (s : JanusThreads) : Prop where
  starting : s.owner.stage ≤ 5 → s.running = true
  stopped : 16 ≤ s.owner.stage → s.owner.stage ≤ 24 → s.running = false
  started : s.pollStarted = true → s.poll.polling = true
  polling : s.poll.polling = true → s.owner.stage ≤ 18 ∧
    (3 ≤ s.owner.stage → s.pollStarted = true) ∧ (s.owner.stage ≤ 15 → s.running = true)
  leaving : s.poll = .clearPollStarted ∨ s.poll = .unlockSema ∨ s.poll = .ended →
    16 ≤ s.owner.stage
  created : s.owner = .setPollStarted ∨ s.owner = .lockSema → s.poll ≠ .none
  ended : s.poll = .ended → s.owner.stage ≤ 18 → s.exitSema = true
  exitSema : s.exitSema = true → s.poll = .ended

/-- A reachable state. -/
structure Inv (s : JanusThreads) : Prop where
  objects : s.ObjectsInv
  task : s.TaskInv
  thread : s.PollInv

section Owner

variable {s t : JanusThreads} {c : OwnerChoice}

/-- Each statement takes the application on. -/
theorem stage_execOwner (ht : s.execOwner c = some t) : s.owner.stage < t.owner.stage := by
  unfold execOwner at ht
  grind [OwnerAt.stage]

/-- What a statement frees is gone after it, or belongs to a start that failed. -/
theorem gone_ownerFrees (ht : s.execOwner c = some t) : ∀ o ∈ s.ownerFrees,
    o.gone ≤ t.owner.stage ∨ ∃ sema, s.owner = .startFailed sema := by
  unfold execOwner at ht
  unfold ownerFrees
  grind [OwnerAt.stage, SessionObject.gone]

/-- `pc_start` leaves the signaling and its thread. -/
theorem pcStart_kept (c : OwnerChoice) (s : JanusThreads) :
    (s.pcStart c).signaling = s.signaling ∧ (s.pcStart c).running = s.running ∧
      (s.pcStart c).pollStarted = s.pollStarted ∧ (s.pcStart c).exitSema = s.exitSema ∧
      (s.pcStart c).exitBit = s.exitBit ∧ (s.pcStart c).poll = s.poll := by
  unfold pcStart
  split
  · exact ⟨rfl, rfl, rfl, rfl, rfl, rfl⟩
  · split <;> exact ⟨rfl, rfl, rfl, rfl, rfl, rfl⟩

/-- `pc_start` leaves the task, or creates it together with its event group. -/
theorem pcTask_pcStart (c : OwnerChoice) (s : JanusThreads) :
    ((s.pcStart c).pcTask = s.pcTask ∧ (s.pc = true → s.pcStart c = s) ∧
        ((s.pcStart c).rtcRunning = true → s.rtcRunning = true ∨ (s.pcStart c).pc = true)) ∨
      (s.pc = false ∧ (s.pcStart c).pcTask = .whileRunning ∧ (s.pcStart c).pc = true ∧
        (s.pcStart c).waitEvent = true ∧ (s.pcStart c).rtcRunning = true) := by
  unfold pcStart
  split
  · exact .inl ⟨rfl, fun _ ↦ rfl, .inl⟩
  · next hpc =>
    split
    · exact .inr ⟨Bool.eq_false_iff.mpr hpc, rfl, rfl, rfl, rfl⟩
    · exact .inl ⟨rfl, fun h ↦ absurd h hpc, fun _ ↦ .inr rfl⟩
    · exact .inl ⟨rfl, fun h ↦ absurd h hpc, .inl⟩
    · exact .inl ⟨rfl, fun h ↦ absurd h hpc, .inl⟩

/-- The semaphore is destroyed before the signaling is freed. -/
theorem destroyed_execOwner (h : ObjectsInv s) (ht : s.execOwner c = some t)
    (hlate : 22 ≤ t.owner.stage) (hpoll : t.poll ≠ .none) :
    .exitSema ∈ s.freed ∨ .exitSema ∈ s.ownerFrees := by
  obtain ⟨_, hdestroyed, _, _, hunsignaled, _, _, _, _⟩ := h
  have hkept := pcStart_kept c s
  unfold execOwner at ht
  unfold ownerFrees
  grind [OwnerAt.stage, Unstarted, call]

/-- A start that failed stays one. -/
theorem Unstarted.execOwner (h : s.Unstarted) (hstage : 7 ≤ s.owner.stage)
    (ht : s.execOwner c = some t) : t.Unstarted := by
  obtain ⟨hsignaling, hpoll, htask⟩ := h
  unfold JanusThreads.execOwner at ht
  grind [OwnerAt.stage, Unstarted, pcStart, call]

/-- The pointers and the threads after a statement. -/
theorem pointers_execOwner (h : ObjectsInv s) (ht : s.execOwner c = some t) :
    (t.pc = true → 4 ≤ t.owner.stage ∧ t.owner.stage ≤ 12) ∧
      (t.signaling = true → 6 ≤ t.owner.stage ∧ t.owner.stage ≤ 24) ∧
      (t.signaling = false →
        t.owner.stage ≤ 5 ∨ 25 ≤ t.owner.stage ∨ (7 ≤ t.owner.stage ∧ t.Unstarted)) ∧
      (15 ≤ t.owner.stage → t.owner.stage ≤ 24 → t.signaling = true) := by
  obtain ⟨_, _, hpc, hsignaling, hunsignaled, hstopping, hfailing, htask, hpoll⟩ := h
  have hkept := pcStart_kept c s
  unfold execOwner at ht
  refine ⟨?_, ?_, ?_, ?_⟩
  · grind [OwnerAt.stage, call]
  · grind [OwnerAt.stage, call]
  · grind [OwnerAt.stage, Unstarted, call]
  · grind [OwnerAt.stage, call]

/-- The threads are created in their stages, and not by a start that fails. -/
theorem threads_execOwner (h : ObjectsInv s) (ht : s.execOwner c = some t) :
    (∀ sema, t.owner = .startFailed sema → t.Unstarted) ∧
      (t.pcTask ≠ .none → 4 ≤ t.owner.stage) ∧ (t.poll ≠ .none → 2 ≤ t.owner.stage) := by
  obtain ⟨_, _, _, hsignaling, _, _, _, htask, hpoll⟩ := h
  unfold execOwner at ht
  refine ⟨?_, ?_, ?_⟩ <;> grind [OwnerAt.stage, Unstarted, pcStart, call]

/-- The application keeps the invariant of the task. -/
theorem taskInv_execOwner (h : s.Inv) (ht : s.execOwner c = some t) : t.TaskInv := by
  obtain ⟨⟨_, _, hpc, _, _, _, _, htask, _⟩, hinv, _⟩ := h
  obtain ⟨hrunning, hactive, hleaving, hended, hexitBit⟩ := hinv
  have hkept := pcStart_kept c s
  have hstart := pcTask_pcStart c s
  unfold execOwner at ht
  refine ⟨?_, ?_, ?_, ?_, ?_⟩
  · grind [OwnerAt.stage, call]
  · grind [OwnerAt.stage, PcTaskAt.active, call]
  · grind [OwnerAt.stage, call]
  · grind [OwnerAt.stage, call]
  · grind [OwnerAt.stage, call]

/-- The application keeps the invariant of the poll thread. -/
theorem pollInv_execOwner (h : s.Inv) (ht : s.execOwner c = some t) : t.PollInv := by
  obtain ⟨⟨_, _, _, _, hunsignaled, _, hfailing, _, hpoll⟩, _, hinv⟩ := h
  obtain ⟨hstarting, hstopped, hstarted, hpolling, hleaving, hcreated, hended, hexitSema⟩ := hinv
  have hkept := pcStart_kept c s
  unfold execOwner at ht
  refine ⟨?_, ?_, ?_, ?_, ?_, ?_, ?_, ?_⟩
  · grind [OwnerAt.stage]
  · grind [OwnerAt.stage, call]
  · grind [OwnerAt.stage, PollAt.polling, call]
  · grind [OwnerAt.stage, PollAt.polling, Unstarted, call]
  · grind [OwnerAt.stage, call]
  · grind [OwnerAt.stage, PollAt.polling, call]
  · grind [OwnerAt.stage, call]
  · grind [OwnerAt.stage, call]

end Owner

section Others

variable {s t : JanusThreads} {report : PeerReport} {message : Bool}

/-- What `pc_task` leaves as it is. -/
theorem execPcTask_kept (ht : s.execPcTask report = some t) :
    t.owner = s.owner ∧ t.freed = s.freed ∧ t.pc = s.pc ∧ t.waitEvent = s.waitEvent ∧
      t.signaling = s.signaling ∧ t.rtcRunning = s.rtcRunning ∧ t.running = s.running ∧
      t.pollStarted = s.pollStarted ∧ t.exitSema = s.exitSema ∧ t.poll = s.poll ∧
      t.faults = s.faults := by
  unfold execPcTask at ht
  refine ⟨?_, ?_, ?_, ?_, ?_, ?_, ?_, ?_, ?_, ?_, ?_⟩ <;> grind [call]

/-- `pc_task` keeps its invariant: it is active until it sets its exit bit, which it does only after
`running` was reset. -/
theorem taskInv_execPcTask (h : s.TaskInv) (ht : s.execPcTask report = some t) :
    s.pcTask ≠ .none ∧ t.pcTask ≠ .none ∧ t.TaskInv := by
  obtain ⟨hrunning, hactive, hleaving, hended, hexitBit⟩ := h
  obtain ⟨howner, _⟩ := execPcTask_kept ht
  unfold execPcTask at ht
  refine ⟨?_, ?_, ⟨?_, ?_, ?_, ?_, ?_⟩⟩
  · grind
  · grind
  · grind [call]
  · grind [PcTaskAt.active, call]
  · grind [PcTaskAt.active, call]
  · grind [call]
  · grind [PcTaskAt.active, call]

/-- What the poll thread leaves as it is. -/
theorem execPoll_kept (ht : s.execPoll message = some t) :
    t.owner = s.owner ∧ t.freed = s.freed ∧ t.pc = s.pc ∧ t.waitEvent = s.waitEvent ∧
      t.signaling = s.signaling ∧ t.rtcRunning = s.rtcRunning ∧ t.running = s.running ∧
      t.exitBit = s.exitBit ∧ t.pcTask = s.pcTask ∧ t.faults = s.faults := by
  unfold execPoll at ht
  refine ⟨?_, ?_, ?_, ?_, ?_, ?_, ?_, ?_, ?_, ?_⟩ <;> grind [call]

/-- The poll thread keeps its invariant: it resets `poll_started` only after `running` was reset. -/
theorem pollInv_execPoll (h : s.PollInv) (ht : s.execPoll message = some t) :
    s.poll ≠ .none ∧ t.poll ≠ .none ∧ t.PollInv := by
  obtain ⟨hstarting, hstopped, hstarted, hpolling, hleaving, hcreated, hended, hexitSema⟩ := h
  obtain ⟨howner, _⟩ := execPoll_kept ht
  unfold execPoll at ht
  refine ⟨?_, ?_, ⟨?_, ?_, ?_, ?_, ?_, ?_, ?_, ?_⟩⟩
  · grind
  · grind
  · grind [call]
  · grind [call]
  · grind [PollAt.polling, call]
  · grind [PollAt.polling, call]
  · grind [PollAt.polling, call]
  · grind
  · grind [call]
  · grind [call]

end Others

section Steps

variable {s t : JanusThreads} {e : JanusEvent}

/-- The statements themselves neither free an object nor make a fault. -/
theorem execOwner_kept {c : OwnerChoice} (ht : s.execOwner c = some t) :
    t.freed = s.freed ∧ t.faults = s.faults := by
  have hstart : (s.pcStart c).freed = s.freed ∧ (s.pcStart c).faults = s.faults := by
    unfold pcStart
    split
    · exact ⟨rfl, rfl⟩
    · split <;> exact ⟨rfl, rfl⟩
  unfold execOwner at ht
  refine ⟨?_, ?_⟩ <;> grind [call]

/-- The invariant of the task depends on its fields. -/
theorem TaskInv.of_eq (h : s.TaskInv) (howner : t.owner = s.owner) (hpc : t.pc = s.pc)
    (hwait : t.waitEvent = s.waitEvent) (hrunning : t.rtcRunning = s.rtcRunning)
    (hexit : t.exitBit = s.exitBit) (htask : t.pcTask = s.pcTask) : t.TaskInv := by
  obtain ⟨irunning, iactive, ileaving, iended, iexit⟩ := h
  refine ⟨?_, ?_, ?_, ?_, ?_⟩
  all_goals
    simp only [howner, hpc, hwait, hrunning, hexit, htask]
    assumption

/-- The invariant of the poll thread depends on its fields. -/
theorem PollInv.of_eq (h : s.PollInv) (howner : t.owner = s.owner)
    (hrunning : t.running = s.running) (hstarted : t.pollStarted = s.pollStarted)
    (hsema : t.exitSema = s.exitSema) (hpoll : t.poll = s.poll) : t.PollInv := by
  obtain ⟨istarting, istopped, istarted, ipolling, ileaving, icreated, iended, isema⟩ := h
  refine ⟨?_, ?_, ?_, ?_, ?_, ?_, ?_, ?_⟩
  all_goals
    simp only [howner, hrunning, hstarted, hsema, hpoll]
    assumption

/-- A step of another thread than the application keeps the invariant of the objects, as the start
has not failed. -/
theorem ObjectsInv.of_eq (h : s.ObjectsInv) (howner : t.owner = s.owner) (hpc : t.pc = s.pc)
    (hsignaling : t.signaling = s.signaling) (hfreed : t.freed = s.freed)
    (hs : s.poll ≠ .none ∨ s.pcTask ≠ .none) (htask : t.pcTask ≠ .none → s.pcTask ≠ .none)
    (hpoll : t.poll ≠ .none → s.poll ≠ .none) : t.ObjectsInv := by
  have hstarted : ¬ s.Unstarted := fun hx ↦ hs.elim (· hx.2.1) (· hx.2.2)
  obtain ⟨ifreed, idestroyed, ipc, isignaling, iunsignaled, istopping, ifailing, itask, ipoll⟩ := h
  refine ⟨?_, ?_, ?_, ?_, ?_, ?_, ?_, ?_, ?_⟩
  all_goals simp only [howner, hpc, hsignaling, hfreed]
  · exact fun o ho ↦ .inl ((ifreed o ho).resolve_right fun hx ↦ hstarted hx.2.1)
  · exact fun hlate hx ↦ idestroyed hlate (hpoll hx)
  · exact ipc
  · exact isignaling
  · intro hoff
    rcases iunsignaled hoff with hearly | hlate | hx
    · exact .inl hearly
    · exact .inr (.inl hlate)
    · exact absurd hx.2 hstarted
  · exact istopping
  · exact fun sema hx ↦ absurd (ifailing sema hx) hstarted
  · exact fun hx ↦ itask (htask hx)
  · exact fun hx ↦ ipoll (hpoll hx)

/-- A step of the application keeps the invariant. -/
theorem Inv.stepOwner {c : OwnerChoice} (h : s.Inv) (ht : s.step (.owner c) = some t) : t.Inv := by
  obtain ⟨u, hu, rfl⟩ := Option.map_eq_some_iff.mp ht
  obtain ⟨hpc, hsignaling, hunsignaled, hstopping⟩ := pointers_execOwner h.objects hu
  obtain ⟨hfailing, htask, hpoll⟩ := threads_execOwner h.objects hu
  obtain ⟨hfreed, _⟩ := execOwner_kept hu
  have hstage := stage_execOwner hu
  refine ⟨⟨?_, ?_, hpc, hsignaling, hunsignaled, hstopping, hfailing, htask, hpoll⟩,
    (taskInv_execOwner h hu).of_eq rfl rfl rfl rfl rfl rfl,
    (pollInv_execOwner h hu).of_eq rfl rfl rfl rfl rfl⟩
  · intro o ho
    show o.gone ≤ u.owner.stage ∨ (8 ≤ u.owner.stage ∧ u.Unstarted ∧ o.ofSignaling = true)
    rcases List.mem_append.mp ho with ho | ho
    · rw [hfreed] at ho
      rcases h.objects.freed o ho with hgone | ⟨hlate, hunstarted, hkind⟩
      · exact .inl (by omega)
      · exact .inr ⟨by omega, hunstarted.execOwner (by omega) hu, hkind⟩
    · rcases gone_ownerFrees hu o ho with hgone | ⟨sema, howner⟩
      · exact .inl hgone
      · -- A failed start frees what it has created of the signaling.
        have hunstarted := h.objects.failing sema howner
        have hseven : s.owner.stage = 7 := by
          rw [howner]
          rfl
        refine .inr ⟨by omega, hunstarted.execOwner (by omega) hu, ?_⟩
        simp only [ownerFrees, howner, List.mem_append, List.mem_cons, List.not_mem_nil,
          or_false] at ho
        cases o <;> cases sema <;> simp_all [SessionObject.ofSignaling]
  · intro hlate hx
    rw [access, hfreed]
    exact List.mem_append.mpr (destroyed_execOwner h.objects hu hlate hx)

/-- A step of `pc_task` keeps the invariant. -/
theorem Inv.stepPcTask {report : PeerReport} (h : s.Inv)
    (ht : s.step (.pcTask report) = some t) : t.Inv := by
  obtain ⟨u, hu, rfl⟩ := Option.map_eq_some_iff.mp ht
  obtain ⟨howner, hfreed, hpc, _, hsignaling, _, hrunning, hstarted, hsema, hpoll, _⟩ :=
    execPcTask_kept hu
  obtain ⟨hs, _, htask⟩ := taskInv_execPcTask h.task hu
  refine ⟨h.objects.of_eq howner hpc hsignaling ?_ (.inr hs) (fun _ ↦ hs) (hpoll ▸ id),
    htask.of_eq rfl rfl rfl rfl rfl rfl, h.thread.of_eq howner hrunning hstarted hsema hpoll⟩
  exact (List.append_nil _).trans hfreed

/-- A step of the poll thread keeps the invariant. -/
theorem Inv.stepPoll {message : Bool} (h : s.Inv) (ht : s.step (.poll message) = some t) :
    t.Inv := by
  obtain ⟨u, hu, rfl⟩ := Option.map_eq_some_iff.mp ht
  obtain ⟨howner, hfreed, hpc, hwait, hsignaling, hrunning, _, hexit, htask, _⟩ := execPoll_kept hu
  obtain ⟨hs, _, hthread⟩ := pollInv_execPoll h.thread hu
  refine ⟨h.objects.of_eq howner hpc hsignaling ?_ (.inl hs) (htask ▸ id) (fun _ ↦ hs),
    h.task.of_eq howner hpc hwait hrunning hexit htask, hthread.of_eq rfl rfl rfl rfl rfl⟩
  exact (List.append_nil _).trans hfreed

/-- Every step keeps the invariant. -/
theorem Inv.step (h : s.Inv) (ht : s.step e = some t) : t.Inv := by
  cases e with
  | owner c => exact h.stepOwner ht
  | pcTask report => exact h.stepPcTask ht
  | poll message => exact h.stepPoll ht

/-- The invariant holds at the start. -/
theorem inv_initial : initial.Inv := by
  refine ⟨⟨?_, ?_, ?_, ?_, ?_, ?_, ?_, ?_, ?_⟩, ⟨?_, ?_, ?_, ?_, ?_⟩,
    ⟨?_, ?_, ?_, ?_, ?_, ?_, ?_, ?_⟩⟩
  all_goals simp [initial, OwnerAt.stage, PcTaskAt.active, PollAt.polling]

/-- The invariant holds in every reachable state. -/
theorem inv_run {es : List JanusEvent} (h : run JanusThreads.step initial es = some s) : s.Inv :=
  run_invariant inv_initial (fun _ _ _ hs ht ↦ hs.step ht) h

end Steps

end JanusThreads
end Esp32Robot.Webrtc

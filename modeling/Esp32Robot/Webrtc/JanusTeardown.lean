import Esp32Robot.Webrtc.JanusInvariant

/-!
# Closing a Janus session

`esp_webrtc_close` waits for the peer connection task before it closes the peer, and for the
poll thread before it frees the signaling. The first wait is sound. The second has two gaps: the
peer is closed while the poll thread may hold it, and the poll thread resets `poll_started` before
its last access to the signaling. These gaps are the only ones.
-/

namespace Esp32Robot.Webrtc

open Esp32Robot.Base

namespace JanusThreads

variable {s t : JanusThreads} {e : JanusEvent} {es : List JanusEvent}

/-! ### Faults -/

/-- No thread has accessed a freed object, and the poll thread is not about to access one. -/
structure Sound (s : JanusThreads) : Prop where
  faults : s.faults = []
  peer : s.poll = .sendToPeer → .peer ∉ s.freed
  exitSema : s.poll = .unlockSema → .exitSema ∉ s.freed

/-- The peer is not closed while the poll thread holds it, nor taken from a pointer to the closed
one; the semaphore is not destroyed while the poll thread is about to unlock it. -/
def Heeded (s : JanusThreads) : JanusEvent → Prop
  | .owner _ => (s.owner = .peerClose → s.poll ≠ .sendToPeer) ∧
      (s.owner = .destroySema → s.poll ≠ .unlockSema)
  | .pcTask _ => True
  | .poll message => s.pc = true → .peer ∈ s.freed → s.poll = .events → message = false

instance (s : JanusThreads) (e : JanusEvent) : Decidable (s.Heeded e) := by
  cases e <;> unfold Heeded <;> infer_instance

/-- The faults of accesses. -/
theorem faults_access (p : SessionParty) (objects frees : List SessionObject) (s : JanusThreads) :
    (∀ f ∈ (s.access p objects frees).faults, f ∈ s.faults ∨ (f.1 = p ∧ f.2 ∈ objects ∧
      f.2 ∈ s.freed)) ∧
    ((s.access p objects frees).faults = [] ↔ s.faults = [] ∧ ∀ o ∈ objects, o ∉ s.freed) := by
  refine ⟨?_, ?_⟩
  · intro f hf
    rcases List.mem_append.mp hf with hf | hf
    · exact .inl hf
    · obtain ⟨o, ho, rfl⟩ := List.mem_map.mp hf
      obtain ⟨hmem, hfreed⟩ := List.mem_filter.mp ho
      exact .inr ⟨rfl, hmem, of_decide_eq_true hfreed⟩
  · simp only [access, List.append_eq_nil_iff, List.map_eq_nil_iff, List.filter_eq_nil_iff,
      decide_eq_true_eq]

/-- What the application accesses was not freed. -/
theorem ownerAccesses_live {c : OwnerChoice} (h : s.Inv) :
    ∀ o ∈ s.ownerAccesses c, o ∉ s.freed := by
  obtain ⟨⟨hfreed, _, hpc, _, hunsignaled, hstopping, _, _, _⟩, _, _⟩ := h
  intro o ho hmem
  have hgone := hfreed o hmem
  unfold ownerAccesses at ho
  grind [OwnerAt.stage, SessionObject.gone, SessionObject.ofSignaling, Unstarted, peerOf]

/-- What `pc_task` accesses was not freed. -/
theorem pcTaskAccesses_live (h : s.Inv) : ∀ o ∈ s.pcTaskAccesses, o ∉ s.freed := by
  obtain ⟨⟨hfreed, _, _, _, _, _, _, _, _⟩, ⟨_, hactive, _, _, _⟩, _⟩ := h
  intro o ho hmem
  have hgone := hfreed o hmem
  unfold pcTaskAccesses at ho
  grind [PcTaskAt.active, SessionObject.gone, Unstarted, peerOf]

/-- What the poll thread accesses was not freed, but for the peer and what it unlocks. -/
theorem pollAccesses_live {message : Bool} (h : s.Inv) : ∀ o ∈ s.pollAccesses message, o ∈ s.freed →
    (s.poll = .sendToPeer ∧ o = .peer) ∨ (s.poll = .unlockSema ∧ (o = .janus ∨ o = .exitSema)) := by
  obtain ⟨⟨hfreed, _, _, _, _, _, _, _, _⟩, _, ⟨_, _, _, hpolling, _, _, _, _⟩⟩ := h
  intro o ho hmem
  have hgone := hfreed o hmem
  unfold pollAccesses at ho
  grind [PollAt.polling, SessionObject.gone, Unstarted]

/-- The application creates the poll thread at the test of `running`, and leaves it otherwise. -/
theorem poll_execOwner {c : OwnerChoice} (ht : s.execOwner c = some t) :
    t.poll = s.poll ∨ (s.owner = .createPoll ∧ t.poll = .whileRunning) := by
  have hkept := pcStart_kept c s
  unfold execOwner at ht
  grind [call]

/-- The statements that free the peer and the semaphore. -/
theorem mem_ownerFrees (s : JanusThreads) : (.peer ∈ s.ownerFrees ↔ s.owner = .peerClose) ∧
    (.exitSema ∈ s.ownerFrees ↔ s.owner = .destroySema ∨ s.owner = .startFailed true) := by
  unfold ownerFrees
  constructor <;> split <;> simp_all

/-- The poll thread takes the peer from the pointer, and goes to unlock the semaphore. -/
theorem poll_execPoll {message : Bool} (ht : s.execPoll message = some t) :
    (t.poll = .sendToPeer ↔ s.poll = .events ∧ message = true ∧ s.pc = true) ∧
      (t.poll = .unlockSema ↔ s.poll = .clearPollStarted) := by
  unfold execPoll at ht
  constructor <;> grind [call]

/-- The semaphore is gone when the signaling is. -/
theorem exitSema_of_janus (h : s.Inv) (hpoll : s.poll ≠ .none) (hmem : .janus ∈ s.freed) :
    .exitSema ∈ s.freed := by
  rcases h.objects.freed .janus hmem with hgone | ⟨_, hunstarted, _⟩
  · exact h.objects.destroyed (Nat.le_trans (by decide) hgone) hpoll
  · exact absurd hunstarted.2.1 hpoll

/-- A step of the application is sound exactly when it starts in a sound state and meets the
condition. -/
theorem sound_stepOwner {c : OwnerChoice} (h : s.Inv) (ht : s.step (.owner c) = some t) :
    t.Sound ↔ s.Sound ∧ s.Heeded (.owner c) := by
  obtain ⟨u, hu, rfl⟩ := Option.map_eq_some_iff.mp ht
  obtain ⟨hfreed, hfaults⟩ := execOwner_kept hu
  have hclean : (u.access .owner (s.ownerAccesses c) s.ownerFrees).faults = [] ↔
      s.faults = [] := by
    rw [(faults_access ..).2, hfreed, hfaults]
    exact and_iff_left (ownerAccesses_live h)
  obtain ⟨hpeer, hsema⟩ := mem_ownerFrees s
  have hmem (o : SessionObject) : o ∈ (u.access .owner (s.ownerAccesses c) s.ownerFrees).freed ↔
      o ∈ s.freed ∨ o ∈ s.ownerFrees := by
    rw [access, hfreed, List.mem_append]
  have hfailed : s.owner = .startFailed true → s.poll = .none :=
    fun howner ↦ (h.objects.failing true howner).2.1
  have hcreated : s.owner = .createPoll → s.poll ≠ .sendToPeer ∧ s.poll ≠ .unlockSema := by
    intro howner
    have hnone : s.poll = .none := by
      refine Classical.not_not.mp fun hne ↦ ?_
      have := h.objects.poll hne
      rw [howner] at this
      simp [OwnerAt.stage] at this
    rw [hnone]
    exact ⟨by decide, by decide⟩
  constructor
  · rintro ⟨hf, hp, hx⟩
    rw [hmem, hpeer] at hp
    rw [hmem, hsema] at hx
    rcases poll_execOwner hu with hpoll | ⟨howner, hpoll⟩
    · replace hp : s.poll = .sendToPeer → _ := fun hs ↦ hp (hpoll.trans hs)
      replace hx : s.poll = .unlockSema → _ := fun hs ↦ hx (hpoll.trans hs)
      exact ⟨⟨hclean.mp hf, fun hs hin ↦ hp hs (.inl hin), fun hs hin ↦ hx hs (.inl hin)⟩,
        fun howner hs ↦ hp hs (.inr howner), fun howner hs ↦ hx hs (.inr (.inl howner))⟩
    · obtain ⟨hne, hne'⟩ := hcreated howner
      exact ⟨⟨hclean.mp hf, fun hs ↦ absurd hs hne, fun hs ↦ absurd hs hne'⟩,
        fun _ ↦ hne, fun _ ↦ hne'⟩
  · rintro ⟨⟨hf, hp, hx⟩, hclose, hdestroy⟩
    refine ⟨hclean.mpr hf, ?_, ?_⟩
    · intro hs
      rw [hmem, hpeer]
      rcases poll_execOwner hu with hpoll | ⟨_, hpoll⟩
      · have hs := hpoll.symm.trans hs
        exact fun hin ↦ hin.elim (hp hs) (fun howner ↦ hclose howner hs)
      · exact absurd (hpoll.symm.trans hs) (by decide)
    · intro hs
      rw [hmem, hsema]
      rcases poll_execOwner hu with hpoll | ⟨_, hpoll⟩
      · have hs := hpoll.symm.trans hs
        rintro (hin | howner | howner)
        · exact hx hs hin
        · exact hdestroy howner hs
        · rw [hfailed howner] at hs
          exact absurd hs (by decide)
      · exact absurd (hpoll.symm.trans hs) (by decide)

/-- A step of `pc_task` is sound exactly when it starts in a sound state. -/
theorem sound_stepPcTask {report : PeerReport} (h : s.Inv)
    (ht : s.step (.pcTask report) = some t) : t.Sound ↔ s.Sound := by
  obtain ⟨u, hu, rfl⟩ := Option.map_eq_some_iff.mp ht
  obtain ⟨_, hfreed, _, _, _, _, _, _, _, hpoll, hfaults⟩ := execPcTask_kept hu
  have hclean : (u.access .pcTask s.pcTaskAccesses []).faults = [] ↔ s.faults = [] := by
    rw [(faults_access ..).2, hfreed, hfaults]
    exact and_iff_left (pcTaskAccesses_live h)
  have hsame : (u.access .pcTask s.pcTaskAccesses []).freed = s.freed :=
    (List.append_nil _).trans hfreed
  have hsamePoll : (u.access .pcTask s.pcTaskAccesses []).poll = s.poll := hpoll
  constructor
  · rintro ⟨hf, hp, hx⟩
    rw [hsame, hsamePoll] at hp hx
    exact ⟨hclean.mp hf, hp, hx⟩
  · rintro ⟨hf, hp, hx⟩
    refine ⟨hclean.mpr hf, ?_, ?_⟩ <;> rw [hsame, hsamePoll] <;> assumption

/-- A step of the poll thread is sound exactly when it starts in a sound state and meets the
condition. -/
theorem sound_stepPoll {message : Bool} (h : s.Inv) (ht : s.step (.poll message) = some t) :
    t.Sound ↔ s.Sound ∧ s.Heeded (.poll message) := by
  obtain ⟨u, hu, rfl⟩ := Option.map_eq_some_iff.mp ht
  obtain ⟨_, hfreed, _, _, _, _, _, _, _, hfaults⟩ := execPoll_kept hu
  obtain ⟨htake, hleave⟩ := poll_execPoll hu
  have hclean : (u.access .poll (s.pollAccesses message) []).faults = [] ↔
      s.faults = [] ∧ ∀ o ∈ s.pollAccesses message, o ∉ s.freed := by
    rw [(faults_access ..).2, hfreed, hfaults]
  have hsame : (u.access .poll (s.pollAccesses message) []).freed = s.freed :=
    (List.append_nil _).trans hfreed
  have hsamePoll : (u.access .poll (s.pollAccesses message) []).poll = u.poll := rfl
  constructor
  · rintro ⟨hf, hp, hx⟩
    rw [hsame, hsamePoll, htake] at hp
    obtain ⟨hf, hlive⟩ := hclean.mp hf
    refine ⟨⟨hf, ?_, ?_⟩, ?_⟩
    · exact fun hs ↦ hlive .peer (by simp [pollAccesses, hs])
    · exact fun hs ↦ hlive .exitSema (by simp [pollAccesses, hs])
    · intro hpc hpeer hs
      exact Bool.eq_false_iff.mpr fun hmessage ↦ hp ⟨hs, hmessage, hpc⟩ hpeer
  · rintro ⟨⟨hf, hp, hx⟩, hheeded⟩
    refine ⟨hclean.mpr ⟨hf, ?_⟩, ?_, ?_⟩
    · intro o ho hmem
      rcases pollAccesses_live h o ho hmem with ⟨hs, rfl⟩ | ⟨hs, rfl | rfl⟩
      · exact hp hs hmem
      · -- The semaphore goes before the signaling.
        exact hx hs (exitSema_of_janus h (by rw [hs]; decide) hmem)
      · exact hx hs hmem
    · rw [hsame, hsamePoll, htake]
      rintro ⟨hs, hmessage, hpc⟩ hpeer
      exact absurd (hheeded hpc hpeer hs) (by simp [hmessage])
    · rw [hsame, hsamePoll, hleave]
      intro hs hmem
      have hstage := (h.thread.polling (by rw [hs]; rfl)).1
      rcases h.objects.freed .exitSema hmem with hgone | ⟨_, hunstarted, _⟩
      · simp only [SessionObject.gone] at hgone
        omega
      · exact absurd (hs.symm.trans hunstarted.2.1) (by decide)

/-- A step is sound exactly when it starts in a sound state and meets the condition. -/
theorem sound_step (h : s.Inv) (ht : s.step e = some t) : t.Sound ↔ s.Sound ∧ s.Heeded e := by
  cases e with
  | owner c => exact sound_stepOwner h ht
  | pcTask report => exact (sound_stepPcTask h ht).trans (and_iff_left trivial).symm
  | poll message => exact sound_stepPoll h ht

/-- A reachable state is sound exactly when every step to it met the condition. -/
theorem sound_iff (h : run step initial es = some s) :
    s.Sound ↔ StepsMeet Heeded step initial es := by
  induction es using concat_induction generalizing s with
  | nil =>
    cases h
    exact iff_of_true ⟨rfl, fun _ ↦ List.not_mem_nil, fun _ ↦ List.not_mem_nil⟩ stepsMeet_nil
  | concat es e ih =>
    obtain ⟨u, hu, he⟩ := run_concat_some.mp h
    rw [sound_step (inv_run hu) he, ih hu, stepsMeet_concat]
    refine and_congr_right fun _ ↦ ⟨fun hheeded v hv ↦ ?_, fun hall ↦ hall u hu⟩
    obtain rfl := Option.some.inj (hu.symm.trans hv)
    exact hheeded

/-- The accesses to freed objects are those of the poll thread in the two gaps. -/
theorem faults_run (h : run step initial es = some s) :
    ∀ f ∈ s.faults, f.1 = .poll ∧ f.2 ∈ [SessionObject.peer, .janus, .exitSema] := by
  induction es using concat_induction generalizing s with
  | nil =>
    cases h
    exact fun f hf ↦ absurd hf List.not_mem_nil
  | concat es e ih =>
    obtain ⟨u, hu, he⟩ := run_concat_some.mp h
    have hinv := inv_run hu
    cases e with
    | owner c =>
      obtain ⟨v, hv, rfl⟩ := Option.map_eq_some_iff.mp he
      obtain ⟨hfreed, hfaults⟩ := execOwner_kept hv
      intro f hf
      rcases (faults_access ..).1 f hf with hf | ⟨_, hmem, hin⟩
      · exact ih hu f (hfaults ▸ hf)
      · exact absurd (hfreed ▸ hin) (ownerAccesses_live hinv f.2 hmem)
    | pcTask report =>
      obtain ⟨v, hv, rfl⟩ := Option.map_eq_some_iff.mp he
      obtain ⟨_, hfreed, _, _, _, _, _, _, _, _, hfaults⟩ := execPcTask_kept hv
      intro f hf
      rcases (faults_access ..).1 f hf with hf | ⟨_, hmem, hin⟩
      · exact ih hu f (hfaults ▸ hf)
      · exact absurd (hfreed ▸ hin) (pcTaskAccesses_live hinv f.2 hmem)
    | poll message =>
      obtain ⟨v, hv, rfl⟩ := Option.map_eq_some_iff.mp he
      obtain ⟨_, hfreed, _, _, _, _, _, _, _, hfaults⟩ := execPoll_kept hv
      intro f hf
      rcases (faults_access ..).1 f hf with hf | ⟨hparty, hmem, hin⟩
      · exact ih hu f (hfaults ▸ hf)
      · refine ⟨hparty, ?_⟩
        rcases pollAccesses_live hinv f.2 hmem (hfreed ▸ hin) with ⟨_, h⟩ | ⟨_, h | h⟩ <;> simp [h]

private def own (n : Nat) : List JanusEvent := List.replicate n (.owner .ok)

private def reports (rs : List PeerReport) : List JanusEvent := rs.map .pcTask

/-- A session whose peer reports a state and its offer, and gets an answer, closed up to the test of
`poll_started`. -/
private def openAndClose : List JanusEvent :=
  own 7 ++ reports [.nothing, .state, .nothing, .message, .nothing, .nothing, .nothing] ++
    [.poll false, .poll true, .poll true, .poll false, .poll false] ++ own 3 ++
    reports [.nothing, .nothing] ++ own 7

/-- The application waits for the poll thread. -/
private def closeInOrder : List JanusEvent :=
  openAndClose ++ own 1 ++ [.poll false, .poll false, .poll false] ++ own 8

/-- The poll thread resets `poll_started` just before the test. -/
private def closeInGap : List JanusEvent :=
  openAndClose ++ [.poll false, .poll false] ++ own 5 ++ [.poll false] ++ own 3

/-- In every run without a stream only the poll thread accesses a freed object, and only the peer
or the signaling with its semaphore. No access is to a freed object when every step meets the
condition, and once the poll thread has ended only then. -/
theorem teardown_faults (es : List JanusEvent) (s : JanusThreads)
    (h : run step initial es = some s) :
    (∀ f ∈ s.faults, f.1 = .poll ∧ f.2 ∈ [.peer, .janus, .exitSema]) ∧
      (StepsMeet Heeded step initial es → s.faults = []) ∧
      (s.poll = .ended → s.faults = [] → StepsMeet Heeded step initial es) := by
  refine ⟨faults_run h, fun hmeet ↦ ((sound_iff h).mpr hmeet).faults, fun hended hfaults ↦ ?_⟩
  refine (sound_iff h).mp ⟨hfaults, fun hs ↦ ?_, fun hs ↦ ?_⟩
  · exact absurd (hended.symm.trans hs) (by decide)
  · exact absurd (hended.symm.trans hs) (by decide)

/-- Both ways to close it. -/
theorem teardown_faults_gap :
    (∃ s, run step initial closeInOrder = some s ∧ s.owner = .ended ∧ s.faults = []) ∧
      ∃ s, run step initial closeInGap = some s ∧ s.faults ≠ [] ∧
        (∀ f ∈ s.faults, f.1 = .poll ∧ f.2 ∈ [.peer, .janus, .exitSema]) ∧
        ¬ StepsMeet Heeded step initial closeInGap := by
  obtain ⟨s, hs⟩ := Option.isSome_iff_exists.mp
    (show (run step initial closeInOrder).isSome = true by decide +kernel)
  obtain ⟨t, ht⟩ := Option.isSome_iff_exists.mp
    (show (run step initial closeInGap).isSome = true by decide +kernel)
  have hended : (run step initial closeInOrder).map (fun s ↦ s.owner) = some .ended := by
    decide +kernel
  have hfaults : (run step initial closeInGap).map (fun t ↦ t.faults.length) = some 2 := by
    decide +kernel
  rw [hs, Option.map_some, Option.some.injEq] at hended
  rw [ht, Option.map_some, Option.some.injEq] at hfaults
  have hne : t.faults ≠ [] := by
    intro hnil
    rw [hnil] at hfaults
    exact absurd hfaults (by decide)
  refine ⟨⟨s, hs, hended, (teardown_faults closeInOrder s hs).2.1 (by decide +kernel)⟩,
    t, ht, hne, (teardown_faults closeInGap t ht).1, ?_⟩
  exact fun hmeet ↦ hne ((teardown_faults closeInGap t ht).2.1 hmeet)

/-! ### The calls between the session and its signaling -/

/-- A step makes no call, or one: `on_close` by the application, the others by the threads that are
then still running. -/
theorem calls_step (ht : s.step e = some t) : t.calls = s.calls ∨
    (t.calls = s.calls ++ [.closed] ∧ s.owner.stage = 20 ∧ t.owner.stage = 21) ∨
    (t.calls = s.calls ++ [.dropped] ∧ s.signaling = false ∧ s.pcTask.active = true) ∨
    (t.calls = s.calls ++ [.sent] ∧ s.pcTask.active = true) ∨
    (t.calls = s.calls ++ [.delivered] ∧ s.poll.polling = true) := by
  cases e with
  | owner c =>
    obtain ⟨u, hu, rfl⟩ := Option.map_eq_some_iff.mp ht
    have hstart : (s.pcStart c).calls = s.calls := by
      unfold pcStart
      split
      · rfl
      · split <;> rfl
    simp only [access]
    unfold execOwner at hu
    grind [OwnerAt.stage, call]
  | pcTask report =>
    obtain ⟨u, hu, rfl⟩ := Option.map_eq_some_iff.mp ht
    simp only [access]
    unfold execPcTask at hu
    grind [PcTaskAt.active, call]
  | poll message =>
    obtain ⟨u, hu, rfl⟩ := Option.map_eq_some_iff.mp ht
    simp only [access]
    unfold execPoll at hu
    grind [PollAt.polling, call]

/-- No step takes the application back. -/
theorem stage_step (ht : s.step e = some t) : s.owner.stage ≤ t.owner.stage := by
  cases e with
  | owner c =>
    obtain ⟨u, hu, rfl⟩ := Option.map_eq_some_iff.mp ht
    exact Nat.le_of_lt (show s.owner.stage < u.owner.stage from stage_execOwner hu)
  | pcTask report =>
    obtain ⟨u, hu, rfl⟩ := Option.map_eq_some_iff.mp ht
    exact Nat.le_of_eq (congrArg OwnerAt.stage (execPcTask_kept hu).1.symm)
  | poll message =>
    obtain ⟨u, hu, rfl⟩ := Option.map_eq_some_iff.mp ht
    exact Nat.le_of_eq (congrArg OwnerAt.stage (execPoll_kept hu).1.symm)

/-- When `on_close` was called, the application is past it, and it was the last call. -/
theorem closed_run (h : run step initial es = some s) :
    (.closed ∈ s.calls → 21 ≤ s.owner.stage) ∧
      ∀ pre post, s.calls = pre ++ .closed :: post → post = [] := by
  induction es using concat_induction generalizing s with
  | nil =>
    cases h
    exact ⟨fun hmem ↦ absurd hmem List.not_mem_nil,
      fun pre post hcalls ↦ by simp [initial] at hcalls⟩
  | concat es e ih =>
    obtain ⟨u, hu, he⟩ := run_concat_some.mp h
    obtain ⟨hpast, hlast⟩ := ih hu
    have hinv := inv_run hu
    have hstage := stage_step he
    -- A call other than `on_close` is made before it.
    have hother (c : SignalingCall) (hc : c ≠ .closed) (hcalls : s.calls = u.calls ++ [c])
        (hearly : u.owner.stage ≤ 18) : .closed ∉ s.calls := by
      rw [hcalls]
      intro hmem
      rcases List.mem_append.mp hmem with hmem | hmem
      · have := hpast hmem
        omega
      · exact hc (List.mem_singleton.mp hmem).symm
    have hnone (hnot : .closed ∉ s.calls) : (.closed ∈ s.calls → 21 ≤ s.owner.stage) ∧
        ∀ pre post, s.calls = pre ++ .closed :: post → post = [] :=
      ⟨fun hmem ↦ absurd hmem hnot, fun pre post hcalls ↦ absurd (by simp [hcalls]) hnot⟩
    rcases calls_step he with hcalls | ⟨hcalls, hbefore, hafter⟩ | ⟨hcalls, _, hactive⟩ |
      ⟨hcalls, hactive⟩ | ⟨hcalls, hpolling⟩
    · rw [hcalls]
      exact ⟨fun hmem ↦ Nat.le_trans (hpast hmem) hstage, hlast⟩
    · refine ⟨fun _ ↦ Nat.le_of_eq hafter.symm, fun pre post heq ↦ ?_⟩
      rcases List.eq_nil_or_concat post with rfl | ⟨post, c, rfl⟩
      · rfl
      · -- Two calls of `on_close`: the first was made before.
        rw [hcalls, List.concat_eq_append, ← List.cons_append, ← List.append_assoc] at heq
        have hmem : SignalingCall.closed ∈ u.calls := by
          rw [(List.append_inj' heq rfl).1]
          simp
        have := hpast hmem
        omega
    · exact hnone (hother .dropped (by decide) hcalls
        (Nat.le_trans (hinv.task.active hactive).2.2.2.1 (by decide)))
    · exact hnone (hother .sent (by decide) hcalls
        (Nat.le_trans (hinv.task.active hactive).2.2.2.1 (by decide)))
    · exact hnone (hother .delivered (by decide) hcalls (hinv.thread.polling hpolling).1)

/-- In every run `on_close` is the last call between the session and its signaling: no message is
delivered, sent or dropped after it. A message of the peer is dropped, not handed to the signaling,
only while `esp_peer_signaling_start` has not stored its handle. -/
theorem calls_in_order (es : List JanusEvent) (s : JanusThreads)
    (h : run step initial es = some s) :
    (∀ pre post, s.calls = pre ++ .closed :: post → post = []) ∧
      ∀ e t, s.step e = some t → t.calls = s.calls ++ [.dropped] →
        s.owner = .newConnection ∨ s.owner = .storeHandle := by
  have hinv := inv_run h
  refine ⟨(closed_run h).2, fun e t ht hdrop ↦ ?_⟩
  have hother (c : SignalingCall) (hc : c ≠ .dropped) : t.calls ≠ s.calls ++ [c] := by
    intro heq
    rw [hdrop, List.append_cancel_left_eq, List.cons.injEq] at heq
    exact hc heq.1.symm
  rcases calls_step ht with heq | ⟨heq, _⟩ | ⟨_, hoff, hactive⟩ | ⟨heq, _⟩ | ⟨heq, _⟩
  · rw [hdrop] at heq
    simp at heq
  · exact absurd heq (hother .closed (by decide))
  · obtain ⟨_, _, _, hearly, _⟩ := hinv.task.active hactive
    have htask : s.pcTask ≠ .none := by
      intro hnone
      rw [hnone] at hactive
      exact absurd hactive (by decide)
    have hcreated := hinv.objects.pcTask htask
    have hstage : s.owner.stage ≤ 5 := by
      rcases hinv.objects.unsignaled hoff with hle | hlate | ⟨_, hunstarted⟩
      · exact hle
      · omega
      · exact absurd hunstarted.2.2 htask
    clear hearly
    cases howner : s.owner <;> simp_all [OwnerAt.stage]
  · exact absurd heq (hother .sent (by decide))
  · exact absurd heq (hother .delivered (by decide))

/-- The task offers its description before `esp_peer_signaling_start` returns. -/
private def offerTooEarly : List JanusEvent :=
  own 4 ++ reports [.nothing, .message]

/-- A session in order, and a lost offer. -/
theorem calls_in_order_lost :
    (∃ s, run step initial closeInOrder = some s ∧ .closed ∈ s.calls ∧
      ∀ pre post, s.calls = pre ++ .closed :: post → post = []) ∧
      ∃ s t, run step initial offerTooEarly = some s ∧ s.step (.pcTask .nothing) = some t ∧
        t.calls = s.calls ++ [.dropped] ∧ (s.owner = .newConnection ∨ s.owner = .storeHandle) := by
  obtain ⟨s, hs⟩ := Option.isSome_iff_exists.mp
    (show (run step initial closeInOrder).isSome = true by decide +kernel)
  have hclosed : (run step initial closeInOrder).map (fun s ↦ decide (.closed ∈ s.calls)) =
      some true := by decide +kernel
  rw [hs, Option.map_some, Option.some.injEq, decide_eq_true_eq] at hclosed
  refine ⟨⟨s, hs, hclosed, (calls_in_order closeInOrder s hs).1⟩, _, _, rfl, rfl, rfl, ?_⟩
  exact (calls_in_order offerTooEarly _ rfl).2 (.pcTask .nothing) _ rfl rfl

/-! ### The end of the session -/

/-- The application will wait, or waits, for a task that does not exist. -/
def Stuck (s : JanusThreads) : Prop :=
  s.pcTask = .none ∧ (s.rtcRunning = true ∨ s.owner = .waitExit)

/-- The session was closed, and its threads have ended or were not created. -/
structure Done (s : JanusThreads) : Prop where
  owner : s.owner = .ended
  pcTask : s.pcTask = .ended ∨ s.pcTask = .none
  poll : s.poll = .ended ∨ s.poll = .none

end JanusThreads

/-- The statements that are left to `pc_task` without a report, once `running` is reset. -/
def PcTaskAt.left : PcTaskAt → Nat
  | .none | .ended => 0
  | .setExit => 1
  | .whileRunning => 2
  | .mainLoop => 3
  | .onState | .sending => 4
  | .onMsg => 5

/-- The statements that are left to the poll thread without a message, once `running` is reset. -/
def PollAt.left : PollAt → Nat
  | .none | .ended => 0
  | .unlockSema => 1
  | .clearPollStarted => 2
  | .whileRunning => 3
  | .request | .events => 4
  | .sendToPeer => 5

namespace JanusThreads

variable {s t : JanusThreads} {e : JanusEvent} {es : List JanusEvent}

/-- The statements that are left, where one of the application outweighs the threads that it
creates. -/
def left (s : JanusThreads) : Nat := 10 * (26 - s.owner.stage) + s.pcTask.left + s.poll.left

/-- A session that can end does so a statement later, unless it has ended. -/
def Advances (s : JanusThreads) : Prop :=
  ∃ e t, s.step e = some t ∧ ¬ t.Stuck ∧ t.left < s.left

/-- A statement of the application leaves a task that it needs, and creates at most the threads. -/
theorem left_execOwner (h : s.Inv) (hstuck : ¬ s.Stuck) (ht : s.execOwner .ok = some t) :
    ¬ t.Stuck ∧ t.pcTask.left + t.poll.left ≤ s.pcTask.left + s.poll.left + 5 := by
  obtain ⟨⟨_, _, hpc, _, _, _, _, _, hpoll⟩, ⟨hrunning, _, _, _, _⟩, _⟩ := h
  have hkept := pcStart_kept .ok s
  have hstart : s.pcStart .ok = s ∨ (s.pcStart .ok).pcTask = .whileRunning := by
    unfold pcStart
    split
    · exact .inl rfl
    · exact .inr rfl
  unfold execOwner at ht
  unfold Stuck at hstuck ⊢
  constructor <;> grind [OwnerAt.stage, PcTaskAt.left, PollAt.left, call]

/-- The application goes on unless it waits. -/
theorem advances_owner (h : s.Inv) (hstuck : ¬ s.Stuck) (hended : s.owner ≠ .ended)
    (hexit : s.owner = .waitExit → s.exitBit = true)
    (hsema : s.owner = .lockSema → s.exitSema = true) : s.Advances := by
  obtain ⟨u, hu⟩ : ∃ u, s.execOwner .ok = some u := by
    unfold execOwner
    split <;> simp_all
  have hstage := stage_execOwner hu
  have hlast : u.owner.stage ≤ 26 := by cases u.owner <;> simp [OwnerAt.stage]
  obtain ⟨hfree, hleft⟩ := left_execOwner h hstuck hu
  refine ⟨.owner .ok, _, Option.map_eq_some_iff.mpr ⟨u, hu, rfl⟩, hfree, ?_⟩
  show 10 * (26 - u.owner.stage) + u.pcTask.left + u.poll.left < s.left
  unfold left
  omega

/-- Without a report, and once `running` was reset, `pc_task` goes on to its end. -/
theorem advances_pcTask (h : s.Inv) (hactive : s.pcTask.active = true)
    (hrunning : s.rtcRunning = false) : s.Advances := by
  obtain ⟨u, hu, hleft⟩ : ∃ u, s.execPcTask .nothing = some u ∧ u.pcTask.left < s.pcTask.left := by
    unfold execPcTask
    cases htask : s.pcTask <;> simp_all [PcTaskAt.active, PcTaskAt.left]
    split <;> simp [call]
  obtain ⟨howner, _, _, _, _, hsame, _, _, _, hpoll, _⟩ := execPcTask_kept hu
  refine ⟨.pcTask .nothing, _, Option.map_eq_some_iff.mpr ⟨u, hu, rfl⟩, ?_, ?_⟩
  · exact fun hx ↦ (taskInv_execPcTask h.task hu).2.1 hx.1
  · show 10 * (26 - u.owner.stage) + u.pcTask.left + u.poll.left < s.left
    rw [howner, hpoll]
    unfold left
    omega

/-- Without a message, and once `running` was reset, the poll thread goes on to its end. -/
theorem advances_poll (hstuck : ¬ s.Stuck) (hleft : 0 < s.poll.left)
    (hrunning : s.poll.polling = true → s.running = false) : s.Advances := by
  obtain ⟨u, hu, hless⟩ : ∃ u, s.execPoll false = some u ∧ u.poll.left < s.poll.left := by
    unfold execPoll
    cases hpoll : s.poll <;> simp_all [PollAt.left, PollAt.polling]
  obtain ⟨howner, _, _, _, _, hsame, _, _, htask, _⟩ := execPoll_kept hu
  refine ⟨.poll false, _, Option.map_eq_some_iff.mpr ⟨u, hu, rfl⟩, ?_, ?_⟩
  · rintro ⟨hnone, hwaits⟩
    exact hstuck ⟨htask.symm.trans hnone, hwaits.imp hsame.symm.trans howner.symm.trans⟩
  · show 10 * (26 - u.owner.stage) + u.pcTask.left + u.poll.left < s.left
    rw [howner, htask]
    unfold left
    omega

/-- A session that is not stuck goes on until it is done. -/
theorem advances (h : s.Inv) (hstuck : ¬ s.Stuck) : s.Done ∨ s.Advances := by
  by_cases hended : s.owner = .ended
  · have hstage : s.owner.stage = 26 := by
      rw [hended]
      rfl
    rcases Nat.eq_zero_or_pos s.poll.left with hzero | hleft
    · refine .inl ⟨hended, ?_, ?_⟩
      · have hidle : ¬ s.pcTask.active = true := by
          intro hactive
          have := (h.task.active hactive).2.2.2.1
          omega
        cases htask : s.pcTask <;> simp_all [PcTaskAt.active]
      · cases hpoll : s.poll <;> simp_all [PollAt.left]
    · refine .inr (advances_poll hstuck hleft fun hpolling ↦ ?_)
      have := (h.thread.polling hpolling).1
      omega
  by_cases hexit : s.owner = .waitExit ∧ s.exitBit = false
  · -- The application waits for the task, which was created.
    obtain ⟨howner, hexit⟩ := hexit
    have hstage : s.owner.stage = 10 := by
      rw [howner]
      rfl
    have hactive : s.pcTask.active = true := by
      cases htask : s.pcTask with
      | none => exact absurd ⟨htask, .inr howner⟩ hstuck
      | ended => exact absurd (h.task.ended htask (Nat.le_of_eq hstage)) (by simp [hexit])
      | _ => rfl
    refine .inr (advances_pcTask h hactive (Bool.eq_false_iff.mpr fun hrunning ↦ ?_))
    have := (h.task.running hrunning).2
    omega
  by_cases hsema : s.owner = .lockSema ∧ s.exitSema = false
  · -- It waits for the poll thread.
    obtain ⟨howner, hsema⟩ := hsema
    have hstage : s.owner.stage = 18 := by
      rw [howner]
      rfl
    have hleft : 0 < s.poll.left := by
      cases hpoll : s.poll with
      | none => exact absurd hpoll (h.thread.created (.inr howner))
      | ended => exact absurd (h.thread.ended hpoll (Nat.le_of_eq hstage)) (by simp [hsema])
      | _ => simp [PollAt.left]
    exact .inr (advances_poll hstuck hleft fun _ ↦ h.thread.stopped (by omega) (by omega))
  refine .inr (advances_owner h hstuck hended (fun howner ↦ ?_) (fun howner ↦ ?_))
  · exact eq_true_of_ne_false fun hoff ↦ hexit ⟨howner, hoff⟩
  · exact eq_true_of_ne_false fun hoff ↦ hsema ⟨howner, hoff⟩

/-- A session that is not stuck can end. -/
theorem done_of_not_stuck (h : s.Inv) (hstuck : ¬ s.Stuck) :
    ∃ fs t, run step s fs = some t ∧ t.Done := by
  induction hn : s.left using Nat.strongRecOn generalizing s with
  | ind n ih =>
    rcases advances h hstuck with hdone | ⟨e, u, he, hfree, hless⟩
    · exact ⟨[], s, rfl, hdone⟩
    · obtain ⟨fs, t, hrun, hdone⟩ := ih u.left (hn ▸ hless) (h.step he) hfree rfl
      exact ⟨e :: fs, t, run_cons_some.mpr ⟨u, he, hrun⟩, hdone⟩

/-- A stuck session stays stuck. -/
theorem stuck_step (h : s.Inv) (hstuck : s.Stuck) (ht : s.step e = some t) : t.Stuck := by
  obtain ⟨hnone, hwaits⟩ := hstuck
  have hexit : s.exitBit = false := by
    refine Bool.eq_false_iff.mpr fun hexit ↦ ?_
    exact absurd ((h.task.exitBit hexit).symm.trans hnone) (by decide)
  cases e with
  | owner c =>
    obtain ⟨u, hu, rfl⟩ := Option.map_eq_some_iff.mp ht
    have hpc : s.rtcRunning = true → s.pcStart c = s ∧ s.owner.stage ≤ 9 := by
      intro hrunning
      obtain ⟨hpc, hearly⟩ := h.task.running hrunning
      exact ⟨if_pos hpc, hearly⟩
    show u.Stuck
    unfold execOwner at hu
    unfold Stuck
    grind [OwnerAt.stage]
  | pcTask report =>
    obtain ⟨u, hu, _⟩ := Option.map_eq_some_iff.mp ht
    exact absurd hnone (taskInv_execPcTask h.task hu).1
  | poll message =>
    obtain ⟨u, hu, rfl⟩ := Option.map_eq_some_iff.mp ht
    obtain ⟨howner, _, _, _, _, hrunning, _, _, htask, _⟩ := execPoll_kept hu
    exact ⟨htask.trans hnone, hwaits.imp hrunning.trans howner.trans⟩

/-- From a reachable state the session can be closed, and its threads can end, exactly when
`pc_start` has not failed to create its task, which it does not look at. -/
theorem teardown_ends (es : List JanusEvent) (s : JanusThreads)
    (h : run step initial es = some s) :
    (∃ fs t, run step s fs = some t ∧ t.Done) ↔ ¬ s.Stuck := by
  refine ⟨?_, done_of_not_stuck (inv_run h)⟩
  rintro ⟨fs, t, hrun, hdone⟩ hstuck
  have hkept : t.Inv ∧ t.Stuck := run_invariant (I := fun t ↦ t.Inv ∧ t.Stuck)
    ⟨inv_run h, hstuck⟩ (fun _ _ _ hi he ↦ ⟨hi.1.step he, stuck_step hi.1 hi.2 he⟩) hrun
  obtain ⟨hinv, _, hrunning | howner⟩ := hkept
  · have hstage := (hinv.task.running hrunning).2
    rw [hdone.owner] at hstage
    exact absurd hstage (by decide)
  · exact absurd (howner.symm.trans hdone.owner) (by decide)

/-- The thread of `pc_task` is not created. -/
private def withoutTask : List JanusEvent := own 3 ++ [.owner .noThread]

/-- A session that can be closed, and one that cannot. -/
theorem teardown_ends_withoutTask :
    (∃ s fs t, run step initial (own 4) = some s ∧ run step s fs = some t ∧ t.Done) ∧
      ∃ s, run step initial withoutTask = some s ∧ ¬ ∃ fs t, run step s fs = some t ∧ t.Done := by
  constructor
  · obtain ⟨fs, t, hrun, hdone⟩ := (teardown_ends (own 4) _ rfl).mpr (by unfold Stuck; decide)
    exact ⟨_, fs, t, rfl, hrun, hdone⟩
  · exact ⟨_, rfl, fun hcan ↦ (teardown_ends withoutTask _ rfl).mp hcan ⟨rfl, .inl rfl⟩⟩

end JanusThreads
end Esp32Robot.Webrtc

import Esp32Robot.Webrtc.Handles

/-!
# A single WebRTC handle

Which interleavings of the tasks keep at most one open handle, in `webrtc`, and
close no handle twice: those in which an open finds no handle, and in which a cleanup
takes a handle that no other one took and clears the variable while it has the value
that was taken. Nothing in the code ensures that, since the test of `webrtc` and the
open, and the accesses of a cleanup, are separate steps.
-/

namespace Esp32Robot.Webrtc

open Esp32Robot.Base

/-- The handle that a cleanup has taken and not closed yet. -/
def HandleInstr.takes : HandleInstr → Option Nat
  | .clearHandle handle | .closeHandle handle => handle
  | _ => none

namespace HandleTasks

/-- How many cleanups have taken the handle. -/
def taken (h : Nat) (s : HandleTasks) : Nat := s.pending.countP (fun x ↦ x.takes = some h)

/-- How many cleanups are about to close the handle. -/
def closing (h : Nat) (s : HandleTasks) : Nat :=
  s.pending.countP (fun x ↦ x = .closeHandle (some h))

/-- How often the handle was closed, or taken for it. -/
def disposed (h : Nat) (s : HandleTasks) : Nat := s.state.closed.count h + s.taken h

/-- The handle has been opened, and not yet closed or taken for closing. -/
def Loose (h : Nat) (s : HandleTasks) : Prop := h < s.state.nextHandle ∧ s.disposed h = 0

/-- A start is between its test of `webrtc` and its open. -/
def Opening (s : HandleTasks) : Prop := ∃ caller, .openWebrtc caller ∈ s.pending

/-- There is at most one loose handle; while no start is opening it is the value of `webrtc`; and
no handle was closed twice. -/
structure SingleHandle (s : HandleTasks) : Prop where
  single : ∀ g h, s.Loose g → s.Loose h → g = h
  current : ¬ s.Opening → ∀ h, s.Loose h → s.state.webrtc = some h
  closedOnce : s.state.closed.Nodup

end HandleTasks

/-- An open that succeeds finds no handle; a cleanup takes a handle that none other has taken,
and clears the variable while it has the value that was taken, or none. -/
def HandleInstr.Undivided (s : HandleTasks) (ok : Bool) : HandleInstr → Prop
  | .openWebrtc _ => ok = true → s.state.webrtc = none
  | .takeHandle => ∀ h ∈ s.state.webrtc, s.taken h = 0
  | .clearHandle handle => s.state.webrtc = handle ∨ s.state.webrtc = none
  | _ => True

instance (s : HandleTasks) (ok : Bool) (ins : HandleInstr) : Decidable (ins.Undivided s ok) :=
  match ins with
  | .openWebrtc _ => inferInstanceAs (Decidable (ok = true → s.state.webrtc = none))
  | .takeHandle => inferInstanceAs (Decidable (∀ h ∈ s.state.webrtc, s.taken h = 0))
  | .clearHandle handle =>
    inferInstanceAs (Decidable (s.state.webrtc = handle ∨ s.state.webrtc = none))
  | .startWebrtc _ | .clearRetryStop _ | .testWebrtc _ | .useWebrtc => isTrue trivial
  | .espWebrtcStart _ => isTrue trivial
  | .testHandle | .closeHandle _ | .scheduleRetry | .stopWebrtc => isTrue trivial
  | .enterRetry | .whileNotStopped | .testNetwork | .testNoSession => isTrue trivial
  | .sleepRetry | .leaveRetry | .destroyRetry => isTrue trivial

/-- The step divides no test of `webrtc` from the access that relies on it. -/
def Undivided (s : HandleTasks) : HandleEvent → Prop
  | .exec i ok => ∀ ins ∈ s.head i, ins.Undivided s ok
  | _ => True

instance (s : HandleTasks) (e : HandleEvent) : Decidable (Undivided s e) :=
  match e with
  | .exec i ok => inferInstanceAs (Decidable (∀ ins ∈ s.head i, ins.Undivided s ok))
  | .call _ | .network _ => isTrue trivial

/-! ### What an instruction does to the handles -/

/-- The outcome leaves `webrtc` and the handles alone, and takes none. -/
structure LeavesHandles (s : HandleState) (o : HandleOutcome) : Prop where
  webrtc : o.state.webrtc = s.webrtc
  closed : o.state.closed = s.closed
  nextHandle : o.state.nextHandle = s.nextHandle
  calls : ∀ x ∈ o.calls, x.takes = none
  created : ∀ x ∈ o.created.flatMap Thread.program, x.takes = none

/-- An instruction leaves the handles alone, or it is one of the four that access them. -/
theorem HandleInstr.exec_cases {s : HandleState} {ok : Bool} {ins : HandleInstr}
    {o : HandleOutcome} (h : ins.exec s ok = some o) :
    (ins.takes = none ∧ LeavesHandles s o) ∨
      (∃ caller, ins = .openWebrtc caller ∧ ok = true ∧
        o = ⟨{ s with webrtc := some s.nextHandle, nextHandle := s.nextHandle + 1 },
          List.replicate 5 .useWebrtc ++ [.espWebrtcStart caller], []⟩) ∨
      (ins = .takeHandle ∧ o = ⟨s, [.clearHandle s.webrtc], []⟩) ∨
      (∃ handle, ins = .clearHandle handle ∧
        o = ⟨{ s with webrtc := none }, [.closeHandle handle], []⟩) ∨
      (∃ handle, ins = .closeHandle handle ∧
        o = ⟨{ s with closed := s.closed ++ handle.toList }, [], []⟩) := by
  have hresume (caller : Caller) (ok : Bool) : ∀ x ∈ caller.resume ok, x.takes = none := by
    cases caller <;> cases ok <;> decide
  have hfails (caller : Caller) : ∀ x ∈ startFails caller, x.takes = none := by
    cases caller <;> decide
  have hnone : ∀ x ∈ ([] : List HandleInstr), x.takes = none := List.forall_mem_nil _
  cases ins with
  | openWebrtc caller =>
    simp only [exec] at h
    split at h
    · next hok =>
      cases h
      exact .inr (.inl ⟨caller, rfl, hok, rfl⟩)
    · cases h
      exact .inl ⟨rfl, rfl, rfl, rfl, hfails caller, hnone⟩
  | takeHandle =>
    cases h
    exact .inr (.inr (.inl ⟨rfl, rfl⟩))
  | clearHandle handle =>
    cases h
    exact .inr (.inr (.inr (.inl ⟨handle, rfl, rfl⟩)))
  | closeHandle handle =>
    cases h
    exact .inr (.inr (.inr (.inr ⟨handle, rfl, rfl⟩)))
  | startWebrtc caller =>
    cases h
    have hcalls : ∀ x ∈ if s.networkConnected then [clearRetryStop caller]
        else caller.resume false, x.takes = none := by
      split
      · simp [takes]
      · exact hresume caller false
    cases caller <;> exact .inl ⟨rfl, rfl, rfl, rfl, hcalls, hnone⟩
  | espWebrtcStart caller =>
    simp only [exec] at h
    split at h
    · cases h
      refine .inl ⟨rfl, rfl, rfl, rfl, ?_, hnone⟩
      exact List.forall_mem_cons.mpr ⟨rfl, hresume caller true⟩
    · cases h
      exact .inl ⟨rfl, rfl, rfl, rfl, hfails caller, hnone⟩
  | scheduleRetry =>
    cases h
    refine .inl ⟨rfl, rfl, rfl, rfl, hnone, ?_⟩
    simp only
    split
    · simp [takes]
    · exact hnone
  | clearRetryStop caller | enterRetry | leaveRetry | stopWebrtc | useWebrtc | sleepRetry
  | destroyRetry =>
    cases h
    exact .inl ⟨rfl, rfl, rfl, rfl, by simp [takes], hnone⟩
  | testWebrtc caller | testHandle | whileNotStopped | testNetwork | testNoSession =>
    cases h
    refine .inl ⟨rfl, rfl, rfl, rfl, ?_, hnone⟩
    simp only
    split <;> simp [takes]

/-! ### Who owns a handle -/

namespace HandleTasks

/-- Each handle was closed once, is taken once, or is the value of `webrtc`; and what `webrtc`
holds is not about to be closed. -/
structure Owned (s : HandleTasks) : Prop where
  once : ∀ h, s.disposed h ≤ 1
  opened : ∀ h, 0 < s.disposed h → h < s.state.nextHandle
  loose : ∀ h, s.Loose h → s.state.webrtc = some h
  current : ∀ h, s.state.webrtc = some h →
    h < s.state.nextHandle ∧ s.state.closed.count h = 0 ∧ s.closing h = 0

/-- Nothing was opened yet. -/
theorem owned_initial : Owned initial where
  once _ := Nat.zero_le 1
  opened _ h := absurd h (Nat.lt_irrefl 0)
  loose _ h := absurd h.1 (Nat.not_lt_zero _)
  current _ h := absurd h (by simp [initial, HandleState.initial])

/-- Instructions that take nothing count for no handle. -/
theorem countP_takes {l : List HandleInstr} (hl : ∀ x ∈ l, x.takes = none) (h : Nat) :
    l.countP (fun x ↦ x.takes = some h) = 0 ∧
      l.countP (fun x ↦ x = .closeHandle (some h)) = 0 := by
  constructor
  · refine List.countP_eq_zero.mpr fun x hx ↦ ?_
    simp [hl x hx]
  · refine List.countP_eq_zero.mpr fun x hx ↦ ?_
    rw [decide_eq_true_eq]
    rintro rfl
    exact absurd (hl _ hx) (by simp [HandleInstr.takes])

/-- One instruction counts for the handle that it takes. -/
theorem countP_takes_singleton (x : HandleInstr) (h : Nat) :
    [x].countP (fun y ↦ y.takes = some h) = if x.takes = some h then 1 else 0 := by
  simp [List.countP_cons]

/-- What the owners depend on. -/
theorem Owned.congr {s t : HandleTasks} (h : s.Owned)
    (hwebrtc : t.state.webrtc = s.state.webrtc) (hclosed : t.state.closed = s.state.closed)
    (hnext : t.state.nextHandle = s.state.nextHandle) (htaken : ∀ g, t.taken g = s.taken g)
    (hclosing : ∀ g, t.closing g = s.closing g) : t.Owned := by
  have hdisposed (g : Nat) : t.disposed g = s.disposed g := by
    rw [disposed, disposed, hclosed, htaken]
  refine ⟨?_, ?_, ?_, ?_⟩
  · intro g
    rw [hdisposed]
    exact h.once g
  · intro g hg
    rw [hdisposed] at hg
    rw [hnext]
    exact h.opened g hg
  · intro g hg
    rw [Loose, hdisposed, hnext] at hg
    rw [hwebrtc]
    exact h.loose g hg
  · intro g hg
    rw [hwebrtc] at hg
    rw [hnext, hclosed, hclosing]
    exact h.current g hg

/-- A handle about to be closed was taken. -/
theorem closing_le_taken (h : Nat) (s : HandleTasks) : s.closing h ≤ s.taken h := by
  refine List.countP_mono_left fun x _ hx ↦ ?_
  rw [decide_eq_true_eq] at hx ⊢
  rw [hx]
  rfl

/-- A handle that is neither closed nor taken keeps no cleanup busy. -/
theorem Owned.fresh {s : HandleTasks} (h : s.Owned) :
    s.disposed s.state.nextHandle = 0 := by
  have hopened := h.opened s.state.nextHandle
  omega

section Exec

variable {s t : HandleTasks}

/-- An open that finds no handle keeps every handle owned. -/
theorem Owned.open (h : s.Owned) (hnone : s.state.webrtc = none)
    (hwebrtc : t.state.webrtc = some s.state.nextHandle)
    (hclosed : t.state.closed = s.state.closed)
    (hnext : t.state.nextHandle = s.state.nextHandle + 1) (htaken : ∀ g, t.taken g = s.taken g)
    (hclosing : ∀ g, t.closing g = s.closing g) : t.Owned := by
  have hdisposed (g : Nat) : t.disposed g = s.disposed g := by
    rw [disposed, disposed, hclosed, htaken]
  refine ⟨fun g ↦ hdisposed g ▸ h.once g, ?_, ?_, ?_⟩
  · intro g hg
    rw [hdisposed] at hg
    rw [hnext]
    exact Nat.lt_succ_of_lt (h.opened g hg)
  · intro g hg
    rw [Loose, hdisposed, hnext] at hg
    rcases Nat.lt_succ_iff_lt_or_eq.mp hg.1 with hlt | rfl
    · have hcurrent := h.loose g ⟨hlt, hg.2⟩
      rw [hnone] at hcurrent
      exact absurd hcurrent (by simp)
    · exact hwebrtc
  · intro g hg
    obtain rfl : s.state.nextHandle = g := Option.some.inj (hwebrtc.symm.trans hg)
    have hfresh : s.state.closed.count s.state.nextHandle + s.taken s.state.nextHandle = 0 :=
      h.fresh
    have hle := closing_le_taken s.state.nextHandle s
    rw [hnext, hclosed, hclosing]
    omega

/-- A cleanup that takes a handle for itself keeps every handle owned. -/
theorem Owned.take (h : s.Owned) (hfree : ∀ g, s.state.webrtc = some g → s.taken g = 0)
    (hstate : t.state = s.state)
    (htaken : ∀ g, t.taken g = s.taken g + if s.state.webrtc = some g then 1 else 0)
    (hclosing : ∀ g, t.closing g = s.closing g) : t.Owned := by
  refine ⟨?_, ?_, ?_, ?_⟩
  · intro g
    have honce : s.state.closed.count g + s.taken g ≤ 1 := h.once g
    rw [disposed, hstate, htaken]
    split
    · next hg =>
      have hcurrent := h.current g hg
      have hnone := hfree g hg
      omega
    · omega
  · intro g hg
    rw [disposed, hstate, htaken] at hg
    rw [hstate]
    split at hg
    · next hwebrtc => exact (h.current g hwebrtc).1
    · exact h.opened g hg
  · intro g hg
    rw [hstate]
    refine h.loose g ⟨hstate ▸ hg.1, ?_⟩
    have hzero : t.state.closed.count g + t.taken g = 0 := hg.2
    rw [hstate, htaken] at hzero
    rw [disposed]
    omega
  · intro g hg
    rw [hstate] at hg ⊢
    rw [hclosing]
    exact h.current g hg

/-- A cleanup that clears what it has taken keeps every handle owned. -/
theorem Owned.clear (h : s.Owned) {handle : Option Nat}
    (hvalue : s.state.webrtc = handle ∨ s.state.webrtc = none)
    (hheld : ∀ g, handle = some g → 0 < s.taken g)
    (hstate : t.state = { s.state with webrtc := none }) (htaken : ∀ g, t.taken g = s.taken g) :
    t.Owned := by
  have hdisposed (g : Nat) : t.disposed g = s.disposed g := by
    rw [disposed, disposed, hstate, htaken]
  refine ⟨fun g ↦ hdisposed g ▸ h.once g, ?_, ?_, ?_⟩
  · intro g hg
    rw [hdisposed] at hg
    rw [hstate]
    exact h.opened g hg
  · intro g hg
    rw [Loose, hdisposed, hstate] at hg
    have hcurrent := h.loose g hg
    have hzero : s.state.closed.count g + s.taken g = 0 := hg.2
    rcases hvalue with hvalue | hvalue
    · have hpos := hheld g (hvalue.symm.trans hcurrent)
      omega
    · rw [hvalue] at hcurrent
      exact absurd hcurrent (by simp)
  · intro g hg
    rw [hstate] at hg
    exact absurd hg (by simp)

/-- Closing what was taken keeps every handle owned. -/
theorem Owned.close (h : s.Owned) {handle : Option Nat}
    (hbusy : ∀ g, handle = some g → 0 < s.closing g)
    (hstate : t.state = { s.state with closed := s.state.closed ++ handle.toList })
    (htaken : ∀ g, t.taken g + (if handle = some g then 1 else 0) = s.taken g)
    (hclosing : ∀ g, t.closing g ≤ s.closing g) : t.Owned := by
  have hcount (g : Nat) : t.state.closed.count g =
      s.state.closed.count g + if handle = some g then 1 else 0 := by
    rw [hstate, List.count_append]
    cases handle with
    | none => simp
    | some x => simp [List.count_singleton]
  have hdisposed (g : Nat) : t.disposed g = s.disposed g := by
    have htaken := htaken g
    rw [disposed, disposed, hcount]
    omega
  have hwebrtc : t.state.webrtc = s.state.webrtc := by rw [hstate]
  have hnext : t.state.nextHandle = s.state.nextHandle := by rw [hstate]
  refine ⟨fun g ↦ hdisposed g ▸ h.once g, ?_, ?_, ?_⟩
  · intro g hg
    rw [hdisposed] at hg
    rw [hnext]
    exact h.opened g hg
  · intro g hg
    rw [Loose, hdisposed, hnext] at hg
    rw [hwebrtc]
    exact h.loose g hg
  · intro g hg
    rw [hwebrtc] at hg
    obtain ⟨hlt, hopen, hidle⟩ := h.current g hg
    have hle := hclosing g
    have hother : handle ≠ some g := by
      intro hhandle
      have hpos := hbusy g hhandle
      omega
    rw [hnext, hcount, if_neg hother]
    omega

end Exec

/-- A thread's step keeps every handle owned. -/
theorem owned_exec {s t : HandleTasks} {i : Nat} {ok : Bool} (h : s.Owned)
    (he : Undivided s (.exec i ok)) (ht : s.step (.exec i ok) = some t) : t.Owned := by
  have hexec : System.exec (fun state ins ok ↦ HandleInstr.exec state ok ins) i ok s = some t := ht
  obtain ⟨ins, o, hhead, ho, hstate, hcount⟩ := System.countP_exec hexec
  have hins : ins.Undivided s ok := he ins hhead
  have hpending : ins ∈ s.pending := System.mem_pending_of_head hhead
  have htaken (g : Nat) := hcount (fun x ↦ x.takes = some g)
  have hclosing (g : Nat) := hcount (fun x ↦ x = .closeHandle (some g))
  rcases HandleInstr.exec_cases ho with ⟨hnone, hleaves⟩ | ⟨caller, rfl, rfl, rfl⟩ | ⟨rfl, rfl⟩ |
    ⟨handle, rfl, rfl⟩ | ⟨handle, rfl, rfl⟩
  · refine h.congr (hstate ▸ hleaves.webrtc) (hstate ▸ hleaves.closed)
      (hstate ▸ hleaves.nextHandle) ?_ ?_
    all_goals
      intro g
      have hown := countP_takes (l := [ins]) (by simpa using hnone) g
      have hcalls := countP_takes hleaves.calls g
      have hcreated := countP_takes hleaves.created g
      have htaken := htaken g
      have hclosing := hclosing g
      simp only [taken, closing]
      omega
  · refine h.open (hins rfl) ?_ ?_ ?_ ?_ ?_
    · rw [hstate]
    · rw [hstate]
    · rw [hstate]
    · intro g
      simpa [taken, HandleInstr.takes, List.countP_replicate] using htaken g
    · intro g
      simpa [closing, List.countP_replicate] using hclosing g
  · refine h.take (fun g hg ↦ hins g hg) hstate ?_ ?_
    · intro g
      have htaken := htaken g
      rw [countP_takes_singleton, countP_takes_singleton] at htaken
      exact htaken
    · intro g
      simpa [closing] using hclosing g
  · refine h.clear hins ?_ hstate ?_
    · rintro g rfl
      exact List.countP_pos_iff.mpr ⟨_, hpending, by simp [HandleInstr.takes]⟩
    · intro g
      have htaken := htaken g
      rw [countP_takes_singleton, countP_takes_singleton] at htaken
      exact Nat.add_right_cancel htaken
  · refine h.close ?_ hstate ?_ ?_
    · rintro g rfl
      exact List.countP_pos_iff.mpr ⟨_, hpending, by simp⟩
    · intro g
      have htaken := htaken g
      rw [countP_takes_singleton] at htaken
      exact htaken
    · intro g
      have hclosing := hclosing g
      simp only [List.countP_nil, List.flatMap_nil] at hclosing
      simp only [closing]
      omega

/-- Calls and changes of the network keep every handle owned. -/
theorem owned_step {s t : HandleTasks} {e : HandleEvent} (h : s.Owned) (he : Undivided s e)
    (ht : s.step e = some t) : t.Owned := by
  cases e with
  | call f =>
    cases ht
    have hnone : ∀ x ∈ f.instrs, x.takes = none := by cases f <;> decide
    refine h.congr rfl rfl rfl ?_ ?_
    · intro g
      simp [taken, System.pending, (countP_takes hnone g).1]
    · intro g
      simp [closing, System.pending, (countP_takes hnone g).2]
  | exec i ok => exact owned_exec h he ht
  | network connected =>
    cases ht
    exact h.congr rfl rfl rfl (fun _ ↦ rfl) (fun _ ↦ rfl)

/-- Owned handles are at most one, and in `webrtc`, and none was closed twice. -/
theorem Owned.singleHandle {s : HandleTasks} (h : s.Owned) : s.SingleHandle where
  single f g hf hg := Option.some.inj ((h.loose f hf).symm.trans (h.loose g hg))
  current _ := h.loose
  closedOnce := by
    rw [List.nodup_iff_count]
    intro g
    exact Nat.le_trans (Nat.le_add_right _ _) (h.once g)

end HandleTasks

/-- Two tasks find no handle, and both open one. -/
private def doubleStart : List HandleEvent :=
  [.network true, .call .start, .call .start] ++
    List.replicate 3 (.exec 0 true) ++ List.replicate 4 (.exec 1 true) ++ [.exec 0 true]

/-- Two starts that both find no handle leave two of them open. -/
theorem two_starts_open_two :
    ¬ ∀ es s, run HandleTasks.step .initial es = some s → s.SingleHandle := by
  intro h
  have hsingle := (h doubleStart _ rfl).single 0 1 ⟨by decide, by decide⟩ ⟨by decide, by decide⟩
  exact absurd hsingle (by decide)

/-- In every run whose steps are undivided there is at most one open handle, it is the value of
`webrtc`, and no handle is closed twice. -/
theorem singleHandle_of_undivided {es : List HandleEvent} {s : HandleTasks}
    (hmeet : StepsMeet Undivided HandleTasks.step .initial es)
    (h : run HandleTasks.step .initial es = some s) : s.SingleHandle := by
  have howned : s.Owned :=
    run_invariant_of_meet HandleTasks.owned_initial
      (fun _ _ _ hs he ht ↦ HandleTasks.owned_step hs he ht) hmeet h
  exact howned.singleHandle

/-- A start and, after it, a stop. -/
private def startThenStop : List HandleEvent :=
  [.network true, .call .start] ++ List.replicate 11 (.exec 0 true) ++ [.call .stop] ++
    List.replicate 5 (.exec 1 true)

/-- After a start and a stop one handle was opened and closed. -/
theorem singleHandle_start_stop :
    ∃ s, run HandleTasks.step .initial startThenStop = some s ∧ s.SingleHandle :=
  ⟨_, rfl, @singleHandle_of_undivided startThenStop _ (by decide) rfl⟩

end Esp32Robot.Webrtc

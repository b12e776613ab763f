import Esp32Robot.Webrtc.Handles

/-!
# Cancelled retries

What `stop_webrtc` has to avoid for its `janus_retry_stop` to last, and what
`schedule_janus_retry` has to avoid for its guard to see every retry task. The flag
`janus_retry_running` is set by the new task and cleared before its end, and the flag
`janus_retry_stop` is cleared by the very function that a retry task calls.
-/

namespace Esp32Robot.Webrtc

open Esp32Robot.Base

/-- A retry task that was created and has not ended. -/
def aliveRetry (t : Thread Caller HandleInstr) : Bool := t.role = .retry && t.program ≠ []

/-- At most one retry task is alive. -/
def HandleTasks.OneRetry (s : HandleTasks) : Prop :=
  ∀ (i j : Nat) t u, s.threads[i]? = some t → s.threads[j]? = some u → aliveRetry t →
    aliveRetry u → i = j

/-- A retry task opens a handle although it was cancelled. -/
def opensCancelled (s : HandleTasks) : HandleEvent → Bool
  | .exec i _ => s.state.cancelled && s.head i = some (.openWebrtc .retry)
  | _ => false

/-- In every state of the run at most one retry task is alive, and no step of it is an open of a
cancelled retry task. -/
def RetriesCancelled (es : List HandleEvent) : Prop :=
  (∀ pre s, pre <+: es → run HandleTasks.step .initial pre = some s → s.OneRetry) ∧
    StepsMeet (fun s e ↦ opensCancelled s e = false) HandleTasks.step .initial es

/-- The retry task exists, while `janus_retry_running` does not show it. -/
def unseenRetry (t : Thread Caller HandleInstr) : Bool :=
  t.role = .retry && (t.program = [.enterRetry] || t.program = [.destroyRetry])

/-- The instruction is between the loop test of a retry task and its open, or between the entry of
another `start_webrtc` and its clearing of `janus_retry_stop`. -/
def HandleInstr.committed : HandleInstr → Bool
  | .testNetwork | .testNoSession | .startWebrtc .retry => true
  | .clearRetryStop _ | .testWebrtc .retry | .openWebrtc .retry => true
  | _ => false

/-- A retry is scheduled only while `janus_retry_running` shows whether a retry task is alive, and
a stop sets `janus_retry_stop` only while no task is committed to clear it or to open. -/
def Seen (s : HandleTasks) : HandleEvent → Prop
  | .exec i _ =>
    (s.head i = some .scheduleRetry → s.state.schedules = true →
        ∀ t ∈ s.threads, unseenRetry t = false) ∧
      (s.head i = some .stopWebrtc → ∀ x ∈ s.pending, x.committed = false)
  | _ => True

instance (s : HandleTasks) (e : HandleEvent) : Decidable (Seen s e) :=
  match e with
  | .exec i _ => inferInstanceAs (Decidable
      ((s.head i = some .scheduleRetry → s.state.schedules = true →
          ∀ t ∈ s.threads, unseenRetry t = false) ∧
        (s.head i = some .stopWebrtc → ∀ x ∈ s.pending, x.committed = false)))
  | .call _ | .network _ => isTrue trivial

/-! ### Cancelled tasks -/

/-- While retries are cancelled, they are stopped, and no task is committed. -/
def StaysCancelled (s : HandleTasks) : Prop :=
  s.state.cancelled = true →
    s.state.janusRetryStop = true ∧ ∀ x ∈ s.pending, x.committed = false

/-- As long as the retries are stopped, an instruction that is not committed calls none that is, and
leaves them stopped, or an application starts. -/
theorem HandleInstr.exec_committed {s : HandleState} {ok : Bool} {ins : HandleInstr}
    {o : HandleOutcome} (h : ins.exec s ok = some o) (hins : ins.committed = false)
    (hstopped : s.janusRetryStop = true) :
    o.state.cancelled = false ∨
      (o.state.janusRetryStop = true ∧ (∀ x ∈ o.calls, x.committed = false) ∧
        ∀ x ∈ o.created.flatMap Thread.program, x.committed = false) := by
  have hresume (caller : Caller) (ok : Bool) : ∀ x ∈ caller.resume ok, x.committed = false := by
    cases caller <;> cases ok <;> decide
  have hfails (caller : Caller) : ∀ x ∈ startFails caller, x.committed = false := by
    cases caller <;> decide
  have hnone : ∀ x ∈ ([] : List HandleInstr), x.committed = false := List.forall_mem_nil _
  cases ins with
  | startWebrtc caller =>
    cases caller with
    | application =>
      cases h
      exact .inl rfl
    | retry => exact absurd hins (by decide)
  | openWebrtc caller =>
    cases caller with
    | application =>
      simp only [exec] at h
      split at h
      · cases h
        exact .inr ⟨hstopped, by simp [committed], hnone⟩
      · cases h
        exact .inr ⟨hstopped, hfails .application, hnone⟩
    | retry => exact absurd hins (by decide)
  | testWebrtc caller =>
    cases caller with
    | application =>
      cases h
      refine .inr ⟨hstopped, ?_, hnone⟩
      simp only
      split <;> decide
    | retry => exact absurd hins (by decide)
  | espWebrtcStart caller =>
    simp only [exec] at h
    split at h
    · cases h
      exact .inr ⟨hstopped, List.forall_mem_cons.mpr ⟨rfl, hresume caller true⟩, hnone⟩
    · cases h
      exact .inr ⟨hstopped, hfails caller, hnone⟩
  | whileNotStopped =>
    cases h
    refine .inr ⟨hstopped, ?_, hnone⟩
    simp only [hstopped, if_true]
    decide
  | testHandle =>
    cases h
    refine .inr ⟨hstopped, ?_, hnone⟩
    simp only
    split <;> decide
  | scheduleRetry =>
    cases h
    refine .inr ⟨hstopped, hnone, ?_⟩
    simp only
    split <;> decide
  | stopWebrtc =>
    cases h
    exact .inr ⟨rfl, by simp [committed], hnone⟩
  | takeHandle | clearHandle handle | closeHandle handle | enterRetry | leaveRetry | useWebrtc
  | sleepRetry | destroyRetry =>
    cases h
    exact .inr ⟨hstopped, by simp [committed], hnone⟩
  | clearRetryStop caller | testNetwork | testNoSession => exact absurd hins (by simp [committed])

/-- Only a stop cancels. -/
theorem HandleInstr.cancelled_exec {s : HandleState} {ok : Bool} {ins : HandleInstr}
    {o : HandleOutcome} (h : ins.exec s ok = some o) (hbefore : s.cancelled = false)
    (hafter : o.state.cancelled = true) :
    ins = .stopWebrtc ∧ o = ⟨{ s with janusRetryStop := true, cancelled := true },
      [.testHandle], []⟩ := by
  have hkept : o.state.cancelled = s.cancelled ∨ ins = .stopWebrtc ∨
      ∃ caller, ins = .startWebrtc caller := by
    cases ins with
    | stopWebrtc => exact .inr (.inl rfl)
    | startWebrtc caller => exact .inr (.inr ⟨caller, rfl⟩)
    | openWebrtc caller | espWebrtcStart caller =>
      simp only [exec] at h
      split at h <;> cases h <;> exact .inl rfl
    | _ =>
      cases h
      exact .inl rfl
  rcases hkept with hkept | rfl | ⟨caller, rfl⟩
  · rw [hkept, hbefore] at hafter
    exact absurd hafter (by decide)
  · cases h
    exact ⟨rfl, rfl⟩
  · cases h
    cases caller <;> simp [hbefore] at hafter

/-- Steps that meet the condition keep retries cancelled. -/
theorem staysCancelled_step {s t : HandleTasks} {e : HandleEvent} (h : StaysCancelled s)
    (he : Seen s e) (ht : s.step e = some t) : StaysCancelled t := by
  cases e with
  | call f =>
    cases ht
    intro hcancelled
    obtain ⟨hstopped, hpending⟩ := h hcancelled
    refine ⟨hstopped, ?_⟩
    intro x hx
    simp only [System.pending, List.flatMap_append, List.mem_append] at hx
    rcases hx with hx | hx
    · exact hpending x hx
    · revert x
      cases f <;> decide
  | exec i ok =>
    have hexec : System.exec (fun state ins ok ↦ HandleInstr.exec state ok ins) i ok s =
      some t := ht
    obtain ⟨ins, o, hhead, ho, hstate, hpending⟩ := System.mem_pending_exec hexec
    intro hcancelled
    rw [hstate] at hcancelled ⊢
    cases hbefore : s.state.cancelled with
    | false =>
      obtain ⟨rfl, rfl⟩ := HandleInstr.cancelled_exec ho hbefore hcancelled
      refine ⟨rfl, ?_⟩
      intro x hx
      rcases hpending x hx with hx | hx | hx
      · exact he.2 hhead x hx
      · rw [List.mem_singleton.mp hx]
        rfl
      · exact absurd hx List.not_mem_nil
    | true =>
      obtain ⟨hstopped, hidle⟩ := h hbefore
      have hins := hidle ins (System.mem_pending_of_head hhead)
      rcases HandleInstr.exec_committed ho hins hstopped with hstart | ⟨hstays, hcalls, hcreated⟩
      · rw [hstart] at hcancelled
        exact absurd hcancelled (by decide)
      · refine ⟨hstays, ?_⟩
        intro x hx
        rcases hpending x hx with hx | hx | hx
        · exact hidle x hx
        · exact hcalls x hx
        · exact hcreated x hx
  | network connected =>
    cases ht
    exact h

/-! ### One retry task -/

/-- The instructions in front of the one that decides how the loop of a retry task goes on. -/
def HandleInstr.inner : HandleInstr → Bool
  | .useWebrtc | .testHandle | .takeHandle | .clearHandle _ | .closeHandle _ => true
  | .scheduleRetry | .sleepRetry => true
  | _ => false

/-- The instructions that decide how the loop of a retry task goes on. -/
def HandleInstr.decides : HandleInstr → Bool
  | .startWebrtc .retry | .clearRetryStop .retry | .testWebrtc .retry => true
  | .openWebrtc .retry | .espWebrtcStart .retry => true
  | .whileNotStopped | .testNetwork | .testNoSession | .leaveRetry => true
  | _ => false

/-- The program of a retry task in its loop. -/
def inLoop : List HandleInstr → Bool
  | [] => false
  | x :: rest => if rest.isEmpty then x.decides else x.inner && inLoop rest

/-- The instructions of applications. -/
def HandleInstr.ofApplication : HandleInstr → Bool
  | .startWebrtc caller | .clearRetryStop caller | .testWebrtc caller => caller = .application
  | .openWebrtc caller | .espWebrtcStart caller => caller = .application
  | .stopWebrtc => true
  | x => x.inner

/-- What a thread still has to run, by its role. -/
def WellFormed (t : Thread Caller HandleInstr) : Prop :=
  match t.role with
  | .application => ∀ x ∈ t.program, x.ofApplication = true
  | .retry => t.program = [] ∨ t.program = [.enterRetry] ∨ t.program = [.destroyRetry] ∨
      inLoop t.program = true

/-- A program in the loop goes on with what an instruction in front calls. -/
theorem inLoop_append {calls rest : List HandleInstr} (hcalls : ∀ x ∈ calls, x.inner = true)
    (hrest : inLoop rest = true) : inLoop (calls ++ rest) = true := by
  induction calls with
  | nil => exact hrest
  | cons x calls ih =>
    obtain ⟨hx, hcalls⟩ := List.forall_mem_cons.mp hcalls
    have hnonempty : calls ++ rest ≠ [] := by
      rintro hnil
      rw [(List.append_eq_nil_iff.mp hnil).2] at hrest
      exact absurd hrest (by decide)
    have hempty : (calls ++ rest).isEmpty = false := List.isEmpty_eq_false_iff.mpr hnonempty
    simp [inLoop, hempty, hx, ih hcalls]

/-- An inner instruction calls inner instructions. -/
theorem HandleInstr.exec_inner {s : HandleState} {ok : Bool} {ins : HandleInstr}
    {o : HandleOutcome} (h : ins.exec s ok = some o) (hins : ins.inner = true) :
    ∀ x ∈ o.calls, x.inner = true := by
  cases ins with
  | testHandle =>
    cases h
    simp only
    split <;> decide
  | useWebrtc | takeHandle | clearHandle handle | closeHandle handle | scheduleRetry
  | sleepRetry =>
    cases h
    simp [inner]
  | _ => exact absurd hins (by simp [inner])

/-- A deciding instruction leads back into the loop, or it leaves. -/
theorem HandleInstr.exec_decides {s : HandleState} {ok : Bool} {ins : HandleInstr}
    {o : HandleOutcome} (h : ins.exec s ok = some o) (hins : ins.decides = true) :
    inLoop o.calls = true ∨ (ins = .leaveRetry ∧ o.calls = [.destroyRetry]) := by
  cases ins with
  | leaveRetry =>
    cases h
    exact .inr ⟨rfl, rfl⟩
  | whileNotStopped | testNetwork | testNoSession =>
    cases h
    refine .inl ?_
    simp only
    split <;> decide
  | startWebrtc caller =>
    cases caller with
    | application => exact absurd hins (by decide)
    | retry =>
      have hcalls : o.calls = if s.networkConnected then [clearRetryStop .retry]
          else Caller.resume false .retry := by
        cases h
        rfl
      rw [hcalls]
      split <;> exact .inl rfl
  | testWebrtc caller =>
    cases caller with
    | application => exact absurd hins (by decide)
    | retry =>
      cases h
      refine .inl ?_
      simp only
      split <;> rfl
  | clearRetryStop caller =>
    cases caller with
    | application => exact absurd hins (by decide)
    | retry =>
      cases h
      exact .inl rfl
  | openWebrtc caller | espWebrtcStart caller =>
    cases caller with
    | application => exact absurd hins (by decide)
    | retry =>
      simp only [exec] at h
      split at h <;> cases h <;> exact .inl rfl
  | _ => exact absurd hins (by simp [decides])

/-- What an application's instruction calls is for an application too. -/
theorem HandleInstr.exec_ofApplication {s : HandleState} {ok : Bool} {ins : HandleInstr}
    {o : HandleOutcome} (h : ins.exec s ok = some o) (hins : ins.ofApplication = true) :
    ∀ x ∈ o.calls, x.ofApplication = true := by
  have hresume (ok : Bool) : ∀ x ∈ Caller.resume ok .application, x.ofApplication = true :=
    List.forall_mem_nil _
  have hfails : ∀ x ∈ startFails .application, x.ofApplication = true := by decide
  cases ins with
  | startWebrtc caller =>
    obtain rfl : caller = .application := of_decide_eq_true hins
    have hcalls : o.calls = if s.networkConnected then [clearRetryStop .application]
        else Caller.resume false .application := by
      cases h
      rfl
    rw [hcalls]
    split
    · decide
    · exact hresume false
  | testWebrtc caller =>
    obtain rfl : caller = .application := of_decide_eq_true hins
    cases h
    simp only
    split <;> decide
  | clearRetryStop caller =>
    obtain rfl : caller = .application := of_decide_eq_true hins
    cases h
    simp [ofApplication]
  | openWebrtc caller =>
    obtain rfl : caller = .application := of_decide_eq_true hins
    simp only [exec] at h
    split at h <;> cases h
    · simp [ofApplication, inner]
    · exact hfails
  | espWebrtcStart caller =>
    obtain rfl : caller = .application := of_decide_eq_true hins
    simp only [exec] at h
    split at h <;> cases h
    · exact List.forall_mem_cons.mpr ⟨rfl, hresume true⟩
    · exact hfails
  | testHandle =>
    cases h
    simp only
    split <;> decide
  | useWebrtc | takeHandle | clearHandle handle | closeHandle handle | scheduleRetry
  | sleepRetry | stopWebrtc =>
    cases h
    simp [ofApplication, inner]
  | _ => exact absurd hins (by simp [ofApplication, inner])

/-- Only a schedule whose guard passes creates a thread. -/
theorem HandleInstr.exec_created {s : HandleState} {ok : Bool} {ins : HandleInstr}
    {o : HandleOutcome} (h : ins.exec s ok = some o) :
    o.created = [] ∨ (ins = .scheduleRetry ∧ s.schedules = true ∧
      o = ⟨s, [], [⟨.retry, [.enterRetry]⟩]⟩) := by
  cases ins with
  | scheduleRetry =>
    cases h
    simp only
    split
    · next hschedules => exact .inr ⟨trivial, hschedules, rfl⟩
    · exact .inl rfl
  | openWebrtc caller | espWebrtcStart caller =>
    simp only [exec] at h
    split at h <;> cases h <;> exact .inl rfl
  | _ =>
    cases h
    exact .inl rfl

/-- A retry task sets `janus_retry_running` when it starts, and clears it when it leaves its
loop. -/
theorem HandleInstr.exec_running {s : HandleState} {ok : Bool} {ins : HandleInstr}
    {o : HandleOutcome} (h : ins.exec s ok = some o) :
    o.state.janusRetryRunning = if ins = .enterRetry then true else if ins = .leaveRetry then false
      else s.janusRetryRunning := by
  cases ins with
  | startWebrtc caller =>
    cases h
    cases caller <;> rfl
  | openWebrtc caller | espWebrtcStart caller =>
    simp only [exec] at h
    split at h <;> cases h <;> rfl
  | _ =>
    cases h
    rfl

/-- A step leaves the program of a thread well formed. -/
theorem wellFormed_exec {s : HandleState} {ok : Bool} {ins : HandleInstr} {o : HandleOutcome}
    {role : Caller} {rest : List HandleInstr} (h : ins.exec s ok = some o)
    (hprogram : WellFormed ⟨role, ins :: rest⟩) : WellFormed ⟨role, o.calls ++ rest⟩ := by
  cases role with
  | application =>
    obtain ⟨hins, hrest⟩ := List.forall_mem_cons.mp hprogram
    exact List.forall_mem_append.mpr ⟨HandleInstr.exec_ofApplication h hins, hrest⟩
  | retry =>
    rcases hprogram with hprogram | hprogram | hprogram | hprogram
    · exact absurd hprogram (by simp)
    · obtain ⟨rfl, rfl⟩ := List.cons.inj hprogram
      cases h
      exact .inr (.inr (.inr rfl))
    · obtain ⟨rfl, rfl⟩ := List.cons.inj hprogram
      cases h
      exact .inl rfl
    · cases rest with
      | nil =>
        rw [List.append_nil]
        rcases HandleInstr.exec_decides h hprogram with hloop | ⟨-, hcalls⟩
        · exact .inr (.inr (.inr hloop))
        · exact .inr (.inr (.inl hcalls))
      | cons y rest =>
        obtain ⟨hins, hrest⟩ := Bool.and_eq_true_iff.mp hprogram
        exact .inr (.inr (.inr (inLoop_append (HandleInstr.exec_inner h hins) hrest)))

namespace HandleTasks

/-- Every program is well formed, at most one retry task is alive, and `janus_retry_running`
shows one that is in its loop. -/
structure Retries (s : HandleTasks) : Prop where
  wellFormed : ∀ t ∈ s.threads, WellFormed t
  one : s.OneRetry
  shown : ∀ t ∈ s.threads, t.role = .retry → inLoop t.program = true →
    s.state.janusRetryRunning = true

/-- Nothing runs yet. -/
theorem retries_initial : Retries initial where
  wellFormed := List.forall_mem_nil _
  one i _ t _ ht _ _ _ := absurd ht (by simp [initial])
  shown := List.forall_mem_nil _

/-- While the guard of `schedule_janus_retry` passes and no retry task is unseen, none is alive. -/
theorem Retries.idle {s : HandleTasks} (h : s.Retries) (hschedules : s.state.schedules = true)
    (hunseen : ∀ t ∈ s.threads, unseenRetry t = false) : ∀ t ∈ s.threads, aliveRetry t = false := by
  rintro ⟨role, program⟩ ht
  cases role with
  | application => rfl
  | retry =>
    have hrunning : s.state.janusRetryRunning = false := by
      simp [HandleState.schedules] at hschedules
      exact hschedules.1.2
    have hidle := hunseen _ ht
    rcases h.wellFormed _ ht with hprogram | hprogram | hprogram | hprogram
    · simp only at hprogram
      simp [aliveRetry, hprogram]
    · simp only at hprogram
      simp [unseenRetry, hprogram] at hidle
    · simp only at hprogram
      simp [unseenRetry, hprogram] at hidle
    · have hshown := h.shown _ ht rfl hprogram
      rw [hrunning] at hshown
      exact absurd hshown (by decide)

/-- A thread's step keeps at most one retry task alive. -/
theorem oneRetry_exec {s t : HandleTasks} {i : Nat} {ok : Bool} (h : s.Retries)
    (he : Seen s (.exec i ok)) (ht : s.step (.exec i ok) = some t) : t.OneRetry := by
  have hexec : System.exec (fun state ins ok ↦ HandleInstr.exec state ok ins) i ok s = some t := ht
  obtain ⟨role, ins, rest, o, hthread, ho, rfl⟩ := System.exec_some hexec
  have hhead : s.head i = some ins := by
    rw [System.head, hthread]
    rfl
  -- the thread that took the step was alive before it, with the same role
  have hold : ∀ (j : Nat) u, (j = i ∧ u = ⟨role, o.calls ++ rest⟩) ∨
      (j ≠ i ∧ s.threads[j]? = some u) → aliveRetry u →
        ∃ v, s.threads[j]? = some v ∧ aliveRetry v := by
    rintro j u (⟨rfl, rfl⟩ | ⟨-, hu⟩) halive
    · refine ⟨_, hthread, ?_⟩
      simp only [aliveRetry, Bool.and_eq_true, decide_eq_true_eq] at halive ⊢
      exact ⟨halive.1, by simp⟩
    · exact ⟨u, hu, halive⟩
  intro j k u v hu hv hju hkv
  rcases HandleInstr.exec_created ho with hcreated | ⟨rfl, hschedules, rfl⟩
  · have hplace (j : Nat) (u) (hu : (s.threads.set i ⟨role, o.calls ++ rest⟩ ++
        o.created)[j]? = some u) : (j = i ∧ u = ⟨role, o.calls ++ rest⟩) ∨
          (j ≠ i ∧ s.threads[j]? = some u) := by
      rcases System.getElem?_cases hu with hown | hother | ⟨-, hnew⟩
      · exact .inl hown
      · exact .inr hother
      · rw [hcreated] at hnew
        exact absurd hnew (by simp)
    obtain ⟨u', hu', hju'⟩ := hold j u (hplace j u hu) hju
    obtain ⟨v', hv', hkv'⟩ := hold k v (hplace k v hv) hkv
    exact h.one j k u' v' hu' hv' hju' hkv'
  · have hidle := h.idle hschedules (he.1 hhead hschedules)
    have hnew (j : Nat) (u) (hu : (s.threads.set i ⟨role, [] ++ rest⟩ ++
        [⟨.retry, [.enterRetry]⟩])[j]? = some u) (hju : aliveRetry u) : j = s.threads.length := by
      rcases System.getElem?_cases hu with hown | hother | ⟨hle, hnew⟩
      · obtain ⟨v, hv, hjv⟩ := hold j u (.inl hown) hju
        rw [hidle v (List.mem_of_getElem? hv)] at hjv
        exact absurd hjv (by decide)
      · rw [hidle u (List.mem_of_getElem? hother.2)] at hju
        exact absurd hju (by decide)
      · obtain ⟨hlt, -⟩ := List.getElem?_eq_some_iff.mp hnew
        simp only [List.length_singleton] at hlt
        omega
    rw [hnew j u hu hju, hnew k v hv hkv]

/-- A thread's step keeps `janus_retry_running` set while a retry task is in its loop. -/
theorem shown_exec {s t : HandleTasks} {i : Nat} {ok : Bool} (h : s.Retries)
    (ht : s.step (.exec i ok) = some t) :
    ∀ u ∈ t.threads, u.role = .retry → inLoop u.program = true →
      t.state.janusRetryRunning = true := by
  have hexec : System.exec (fun state ins ok ↦ HandleInstr.exec state ok ins) i ok s = some t := ht
  obtain ⟨role, ins, rest, o, hthread, ho, rfl⟩ := System.exec_some hexec
  have hown := h.wellFormed _ (List.mem_of_getElem? hthread)
  have hrunning := HandleInstr.exec_running ho
  rintro ⟨urole, program⟩ hu rfl hloop
  change o.state.janusRetryRunning = true
  obtain ⟨j, hj⟩ := List.mem_iff_getElem?.mp hu
  rcases System.getElem?_cases hj with ⟨rfl, hself⟩ | ⟨hji, hother⟩ | ⟨-, hnew⟩
  · obtain ⟨rfl, rfl⟩ := Thread.mk.inj hself
    rcases hown with hprogram | hprogram | hprogram | hprogram
    · exact absurd hprogram (by simp)
    · obtain ⟨rfl, rfl⟩ := List.cons.inj hprogram
      exact hrunning
    · obtain ⟨rfl, rfl⟩ := List.cons.inj hprogram
      cases ho
      exact absurd hloop Bool.false_ne_true
    · have hbefore := h.shown _ (List.mem_of_getElem? hthread) rfl hprogram
      by_cases hleave : ins = .leaveRetry
      · subst hleave
        cases ho
        cases rest with
        | nil => exact absurd hloop Bool.false_ne_true
        | cons y rest => exact absurd hprogram (by simp [inLoop, HandleInstr.inner])
      · rw [hrunning, if_neg hleave, hbefore]
        split <;> rfl
  · have hbefore := h.shown _ (List.mem_of_getElem? hother) rfl hloop
    by_cases hleave : ins = .leaveRetry
    -- the task that leaves its loop is the one that is alive
    · subst hleave
      cases role with
      | application =>
        have happ := hown _ List.mem_cons_self
        exact absurd happ (by decide)
      | retry =>
        have halive : aliveRetry ⟨.retry, program⟩ = true := by
          cases program with
          | nil => exact absurd hloop (by decide)
          | cons y program => rfl
        exact absurd (h.one j i _ _ hother hthread halive rfl) hji
    · rw [hrunning, if_neg hleave, hbefore]
      split <;> rfl
  · rcases HandleInstr.exec_created ho with hcreated | ⟨-, -, rfl⟩
    · rw [hcreated] at hnew
      exact absurd hnew (by simp)
    · have hmem := List.mem_of_getElem? hnew
      obtain ⟨-, rfl⟩ := Thread.mk.inj (List.mem_singleton.mp hmem)
      exact absurd hloop (by decide)

/-- Steps that meet the condition keep at most one retry task alive. -/
theorem retries_step {s t : HandleTasks} {e : HandleEvent} (h : s.Retries) (he : Seen s e)
    (ht : s.step e = some t) : t.Retries := by
  cases e with
  | call f =>
    cases ht
    have hcall : WellFormed ⟨.application, f.instrs⟩ := by
      change ∀ x ∈ f.instrs, x.ofApplication = true
      cases f <;> decide
    have hplace (j : Nat) (u) (hu : (s.threads ++ [⟨.application, f.instrs⟩])[j]? = some u)
        (halive : aliveRetry u) : s.threads[j]? = some u := by
      by_cases hj : j < s.threads.length
      · rwa [List.getElem?_append_left hj] at hu
      · rw [List.getElem?_append_right (Nat.le_of_not_lt hj)] at hu
        rw [List.mem_singleton.mp (List.mem_of_getElem? hu)] at halive
        exact absurd halive (by simp [aliveRetry])
    refine ⟨?_, ?_, ?_⟩
    · intro u hu
      rcases List.mem_append.mp hu with hu | hu
      · exact h.wellFormed u hu
      · rw [List.mem_singleton.mp hu]
        exact hcall
    · intro j k u v hu hv hju hkv
      exact h.one j k u v (hplace j u hu hju) (hplace k v hv hkv) hju hkv
    · intro u hu hrole hloop
      rcases List.mem_append.mp hu with hu | hu
      · exact h.shown u hu hrole hloop
      · rw [List.mem_singleton.mp hu] at hrole
        exact absurd hrole Caller.noConfusion
  | exec i ok =>
    refine ⟨?_, oneRetry_exec h he ht, shown_exec h ht⟩
    have hexec : System.exec (fun state ins ok ↦ HandleInstr.exec state ok ins) i ok s =
      some t := ht
    apply System.exec_forall (T := fun _ ↦ WellFormed) hexec h.wellFormed
    intro role ins rest o hthread ho
    refine ⟨wellFormed_exec ho (h.wellFormed _ (List.mem_of_getElem? hthread)), ?_,
      fun _ hx ↦ hx⟩
    rcases HandleInstr.exec_created ho with hcreated | ⟨-, -, rfl⟩
    · rw [hcreated]
      exact List.forall_mem_nil _
    · intro x hx
      rw [List.mem_singleton.mp hx]
      exact .inr (.inl rfl)
  | network connected =>
    cases ht
    exact ⟨h.wellFormed, h.one, h.shown⟩

end HandleTasks

/-! ### Runs -/

/-- A start fails to open and schedules a retry task, which passes its tests. -/
private def retryTested : List HandleEvent :=
  [.network true, .call .start] ++ List.replicate 4 (.exec 0 false) ++
    List.replicate 2 (.exec 0 true) ++ List.replicate 4 (.exec 1 true)

/-- A retry task that is stopped after its loop test clears the stop, and opens a handle. -/
theorem retry_opens_after_stop :
    ¬ ∀ es s, run HandleTasks.step .initial es = some s → RetriesCancelled es := by
  intro h
  let stopped : List HandleEvent := retryTested ++ [.call .stop, .exec 2 true] ++
    List.replicate 3 (.exec 1 true)
  have hopen := (h (stopped ++ [.exec 1 true]) _ rfl).2 stopped (.exec 1 true) [] _ rfl rfl
  exact absurd hopen (by decide)

/-- In every run whose steps meet the condition, at most one retry task is alive at a time, and
none opens a handle once it was cancelled. -/
theorem retriesCancelled_of_seen {es : List HandleEvent}
    (hmeet : StepsMeet Seen HandleTasks.step .initial es) : RetriesCancelled es := by
  constructor
  · rintro pre s ⟨post, rfl⟩ hs
    have hretries : s.Retries :=
      run_invariant_of_meet HandleTasks.retries_initial
        (fun _ _ _ hs he ht ↦ HandleTasks.retries_step hs he ht) hmeet.left hs
    exact hretries.one
  · rintro pre e post s rfl hs
    have hstays : StaysCancelled s :=
      run_invariant_of_meet (fun h ↦ absurd h (by decide))
        (fun _ _ _ hs he ht ↦ staysCancelled_step hs he ht) hmeet.left hs
    cases e with
    | call f => rfl
    | network connected => rfl
    | exec i ok =>
      cases hcancelled : s.state.cancelled with
      | false => simp [opensCancelled, hcancelled]
      | true =>
        have hhead : s.head i ≠ some (.openWebrtc .retry) := by
          intro hhead
          have hidle := (hstays hcancelled).2 _ (System.mem_pending_of_head hhead)
          exact absurd hidle (by decide)
        simp [opensCancelled, hhead]

/-- The retry task fails to open as well, and is stopped while it sleeps. -/
private def stoppedAsleep : List HandleEvent :=
  retryTested ++ List.replicate 4 (.exec 1 false) ++ List.replicate 2 (.exec 1 true) ++
    [.call .stop, .exec 2 true, .exec 2 true] ++ List.replicate 4 (.exec 1 true)

/-- A retry task that is stopped while it sleeps ends. -/
theorem retriesCancelled_asleep :
    (run HandleTasks.step .initial stoppedAsleep).isSome = true ∧
      RetriesCancelled stoppedAsleep :=
  ⟨rfl, retriesCancelled_of_seen (by decide)⟩

end Esp32Robot.Webrtc

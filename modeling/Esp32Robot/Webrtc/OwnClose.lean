import Esp32Robot.Webrtc.TaskSteps

/-!
# Closing the own session

What becomes of a peer connection task that closes its own session. No other
thread has to do with the session then, so that the task gets as far as the
wait for its own exit and stays there.
-/

namespace Esp32Robot.Webrtc

open Esp32Robot.Base

/-! ### Threads apart from a session -/

/-- The thread is not the task of the session, and closes it nowhere. -/
structure Apart (h : Nat) (t : Thread Role Instr) : Prop where
  role : t.role ≠ .pcTask h
  program : ∀ x ∈ t.program, x.closes ≠ some h ∧ x.serves ≠ some h

variable {s : SessionState} {c : Choice} {ins : Instr} {o : Effects}

/-- A thread that has nothing to do with a session goes on so, unless it enters the cleanup of
the session. -/
theorem Apart.exec {h : Nat} {role : Role} {rest : List Instr}
    (hthread : Apart h ⟨role, ins :: rest⟩) (ho : ins.exec s c = some o)
    (hcleanup : ins = .cleanupWebrtcHandle → s.doorBell.webrtc ≠ some h) :
    Apart h ⟨role, o.calls ++ rest⟩ := by
  have hins := hthread.program ins List.mem_cons_self
  refine ⟨hthread.role, ?_⟩
  intro x hx
  rcases List.mem_append.mp hx with hx | hx
  · obtain ⟨hcloses, hserves, _⟩ := exec_calls ho hx h
    refine ⟨?_, fun hx ↦ hins.2 (hserves hx)⟩
    intro hx
    rcases hcloses hx with hx | ⟨hx, hw⟩
    · exact hins.1 hx
    · exact hcleanup hx hw
  · exact hthread.program x (List.mem_cons_of_mem ins hx)

/-- What the task runs before the wait in `pc_close`. -/
inductive Instr.BeforeJoin (h : Nat) : Instr → Prop where
  | stopStream : BeforeJoin h (.stopStream h)
  | awaitSendQuit : BeforeJoin h (.waitForBits h .sendQuit)
  | clearSendQuit : BeforeJoin h (.clearBits h .sendQuit)
  | resume : BeforeJoin h (.setWaitBits h .resume)

/-- The instructions before the wait neither close the session nor leave the loop of its task. -/
theorem Instr.BeforeJoin.exec {h : Nat} (hins : ins.BeforeJoin h) (ho : ins.exec s c = some o) :
    ins.closes ≠ some h ∧ ins.serves ≠ some h ∧ ∀ x ∈ o.calls, x.BeforeJoin h := by
  cases hins with
  | stopStream =>
    simp only [Instr.exec] at ho
    split at ho
    · cases ho
      refine ⟨by simp [closes], by simp [serves], ?_⟩
      intro x hx
      rcases List.mem_cons.mp hx with rfl | hx
      · exact .awaitSendQuit
      · rw [List.mem_singleton.mp hx]
        exact .clearSendQuit
    · cases ho
      exact ⟨by simp [closes], by simp [serves], by simp⟩
  | awaitSendQuit =>
    simp only [Instr.exec] at ho
    split at ho
    · cases ho
      exact ⟨by simp [closes], by simp [serves], by simp⟩
    · exact absurd ho (by simp)
  | clearSendQuit =>
    cases ho
    exact ⟨by simp [closes], by simp [serves], by simp⟩
  | resume =>
    cases ho
    exact ⟨by simp [closes], by simp [serves], by simp⟩

/-- A thread about older sessions has nothing to do with a new one. -/
theorem Known.apart {h : Nat} {t : Thread Role Instr} (ht : Known h t) : Apart h t :=
  ⟨fun hrole ↦ Nat.lt_irrefl h (ht.role h hrole),
    fun x hx ↦ ⟨fun hc ↦ Nat.lt_irrefl h (ht.program x hx h (.inl hc)),
      fun hc ↦ Nat.lt_irrefl h (ht.program x hx h (.inr (.inl hc)))⟩⟩

section Current

variable {h i j : Nat} {t : Tasks} {role : Role} {tail : List Instr}

end Current

end Esp32Robot.Webrtc

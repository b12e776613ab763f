import Esp32Robot.Webrtc.PeerTask
import Esp32Robot.Webrtc.Sessions

/-!
# Steps of the peer connection tasks

What one instruction of `Esp32Robot.Webrtc.PeerTask` can call, create and change,
and which sessions the threads of a reachable state are about.
-/

namespace Esp32Robot.Webrtc

open Esp32Robot.Base

/-- The session that the instruction closes, when it is part of `esp_webrtc_close`. -/
def Instr.closes : Instr → Option Nat
  | .pcClose h | .peerClose h | .destroyWaitEvent h | .signalingStop h | .freeRtc h => some h
  | .waitForBits h .exit | .clearBits h .exit => some h
  | _ => none

/-- The session whose task alone runs the instruction. -/
def Instr.serves : Instr → Option Nat
  | .whileRunning h | .setWaitBits h .exit => some h
  | _ => none

/-- The session whose peer connection the instruction leads to. -/
def Instr.starts : Instr → Option Nat
  | .signalingStart h | .signalIceReceived h => some h
  | _ => none

/-- The instruction closes, serves or starts the session. -/
def Instr.Concerns (g : Nat) (x : Instr) : Prop :=
  x.closes = some g ∨ x.serves = some g ∨ x.starts = some g

/-! ### What one instruction does -/

private theorem pcStart_spec (h : Nat) (c : Choice) (s : SessionState) :
    (pcStart h c s).calls = [] ∧ (pcStart h c s).state.doorBell = s.doorBell ∧
      (∀ g, g ≠ h ∨ (s.rtc h).pc = true → (pcStart h c s).state.rtc g = s.rtc g) ∧
      ((pcStart h c s).created = [] ∨
        (s.rtc h).pc = false ∧ (pcStart h c s).created = [⟨.pcTask h, [.whileRunning h]⟩] ∧
          (pcStart h c s).state.rtc h =
            { s.rtc h with pc := true, bits := fun _ ↦ false, running := true }) := by
  unfold pcStart
  simp only
  split
  · exact ⟨rfl, rfl, fun _ _ ↦ rfl, .inl rfl⟩
  · next hpc =>
    have hother (r : Rtc) (g : Nat) (hg : g ≠ h ∨ (s.rtc h).pc = true) :
        (s.setRtc h r).rtc g = s.rtc g := by
      simp [SessionState.setRtc, hg.resolve_right hpc]
    split
    · refine ⟨rfl, rfl, hother _, .inr ⟨by simpa using hpc, rfl, ?_⟩⟩
      simp [SessionState.setRtc]
    · exact ⟨rfl, rfl, hother _, .inl rfl⟩
    · exact ⟨rfl, rfl, hother _, .inl rfl⟩
    · exact ⟨rfl, rfl, fun _ _ ↦ rfl, .inl rfl⟩

variable {s : SessionState} {c : Choice} {ins : Instr} {o : Effects}

/-- An instruction only calls what is for the same session, or for the current one. -/
theorem exec_calls (h : ins.exec s c = some o) {x : Instr} (hx : x ∈ o.calls) (g : Nat) :
    (x.closes = some g →
        ins.closes = some g ∨ ins = .cleanupWebrtcHandle ∧ s.doorBell.webrtc = some g) ∧
      (x.serves = some g → ins.serves = some g) ∧
      (x.starts = some g → ins.starts = some g ∨ s.doorBell.webrtc = some g) := by
  cases ins with
  | signalIceReceived k =>
    cases h
    rw [(pcStart_spec _ _ _).1] at hx
    exact absurd hx List.not_mem_nil
  | peerMainLoop k =>
    simp only [Instr.exec] at h
    split at h
    · next state =>
      split at h
      · cases h
        cases state <;> grind [pcOnState, Instr.closes, Instr.serves, Instr.starts]
      · cases h
        exact absurd hx List.not_mem_nil
    · cases h
      exact absurd hx List.not_mem_nil
  | enablePeerConnection =>
    simp only [Instr.exec] at h
    grind [pcStart_spec]
  | _ =>
    simp only [Instr.exec] at h
    grind [Instr.closes, Instr.serves, Instr.starts, waitFor, espWebrtcClose, startFailed,
      onFailure, Webrtc.pcClose]

/-- At most one thread is created: the task of a peer connection that was not open before, or
the one that sends media. -/
theorem exec_created (h : ins.exec s c = some o) {t : Thread Role Instr} (ht : t ∈ o.created) :
    o.created = [t] ∧
      ((∃ g, t = ⟨.pcTask g, [.whileRunning g]⟩ ∧ (s.rtc g).pc = false ∧
          (ins.starts = some g ∨ s.doorBell.webrtc = some g) ∧ (o.state.rtc g).pc = true ∧
          (o.state.rtc g).running = true ∧ (o.state.rtc g).bits .exit = false) ∨
        ∃ g, t = ⟨.mediaSend g, [.whileSending g]⟩) := by
  cases ins with
  | signalIceReceived k =>
    simp only [Instr.exec] at h
    grind [pcStart_spec, SessionState.setRtc, Instr.starts]
  | enablePeerConnection =>
    simp only [Instr.exec] at h
    grind [pcStart_spec]
  | _ =>
    simp only [Instr.exec] at h
    grind [Webrtc.pcClose]

/-! ### Handles -/

/-- A step runs an instruction of a thread, or only adds a call of the application. -/
theorem Tasks.step_cases {s t : Tasks} {e : TaskEvent} (h : s.step e = some t) :
    (∃ i c, e = .exec i c ∧ s.exec (fun state ins c ↦ Instr.exec state c ins) i c = some t) ∨
      (t.state.doorBell = s.state.doorBell ∧ t.state.rtc = s.state.rtc ∧
        ∃ new, t.threads = s.threads ++ new ∧
          ∀ x ∈ new, ∃ f : AppCall, x = ⟨.application, [f.instr]⟩) := by
  cases e with
  | call f =>
    cases h
    exact .inr ⟨rfl, rfl, _, rfl, fun x hx ↦ ⟨f, List.mem_singleton.mp hx⟩⟩
  | exec i c => exact .inl ⟨i, c, rfl, h⟩
  | network connected =>
    cases h
    exact .inr ⟨rfl, rfl, [], (List.append_nil _).symm, fun x hx ↦ absurd hx List.not_mem_nil⟩

/-- The thread is about sessions below the bound. -/
structure Known (bound : Nat) (t : Thread Role Instr) : Prop where
  role : ∀ g, t.role = .pcTask g → g < bound
  program : ∀ x ∈ t.program, ∀ g, x.Concerns g → g < bound

/-- A larger bound serves as well. -/
theorem Known.mono {m n : Nat} {t : Thread Role Instr} (h : Known m t) (hmn : m ≤ n) :
    Known n t :=
  ⟨fun g hg ↦ Nat.lt_of_lt_of_le (h.role g hg) hmn,
    fun x hx g hg ↦ Nat.lt_of_lt_of_le (h.program x hx g hg) hmn⟩

end Esp32Robot.Webrtc

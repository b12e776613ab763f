import Esp32Robot.Viewer.App
import Esp32Robot.Webrtc.ControlThreads

/-!
# One viewer and the P4

The viewer and the tasks of the P4 with the command topic between them. Commands are
delivered in the order in which they were published, at any later time, or are lost.
The MQTT task of the P4 takes a command when it is done with the one before.
-/

namespace Esp32Robot.Viewer

open Esp32Robot.Base Esp32Robot.Webrtc

/-- Both parties, and how many of the published commands were delivered or lost. -/
structure RemoteControl where
  viewer : App
  p4 : P4Tasks
  delivered : Nat

/-- What can happen: in the viewer, to the next command, or on the P4. -/
inductive RemoteEvent where
  | viewer (event : AppEvent)
  | deliver (now : Int)
  | lose
  | p4 (event : P4TaskEvent)
  deriving DecidableEq

namespace RemoteControl

/-- The page was just loaded and the P4 just booted. -/
def initial : RemoteControl := ⟨.initial, .initial, 0⟩

/-- One step. Every command of the P4 comes from the topic. -/
def step (s : RemoteControl) : RemoteEvent → Option RemoteControl
  | .viewer event => (s.viewer.step event).map (fun v ↦ { s with viewer := v })
  | .deliver now =>
    match s.viewer.published[s.delivered]? with
    | some cmd =>
      (s.p4.receive now cmd).map (fun p ↦ { s with p4 := p, delivered := s.delivered + 1 })
    | none => none
  | .lose =>
    if s.delivered < s.viewer.published.length then some { s with delivered := s.delivered + 1 }
    else none
  | .p4 event => (s.p4.step event).map (fun p ↦ { s with p4 := p })

/-- What the P4 has called so far. -/
def doorBell (s : RemoteControl) : DoorBell := s.p4.state.doorBell

end RemoteControl

/-- The event is a new request of the viewer for a session. -/
def RemoteEvent.isOpenRequest : RemoteEvent → Bool
  | .viewer event => event.isOpenRequest
  | _ => false

namespace RemoteControl

variable {s t : RemoteControl} {e : RemoteEvent}

/-- Delivering takes the next command. -/
theorem deliver_some {now : Int} (h : s.step (.deliver now) = some t) :
    ∃ cmd p, s.viewer.published[s.delivered]? = some cmd ∧ s.p4.receive now cmd = some p ∧
      t = { s with p4 := p, delivered := s.delivered + 1 } := by
  simp only [step] at h
  split at h
  · next cmd hcmd =>
    obtain ⟨p, hp, rfl⟩ := Option.map_eq_some_iff.mp h
    exact ⟨cmd, p, hcmd, hp, rfl⟩
  · exact absurd h (by simp)

/-- Losing passes over the next command. -/
theorem lose_some (h : s.step .lose = some t) : t = { s with delivered := s.delivered + 1 } := by
  simp only [step] at h
  split at h
  · exact (Option.some.inj h).symm
  · exact absurd h (by simp)

/-- The viewer is only changed by its own events. -/
theorem viewer_step (h : s.step e = some t) :
    t.viewer = s.viewer ∨ ∃ event, e = .viewer event ∧ s.viewer.step event = some t.viewer := by
  cases e with
  | viewer event =>
    obtain ⟨v, hv, rfl⟩ := Option.map_eq_some_iff.mp h
    exact .inr ⟨event, rfl, hv⟩
  | deliver now =>
    obtain ⟨cmd, p, _, _, rfl⟩ := deliver_some h
    exact .inl rfl
  | lose =>
    rw [lose_some h]
    exact .inl rfl
  | p4 event =>
    obtain ⟨p, _, rfl⟩ := Option.map_eq_some_iff.mp h
    exact .inl rfl

/-- Only the MQTT task of the P4 runs the command handler. -/
theorem onlyMqtt_step (h : s.p4.OnlyMqtt) (ht : s.step e = some t) : t.p4.OnlyMqtt := by
  cases e with
  | viewer event =>
    obtain ⟨v, _, rfl⟩ := Option.map_eq_some_iff.mp ht
    exact h
  | deliver now =>
    obtain ⟨cmd, p, _, hp, rfl⟩ := deliver_some ht
    exact P4Tasks.onlyMqtt_receive h hp
  | lose =>
    rw [lose_some ht]
    exact h
  | p4 event =>
    obtain ⟨p, hp, rfl⟩ := Option.map_eq_some_iff.mp ht
    exact P4Tasks.onlyMqtt_step h hp

end RemoteControl

end Esp32Robot.Viewer

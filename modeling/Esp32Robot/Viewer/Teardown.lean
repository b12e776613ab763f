import Esp32Robot.Viewer.Session

/-!
# Ending a session and its callbacks

`destroySession` of `webrtc_public_gateway/web/app.js` with the one of
`web/vendor/janus.js` over a WebSocket, call by call. Both call each other through the
`destroyed` callback, and what stands after an `await` runs when the call stack is
empty. A function takes the depth of the call stack that is left, and has no result
when that is too small. A WebSocket that `janus.js` closes has left `readyState` 1 at once,
while `connected` and `sessionId` stay as they are.
-/

namespace Esp32Robot.Viewer

open Esp32Robot.Base

/-- `ws.readyState`; a WebSocket counts as connecting until its session is created. -/
inductive ReadyState where
  | connecting
  | opened
  | closed
  deriving DecidableEq, Repr

/-- What `janus.js` keeps of a session for `destroySession`: whether `sessionId` is set,
`connected`, `ws.readyState`, how many destroy calls wait for an answer, and how many destroy
requests were sent. -/
structure JanusSocket where
  sessionId : Bool
  connected : Bool
  readyState : ReadyState
  listeners : Nat
  sent : Nat
  deriving DecidableEq, Repr

/-- The variable `janus`, every session made so far, and how many awaited promises were resolved on
the call stack. -/
structure Teardown where
  janus : Option Nat
  sockets : List JanusSocket
  resolved : Nat
  deriving DecidableEq, Repr

namespace Teardown

/-- The page was just loaded. -/
def initial : Teardown := ⟨none, [], 0⟩

/-- Change a session. -/
def update (k : Nat) (f : JanusSocket → JanusSocket) (v : Teardown) : Teardown :=
  { v with sockets := v.sockets.modify k f }

/-- The promise of `app.js:78` is resolved. -/
def resolve (v : Teardown) : Teardown := { v with resolved := v.resolved + 1 }

/-- `unbindWebSocket`, `janus.js:1198–1208`. -/
def unbindWebSocket (k : Nat) (v : Teardown) : Teardown :=
  v.update k (fun w ↦ { w with readyState := .closed, listeners := w.listeners - 1 })

/-- `onUnbindMessage` and `onUnbindError`, `janus.js:1210–1224`; both callbacks of `app.js` resolve
the promise. -/
def onUnbind (destroyed : Teardown → Option Teardown) (k : Nat) (v : Teardown) :
    Option Teardown :=
  destroyed (v.unbindWebSocket k).resolve

/-- `destroySession` of `janus.js:1144–1236` with the options of `app.js:78`. -/
def janusDestroySession (destroyed : Teardown → Option Teardown) (k : Nat) (v : Teardown) :
    Option Teardown :=
  match v.sockets[k]? with
  | none => some v.resolve
  | some w =>
    if !w.sessionId then destroyed v.resolve
    else if !w.connected then some (v.update k (fun w ↦ { w with sessionId := false })).resolve
    else
      let v := v.update k (fun w ↦ { w with listeners := w.listeners + 1 })
      if w.readyState = .opened then some (v.update k (fun w ↦ { w with sent := w.sent + 1 }))
      else onUnbind destroyed k v

/-- `destroySession` of `app.js:72–94` up to its `await`, which is also what the `destroyed`
callback of `app.js:701–704` runs. -/
def destroySession : Nat → Teardown → Option Teardown
  | 0, _ => none
  | depth + 1, v =>
    match v.janus with
    | none => some v
    | some k => janusDestroySession (destroySession depth) k v

/-- The rest of `destroySession` for every resolved promise, once the call stack is empty. -/
def microtasks (v : Teardown) : Teardown :=
  if v.resolved = 0 then v else { v with janus := none, resolved := 0 }

/-- The answer to a destroy request of session `k`. -/
def answer (depth k : Nat) (v : Teardown) : Option Teardown := onUnbind (destroySession depth) k v

/-- Destroy requests that were sent for session `k`. -/
def sent (k : Nat) (v : Teardown) : Nat := (v.sockets[k]?.map JanusSocket.sent).getD 0

/-- Session `k` is live. -/
def live (k : Nat) (v : Teardown) : Bool :=
  (v.sockets[k]?.map (fun w ↦ w.sessionId && w.connected && w.readyState = .opened)).getD false

/-- An answer for session `k` may come. -/
def awaits (k : Nat) (v : Teardown) : Bool :=
  v.live k && (v.sockets[k]?.map (fun w ↦ decide (0 < w.listeners))).getD false

end Teardown

/-- What can happen to the sessions; calls and answers have a call stack of some depth. -/
inductive TeardownEvent where
  | connect
  | created (session : Nat)
  | lost (session : Nat)
  | destroySession (depth : Nat)
  | answer (depth session : Nat)
  deriving DecidableEq, Repr

namespace Teardown

/-- One step: a handler on an empty call stack, and then the microtasks. -/
def step (v : Teardown) : TeardownEvent → Option Teardown
  | .connect => some { v with
      janus := some v.sockets.length
      sockets := v.sockets ++ [⟨false, false, .connecting, 0, 0⟩] }
  | .created k =>
    if (v.sockets[k]?.map JanusSocket.readyState) = some .connecting then
      some (v.update k
        (fun w ↦ { w with sessionId := true, connected := true, readyState := .opened }))
    else none
  | .lost k =>
    if v.live k then
      some (v.update k (fun w ↦ { w with connected := false, readyState := .closed }))
    else none
  | .destroySession depth => (destroySession depth v).map microtasks
  | .answer depth k => if v.awaits k then (answer depth k v).map microtasks else none

/-! ### Call chains that end, and those that do not -/

/-- `janus` names a session without `sessionId`, or one whose WebSocket is closed although it is
connected. -/
def Stuck (v : Teardown) : Prop :=
  ∃ k w, v.janus = some k ∧ v.sockets[k]? = some w ∧
    (w.sessionId = false ∨ (w.connected = true ∧ w.readyState ≠ .opened))

/-- One call ends and sends one request for session `k`, and the handler of its answer ends and
sends no more. -/
structure TornDownOnce (k : Nat) (called answered : Teardown) : Prop where
  request : ∃ depth t, destroySession depth called = some t ∧ t.sent k = called.sent k + 1
  chain : ∃ depth t, answer depth k answered = some t ∧ t.sent k = answered.sent k

/-- A change of another session sends nothing for session `k`. -/
theorem sent_update_other {k j : Nat} (h : j ≠ k) (f : JanusSocket → JanusSocket) (v : Teardown) :
    (v.update j f).sent k = v.sent k := by
  simp only [sent, update, List.getElem?_modify_ne _ _ h]

/-- A change that sends nothing sends nothing for session `k`. -/
theorem sent_update_same (j k : Nat) {f : JanusSocket → JanusSocket} (hf : ∀ w, (f w).sent = w.sent)
    (v : Teardown) : (v.update j f).sent k = v.sent k := by
  simp only [sent, update, List.getElem?_modify]
  cases v.sockets[k]? with
  | none => rfl
  | some w =>
    simp only [Option.map_eq_map, Option.map_some, Option.getD_some]
    split
    · exact hf w
    · rfl

/-- Each call of `destroySession` on such a session leads to the next one. -/
theorem destroySession_stuck {v : Teardown} (h : v.Stuck) (depth : Nat) :
    destroySession depth v = none := by
  induction depth generalizing v with
  | zero => rfl
  | succ depth ih =>
    obtain ⟨k, w, hjanus, hsocket, hstuck⟩ := h
    simp only [destroySession, hjanus, janusDestroySession, hsocket]
    split
    · exact ih ⟨k, w, hjanus, hsocket, hstuck⟩
    · next hid =>
      have hid : w.sessionId = true := by simpa using hid
      obtain ⟨hconnected, hclosed⟩ := hstuck.resolve_left (by simp [hid])
      rw [if_neg (by simp [hconnected]), if_neg hclosed]
      -- The listeners are removed again, the session stays connected, and its socket closed.
      refine ih ⟨k, { w with readyState := .closed }, hjanus, ?_, .inr ⟨hconnected, ?_⟩⟩
      · simp [resolve, unbindWebSocket, update, hsocket]
      · exact ReadyState.noConfusion

/-- What a live session looks like. -/
theorem live_iff {k : Nat} {v : Teardown} : v.live k = true ↔ ∃ w, v.sockets[k]? = some w ∧
    w.sessionId = true ∧ w.connected = true ∧ w.readyState = .opened := by
  unfold live
  cases v.sockets[k]? with
  | none => simp
  | some w => simp [and_assoc]

/-- Any other call ends at once: there is no session, or it sends a request for the live one, or it
sends nothing and resolves its promise. -/
theorem destroySession_cases {v : Teardown} (h : ¬ v.Stuck) (depth : Nat) :
    (v.janus = none ∧ destroySession (depth + 1) v = some v) ∨
    (∃ k, v.janus = some k ∧ v.live k = true ∧ destroySession (depth + 1) v =
      some ((v.update k (fun w ↦ { w with listeners := w.listeners + 1 })).update k
        (fun w ↦ { w with sent := w.sent + 1 }))) ∨
    (∃ k f, v.janus = some k ∧ v.live k = false ∧ (∀ w, JanusSocket.sent (f w) = w.sent) ∧
      destroySession (depth + 1) v = some (v.update k f).resolve) := by
  cases hjanus : v.janus with
  | none => exact .inl ⟨rfl, by simp [destroySession, hjanus]⟩
  | some j =>
    refine .inr ?_
    cases hsocket : v.sockets[j]? with
    | none =>
      refine .inr ⟨j, id, rfl, by simp [live, hsocket], fun _ ↦ rfl, ?_⟩
      simp [destroySession, hjanus, janusDestroySession, hsocket, update, resolve]
    | some w =>
      have hid : w.sessionId = true := by
        rw [← Bool.not_eq_false]
        exact fun hid ↦ h ⟨j, w, hjanus, hsocket, .inl hid⟩
      cases hconnected : w.connected with
      | false =>
        refine .inr ⟨j, fun w ↦ { w with sessionId := false }, rfl, ?_, fun _ ↦ rfl, ?_⟩
        · simp [live, hsocket, hconnected]
        · simp [destroySession, hjanus, janusDestroySession, hsocket, hid, hconnected]
      | true =>
        have hopened : w.readyState = .opened :=
          Decidable.byContradiction fun hclosed ↦
            h ⟨j, w, hjanus, hsocket, .inr ⟨hconnected, hclosed⟩⟩
        refine .inl ⟨j, rfl, live_iff.mpr ⟨w, hsocket, hid, hconnected, hopened⟩, ?_⟩
        simp [destroySession, hjanus, janusDestroySession, hsocket, hid, hconnected, hopened]

/-- A call that ends sends nothing for sessions that `janus` does not name. -/
theorem sent_destroySession {v : Teardown} (h : ¬ v.Stuck) (depth : Nat) :
    ∃ t, destroySession (depth + 1) v = some t ∧ ∀ k, v.janus ≠ some k → t.sent k = v.sent k := by
  rcases destroySession_cases h depth with ⟨_, ht⟩ | ⟨j, hjanus, _, ht⟩ | ⟨j, f, _, _, hf, ht⟩
  · exact ⟨v, ht, fun _ _ ↦ rfl⟩
  · refine ⟨_, ht, ?_⟩
    intro k hk
    have hjk : j ≠ k := fun hjk ↦ hk (by rw [hjanus, hjk])
    rw [sent_update_other hjk, sent_update_other hjk]
  · exact ⟨_, ht, fun k _ ↦ sent_update_same j k hf v⟩

/-- A live session is not stuck. -/
theorem not_stuck_of_live {k : Nat} {v : Teardown} (hjanus : v.janus = some k)
    (hlive : v.live k = true) : ¬ v.Stuck := by
  obtain ⟨w, hsocket, hid, _, hopened⟩ := live_iff.mp hlive
  rintro ⟨j, w', hjanus', hsocket', hstuck⟩
  cases hjanus.symm.trans hjanus'
  cases hsocket.symm.trans hsocket'
  rcases hstuck with hid' | ⟨_, hclosed⟩
  · exact Bool.false_ne_true (hid'.symm.trans hid)
  · exact hclosed hopened

/-- A call for a live session sends one request. -/
theorem request_of_live {k : Nat} {v : Teardown} (hjanus : v.janus = some k)
    (hlive : v.live k = true) :
    ∃ depth t, destroySession depth v = some t ∧ t.sent k = v.sent k + 1 := by
  obtain ⟨w, hsocket, _⟩ := live_iff.mp hlive
  rcases destroySession_cases (not_stuck_of_live hjanus hlive) 0 with
    ⟨hnone, _⟩ | ⟨j, hj, _, ht⟩ | ⟨j, f, hj, hdead, _⟩
  · exact absurd (hnone.symm.trans hjanus) (by simp)
  · cases hj.symm.trans hjanus
    exact ⟨1, _, ht, by simp [sent, update, hsocket]⟩
  · cases hj.symm.trans hjanus
    exact absurd (hdead.symm.trans hlive) Bool.false_ne_true

/-- The viewer's model keeps the live session until its answer comes. -/
theorem janus_viewerDestroySession (u : ViewerState) :
    u.destroySession.janus = u.janus.filter (fun k ↦ u.phase k = some .live) := by
  unfold ViewerState.destroySession
  cases hjanus : u.janus with
  | none => rfl
  | some k =>
    rw [Option.filter_some]
    by_cases hphase : u.phase k = some .live
    · simp only [ViewerState.phase] at hphase ⊢
      simp [hphase]
    · simp only [ViewerState.phase] at hphase ⊢
      simp [hphase, ViewerState.reset]

/-- Where a call ends, it leaves in `janus` what `destroySession` of the viewer's model leaves. -/
theorem janus_destroySession {u : ViewerState} {v : Teardown} (hjanus : u.janus = v.janus)
    (hphase : ∀ k, u.phase k = some .live ↔ v.live k = true) (hresolved : v.resolved = 0)
    (h : ¬ v.Stuck) (depth : Nat) :
    ((destroySession (depth + 1) v).map microtasks).map janus = some u.destroySession.janus := by
  rw [janus_viewerDestroySession, hjanus]
  rcases destroySession_cases h depth with
    ⟨hnone, ht⟩ | ⟨k, hk, hlive, ht⟩ | ⟨k, f, hk, hdead, _, ht⟩
  · simp [ht, hnone, microtasks, hresolved]
  · rw [hk, Option.filter_some]
    simp [ht, hk, hphase, hlive, microtasks, hresolved, update]
  · rw [hk, Option.filter_some]
    simp [ht, hphase, hdead, microtasks, resolve]

/-- After the answer has closed the WebSocket the next call does not end while `janus` names the
session, and otherwise as before the answer. -/
theorem stuck_answered {k : Nat} {v : Teardown} (hlive : v.live k = true) :
    (v.unbindWebSocket k).resolve.Stuck ↔ v.janus = some k ∨ v.Stuck := by
  obtain ⟨w, hsocket, _, hconnected, _⟩ := live_iff.mp hlive
  simp only [Stuck, resolve, unbindWebSocket, update]
  constructor
  · rintro ⟨j, w', hjanus, hsocket', hstuck⟩
    by_cases hj : k = j
    · exact .inl (hj ▸ hjanus)
    · rw [List.getElem?_modify_ne _ _ hj] at hsocket'
      exact .inr ⟨j, w', hjanus, hsocket', hstuck⟩
  · rintro (hjanus | ⟨j, w', hjanus, hsocket', hstuck⟩)
    · exact ⟨k, { w with readyState := .closed, listeners := w.listeners - 1 }, hjanus,
        by simp [hsocket], .inr ⟨hconnected, ReadyState.noConfusion⟩⟩
    · by_cases hj : k = j
      · subst hj
        exact ⟨k, { w with readyState := .closed, listeners := w.listeners - 1 }, hjanus,
          by simp [hsocket], .inr ⟨hconnected, ReadyState.noConfusion⟩⟩
      · exact ⟨j, w', hjanus, by rw [List.getElem?_modify_ne _ _ hj, hsocket'], hstuck⟩

/-- A call of `destroySession` for a live session ends it once, however the answer comes, exactly
when by then `janus` names another session, which is open or was lost, or none. -/
theorem tornDownOnce_iff {k : Nat} {called answered : Teardown} (hjanus : called.janus = some k)
    (hcalled : called.live k = true) (hanswered : answered.live k = true) :
    TornDownOnce k called answered ↔ answered.janus ≠ some k ∧ ¬ answered.Stuck := by
  rw [← not_or, ← stuck_answered hanswered]
  constructor
  · rintro ⟨_, depth, t, hanswer, _⟩ hstuck
    rw [answer, onUnbind, destroySession_stuck hstuck] at hanswer
    exact absurd hanswer (by simp)
  · intro hstuck
    obtain ⟨t, ht, hsent⟩ := sent_destroySession hstuck 0
    refine ⟨request_of_live hjanus hcalled, 1, t, ht, ?_⟩
    rw [hsent k (fun hk ↦ hstuck ((stuck_answered hanswered).mpr (.inl hk)))]
    exact sent_update_same k k
      (f := fun w ↦ { w with readyState := .closed, listeners := w.listeners - 1 })
      (fun _ ↦ rfl) answered

/-- While the first of two sessions is torn down the page connects the second one. -/
theorem tornDownOnce_reconnected :
    ∃ called answered, run step initial [.connect, .created 0] = some called ∧
      run step called [.destroySession 1, .connect, .created 1] = some answered ∧
      TornDownOnce 0 called answered := by
  refine ⟨_, _, rfl, rfl, (tornDownOnce_iff rfl rfl rfl).mpr ⟨by decide, ?_⟩⟩
  exact not_stuck_of_live (k := 1) rfl rfl

/-- The page connects and ends its session: the handler of the answer does not end. -/
theorem answer_never_ends :
    ∃ called answered, run step initial [.connect, .created 0] = some called ∧
      called.janus = some 0 ∧ called.live 0 = true ∧
      run step called [.destroySession 1] = some answered ∧ answered.awaits 0 = true ∧
      (∀ depth, step answered (.answer depth 0) = none) ∧ ¬ TornDownOnce 0 called answered := by
  have hstuck : Stuck ⟨some 0, [⟨true, true, .closed, 0, 1⟩], 1⟩ :=
    ⟨0, _, rfl, rfl, .inr ⟨rfl, ReadyState.noConfusion⟩⟩
  have hanswer (depth : Nat) : answer depth 0 ⟨some 0, [⟨true, true, .opened, 1, 1⟩], 0⟩ = none :=
    destroySession_stuck hstuck depth
  refine ⟨_, _, rfl, rfl, rfl, rfl, rfl, ?_, ?_⟩
  · intro depth
    exact congrArg (Option.map microtasks) (hanswer depth)
  · rintro ⟨_, depth, t, ht, _⟩
    exact absurd ((hanswer depth).symm.trans ht) (by simp)

end Teardown

end Esp32Robot.Viewer

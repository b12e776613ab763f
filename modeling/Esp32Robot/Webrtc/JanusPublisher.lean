import Esp32Robot.Webrtc.JanusRequests

/-!
# A publisher of a video room

A publisher creates a session, attaches a handle to it, joins the room, publishes an offer until one
has an answer, sends candidates and polls, and in the end detaches the handle and destroys the
session. Its requests name the ids that the server gave. The buffers of the source hold them whole
when the URL of the server is short and a double holds them too.
-/

namespace Esp32Robot.Webrtc

open Esp32Robot.Base

/-- The URLs of a server, of its sessions and handles, and of the polls. -/
structure JanusUrls where
  server : List UInt8
  session : Nat → List UInt8
  handle : Nat → Nat → List UInt8
  poll : Nat → UInt64 → List UInt8

namespace JanusUrls

/-- As the source writes them: with the ids that it reads, as far as its buffers hold them. -/
def written (cfg : JanusCfg) : JanusUrls where
  server := cfg.signalUrl.bytes
  session sid := sessionUrl cfg (Json.idNumber sid)
  handle sid hid := handleUrl cfg (Json.idNumber sid) (Json.idNumber hid)
  poll sid now := pollUrl cfg (Json.idNumber sid) now

/-- With the whole ids. -/
def whole (cfg : JanusCfg) : JanusUrls where
  server := cfg.signalUrl.bytes
  session sid := cfg.signalUrl.bytes ++ 47 :: decimalNat sid
  handle sid hid := cfg.signalUrl.bytes ++ 47 :: decimalNat sid ++ 47 :: decimalNat hid
  poll sid now :=
    cfg.signalUrl.bytes ++ 47 :: decimalNat sid ++ ascii "?maxev=1&rid=" ++ decimal64 now

end JanusUrls

/-- An id that is read as it is. -/
def ExactId (n : Nat) : Prop := (Json.idNumber n).toNat = n

/-- Its digits are written. -/
theorem ExactId.decimal64 {n : Nat} (h : ExactId n) : decimal64 (Json.idNumber n) = decimalNat n :=
  congrArg decimalNat h

/-- It has at most twenty. -/
theorem ExactId.length_le {n : Nat} (h : ExactId n) : (decimalNat n).length ≤ 20 := by
  rw [← h.decimal64]
  exact length_decimal64_le _

namespace JanusUrls

variable {cfg : JanusCfg} {sid hid : Nat}

/-- The buffer holds a session when the URL of the server leaves room for two ids. -/
theorem session_written (h : cfg.signalUrl.bytes.length ≤ 277) (hsid : ExactId sid) :
    (written cfg).session sid = (whole cfg).session sid := by
  have hlength := hsid.length_le
  simp only [written, whole, sessionUrl, hsid.decimal64]
  rw [snprintf_of_lt]
  simp only [List.length_append, List.length_cons]
  omega

/-- A handle. -/
theorem handle_written (h : cfg.signalUrl.bytes.length ≤ 277) (hsid : ExactId sid)
    (hhid : ExactId hid) : (written cfg).handle sid hid = (whole cfg).handle sid hid := by
  have hlength := hsid.length_le
  have hlength' := hhid.length_le
  simp only [written, whole, handleUrl, hsid.decimal64, hhid.decimal64]
  rw [snprintf_of_lt]
  simp only [List.length_append, List.length_cons]
  omega

/-- And a poll. -/
theorem poll_written (h : cfg.signalUrl.bytes.length ≤ 277) (hsid : ExactId sid) (now : UInt64) :
    (written cfg).poll sid now = (whole cfg).poll sid now := by
  have hlength := hsid.length_le
  have hnow := length_decimal64_le now
  have hquery : (ascii "?maxev=1&rid=").length = 13 := by decide
  simp only [written, whole, pollUrl, hsid.decimal64]
  rw [snprintf_of_lt]
  simp only [List.length_append, List.length_cons, hquery]
  omega

end JanusUrls

/-- A publisher by its requests and their answers: the ids that it was given, whether it has joined,
whether an offer had an answer, and whether the detach and the destroy were sent. -/
structure Publisher where
  session : Option Nat
  handle : Option Nat
  joined : Bool
  offered : Bool
  detachSent : Bool
  destroySent : Bool
  deriving DecidableEq, Repr

namespace JanusAnswer

/-- The answer to a `create`, an `attach` or a `join` that is no error. -/
def good (a : JanusAnswer) : Option Json :=
  if a.ret = 0 then a.data.join.filter (fun json ↦ (json.getObjectItem "error").isNone) else none

/-- The id that an answer gives in its data, as its text has it; an id is not zero. -/
def id (a : JanusAnswer) : Option Nat :=
  match (a.good.bind (·.getObjectItem "data")).bind (·.getObjectItem "id") with
  | some (.number n) => if n = 0 then none else some n
  | _ => none

end JanusAnswer

namespace Publisher

/-- Before the first request. -/
def empty : Publisher := ⟨none, none, false, false, false, false⟩

/-- From the join to the end. -/
def inRoom (p : Publisher) : Bool := p.joined && !p.detachSent && !p.destroySent

/-- A request in its place: with the ids of the answers so far, and what the answer adds. -/
def step (urls : JanusUrls) (p : Publisher) : JanusRequest × JanusAnswer → Option Publisher
  | (r, a) =>
    match r.verb, p.session, p.handle with
    | .create, none, none =>
      if r.url = urls.server then some { p with session := a.id } else none
    | .attach, some sid, none =>
      if r.url = urls.session sid then some { p with handle := a.id } else none
    | .join, some sid, some hid =>
      if r.url = urls.handle sid hid ∧ p.joined = false then
        some { p with joined := a.good.isSome }
      else none
    | .publish _, some sid, some hid =>
      if r.url = urls.handle sid hid ∧ p.inRoom = true ∧ p.offered = false then
        some { p with offered := a.ret = 0 }
      else none
    | .trickle _, some sid, some hid | .unpublish, some sid, some hid =>
      if r.url = urls.handle sid hid ∧ p.inRoom = true then some p else none
    | .poll now, some sid, some _ =>
      if r.url = urls.poll sid now ∧ p.joined = true ∧ p.destroySent = false then some p
      else none
    | .detach, some sid, some hid =>
      if r.url = urls.handle sid hid ∧ p.inRoom = true then some { p with detachSent := true }
      else none
    | .destroy, some sid, some _ =>
      if r.url = urls.session sid ∧ p.joined = true ∧ p.destroySent = false then
        some { p with destroySent := true }
      else none
    | _, _, _ => none

/-- The ids of a publisher, as the signaling reads them. -/
def Has (p : Publisher) (session handle : UInt64) : Prop :=
  p.session.map Json.idNumber = some session ∧ p.handle.map Json.idNumber = some handle

/-- It has both. -/
theorem Has.given {p : Publisher} {session handle : UInt64} (h : p.Has session handle) :
    ∃ sid hid, p.session = some sid ∧ p.handle = some hid ∧
      Json.idNumber sid = session ∧ Json.idNumber hid = handle := by
  obtain ⟨sid, hsession, hsid⟩ := Option.map_eq_some_iff.mp h.1
  obtain ⟨hid, hhandle, hhid⟩ := Option.map_eq_some_iff.mp h.2
  exact ⟨sid, hid, hsession, hhandle, hsid, hhid⟩

variable {urls urls' : JanusUrls} {cfg : JanusCfg} {p q : Publisher} {session handle : UInt64}
  {e : JanusRequest × JanusAnswer} {log : List (JanusRequest × JanusAnswer)}

/-- In the room an offer has its place until one had an answer. -/
theorem step_publish (h : p.Has session handle) (hroom : p.inRoom = true)
    (hoffered : p.offered = false) (sdp txn : CString) (a : JanusAnswer) :
    step (.written cfg) p (⟨.publish sdp, handleUrl cfg session handle, txn⟩, a) =
      some { p with offered := a.ret = 0 } := by
  obtain ⟨sid, hid, hsession, hhandle, rfl, rfl⟩ := h.given
  simp [step, JanusUrls.written, hsession, hhandle, hroom, hoffered]

/-- So has a candidate. -/
theorem step_trickle (h : p.Has session handle) (hroom : p.inRoom = true) (candidate : Json)
    (txn : CString) (a : JanusAnswer) :
    step (.written cfg) p (⟨.trickle candidate, handleUrl cfg session handle, txn⟩, a) =
      some p := by
  obtain ⟨sid, hid, hsession, hhandle, rfl, rfl⟩ := h.given
  simp [step, JanusUrls.written, hsession, hhandle, hroom]

/-- An unpublish request. -/
theorem step_unpublish (h : p.Has session handle) (hroom : p.inRoom = true) (txn : CString)
    (a : JanusAnswer) :
    step (.written cfg) p (⟨.unpublish, handleUrl cfg session handle, txn⟩, a) = some p := by
  obtain ⟨sid, hid, hsession, hhandle, rfl, rfl⟩ := h.given
  simp [step, JanusUrls.written, hsession, hhandle, hroom]

/-- And a detach. -/
theorem step_detach (h : p.Has session handle) (hroom : p.inRoom = true) (txn : CString)
    (a : JanusAnswer) :
    step (.written cfg) p (⟨.detach, handleUrl cfg session handle, txn⟩, a) =
      some { p with detachSent := true } := by
  obtain ⟨sid, hid, hsession, hhandle, rfl, rfl⟩ := h.given
  simp [step, JanusUrls.written, hsession, hhandle, hroom]

/-- A poll has its place from the join to the destroy. -/
theorem step_poll (h : p.Has session handle) (hjoined : p.joined = true)
    (hkept : p.destroySent = false) (now : UInt64) (txn : CString) (a : JanusAnswer) :
    step (.written cfg) p (⟨.poll now, pollUrl cfg session now, txn⟩, a) = some p := by
  obtain ⟨sid, hid, hsession, hhandle, rfl, rfl⟩ := h.given
  simp [step, JanusUrls.written, hsession, hhandle, hjoined, hkept]

/-- The destroy too. -/
theorem step_destroy (h : p.Has session handle) (hjoined : p.joined = true)
    (hkept : p.destroySent = false) (txn : CString) (a : JanusAnswer) :
    step (.written cfg) p (⟨.destroy, sessionUrl cfg session, txn⟩, a) =
      some { p with destroySent := true } := by
  obtain ⟨sid, hid, hsession, hhandle, rfl, rfl⟩ := h.given
  simp [step, JanusUrls.written, hsession, hhandle, hjoined, hkept]

/-- A request sends a destroy, or leaves whether one was sent. -/
theorem destroySent_step (h : step urls p e = some q) :
    q.destroySent = true ↔ p.destroySent = true ∨ e.1.verb = .destroy := by
  obtain ⟨⟨verb, url, txn⟩, a⟩ := e
  unfold step at h
  grind

/-- A destroy was sent when the requests have one. -/
theorem destroySent_iff (h : run (step urls) empty log = some p) :
    p.destroySent = true ↔ ∃ e ∈ log, e.1.verb = .destroy := by
  refine run_history (I := fun log p ↦ p.destroySent = true ↔ ∃ e ∈ log, e.1.verb = .destroy)
    (by simp [empty]) ?_ h
  intro log p e q _ hp hstep
  rw [destroySent_step hstep, hp]
  simp [or_and_right, exists_or]

/-- URLs that agree on the ids of a publisher have the same place for a request. -/
theorem step_congr (hserver : urls.server = urls'.server)
    (hsession : ∀ sid, p.session = some sid → urls.session sid = urls'.session sid)
    (hhandle : ∀ sid hid, p.session = some sid → p.handle = some hid →
      urls.handle sid hid = urls'.handle sid hid)
    (hpoll : ∀ sid now, p.session = some sid → urls.poll sid now = urls'.poll sid now) :
    step urls p e = step urls' p e := by
  obtain ⟨⟨verb, url, txn⟩, a⟩ := e
  cases hsid : p.session with
  | none => cases hhid : p.handle <;> cases verb <;> simp [step, hsid, hhid, hserver]
  | some sid =>
    cases hhid : p.handle with
    | none => cases verb <;> simp [step, hsid, hhid, hsession sid hsid]
    | some hid =>
      cases verb <;>
        simp [step, hsid, hhid, hsession sid hsid, hhandle sid hid hsid hhid, hpoll sid _ hsid]

/-- A publisher's ids are those of the answers to its `create` and its `attach`. -/
theorem ids_step (h : step urls p e = some q) :
    (q.session = p.session ∨ e.1.verb = .create ∧ q.session = e.2.id) ∧
      (q.handle = p.handle ∨ e.1.verb = .attach ∧ q.handle = e.2.id) := by
  obtain ⟨⟨verb, url, txn⟩, a⟩ := e
  unfold step at h
  grind

end Publisher

/-- The ids that the answers give are read as they are. -/
def ExactIds (log : List (JanusRequest × JanusAnswer)) : Prop :=
  ∀ e ∈ log, e.1.verb = .create ∨ e.1.verb = .attach → ∀ n, e.2.id = some n → ExactId n

namespace Publisher

variable {urls : JanusUrls} {cfg : JanusCfg} {p : Publisher}
  {log : List (JanusRequest × JanusAnswer)}

/-- Then so are the publisher's. -/
theorem exactIds_run (hexact : ExactIds log) (h : run (step urls) empty log = some p) :
    (∀ n, p.session = some n → ExactId n) ∧ ∀ n, p.handle = some n → ExactId n := by
  induction log using concat_induction generalizing p with
  | nil =>
    cases h
    exact ⟨nofun, nofun⟩
  | concat log e ih =>
    obtain ⟨q, hrun, hstep⟩ := run_concat_some.mp h
    obtain ⟨hsession, hhandle⟩ := ih (fun e he ↦ hexact e (by simp [he])) hrun
    have hlast := hexact e (by simp)
    obtain ⟨hsessions, hhandles⟩ := ids_step hstep
    constructor
    · intro n hn
      rcases hsessions with heq | ⟨hverb, heq⟩
      · exact hsession n (heq.symm.trans hn)
      · exact hlast (.inl hverb) n (heq.symm.trans hn)
    · intro n hn
      rcases hhandles with heq | ⟨hverb, heq⟩
      · exact hhandle n (heq.symm.trans hn)
      · exact hlast (.inr hverb) n (heq.symm.trans hn)

/-- With room for two ids, requests as the source writes them name such ids whole. -/
theorem run_whole (hlength : cfg.signalUrl.bytes.length ≤ 277) (hexact : ExactIds log)
    (h : run (step (.written cfg)) empty log = some p) :
    run (step (.whole cfg)) empty log = some p := by
  induction log using concat_induction generalizing p with
  | nil => exact h
  | concat log e ih =>
    obtain ⟨q, hrun, hstep⟩ := run_concat_some.mp h
    have hbefore : ExactIds log := fun e he ↦ hexact e (by simp [he])
    obtain ⟨hsession, hhandle⟩ := exactIds_run hbefore hrun
    refine run_concat_some.mpr ⟨q, ih hbefore hrun, ?_⟩
    have hsame : step (.written cfg) q e = step (.whole cfg) q e := step_congr rfl
      (fun sid hsid ↦ JanusUrls.session_written hlength (hsession sid hsid))
      (fun sid hid hsid hhid ↦
        JanusUrls.handle_written hlength (hsession sid hsid) (hhandle hid hhid))
      (fun sid now hsid ↦ JanusUrls.poll_written hlength (hsession sid hsid) now)
    rw [← hsame, hstep]

end Publisher

end Esp32Robot.Webrtc

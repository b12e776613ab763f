import Esp32Robot.Webrtc.JanusRequests

/-!
# What a Janus session tells the peer

The poll thread gives the peer every answer and every candidate that the server sends, in the order
in which it sends them. A candidate is lost when there is no memory for its text, and nothing else
is.
-/

namespace Esp32Robot.Webrtc

open Esp32Robot.Base

/-! ### What an event says -/

namespace Json

/-- Whether a member is this text. -/
def hasText (j : Json) (name value : String) : Bool :=
  toString? (j.getObjectItem name) == some (.lit value)

/-- The answer of the server to the offer. -/
def sdpAnswer (event : Json) : Option CString :=
  match event.getObjectItem "jsep" with
  | none => none
  | some jsep =>
    if (event.hasText "janus" "event" || event.hasText "janus" "success") &&
        jsep.hasText "type" "answer" then
      toString? (jsep.getObjectItem "sdp")
    else none

/-- A candidate of the server. -/
def remoteCandidate (event : Json) : Option Json :=
  if event.hasText "janus" "trickle" then event.getObjectItem "candidate" else none

/-- What an event tells the peer. -/
def tells (event : Json) : List PeerMessage :=
  (event.sdpAnswer.map .sdp).toList ++ (event.remoteCandidate.map (.candidate ∘ some)).toList

end Json

/-- The events that an answer to a poll brings: none when it failed or is no text of JSON. -/
def JanusAnswer.brings (a : JanusAnswer) : List Json :=
  match a.data with
  | some (some (.array items)) => if a.ret = 0 then items else []
  | some (some event) => if a.ret = 0 then [event] else []
  | _ => []

namespace JanusSignaling

variable {s t u : JanusSignaling} {cfg : JanusCfg} {calls : List JanusCall}

/-- What the answer to a poll tells the peer; other requests tell it nothing. -/
def polled (e : JanusRequest × JanusAnswer) : List PeerMessage :=
  match e.1.verb with
  | .poll _ => e.2.brings.flatMap Json.tells
  | _ => []

/-- The events of an answer are those that it brings. -/
theorem events_eq_brings (a : JanusAnswer) : events a = a.brings := by
  obtain ⟨ret, data⟩ := a
  unfold events JanusAnswer.brings
  rcases data with _ | _ | json
  · simp
  · simp
  · cases json <;> rfl

/-- A text that the source compares. -/
theorem strcmp_lit {text : CString} {value : String} :
    strcmp text.bytes (CString.lit value).bytes = 0 ↔ text = .lit value := by
  rw [strcmp_eq_zero text.noNul (CString.lit value).noNul]
  exact ⟨CString.ext, fun h ↦ congrArg CString.bytes h⟩

/-- With memory an event gives the peer what it tells. -/
theorem handleEvent_true (event : Json) : handleEvent true event = event.tells := by
  unfold handleEvent Json.tells Json.sdpAnswer Json.remoteCandidate Json.hasText
  cases Json.toString? (event.getObjectItem "janus") with
  | none => cases event.getObjectItem "jsep" <;> rfl
  | some janus =>
    simp only [strcmp_lit, Option.some_beq_some, beq_iff_eq, Bool.or_eq_true, Bool.and_eq_true]
    by_cases hevent : janus = .lit "event" ∨ janus = .lit "success"
    · have hother : janus ≠ .lit "trickle" := by
        rcases hevent with rfl | rfl <;> decide
      simp only [hevent, hother, if_true, if_false, true_and, Option.map_none, Option.toList_none,
        List.append_nil]
      cases event.getObjectItem "jsep" with
      | none => rfl
      | some jsep =>
        dsimp only
        generalize Json.toString? (jsep.getObjectItem "type") = type
        generalize Json.toString? (jsep.getObjectItem "sdp") = sdp
        cases type with
        | none => rfl
        | some type =>
          cases sdp with
          | none => simp only [ite_self, Option.map_none, Option.toList_none]
          | some sdp =>
            simp only [Option.some.injEq]
            split <;> rfl
    · simp only [hevent, if_false, false_and]
      split
      · cases event.getObjectItem "jsep" <;> cases event.getObjectItem "candidate" <;> rfl
      · cases event.getObjectItem "jsep" <;> rfl

/-- What a poll tells the peer, as the source reads it. -/
theorem polled_poll (now : UInt64) (url : List UInt8) (txn : CString) (answer : JanusAnswer) :
    polled (⟨.poll now, url, txn⟩, answer) = (events answer).flatMap (handleEvent true) := by
  rw [events_eq_brings, funext handleEvent_true]
  rfl

/-- An answer, and no candidate. -/
def isSdp : PeerMessage → Bool
  | .sdp _ => true
  | _ => false

/-- Without memory an event loses a candidate, and nothing else. -/
theorem handleEvent_false (event : Json) :
    handleEvent false event = (handleEvent true event).filter isSdp := by
  unfold handleEvent
  simp only [Bool.false_eq_true, if_false, if_true]
  split
  · rfl
  · split
    · split
      · rfl
      · split
        · split <;> rfl
        · rfl
    · split
      · split <;> rfl
      · rfl

/-- Some of the messages of an event, and every answer. -/
theorem handleEvent_sublist (printed : Bool) (event : Json) :
    (handleEvent printed event).Sublist (handleEvent true event) ∧
      (handleEvent printed event).filter isSdp = (handleEvent true event).filter isSdp := by
  cases printed with
  | true => exact ⟨List.Sublist.refl _, rfl⟩
  | false =>
    rw [handleEvent_false]
    exact ⟨List.filter_sublist, by simp only [List.filter_filter, Bool.and_self]⟩

/-- Some of the messages of a poll, and every answer. -/
theorem handleEvents_sublist (printed : Nat → Bool) (es : List Json) :
    (handleEvents printed es).Sublist (es.flatMap (handleEvent true)) ∧
      (handleEvents printed es).filter isSdp =
        (es.flatMap (handleEvent true)).filter isSdp := by
  unfold handleEvents
  generalize 0 = i
  induction es generalizing i with
  | nil => exact ⟨List.Sublist.refl _, rfl⟩
  | cons event es ih =>
    obtain ⟨hsublist, hanswers⟩ := handleEvent_sublist (printed i) event
    simp only [List.zipIdx_cons, List.flatMap_cons, List.filter_append]
    exact ⟨hsublist.append (ih (i + 1)).1, by rw [hanswers, (ih (i + 1)).2]⟩

/-- All the messages of a poll with memory. -/
theorem handleEvents_true {printed : Nat → Bool} (h : ∀ i, printed i = true) (es : List Json) :
    handleEvents printed es = es.flatMap (handleEvent true) := by
  unfold handleEvents
  generalize 0 = i
  induction es generalizing i with
  | nil => rfl
  | cons event es ih => rw [List.zipIdx_cons, List.flatMap_cons, List.flatMap_cons, h, ih]

/-! ### Calls -/

/-- Nothing is polled, and nothing is told to the peer. -/
structure Silent (s t : JanusSignaling) : Prop where
  log : Extends (fun e ↦ polled e = []) s.log t.log
  messages : t.messages = s.messages

/-- What does nothing is silent. -/
theorem Silent.refl (s : JanusSignaling) : Silent s s := ⟨Extends.refl s.log, rfl⟩

/-- A request that is no poll. -/
theorem Silent.sendApi (h : Silent s t) {r : JanusRequest} {c : ApiChoice}
    (hr : ∀ a, polled (r, a) = []) : Silent s (t.sendApi r c) := by
  unfold JanusSignaling.sendApi
  split
  · exact ⟨h.log.trans (extends_concat t.log (hr c.answer)), h.messages⟩
  · exact h

/-- The requests of the start. -/
theorem silent_getIds (txn : CString) (create attach join : ApiChoice) :
    Silent s (s.getIds txn create attach join).1 := by
  have hcreate := (Silent.refl s).sendApi (r := ⟨.create, s.cfg.signalUrl.bytes, txn⟩) (c := create)
    (fun _ ↦ rfl)
  unfold getIds
  generalize s.sendApi ⟨.create, s.cfg.signalUrl.bytes, txn⟩ create = t at hcreate ⊢
  cases accepted create with
  | none => exact hcreate
  | some json =>
    by_cases hsid : idOf json = 0
    · simp only [hsid, if_true]
      exact ⟨hcreate.log, hcreate.messages⟩
    · simp only [hsid, if_false]
      have hattach := Silent.sendApi (t := { t with sessionId := idOf json })
        ⟨hcreate.log, hcreate.messages⟩ (r := ⟨.attach, sessionUrl t.cfg (idOf json), txn⟩)
        (c := attach) (fun _ ↦ rfl)
      generalize JanusSignaling.sendApi { t with sessionId := idOf json }
        ⟨.attach, sessionUrl t.cfg (idOf json), txn⟩ attach = u at hattach ⊢
      cases accepted attach with
      | none => exact hattach
      | some json =>
        by_cases hhid : idOf json = 0
        · simp only [hhid, if_true]
          exact ⟨hattach.log, hattach.messages⟩
        · simp only [hhid, if_false]
          exact Silent.sendApi (t := { u with handleId := idOf json })
            ⟨hattach.log, hattach.messages⟩ (fun _ ↦ rfl)

/-- A start. -/
theorem silent_start (txn : Option CString) (create attach join : ApiChoice)
    (sema thread : Bool) : Silent s (s.start txn create attach join sema thread) := by
  unfold start
  split
  · exact ⟨Extends.refl s.log, rfl⟩
  · cases txn with
    | none => exact ⟨Extends.refl s.log, rfl⟩
    | some txn =>
      obtain ⟨hlog, hmessages⟩ := silent_getIds (s := s) txn create attach join
      simp only
      split <;> exact ⟨hlog, hmessages⟩

/-- A message of the peer. -/
theorem silent_sendMsg (m : PeerMessage) (txn : Option CString) (c : ApiChoice) :
    Silent s (s.sendMsg m txn c).1 := by
  unfold sendMsg
  cases txn with
  | none => exact Silent.refl s
  | some txn =>
    cases c.object with
    | false => exact Silent.refl s
    | true =>
      simp only [if_true]
      cases m with
      | sdp data =>
        have hsent := (Silent.refl s).sendApi
          (r := ⟨.publish data, handleUrl s.cfg s.sessionId s.handleId, txn⟩) (c := c)
          (fun _ ↦ rfl)
        dsimp only
        split
        · exact Silent.refl s
        · split
          · exact ⟨hsent.log, hsent.messages⟩
          · exact hsent
      | candidate json =>
        cases json with
        | none => exact Silent.refl s
        | some json => exact (Silent.refl s).sendApi (fun _ ↦ rfl)
      | bye => exact (Silent.refl s).sendApi (fun _ ↦ rfl)
      | customized => exact Silent.refl s

/-- The first part of the stop. -/
theorem silent_stop (txn : Option CString) (c : ApiChoice) : Silent s (s.stop txn c) := by
  have hstopping : Silent s { s with phase := .stopping txn } := ⟨Extends.refl s.log, rfl⟩
  unfold stop
  cases txn with
  | none => exact hstopping
  | some txn =>
    dsimp only
    split
    · exact hstopping
    · exact hstopping.sendApi (fun _ ↦ rfl)

/-- The second part of the stop. -/
theorem silent_afterWait (txn : Option CString) (c : ApiChoice) :
    Silent s (s.afterWait txn c) := by
  have hstopped : Silent s { s with phase := .stopped } := ⟨Extends.refl s.log, rfl⟩
  unfold afterWait
  cases txn with
  | none => exact hstopped
  | some txn =>
    dsimp only
    split
    · exact hstopped
    · exact hstopped.sendApi (fun _ ↦ rfl)

/-! ### Runs -/

/-- The peer has the messages of the polls, but for candidates without memory. -/
structure Told (calls : List JanusCall) (s : JanusSignaling) : Prop where
  sublist : s.messages.Sublist (s.log.flatMap polled)
  answers : s.messages.filter isSdp = (s.log.flatMap polled).filter isSdp
  all : (∀ now answer printed, .poll now answer printed ∈ calls → ∀ i, printed i = true) →
    s.messages = s.log.flatMap polled

/-- A silent call. -/
theorem Told.silent {call : JanusCall} (h : Told calls s) (hst : Silent s t) :
    Told (calls ++ [call]) t := by
  obtain ⟨⟨ext, hlog, hext⟩, hmessages⟩ := hst
  have hpolled : t.log.flatMap polled = s.log.flatMap polled := by
    rw [hlog, List.flatMap_append, List.flatMap_eq_nil_iff.mpr hext, List.append_nil]
  refine ⟨?_, ?_, fun hmemory ↦ ?_⟩
  · rw [hmessages, hpolled]
    exact h.sublist
  · rw [hmessages, hpolled]
    exact h.answers
  · rw [hmessages, hpolled]
    exact h.all fun now answer printed hcall ↦
      hmemory now answer printed (List.mem_append_left _ hcall)

/-- A poll. -/
theorem Told.poll {now : UInt64} {answer : JanusAnswer} {printed : Nat → Bool}
    (h : Told calls s) :
    Told (calls ++ [.poll now answer printed]) (s.pollRound now answer printed) := by
  have hpolled : (s.pollRound now answer printed).log.flatMap polled =
      s.log.flatMap polled ++ (events answer).flatMap (handleEvent true) := by
    rw [pollRound, List.flatMap_append, List.flatMap_singleton, polled_poll]
  obtain ⟨hsublist, hanswers⟩ := handleEvents_sublist printed (events answer)
  refine ⟨?_, ?_, fun hmemory ↦ ?_⟩
  · rw [hpolled]
    exact h.sublist.append hsublist
  · rw [hpolled, List.filter_append, pollRound, List.filter_append, h.answers, hanswers]
  · have hprinted := hmemory now answer printed (by simp)
    rw [hpolled, ← handleEvents_true hprinted, ← h.all fun now answer printed hcall ↦
      hmemory now answer printed (List.mem_append_left _ hcall)]
    rfl

/-- The peer is told what the polls say, in order: every answer, and every candidate too when there
is memory for them. -/
theorem told_in_order (h : run step (initial cfg) calls = some s) :
    s.messages.Sublist (s.log.flatMap polled) ∧
      s.messages.filter isSdp = (s.log.flatMap polled).filter isSdp ∧
      ((∀ now answer printed, .poll now answer printed ∈ calls → ∀ i, printed i = true) →
        s.messages = s.log.flatMap polled) := by
  have htold : Told calls s := by
    refine run_history (I := Told) ⟨List.Sublist.refl _, rfl, fun _ ↦ rfl⟩ ?_ h
    intro calls s call t _ hs hstep
    rcases step_cases hstep with ⟨txn, create, attach, join, sema, thread, rfl, _, rfl⟩ |
      ⟨m, txn, c, rfl, _, rfl⟩ | ⟨rfl, _, rfl⟩ | ⟨now, answer, printed, rfl, _, rfl⟩ |
      ⟨txn, c, rfl, _, rfl⟩ | ⟨txn, c, rfl, _, _, rfl⟩
    · exact hs.silent (silent_start txn create attach join sema thread)
    · exact hs.silent (silent_sendMsg m txn c)
    · exact hs.silent ⟨Extends.refl s.log, rfl⟩
    · exact hs.poll
    · exact hs.silent (silent_stop txn c)
    · exact hs.silent (silent_afterWait txn c)
  exact ⟨htold.sublist, htold.answers, htold.all⟩

/-- A start, and a poll with an answer and a candidate. -/
private def answerCalls : List JanusCall :=
  let id (n : Nat) : ApiChoice :=
    ⟨true, true, ⟨0, some (some (.object [(ascii "data", .object [(ascii "id", .number n)])]))⟩⟩
  let answer : Json := .object [text "janus" "event",
    (ascii "jsep", .object [text "type" "answer", text "sdp" "v=0"])]
  let candidate : Json := .object [text "janus" "trickle", (ascii "candidate", .object [])]
  [.start (some (.lit "1")) (id 7) (id 9) (id 0) true true, .test,
    .poll 5 ⟨0, some (some (.array [answer, candidate]))⟩ (fun _ ↦ true)]

/-- The peer has both. -/
theorem told_in_order_answer : ∃ s cfg, run step (initial cfg) answerCalls = some s ∧
    s.messages = [.sdp (.lit "v=0"), .candidate (some (.object []))] := by
  have h : run step (initial ⟨.lit "http://10.0.0.2:8088/janus", 1234, none, none, none, none⟩)
    answerCalls = some _ := rfl
  have hmemory : ∀ now answer printed, .poll now answer printed ∈ answerCalls →
      ∀ i, printed i = true := by
    intro now answer printed hcall i
    simp only [answerCalls, List.mem_cons, reduceCtorEq, false_or, List.not_mem_nil, or_false,
      JanusCall.poll.injEq] at hcall
    rw [hcall.2.2]
  refine ⟨_, _, h, ?_⟩
  rw [(told_in_order h).2.2 hmemory]
  rfl

end JanusSignaling

end Esp32Robot.Webrtc

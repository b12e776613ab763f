import Esp32Robot.Base.CString
import Esp32Robot.Base.Queue

/-!
# Sending over the signaling queue

`webrtc_http_server_send_msg` and `resend_all_candidate` of
`IDF_esp32p4_webrtc/main/webrtc_http_server.c`, which call each other. A JSON string
stands for the fields that it was printed from. What the C library and the listener do is
given for each message. A function takes the depth of the call stack that is left, and has no
result when that is too small.
-/

namespace Esp32Robot.Http

open Esp32Robot.Base

/-- `MAX_SIGNALING_QUEUE_SIZE`, `webrtc_http_server.c:23`. -/
def maxSignalingQueueSize : Nat := 10

/-- `esp_peer_signaling_msg_type_t`. -/
inductive SignalingMsgType where
  | none
  | sdp
  | candidate
  | bye
  | customized
  deriving DecidableEq, Repr

/-- The fields of `esp_peer_signaling_msg_t` that are sent, with the bytes before the terminator of
`data`. -/
structure SignalingMsg where
  type : SignalingMsgType
  data : List UInt8
  deriving DecidableEq, Repr

/-- The string fields of a JSON object, in order. -/
abbrev JsonObject := List (List UInt8 × List UInt8)

/-- What happens to one message: whether cJSON creates its object, adds the type and the data, and
prints it, and what the listener does until the queue takes it or 100 ms are over. -/
structure SendOutcome where
  created : Bool
  typeAdded : Bool
  dataAdded : Bool
  printed : Bool
  turns : List ConsumerTurn
  deriving DecidableEq, Repr

/-- What happens to the messages by their numbers, and whether `strdup` copies the text. -/
structure SignalingEnv where
  sends : Nat → SendOutcome
  copied : Bool

/-- `signaling_queue` by its number, the queue, and how many messages there were. -/
structure Signaling where
  signalingQueue : Option Nat
  queue : Fifo JsonObject
  sends : Nat
  deriving DecidableEq

/-- `cJSON_AddStringToObject`. -/
def cJSONAddStringToObject (ok : Bool) (name value : List UInt8) (object : JsonObject) :
    JsonObject :=
  if ok then object ++ [(name, value)] else object

/-- The switch of `webrtc_http_server_send_msg`, `webrtc_http_server.c:351–372`. -/
def msgRoot (o : SendOutcome) (msg : SignalingMsg) : Option JsonObject :=
  match msg.type with
  | .sdp => some (cJSONAddStringToObject o.dataAdded (ascii "sdp") msg.data
      (cJSONAddStringToObject o.typeAdded (ascii "type") (ascii "offer") []))
  | .candidate => some (cJSONAddStringToObject o.dataAdded (ascii "candidate") msg.data
      (cJSONAddStringToObject o.typeAdded (ascii "type") (ascii "candidate") []))
  | .bye => some (cJSONAddStringToObject o.typeAdded (ascii "type") (ascii "bye") [])
  | .customized => some (cJSONAddStringToObject o.dataAdded (ascii "data") msg.data
      (cJSONAddStringToObject o.typeAdded (ascii "type") (ascii "customized") []))
  | .none => none

/-- Print and queue the object, `webrtc_http_server.c:374–382`; a queue that stays full is only
logged. -/
def queueRoot (o : SendOutcome) (root : JsonObject) (q : Fifo JsonObject) : Fifo JsonObject :=
  if o.printed then (q.turns o.turns).send maxSignalingQueueSize root else q

/-- `\r` and `\n`. -/
def isLineEnd (c : UInt8) : Bool := c = 13 || c = 10

/-- `resend_all_candidate`, `webrtc_http_server.c:321–341`, calling `send` for each candidate; what
that returns is not looked at. -/
def resendAllCandidate (env : SignalingEnv)
    (send : SignalingMsg → Signaling → Option (Int × Signaling)) (str : List UInt8)
    (s : Signaling) : Option (Int × Signaling) :=
  if env.copied then
    ((strtokAll isLineEnd str).foldlM (fun s line ↦
      -- The comparison leaves out the colon, the last one of the twelve characters.
      if strncmp line (ascii "a=candidate:") 11 = 0 then
        (send ⟨.candidate, line.drop 2⟩ s).map Prod.snd
      else some s) s).map (fun s ↦ (0, s))
  else some (0, s)

/-- `webrtc_http_server_send_msg`, `webrtc_http_server.c:343–386`. -/
def webrtcHttpServerSendMsg (env : SignalingEnv) (sig : Nat) :
    Nat → Option SignalingMsg → Signaling → Option (Int × Signaling)
  | 0, _, _ => none
  | _ + 1, none, s => some (-1, s)
  | depth + 1, some msg, s =>
    if s.signalingQueue ≠ some sig then some (-1, s)
    else
      let o := env.sends s.sends
      let s := { s with sends := s.sends + 1 }
      if !o.created then some (-1, s)
      else
        match msgRoot o msg with
        | none => some (0, s)
        | some root =>
          let s := { s with queue := queueRoot o root s.queue }
          if msg.type = .sdp then
            (resendAllCandidate env
              (fun msg s ↦ webrtcHttpServerSendMsg env sig depth (some msg) s) msg.data s).map
              (fun r ↦ (0, r.2))
          else some (0, s)

/-! ### What is to be queued -/

/-- The message for an offer. -/
def offerMsg (sdp : List UInt8) : JsonObject :=
  [(ascii "type", ascii "offer"), (ascii "sdp", sdp)]

/-- The message for a candidate. -/
def candidateMsg (candidate : List UInt8) : JsonObject :=
  [(ascii "type", ascii "candidate"), (ascii "candidate", candidate)]

/-- The lines of a text, separated by runs of `\r` and `\n`. -/
def linesOf (text : List UInt8) : List (List UInt8) :=
  (text.splitOnP isLineEnd).filter (· ≠ [])

/-- The line begins with `a=candidate:`. -/
def isCandidateLine (line : List UInt8) : Bool := (ascii "a=candidate:").isPrefixOf line

/-- The candidate messages for some lines. -/
def candidateMsgs (lines : List (List UInt8)) : List JsonObject :=
  (lines.filter isCandidateLine).map (fun line ↦ candidateMsg (line.drop 2))

/-- Sending an SDP message ends on a call stack of depth two, and where it returns 0 the queue has
accepted the offer and one message for each candidate line, and nothing else. -/
def QueuedOrReported (env : SignalingEnv) (sig : Nat) (sdp : CString) (s : Signaling) : Prop :=
  ∃ ret t, (∀ depth, webrtcHttpServerSendMsg env sig (depth + 2) (some ⟨.sdp, sdp.bytes⟩) s =
      some (ret, t)) ∧
    (ret = 0 → t.queue.accepted =
      s.queue.accepted ++ offerMsg sdp.bytes :: candidateMsgs (linesOf sdp.bytes))

/-! ### When it is queued -/

/-- The object of the message reaches the queue within 100 ms. -/
def SendOutcome.Queues (o : SendOutcome) (q : Fifo JsonObject) : Prop :=
  o.created = true ∧ o.printed = true ∧ (q.turns o.turns).waiting.length < maxSignalingQueueSize

/-- It does so with both of its fields. -/
def SendOutcome.Whole (o : SendOutcome) (q : Fifo JsonObject) : Prop :=
  o.Queues q ∧ o.typeAdded = true ∧ o.dataAdded = true

/-- The line begins with the eleven bytes that `resend_all_candidate` compares. -/
def isResentLine (line : List UInt8) : Bool := (ascii "a=candidate").isPrefixOf line

/-- The object of a candidate. -/
def candidateRoot (o : SendOutcome) (candidate : List UInt8) : JsonObject :=
  cJSONAddStringToObject o.dataAdded (ascii "candidate") candidate
    (cJSONAddStringToObject o.typeAdded (ascii "type") (ascii "candidate") [])

/-- The object of an offer. -/
def offerRoot (o : SendOutcome) (sdp : List UInt8) : JsonObject :=
  cJSONAddStringToObject o.dataAdded (ascii "sdp") sdp
    (cJSONAddStringToObject o.typeAdded (ascii "type") (ascii "offer") [])

/-- After the message with that object was sent. -/
def afterSend (env : SignalingEnv) (root : SendOutcome → JsonObject) (s : Signaling) : Signaling :=
  let o := env.sends s.sends
  { s with
    sends := s.sends + 1
    queue := if o.created then queueRoot o (root o) s.queue else s.queue }

/-- Of the resent lines every candidate line is queued whole, and no other line is queued. -/
def LinesQueued (env : SignalingEnv) : List (List UInt8) → Signaling → Prop
  | [], _ => True
  | line :: lines, s =>
    (if isCandidateLine line then (env.sends s.sends).Whole s.queue
      else ¬ (env.sends s.sends).Queues s.queue) ∧
    LinesQueued env lines (afterSend env (fun o ↦ candidateRoot o (line.drop 2)) s)

/-- If the caller has the server's queue, and the object of the offer can be created, the offer is
queued whole, and so are the candidate lines, which takes a copy of the text. -/
def AllQueued (env : SignalingEnv) (sig : Nat) (sdp : CString) (s : Signaling) : Prop :=
  s.signalingQueue = some sig → (env.sends s.sends).created = true →
    (env.sends s.sends).Whole s.queue ∧
    if env.copied then
      LinesQueued env ((linesOf sdp.bytes).filter isResentLine)
        (afterSend env (fun o ↦ offerRoot o sdp.bytes) s)
    else ∀ line ∈ linesOf sdp.bytes, isCandidateLine line = false

/-! ### One message -/

instance (o : SendOutcome) (q : Fifo JsonObject) : Decidable (o.Queues q) :=
  inferInstanceAs (Decidable (_ ∧ _ ∧ _))

/-- Sending adds at most its object to what the queue has accepted. -/
theorem accepted_afterSend (env : SignalingEnv) (root : SendOutcome → JsonObject) (s : Signaling) :
    (afterSend env root s).queue.accepted = s.queue.accepted ++
      if (env.sends s.sends).Queues s.queue then [root (env.sends s.sends)] else [] := by
  simp only [afterSend, queueRoot, SendOutcome.Queues]
  by_cases hcreated : (env.sends s.sends).created = true
  · by_cases hprinted : (env.sends s.sends).printed = true
    · simp only [hcreated, hprinted, if_true, true_and, Fifo.send]
      split <;> simp [Fifo.accepted_turns]
    · simp [hprinted]
  · simp [hcreated]

/-- A candidate is sent without a further call. -/
theorem sendMsg_candidate (env : SignalingEnv) {sig : Nat} {s : Signaling}
    (h : s.signalingQueue = some sig) (depth : Nat) (candidate : List UInt8) :
    ∃ ret, webrtcHttpServerSendMsg env sig (depth + 1) (some ⟨.candidate, candidate⟩) s =
      some (ret, afterSend env (fun o ↦ candidateRoot o candidate) s) := by
  simp only [webrtcHttpServerSendMsg, h, ne_eq, not_true_eq_false, if_false, afterSend]
  cases (env.sends s.sends).created with
  | false => exact ⟨-1, rfl⟩
  | true => exact ⟨0, rfl⟩

/-- The comparison of `resend_all_candidate`. -/
theorem strncmp_isResentLine (line : List UInt8) :
    strncmp line (ascii "a=candidate:") 11 = 0 ↔ isResentLine line = true := by
  rw [← strncmp_take, isResentLine, List.isPrefixOf_iff_prefix]
  exact strncmp_eq_zero (b := ascii "a=candidate") (by decide)

/-- The resent lines are sent one after the other. -/
def afterLines (env : SignalingEnv) (lines : List (List UInt8)) (s : Signaling) : Signaling :=
  lines.foldl (fun s line ↦ afterSend env (fun o ↦ candidateRoot o (line.drop 2)) s) s

/-- The loop of `resend_all_candidate` ends, and sends each resent line. -/
theorem resendAllCandidate_eq (env : SignalingEnv) {sig : Nat} {s : Signaling}
    (h : s.signalingQueue = some sig) (depth : Nat) (text : List UInt8) :
    resendAllCandidate env
        (fun msg s ↦ webrtcHttpServerSendMsg env sig (depth + 1) (some msg) s) text s =
      some (0,
        if env.copied then afterLines env ((linesOf text).filter isResentLine) s else s) := by
  unfold resendAllCandidate
  split
  · rw [strtokAll_eq, ← linesOf, afterLines]
    generalize linesOf text = lines
    induction lines generalizing s with
    | nil => rfl
    | cons line lines ih =>
      rw [List.foldlM_cons, List.filter_cons]
      cases hresent : isResentLine line with
      | true =>
        obtain ⟨ret, hsend⟩ := sendMsg_candidate env h depth (line.drop 2)
        rw [if_pos ((strncmp_isResentLine line).mpr hresent)]
        simp only [hsend]
        exact ih (s := afterSend env (fun o ↦ candidateRoot o (line.drop 2)) s) h
      | false =>
        rw [if_neg (by simp [strncmp_isResentLine, hresent])]
        exact ih h
  · rfl

/-! ### What is queued -/

/-- What the queue accepts of the resent lines. -/
def gained (env : SignalingEnv) : List (List UInt8) → Signaling → List JsonObject
  | [], _ => []
  | line :: lines, s =>
    (if (env.sends s.sends).Queues s.queue then
      [candidateRoot (env.sends s.sends) (line.drop 2)] else []) ++
    gained env lines (afterSend env (fun o ↦ candidateRoot o (line.drop 2)) s)

/-- The resent lines add that to what the queue has accepted. -/
theorem accepted_afterLines (env : SignalingEnv) (lines : List (List UInt8)) (s : Signaling) :
    (afterLines env lines s).queue.accepted = s.queue.accepted ++ gained env lines s := by
  induction lines generalizing s with
  | nil => simp [afterLines, gained]
  | cons line lines ih =>
    have h := ih (afterSend env (fun o ↦ candidateRoot o (line.drop 2)) s)
    rw [accepted_afterSend, List.append_assoc] at h
    exact h

/-- The second field of an object begins with `candidate:`. -/
def hasCandidate (root : JsonObject) : Bool :=
  (root[1]?.map (fun field ↦ (ascii "candidate:").isPrefixOf field.2)).getD false

/-- A candidate line is its message behind `a=`. -/
theorem hasCandidate_candidateMsg {line : List UInt8} (h : isResentLine line = true) :
    hasCandidate (candidateMsg (line.drop 2)) = isCandidateLine line := by
  obtain ⟨rest, rfl⟩ := List.isPrefixOf_iff_prefix.mp h
  have hsplit : ascii "a=candidate:" = ascii "a=" ++ ascii "candidate:" := by decide
  have hdrop : (ascii "a=candidate" ++ rest).drop 2 = ascii "candidate" ++ rest := rfl
  have hline : ascii "a=candidate" ++ rest = ascii "a=" ++ (ascii "candidate" ++ rest) := rfl
  rw [hdrop, isCandidateLine, hsplit, hline, Bool.eq_iff_iff, List.isPrefixOf_iff_prefix,
    List.prefix_append_right_inj, ← List.isPrefixOf_iff_prefix]
  rfl

/-- An object with both fields is the message; one without has no candidate. -/
theorem candidateRoot_cases (o : SendOutcome) (candidate : List UInt8) :
    (o.typeAdded = true ∧ o.dataAdded = true ∧ candidateRoot o candidate = candidateMsg candidate) ∨
      (¬ (o.typeAdded = true ∧ o.dataAdded = true) ∧
        hasCandidate (candidateRoot o candidate) = false) := by
  unfold candidateRoot cJSONAddStringToObject
  cases o.typeAdded <;> cases o.dataAdded
  · exact .inr ⟨by simp, rfl⟩
  · exact .inr ⟨by simp, rfl⟩
  · exact .inr ⟨by simp, rfl⟩
  · exact .inl ⟨rfl, rfl, rfl⟩

/-- The first line adds its message. -/
theorem candidateMsgs_cons (line : List UInt8) (lines : List (List UInt8)) :
    candidateMsgs (line :: lines) =
      (if isCandidateLine line then [candidateMsg (line.drop 2)] else []) ++
        candidateMsgs lines := by
  simp only [candidateMsgs, List.filter_cons]
  split <;> rfl

/-- Every candidate message has a candidate. -/
theorem hasCandidate_of_mem {lines : List (List UInt8)}
    (h : ∀ line ∈ lines, isResentLine line = true) :
    ∀ msg ∈ candidateMsgs lines, hasCandidate msg = true := by
  intro msg hmsg
  obtain ⟨line, hline, rfl⟩ := List.mem_map.mp hmsg
  obtain ⟨hmem, hcandidate⟩ := List.mem_filter.mp hline
  rw [hasCandidate_candidateMsg (h line hmem), hcandidate]

/-- Only candidate lines become messages with a candidate. -/
theorem isCandidateLine_of_root {line : List UInt8} (h : isResentLine line = true)
    (o : SendOutcome) (hroot : hasCandidate (candidateRoot o (line.drop 2)) = true) :
    isCandidateLine line = true := by
  rcases candidateRoot_cases o (line.drop 2) with ⟨_, _, heq⟩ | ⟨_, hnone⟩
  · rw [← hasCandidate_candidateMsg h, ← heq, hroot]
  · exact absurd (hnone.symm.trans hroot) Bool.false_ne_true

/-- The queue accepts no more messages with a candidate than there are candidate lines. -/
theorem countP_gained_le (env : SignalingEnv) {lines : List (List UInt8)}
    (h : ∀ line ∈ lines, isResentLine line = true) (s : Signaling) :
    (gained env lines s).countP hasCandidate ≤ (candidateMsgs lines).length := by
  induction lines generalizing s with
  | nil => exact Nat.le_refl 0
  | cons line lines ih =>
    have hrest := ih (fun l hl ↦ h l (List.mem_cons_of_mem _ hl))
      (afterSend env (fun o ↦ candidateRoot o (line.drop 2)) s)
    have hroot := isCandidateLine_of_root (h line List.mem_cons_self) (env.sends s.sends)
    rw [gained, candidateMsgs_cons, List.countP_append, List.length_append]
    refine Nat.add_le_add ?_ hrest
    split
    · rw [List.countP_singleton]
      split
      · next hcandidate =>
        rw [if_pos (hroot hcandidate)]
        exact Nat.le_refl 1
      · exact Nat.zero_le _
    · exact Nat.zero_le _

/-- The queue accepts exactly the candidate messages when every candidate line is queued whole, and
no other resent line. -/
theorem gained_eq_iff (env : SignalingEnv) {lines : List (List UInt8)}
    (h : ∀ line ∈ lines, isResentLine line = true) (s : Signaling) :
    gained env lines s = candidateMsgs lines ↔ LinesQueued env lines s := by
  induction lines generalizing s with
  | nil => exact iff_of_true rfl trivial
  | cons line lines ih =>
    have hlines : ∀ l ∈ lines, isResentLine l = true := fun l hl ↦ h l (List.mem_cons_of_mem _ hl)
    have hrest := ih hlines (afterSend env (fun o ↦ candidateRoot o (line.drop 2)) s)
    have hroot := isCandidateLine_of_root (h line List.mem_cons_self) (env.sends s.sends)
    have hcount := countP_gained_le env hlines
      (afterSend env (fun o ↦ candidateRoot o (line.drop 2)) s)
    have hall : (candidateMsgs lines).countP hasCandidate = (candidateMsgs lines).length :=
      List.countP_eq_length.mpr (hasCandidate_of_mem hlines)
    rw [gained, candidateMsgs_cons, LinesQueued, ← hrest]
    cases hline : isCandidateLine line with
    | true =>
      simp only [if_true]
      by_cases hwhole : (env.sends s.sends).Whole s.queue
      · obtain ⟨hqueues, hadded⟩ := hwhole
        have heq :
            candidateRoot (env.sends s.sends) (line.drop 2) = candidateMsg (line.drop 2) := by
          rcases candidateRoot_cases (env.sends s.sends) (line.drop 2) with ⟨_, _, heq⟩ | ⟨hnot, _⟩
          · exact heq
          · exact absurd hadded hnot
        rw [if_pos hqueues, heq, List.append_cancel_left_eq]
        exact (and_iff_right ⟨hqueues, hadded⟩).symm
      · -- One message with a candidate is missing, and no other line makes up for it.
        refine iff_of_false (fun hsame ↦ ?_) (fun hboth ↦ hwhole hboth.1)
        have hmissing : (if (env.sends s.sends).Queues s.queue then
            [candidateRoot (env.sends s.sends) (line.drop 2)] else []).countP hasCandidate = 0 := by
          split
          · next hqueues =>
            rcases candidateRoot_cases (env.sends s.sends) (line.drop 2) with
              ⟨htype, hdata, _⟩ | ⟨_, hnone⟩
            · exact absurd ⟨hqueues, htype, hdata⟩ hwhole
            · rw [List.countP_singleton, hnone]
              rfl
          · rfl
        have hline' := (hasCandidate_candidateMsg (h line List.mem_cons_self)).trans hline
        have hcounts := congrArg (List.countP hasCandidate) hsame
        rw [List.countP_append, hmissing, List.countP_append, List.countP_singleton, hline',
          hall] at hcounts
        simp only [if_true] at hcounts
        omega
    | false =>
      simp only [Bool.false_eq_true, if_false, List.nil_append]
      by_cases hqueues : (env.sends s.sends).Queues s.queue
      · -- The other line leaves a message without a candidate.
        refine iff_of_false (fun hsame ↦ ?_) (fun hboth ↦ hboth.1 hqueues)
        rw [if_pos hqueues] at hsame
        have hmem : candidateRoot (env.sends s.sends) (line.drop 2) ∈ candidateMsgs lines := by
          rw [← hsame]
          exact List.mem_cons_self
        exact Bool.false_ne_true (hline.symm.trans (hroot (hasCandidate_of_mem hlines _ hmem)))
      · rw [if_neg hqueues, List.nil_append]
        exact (and_iff_right hqueues).symm

/-- Leaving out the lines that are not resent leaves out no candidate line. -/
theorem candidateMsgs_filter (lines : List (List UInt8)) :
    candidateMsgs (lines.filter isResentLine) = candidateMsgs lines := by
  have hresent (line : List UInt8) (h : isCandidateLine line = true) : isResentLine line = true :=
    List.isPrefixOf_iff_prefix.mpr
      (List.IsPrefix.trans (by decide) (List.isPrefixOf_iff_prefix.mp h))
  rw [candidateMsgs, List.filter_filter, candidateMsgs]
  congr 1
  apply List.filter_congr
  intro line _
  cases hline : isCandidateLine line with
  | true => simp [hresent line hline]
  | false => rfl

/-! ### The offer -/

/-- An object with both fields is the offer; one without is shorter. -/
theorem offerRoot_eq_iff (o : SendOutcome) (sdp : List UInt8) :
    offerRoot o sdp = offerMsg sdp ↔ o.typeAdded = true ∧ o.dataAdded = true := by
  unfold offerRoot offerMsg cJSONAddStringToObject
  cases o.typeAdded <;> cases o.dataAdded <;> simp

/-- No resent line is queued as an offer. -/
theorem not_mem_gained_offer (env : SignalingEnv) (lines : List (List UInt8)) (s : Signaling)
    (sdp : List UInt8) : offerMsg sdp ∉ gained env lines s := by
  induction lines generalizing s with
  | nil => exact List.not_mem_nil
  | cons line lines ih =>
    rw [gained, List.mem_append, not_or]
    refine ⟨?_, ih _⟩
    split
    · rw [List.mem_singleton]
      unfold offerMsg candidateRoot cJSONAddStringToObject
      cases (env.sends s.sends).typeAdded <;> cases (env.sends s.sends).dataAdded <;>
        simp [show ascii "offer" ≠ ascii "candidate" by decide]
    · exact List.not_mem_nil

/-- An SDP message is sent with its candidates on a call stack of depth two. -/
theorem sendMsg_sdp {env : SignalingEnv} {sig : Nat} {s : Signaling}
    (h : s.signalingQueue = some sig) (hcreated : (env.sends s.sends).created = true)
    (depth : Nat) (text : List UInt8) :
    webrtcHttpServerSendMsg env sig (depth + 2) (some ⟨.sdp, text⟩) s =
      some (0, if env.copied then
        afterLines env ((linesOf text).filter isResentLine)
          (afterSend env (fun o ↦ offerRoot o text) s)
        else afterSend env (fun o ↦ offerRoot o text) s) := by
  have hresend := resendAllCandidate_eq env
    (s := afterSend env (fun o ↦ offerRoot o text) s) h depth text
  simp only [afterSend, hcreated, if_true] at hresend ⊢
  rw [webrtcHttpServerSendMsg, if_neg (by simp [h])]
  simp only [hcreated, Bool.not_true, Bool.false_eq_true, if_false, msgRoot, if_true]
  exact (congrArg (Option.map (fun r ↦ ((0 : Int), r.2))) hresend)

/-- The queue accepts the offer and the candidate messages exactly when the offer is queued whole
and they are. -/
theorem offer_eq_iff (o : SendOutcome) (q : Fifo JsonObject) {sdp : List UInt8}
    {msgs : List JsonObject} (wanted : List JsonObject) (hmsgs : offerMsg sdp ∉ msgs) :
    (if o.Queues q then [offerRoot o sdp] else []) ++ msgs = offerMsg sdp :: wanted ↔
      o.Whole q ∧ msgs = wanted := by
  by_cases hqueues : o.Queues q
  · rw [if_pos hqueues, List.singleton_append, List.cons.injEq, offerRoot_eq_iff]
    simp [SendOutcome.Whole, hqueues]
  · rw [if_neg hqueues, List.nil_append]
    refine iff_of_false (fun hsame ↦ hmsgs ?_) (fun hboth ↦ hqueues hboth.1.1)
    rw [hsame]
    exact List.mem_cons_self

/-- Sending an SDP message always ends; what returns 0 has queued the offer and exactly its
candidates precisely when every message is built whole and finds room in time, the text is copied
if it has candidate lines, and no other line is taken for one. -/
theorem queuedOrReported_iff (env : SignalingEnv) (sig : Nat) (sdp : CString) (s : Signaling) :
    QueuedOrReported env sig sdp s ↔ AllQueued env sig sdp s := by
  by_cases hsig : s.signalingQueue = some sig
  · cases hcreated : (env.sends s.sends).created with
    | false =>
      refine iff_of_true ⟨-1, { s with sends := s.sends + 1 }, fun depth ↦ ?_, by simp⟩ ?_
      · simp [webrtcHttpServerSendMsg, hsig, hcreated]
      · exact fun _ h ↦ absurd (hcreated.symm.trans h) Bool.false_ne_true
    | true =>
      have hsend (depth : Nat) := sendMsg_sdp hsig hcreated depth sdp.bytes
      have hunique : QueuedOrReported env sig sdp s ↔ (if env.copied then
          afterLines env ((linesOf sdp.bytes).filter isResentLine)
            (afterSend env (fun o ↦ offerRoot o sdp.bytes) s)
          else afterSend env (fun o ↦ offerRoot o sdp.bytes) s).queue.accepted =
          s.queue.accepted ++ offerMsg sdp.bytes :: candidateMsgs (linesOf sdp.bytes) := by
        constructor
        · rintro ⟨ret, t, hret, hzero⟩
          cases (hsend 0).symm.trans (hret 0)
          exact hzero rfl
        · exact fun h ↦ ⟨0, _, hsend, fun _ ↦ h⟩
      rw [hunique, AllQueued, imp_iff_right hsig, imp_iff_right hcreated]
      split
      · rw [accepted_afterLines, accepted_afterSend, List.append_assoc, List.append_cancel_left_eq,
          offer_eq_iff _ _ _ (not_mem_gained_offer _ _ _ _), ← candidateMsgs_filter, gained_eq_iff]
        exact fun line hline ↦ (List.mem_filter.mp hline).2
      · have hoffer := offer_eq_iff (env.sends s.sends) s.queue
          (candidateMsgs (linesOf sdp.bytes)) (List.not_mem_nil (a := offerMsg sdp.bytes))
        rw [List.append_nil] at hoffer
        rw [accepted_afterSend, List.append_cancel_left_eq, hoffer, candidateMsgs,
          eq_comm (a := []), List.map_eq_nil_iff, List.filter_eq_nil_iff]
        simp
  · refine iff_of_true ⟨-1, s, fun depth ↦ ?_, by simp⟩ (fun h ↦ absurd h hsig)
    simp [webrtcHttpServerSendMsg, hsig]

/-- No listener takes a message, and nothing else fails. -/
private def noListener : SignalingEnv := ⟨fun _ ↦ ⟨true, true, true, true, []⟩, true⟩

/-- A queue with ten messages. -/
private def fullQueue : Fifo JsonObject :=
  { Fifo.empty with
    waiting := List.replicate 10 (offerMsg [])
    accepted := List.replicate 10 (offerMsg []) }

/-- Without a listener a full queue drops an offer, and 0 is returned. -/
theorem full_queue_drops :
    ¬ QueuedOrReported noListener 0 (.lit "v=0") ⟨some 0, fullQueue, 0⟩ := by
  rintro ⟨ret, t, hret, hzero⟩
  cases hret 0
  exact absurd (hzero rfl) (by decide)

end Esp32Robot.Http

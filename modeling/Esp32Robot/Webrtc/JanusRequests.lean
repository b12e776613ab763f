import Esp32Robot.Base.CString
import Esp32Robot.Base.Double
import Esp32Robot.Base.Run

/-!
# Requests to a Janus server

What `janus_signaling.c` asks the server for, in the calls of one signaling and the requests of its
poll thread. The answers are given, with the outcome of every allocation. `cJSON` is a tree whose
numbers are natural; the source reads its ids through a double.
-/

namespace Esp32Robot.Webrtc

open Esp32Robot.Base

/-- A value of `cJSON`; a number is as its text has it. -/
inductive Json where
  | null
  | bool (value : Bool)
  | number (value : Nat)
  | string (value : CString)
  | array (items : List Json)
  | object (members : List (List UInt8 × Json))

namespace Json

/-- Names are compared without case. -/
def sameName (a b : List UInt8) : Bool :=
  let lower (c : UInt8) : UInt8 := if 65 ≤ c && c ≤ 90 then c + 32 else c
  a.map lower == b.map lower

/-- `cJSON_GetObjectItem`. -/
def getObjectItem (j : Json) (name : String) : Option Json :=
  match j with
  | object members => (members.find? (fun m ↦ sameName m.1 (ascii name))).map (·.2)
  | _ => none

/-- `(uint64_t)valuedouble` of a number. -/
def idNumber (value : Nat) : UInt64 := UInt64.ofNat (toDouble value)

/-- A double has no odd number above `2 ^ 53`. -/
example : idNumber 9007199254740993 = 9007199254740992 := by decide +kernel

/-- The number of a value that is one, and zero otherwise. -/
def toId : Option Json → UInt64
  | some (number value) => idNumber value
  | _ => 0

/-- C defines the conversion of a double to `uint64_t` below `2 ^ 64`. -/
def Converts : Option Json → Prop
  | some (number value) => toDouble value < UInt64.size
  | _ => True

instance (j : Option Json) : Decidable (Converts j) := by
  unfold Converts
  split <;> infer_instance

/-- The string of a value that is one. -/
def toString? : Option Json → Option CString
  | some (string value) => some value
  | _ => none

end Json

/-- `esp_peer_signaling_janus_cfg_t` with `signal_url`. -/
structure JanusCfg where
  signalUrl : CString
  roomId : UInt64
  token : Option CString
  pin : Option CString
  display : Option CString
  apiSecret : Option CString

/-- What a request asks for. -/
inductive JanusVerb where
  | create
  | attach
  | join
  | publish (sdp : CString)
  | trickle (candidate : Json)
  | unpublish
  | poll (now : UInt64)
  | detach
  | destroy

/-- A request: a poll is a `GET`, every other a `POST` of its payload. -/
structure JanusRequest where
  verb : JanusVerb
  url : List UInt8
  transaction : CString

/-- The result of `https_send_request`, and what `cJSON_Parse` makes of its data, when there is
any. -/
structure JanusAnswer where
  ret : Int
  data : Option (Option Json)

/-- How a call of `janus_send_api` goes: whether there is memory for the object and for its text,
and the answer. -/
structure ApiChoice where
  object : Bool
  printed : Bool
  answer : JanusAnswer

/-! ### Payloads and URLs -/

/-- Members of the credentials, in every payload. -/
def credentials (cfg : JanusCfg) : List (List UInt8 × Json) :=
  (cfg.token.map (fun t ↦ (ascii "token", Json.string t))).toList ++
    (cfg.apiSecret.map (fun t ↦ (ascii "apisecret", Json.string t))).toList

/-- A member with a text. -/
def text (name value : String) : List UInt8 × Json := (ascii name, .string (.lit value))

/-- The payload of a request, in the order of the source. -/
def JanusRequest.payload (cfg : JanusCfg) (r : JanusRequest) : Option Json :=
  let txn := (ascii "transaction", Json.string r.transaction)
  let message (body : List (List UInt8 × Json)) : List (List UInt8 × Json) :=
    [text "janus" "message", (ascii "body", .object body)]
  match r.verb with
  | .create => some (.object ([text "janus" "create", txn] ++ credentials cfg))
  | .attach => some (.object
      ([text "janus" "attach", text "plugin" "janus.plugin.videoroom", txn] ++ credentials cfg))
  | .join => some (.object
      ([text "janus" "message", txn] ++ credentials cfg ++
        [(ascii "body", .object
          ([text "request" "join", text "ptype" "publisher",
              (ascii "room", .number (toDouble cfg.roomId.toNat))] ++
            (cfg.pin.map (fun t ↦ (ascii "pin", Json.string t))).toList ++
            (cfg.display.map (fun t ↦ (ascii "display", Json.string t))).toList))]))
  | .publish sdp => some (.object
      ([txn] ++ credentials cfg ++
        message [text "request" "publish", (ascii "audio", .bool true),
          (ascii "video", .bool true)] ++
        [(ascii "jsep", .object [text "type" "offer", (ascii "sdp", .string sdp)])]))
  | .trickle candidate => some (.object
      ([txn] ++ credentials cfg ++ [text "janus" "trickle", (ascii "candidate", candidate)]))
  | .unpublish => some (.object
      ([txn] ++ credentials cfg ++ message [text "request" "unpublish"]))
  | .poll _ => none
  | .detach => some (.object ([text "janus" "detach", txn] ++ credentials cfg))
  | .destroy => some (.object ([text "janus" "destroy", txn] ++ credentials cfg))

/-- A payload has the transaction of its request, and the credentials of the configuration. -/
theorem JanusRequest.payload_members {cfg : JanusCfg} {r : JanusRequest} {p : Json}
    (h : r.payload cfg = some p) :
    Json.toString? (p.getObjectItem "transaction") = some r.transaction ∧
      Json.toString? (p.getObjectItem "token") = cfg.token ∧
      Json.toString? (p.getObjectItem "apisecret") = cfg.apiSecret := by
  obtain ⟨verb, url, txn⟩ := r
  obtain ⟨_, _, token, _, _, secret⟩ := cfg
  cases verb <;> cases h <;> cases token <;> cases secret <;> exact ⟨rfl, rfl, rfl⟩

/-- Decimal text of a number. -/
def decimalNat (n : Nat) : List UInt8 := (Nat.toDigits 10 n).map (fun c ↦ UInt8.ofNat c.toNat)

/-- Of an unsigned 64-bit number (`PRIu64`). -/
def decimal64 (n : UInt64) : List UInt8 := decimalNat n.toNat

/-- A 64-bit number has at most twenty digits. -/
theorem length_decimal64_le (n : UInt64) : (decimal64 n).length ≤ 20 := by
  rw [decimal64, decimalNat, List.length_map, Nat.length_toDigits_le_iff (by omega) (by omega)]
  exact Nat.lt_trans n.toNat_lt (by decide)

/-- The URL of a session, in a buffer of 320 bytes. -/
def sessionUrl (cfg : JanusCfg) (session : UInt64) : List UInt8 :=
  (snprintf 320 (cfg.signalUrl.bytes ++ 47 :: decimal64 session)).1

/-- The URL of a plugin handle. -/
def handleUrl (cfg : JanusCfg) (session handle : UInt64) : List UInt8 :=
  (snprintf 320
    (cfg.signalUrl.bytes ++ 47 :: decimal64 session ++ 47 :: decimal64 handle)).1

/-- The URL of a poll at a time, in a buffer of 384 bytes. -/
def pollUrl (cfg : JanusCfg) (session now : UInt64) : List UInt8 :=
  (snprintf 384 (cfg.signalUrl.bytes ++ 47 :: decimal64 session ++ ascii "?maxev=1&rid=" ++
    decimal64 now)).1

/-! ### The signaling -/

/-- A message between the peer and the signaling. A candidate comes with what `cJSON_Parse` makes of
it. -/
inductive PeerMessage where
  | sdp (data : CString)
  | candidate (json : Option Json)
  | bye
  | customized

/-- How far a signaling is; while it stops, with the transaction that it has memory for. -/
inductive JanusPhase where
  | idle
  | running
  | stopping (txn : Option CString)
  | stopped
  | failed
  deriving DecidableEq

/-- Where the poll thread is: it tests `running` before each round. -/
inductive JanusPollThread where
  | gone
  | testing
  | asking
  deriving DecidableEq, Repr

/-- `janus_signaling_t` with its poll thread, the requests and their answers, and the messages given
to `on_msg`. -/
structure JanusSignaling where
  cfg : JanusCfg
  sessionId : UInt64
  handleId : UInt64
  localSdpSent : Bool
  pollThread : JanusPollThread
  phase : JanusPhase
  log : List (JanusRequest × JanusAnswer)
  messages : List PeerMessage

/-- Calls of the signaling, and steps of its poll thread. `janus_signaling_stop` is two: up to the
wait for the thread, and after it. A poll has memory for the text of some of its events. -/
inductive JanusCall where
  | start (txn : Option CString) (create attach join : ApiChoice) (sema thread : Bool)
  | sendMsg (m : PeerMessage) (txn : Option CString) (c : ApiChoice)
  | test
  | poll (now : UInt64) (answer : JanusAnswer) (printed : Nat → Bool)
  | stop (txn : Option CString) (c : ApiChoice)
  | afterWait (c : ApiChoice)

namespace JanusSignaling

/-- `janus_send_api` with an object: the request is sent when there is memory for its text. -/
def sendApi (s : JanusSignaling) (r : JanusRequest) (c : ApiChoice) : JanusSignaling :=
  if c.object && c.printed then { s with log := s.log ++ [(r, c.answer)] } else s

/-- The answer of `janus_send_api` that `janus_get_ids` goes on with: a text without an error. -/
def accepted (c : ApiChoice) : Option Json :=
  if c.object && c.printed && c.answer.ret = 0 then
    c.answer.data.join.filter (fun json ↦ (json.getObjectItem "error").isNone)
  else none

/-- The id of an answer, a member of its data. -/
def idItem (json : Json) : Option Json := (json.getObjectItem "data").bind (·.getObjectItem "id")

/-- As the source reads it. -/
def idOf (json : Json) : UInt64 := Json.toId (idItem json)

/-- The id of an answer that is gone on with can be converted. -/
def Converts (c : ApiChoice) : Prop := ∀ json ∈ accepted c, Json.Converts (idItem json)

instance (c : ApiChoice) : Decidable (Converts c) := inferInstanceAs (Decidable (∀ _ ∈ _, _))

/-- `janus_get_ids`, `janus_signaling.c:138–262`. -/
def getIds (s : JanusSignaling) (txn : CString) (create attach join : ApiChoice) :
    JanusSignaling × Bool :=
  let s := s.sendApi ⟨.create, s.cfg.signalUrl.bytes, txn⟩ create
  match accepted create with
  | none => (s, false)
  | some json =>
    let s := { s with sessionId := idOf json }
    if s.sessionId = 0 then (s, false)
    else
      let s := s.sendApi ⟨.attach, sessionUrl s.cfg s.sessionId, txn⟩ attach
      match accepted attach with
      | none => (s, false)
      | some json =>
        let s := { s with handleId := idOf json }
        if s.handleId = 0 then (s, false)
        else
          let s := s.sendApi ⟨.join, handleUrl s.cfg s.sessionId s.handleId, txn⟩ join
          (s, (accepted join).isSome)

/-- `janus_signaling_start`, `janus_signaling.c:341–391`. -/
def start (s : JanusSignaling) (txn : Option CString) (create attach join : ApiChoice)
    (sema thread : Bool) : JanusSignaling :=
  if s.cfg.roomId = 0 then { s with phase := .failed }
  else
    match txn with
    | none => { s with phase := .failed }
    | some txn =>
      let (s, ok) := s.getIds txn create attach join
      if ok && sema && thread then { s with pollThread := .testing, phase := .running }
      else { s with phase := .failed }

/-- `janus_signaling_send_msg`, `janus_signaling.c:393–464`: the state and whether it returns
`ESP_PEER_ERR_NONE`. -/
def sendMsg (s : JanusSignaling) (m : PeerMessage) (txn : Option CString) (c : ApiChoice) :
    JanusSignaling × Bool :=
  let url := handleUrl s.cfg s.sessionId s.handleId
  match txn with
  | none => (s, false)
  | some txn =>
    if c.object then
      match m with
      | .sdp data =>
        if s.localSdpSent then (s, true)
        else
          let s := s.sendApi ⟨.publish data, url, txn⟩ c
          if c.printed && c.answer.ret = 0 then ({ s with localSdpSent := true }, true)
          else (s, false)
      | .candidate none => (s, false)
      | .candidate (some json) =>
        (s.sendApi ⟨.trickle json, url, txn⟩ c, c.printed && c.answer.ret = 0)
      | .bye => (s.sendApi ⟨.unpublish, url, txn⟩ c, true)
      | .customized => (s, true)
    else (s, false)

/-- `janus_handle_event`, `janus_signaling.c:264–300`: the messages for `on_msg`. -/
def handleEvent (printed : Bool) (event : Json) : List PeerMessage :=
  match Json.toString? (event.getObjectItem "janus") with
  | none => []
  | some janus =>
    if strcmp janus.bytes (CString.lit "event").bytes = 0 ∨
        strcmp janus.bytes (CString.lit "success").bytes = 0 then
      match event.getObjectItem "jsep" with
      | none => []
      | some jsep =>
        match Json.toString? (jsep.getObjectItem "type"),
          Json.toString? (jsep.getObjectItem "sdp") with
        | some type, some sdp =>
          if strcmp type.bytes (CString.lit "answer").bytes = 0 then [.sdp sdp] else []
        | _, _ => []
    else if strcmp janus.bytes (CString.lit "trickle").bytes = 0 then
      match event.getObjectItem "candidate" with
      | none => []
      | some candidate => if printed then [.candidate (some candidate)] else []
    else []

/-- The events of an answer to a poll: the items of an array, or the answer itself. -/
def events (answer : JanusAnswer) : List Json :=
  if answer.ret = 0 then
    match answer.data.join with
    | none => []
    | some (.array items) => items
    | some json => [json]
  else []

/-- What the events of a poll give to `on_msg`. -/
def handleEvents (printed : Nat → Bool) (es : List Json) : List PeerMessage :=
  es.zipIdx.flatMap (fun e ↦ handleEvent (printed e.2) e.1)

/-- A round of `janus_poll_thread`, `janus_signaling.c:305–335`. -/
def pollRound (s : JanusSignaling) (now : UInt64) (answer : JanusAnswer) (printed : Nat → Bool) :
    JanusSignaling :=
  { s with
    pollThread := .testing
    log := s.log ++ [(⟨.poll now, pollUrl s.cfg s.sessionId now, .lit ""⟩, answer)]
    messages := s.messages ++ handleEvents printed (events answer) }

/-- `janus_signaling_stop` to the wait for the poll thread, `janus_signaling.c:473–509`. -/
def stop (s : JanusSignaling) (txn : Option CString) (c : ApiChoice) : JanusSignaling :=
  let s := { s with phase := .stopping txn }
  match txn with
  | none => s
  | some txn =>
    if s.handleId = 0 then s
    else s.sendApi ⟨.detach, handleUrl s.cfg s.sessionId s.handleId, txn⟩ c

/-- `janus_signaling_stop` after the wait, `janus_signaling.c:511–539`. -/
def afterWait (s : JanusSignaling) (txn : Option CString) (c : ApiChoice) : JanusSignaling :=
  let s := { s with phase := .stopped }
  match txn with
  | none => s
  | some txn =>
    if s.handleId = 0 then s
    else s.sendApi ⟨.destroy, sessionUrl s.cfg s.sessionId, txn⟩ c

/-- A call or a step of the poll thread. Its last round can follow the reset of `running`. A start
has ids that can be converted. -/
def step (s : JanusSignaling) : JanusCall → Option JanusSignaling
  | .start txn create attach join sema thread =>
    if s.phase = .idle ∧ Converts create ∧ Converts attach then
      some (s.start txn create attach join sema thread)
    else none
  | .sendMsg m txn c => if s.phase = .running then some (s.sendMsg m txn c).1 else none
  | .test =>
    if s.pollThread = .testing then
      some { s with pollThread := if s.phase = .running then .asking else .gone }
    else none
  | .poll now answer printed =>
    if s.pollThread = .asking then some (s.pollRound now answer printed) else none
  | .stop txn c => if s.phase = .running then some (s.stop txn c) else none
  | .afterWait c =>
    match s.phase with
    | .stopping txn => if s.pollThread = .gone then some (s.afterWait txn c) else none
    | _ => none

/-- Before the start. -/
def initial (cfg : JanusCfg) : JanusSignaling where
  cfg := cfg
  sessionId := 0
  handleId := 0
  localSdpSent := false
  pollThread := .gone
  phase := .idle
  log := []
  messages := []

/-- Everything that a call does. -/
theorem step_cases {s t : JanusSignaling} {call : JanusCall} (h : s.step call = some t) :
    (∃ txn create attach join sema thread, call = .start txn create attach join sema thread ∧
      (s.phase = .idle ∧ Converts create ∧ Converts attach) ∧
      t = s.start txn create attach join sema thread) ∨
    (∃ m txn c, call = .sendMsg m txn c ∧ s.phase = .running ∧ t = (s.sendMsg m txn c).1) ∨
    (call = .test ∧ s.pollThread = .testing ∧
      t = { s with pollThread := if s.phase = .running then .asking else .gone }) ∨
    (∃ now answer printed, call = .poll now answer printed ∧ s.pollThread = .asking ∧
      t = s.pollRound now answer printed) ∨
    (∃ txn c, call = .stop txn c ∧ s.phase = .running ∧ t = s.stop txn c) ∨
    (∃ txn c, call = .afterWait c ∧ s.phase = .stopping txn ∧ s.pollThread = .gone ∧
      t = s.afterWait txn c) := by
  cases call with
  | start txn create attach join sema thread =>
    obtain ⟨hidle, rfl⟩ := Option.ite_some_none_eq_some.mp h
    exact .inl ⟨txn, create, attach, join, sema, thread, rfl, hidle, rfl⟩
  | sendMsg m txn c =>
    obtain ⟨hrun, rfl⟩ := Option.ite_some_none_eq_some.mp h
    exact .inr (.inl ⟨m, txn, c, rfl, hrun, rfl⟩)
  | test =>
    obtain ⟨hpoll, rfl⟩ := Option.ite_some_none_eq_some.mp h
    exact .inr (.inr (.inl ⟨rfl, hpoll, rfl⟩))
  | poll now answer printed =>
    obtain ⟨hpoll, rfl⟩ := Option.ite_some_none_eq_some.mp h
    exact .inr (.inr (.inr (.inl ⟨now, answer, printed, rfl, hpoll, rfl⟩)))
  | stop txn c =>
    obtain ⟨hrun, rfl⟩ := Option.ite_some_none_eq_some.mp h
    exact .inr (.inr (.inr (.inr (.inl ⟨txn, c, rfl, hrun, rfl⟩))))
  | afterWait c =>
    cases hphase : s.phase with
    | stopping txn =>
      simp only [step, hphase] at h
      obtain ⟨hgone, rfl⟩ := Option.ite_some_none_eq_some.mp h
      exact .inr (.inr (.inr (.inr (.inr ⟨txn, c, rfl, rfl, hgone, rfl⟩))))
    | idle => simp [step, hphase] at h
    | running => simp [step, hphase] at h
    | stopped => simp [step, hphase] at h
    | failed => simp [step, hphase] at h

end JanusSignaling

end Esp32Robot.Webrtc

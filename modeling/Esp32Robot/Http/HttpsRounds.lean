import Esp32Robot.Http.HttpsClient

/-!
# One round of the HTTPS client

What the events of a round leave in `http_info_t`, and what the step of a round does with it. The
response buffer holds the bytes received since the last time that it found no memory; at the start
of a round it is gone, but its size is not.
-/

namespace Esp32Robot.Http

open Esp32Robot.Base

/-! ### The events of a round -/

/-- What an event leaves of the last value of a header field. -/
def keepEvent (name : List UInt8) (old : Option (List UInt8)) : HttpEvent → Option (List UInt8)
  | .onHeader key value copied =>
    if strcmp key name = 0 then if copied then some value else none else old
  | _ => old

/-- The value of a header field that a round keeps. -/
def HttpRound.kept (r : HttpRound) (name : List UInt8) : Option (List UInt8) :=
  r.events.foldl (keepEvent name) none

/-- The bytes received since the last time without memory, after an event. -/
def receiveEvent (received : List UInt8) : HttpEvent → List UInt8
  | .onData bytes grown => if bytes = [] then received else if grown then received ++ bytes else []
  | _ => received

/-- The bytes that a round has received at its end. -/
def HttpRound.received (r : HttpRound) : List UInt8 := r.events.foldl receiveEvent []

/-- The calls that events make after bytes were received. -/
def eventCalls (headerCb bodyCb : Bool) : List UInt8 → List HttpEvent → List HttpCall
  | _, [] => []
  | received, e :: es =>
    (match e with
      | .onHeader key value _ => if headerCb then [.header key value] else []
      | .onFinish => if received ≠ [] ∧ bodyCb = true then [.body received] else []
      | .onData _ _ => []) ++
    eventCalls headerCb bodyCb (receiveEvent received e) es

/-- The first data of events. -/
def firstData : List HttpEvent → List UInt8
  | [] => []
  | .onData bytes _ :: es => if bytes = [] then firstData es else bytes
  | _ :: es => firstData es

/-- The blocks that events allocate for a kept header field. -/
def copies (name : List UInt8) (es : List HttpEvent) : Nat :=
  es.countP (fun e ↦
    match e with
    | .onHeader key _ copied => strcmp key name = 0 && copied
    | _ => false)

/-- The blocks for a header field that no pointer keeps at the end of a round. -/
def HttpRound.lost (r : HttpRound) (name : List UInt8) : Nat :=
  copies name r.events - (r.kept name).isSome.toNat

namespace HttpsState

variable {s t : HttpsState}

/-- The response buffer holds the bytes, and without any it has an old size. -/
structure Holds (s : HttpsState) (old : Nat) (received : List UInt8) : Prop where
  data : s.data = if received = [] then none else some received
  fillSize : s.fillSize = received.length
  size : s.size = if received = [] then old else received.length

/-- What the handler leaves alone. -/
structure Frame (s t : HttpsState) : Prop where
  client : t.client = s.client
  headerCb : t.headerCb = s.headerCb
  bodyCb : t.bodyCb = s.bodyCb
  lastUrl : t.lastUrl = s.lastUrl
  lastUrlCopied : t.lastUrlCopied = s.lastUrlCopied
  redirectLimit : t.redirectLimit = s.redirectLimit
  redirectCount : t.redirectCount = s.redirectCount
  sent : t.sent = s.sent
  result : t.result = s.result

/-- Nothing changed. -/
theorem Frame.refl (s : HttpsState) : s.Frame s := ⟨rfl, rfl, rfl, rfl, rfl, rfl, rfl, rfl, rfl⟩

/-- One after another. -/
theorem Frame.trans {u : HttpsState} (h : s.Frame t) (h' : t.Frame u) : s.Frame u :=
  ⟨h'.client.trans h.client, h'.headerCb.trans h.headerCb, h'.bodyCb.trans h.bodyCb,
    h'.lastUrl.trans h.lastUrl, h'.lastUrlCopied.trans h.lastUrlCopied,
    h'.redirectLimit.trans h.redirectLimit, h'.redirectCount.trans h.redirectCount,
    h'.sent.trans h.sent, h'.result.trans h.result⟩

/-- A copy to the buffer changes the buffer. -/
theorem frame_copyData (s : HttpsState) (bytes : List UInt8) : s.Frame (s.copyData bytes) := by
  unfold copyData
  split <;> exact ⟨rfl, rfl, rfl, rfl, rfl, rfl, rfl, rfl, rfl⟩

/-- The handler changes the response only. -/
theorem frame_handler (s : HttpsState) (e : HttpEvent) : s.Frame (s.handler e) := by
  unfold handler
  split
  · exact .refl s
  · cases e with
    | onHeader key value copied =>
      simp only [onHeader]
      split
      · split
        · exact ⟨rfl, rfl, rfl, rfl, rfl, rfl, rfl, rfl, rfl⟩
        · split
          · exact ⟨rfl, rfl, rfl, rfl, rfl, rfl, rfl, rfl, rfl⟩
          · split <;> exact ⟨rfl, rfl, rfl, rfl, rfl, rfl, rfl, rfl, rfl⟩
      · exact .refl s
    | onData bytes grown =>
      simp only [onData]
      split
      · exact .refl s
      · split
        · split
          · exact ⟨rfl, rfl, rfl, rfl, rfl, rfl, rfl, rfl, rfl⟩
          · exact ⟨rfl, rfl, rfl, rfl, rfl, rfl, rfl, rfl, rfl⟩
        · exact frame_copyData s bytes
    | onFinish =>
      simp only [onFinish]
      split
      · exact ⟨rfl, rfl, rfl, rfl, rfl, rfl, rfl, rfl, rfl⟩
      · exact .refl s

/-- So do the events. -/
theorem frame_events (s : HttpsState) (es : List HttpEvent) : s.Frame (es.foldl handler s) := by
  induction es generalizing s with
  | nil => exact .refl s
  | cons e es ih => exact (frame_handler s e).trans (ih _)

/-- After a crash nothing happens. -/
theorem events_of_crashed (h : s.crashed = true) (es : List HttpEvent) :
    es.foldl handler s = s := by
  induction es with
  | nil => rfl
  | cons e es ih =>
    have hstep : s.handler e = s := by
      unfold handler
      rw [if_pos h]
    rw [List.foldl_cons, hstep, ih]

/-- Data for a buffer without room makes it larger, or loses it. -/
theorem onData_grow {old : Nat} {received bytes : List UInt8} (grown : Bool)
    (h : s.Holds old received) (hbytes : bytes ≠ [])
    (hroom : received = [] → old < bytes.length) :
    s.onData bytes grown =
      if grown then
        { s with
          data := some (received ++ bytes)
          fillSize := (received ++ bytes).length
          size := (received ++ bytes).length
          blocks := if received = [] then s.blocks + 1 else s.blocks }
      else
        { s with
          data := none
          fillSize := 0
          size := 0
          blocks := if received = [] then s.blocks else s.blocks - 1 } := by
  obtain ⟨hdata, hfill, hsize⟩ := h
  have hpos := List.length_pos_iff.mpr hbytes
  have hneed : s.size < received.length + bytes.length := by
    rw [hsize]
    split
    · next hnil =>
      have := hroom hnil
      omega
    · omega
  have hblock : s.data.getD [] = received := by
    rw [hdata]
    split
    · next hnil => rw [hnil, Option.getD_none]
    · rfl
  have hsome : s.data.isSome = !decide (received = []) := by
    rw [hdata]
    split <;> simp [*]
  have hcopy :
      (received ++ List.replicate (received.length + bytes.length - received.length) 0).take
        received.length ++ bytes ++
      (received ++ List.replicate (received.length + bytes.length - received.length) 0).drop
        (received.length + bytes.length) = received ++ bytes := by
    rw [List.take_left' rfl, List.drop_of_length_le (by simp), List.append_nil]
  rw [onData, if_neg hbytes]
  simp only [hfill, hneed, if_true, hblock, copyData, hcopy, hsome]
  cases grown with
  | true => simp
  | false => by_cases hnil : received = [] <;> simp [hnil]

/-- A write of data through the null pointer. -/
theorem onData_crash {old : Nat} {bytes : List UInt8} {grown : Bool} (h : s.Holds old [])
    (hbytes : bytes ≠ []) (hroom : bytes.length ≤ old) :
    (s.onData bytes grown).crashed = true := by
  obtain ⟨hdata, hfill, hsize⟩ := h
  rw [if_pos rfl] at hdata hsize
  have hneed : ¬ s.size < s.fillSize + bytes.length := by
    rw [hsize, hfill, List.length_nil]
    omega
  rw [onData, if_neg hbytes]
  simp only [hneed, if_false, copyData, hdata]

/-! ### The events without a crash -/

/-- The fields that an event leaves. -/
def keepFields (headerCb : Bool) (k : HttpRespKeep) (es : List HttpEvent) : HttpRespKeep :=
  if headerCb then
    { location := es.foldl (keepEvent (ascii "Location")) k.location
      auth := es.foldl (keepEvent (ascii "Authorization")) k.auth
      cookie := es.foldl (keepEvent (ascii "Set-Cookie")) k.cookie }
  else k

/-- The blocks that events allocate for the kept fields. -/
def keepBlocks (headerCb : Bool) (es : List HttpEvent) : Nat :=
  if headerCb then
    copies (ascii "Location") es + copies (ascii "Authorization") es +
      copies (ascii "Set-Cookie") es
  else 0

/-- What events do when bytes were received before, and the buffer else has an old size. -/
structure EventsSpec (s t : HttpsState) (old : Nat) (received : List UInt8)
    (es : List HttpEvent) : Prop where
  crashed : t.crashed = false
  holds : t.Holds (if firstData es = [] then old else 0) (es.foldl receiveEvent received)
  respKeep : t.respKeep = keepFields s.headerCb s.respKeep es
  calls : t.calls = s.calls ++ eventCalls s.headerCb s.bodyCb received es
  blocks : t.blocks + s.data.isSome.toNat =
    s.blocks + t.data.isSome.toNat + keepBlocks s.headerCb es

/-- A name that compares equal has the first byte. -/
theorem head_of_strcmp {key name : List UInt8} {c : UInt8} (hc : c ≠ 0)
    (h : strcmp key (c :: name) = 0) : key.head? = some c := by
  cases key with
  | nil =>
    rw [strcmp] at h
    have : c.toNat = 0 := by omega
    exact absurd (UInt8.toNat_inj.mp this) hc
  | cons d key =>
    rw [strcmp] at h
    split at h
    · next hd => rw [List.head?_cons, hd]
    · next hd =>
      have : d.toNat = c.toNat := by omega
      exact absurd (UInt8.toNat_inj.mp this) hd

/-- The block of a header line. -/
theorem copies_onHeader (name key value : List UInt8) (copied : Bool) :
    copies name [.onHeader key value copied] =
      if strcmp key name = 0 then copied.toNat else 0 := by
  cases copied <;> by_cases h : strcmp key name = 0 <;> simp [copies, h]

/-- A header line: the kept names differ. -/
theorem onHeader_spec (old : Nat) (received key value : List UInt8) (copied : Bool)
    (h : s.Holds old received) (hcrashed : s.crashed = false) :
    EventsSpec s (s.onHeader key value copied) old received [.onHeader key value copied] := by
  obtain ⟨hdata, hfill, hsize⟩ := h
  have hauth : strcmp key (ascii "Location") = 0 → strcmp key (ascii "Authorization") ≠ 0 := by
    intro hl ha
    have hl := head_of_strcmp (c := 76) (by decide) hl
    have ha := head_of_strcmp (c := 65) (by decide) ha
    exact absurd (Option.some.inj (hl.symm.trans ha)) (by decide)
  have hcookie : strcmp key (ascii "Location") = 0 → strcmp key (ascii "Set-Cookie") ≠ 0 := by
    intro hl hc
    have hl := head_of_strcmp (c := 76) (by decide) hl
    have hc := head_of_strcmp (c := 83) (by decide) hc
    exact absurd (Option.some.inj (hl.symm.trans hc)) (by decide)
  have hboth : strcmp key (ascii "Authorization") = 0 → strcmp key (ascii "Set-Cookie") ≠ 0 := by
    intro ha hc
    have ha := head_of_strcmp (c := 65) (by decide) ha
    have hc := head_of_strcmp (c := 83) (by decide) hc
    exact absurd (Option.some.inj (ha.symm.trans hc)) (by decide)
  unfold onHeader
  by_cases hcb : s.headerCb = true
  · rw [if_pos hcb]
    by_cases hl : strcmp key (ascii "Location") = 0
    · simp only [hl, if_true]
      refine ⟨hcrashed, ⟨hdata, hfill, hsize⟩, ?_, ?_, ?_⟩
      · simp [keepFields, hcb, keepEvent, hl, hauth hl, hcookie hl, keep]
      · simp [eventCalls, hcb, keep]
      · simp only [keepBlocks, hcb, copies_onHeader, hl, hauth hl, hcookie hl, keep, if_true,
          if_false]
        omega
    · by_cases ha : strcmp key (ascii "Authorization") = 0
      · simp only [hl, ha, if_true, if_false]
        refine ⟨hcrashed, ⟨hdata, hfill, hsize⟩, ?_, ?_, ?_⟩
        · simp [keepFields, hcb, keepEvent, hl, ha, hboth ha, keep]
        · simp [eventCalls, hcb, keep]
        · simp only [keepBlocks, hcb, copies_onHeader, hl, ha, hboth ha, keep, if_true, if_false]
          omega
      · by_cases hc : strcmp key (ascii "Set-Cookie") = 0
        · simp only [hl, ha, hc, if_true, if_false]
          refine ⟨hcrashed, ⟨hdata, hfill, hsize⟩, ?_, ?_, ?_⟩
          · simp [keepFields, hcb, keepEvent, hl, ha, hc, keep]
          · simp [eventCalls, hcb, keep]
          · simp only [keepBlocks, hcb, copies_onHeader, hl, ha, hc, keep, if_true, if_false]
            omega
        · simp only [hl, ha, hc, if_false]
          refine ⟨hcrashed, ⟨hdata, hfill, hsize⟩, ?_, ?_, ?_⟩
          · simp [keepFields, hcb, keepEvent, hl, ha, hc]
          · simp [eventCalls, hcb]
          · simp [keepBlocks, hcb, copies, hl, ha, hc]
  · rw [if_neg hcb]
    refine ⟨hcrashed, ⟨hdata, hfill, hsize⟩, ?_, ?_, ?_⟩
    · simp [keepFields, hcb]
    · simp [eventCalls, hcb]
    · simp [keepBlocks, hcb]

/-- Data, unless it is for an old size. -/
theorem onData_spec (old : Nat) (received bytes : List UInt8) (grown : Bool)
    (h : s.Holds old received) (hcrashed : s.crashed = false)
    (hroom : received = [] → bytes ≠ [] → old < bytes.length)
    (hblocks : s.data.isSome.toNat ≤ s.blocks) :
    EventsSpec s (s.onData bytes grown) old received [.onData bytes grown] := by
  by_cases hbytes : bytes = []
  · have hsame : s.onData bytes grown = s := by rw [onData, if_pos hbytes]
    rw [hsame]
    refine ⟨hcrashed, ?_, ?_, ?_, ?_⟩
    · simpa [firstData, receiveEvent, hbytes] using h
    · simp [keepFields, keepEvent]
    · simp [eventCalls]
    · simp [keepBlocks, copies]
  · have hgrow := onData_grow grown h hbytes (fun hnil ↦ hroom hnil hbytes)
    have hsome : s.data.isSome.toNat = if received = [] then 0 else 1 := by
      rw [h.data]
      split <;> rfl
    have hpos (hne : received ≠ []) : s.data.isSome = true := by
      rw [h.data, if_neg hne]
      rfl
    rw [hgrow]
    cases grown with
    | true =>
      have hne : received ++ bytes ≠ [] := List.append_ne_nil_of_right_ne_nil _ hbytes
      refine ⟨hcrashed, ⟨?_, ?_, ?_⟩, ?_, ?_, ?_⟩
      · simp [receiveEvent, hbytes]
      · simp [receiveEvent, hbytes]
      · simp [receiveEvent, hbytes]
      · simp [keepFields, keepEvent]
      · simp [eventCalls]
      · by_cases hnil : received = [] <;> simp [keepBlocks, copies, hsome, hnil]
    | false =>
      refine ⟨hcrashed, ⟨?_, ?_, ?_⟩, ?_, ?_, ?_⟩
      · simp [receiveEvent, hbytes]
      · simp [receiveEvent, hbytes]
      · simp [receiveEvent, hbytes, firstData]
      · simp [keepFields, keepEvent]
      · simp [eventCalls]
      · rw [hsome] at hblocks
        by_cases hnil : received = []
        · simp [keepBlocks, copies, hsome, hnil]
        · rw [if_neg hnil] at hblocks
          simp [keepBlocks, copies, hsome, hnil]
          omega

/-- The end of an answer. -/
theorem onFinish_spec (old : Nat) (received : List UInt8) (h : s.Holds old received)
    (hcrashed : s.crashed = false) : EventsSpec s s.onFinish old received [.onFinish] := by
  obtain ⟨hdata, hfill, hsize⟩ := h
  have htake : (s.data.getD []).take s.fillSize = received := by
    rw [hdata, hfill]
    split
    · next hnil => simp [hnil]
    · simp
  have hcond : s.fillSize ≠ 0 ↔ received ≠ [] := by
    rw [hfill, ne_eq, List.length_eq_zero_iff]
  unfold onFinish
  split
  · next h =>
    refine ⟨hcrashed, ⟨hdata, hfill, hsize⟩, ?_, ?_, ?_⟩
    · simp [keepFields, keepEvent]
    · simp [eventCalls, hcond.mp h.1, h.2, htake]
    · simp [keepBlocks, copies]
  · next h =>
    rw [hcond] at h
    refine ⟨hcrashed, ⟨hdata, hfill, hsize⟩, ?_, ?_, ?_⟩
    · simp [keepFields, keepEvent]
    · simp [eventCalls, h]
    · simp [keepBlocks, copies]

/-- An event of the handler. -/
theorem handler_spec (old : Nat) (received : List UInt8) (e : HttpEvent)
    (h : s.Holds old received) (hcrashed : s.crashed = false)
    (hroom : received = [] → firstData [e] ≠ [] → old < (firstData [e]).length)
    (hblocks : s.data.isSome.toNat ≤ s.blocks) : EventsSpec s (s.handler e) old received [e] := by
  have hnot : ¬ s.crashed = true := by simp [hcrashed]
  cases e with
  | onHeader key value copied =>
    rw [handler, if_neg hnot]
    exact onHeader_spec old received key value copied h hcrashed
  | onFinish =>
    rw [handler, if_neg hnot]
    exact onFinish_spec old received h hcrashed
  | onData bytes grown =>
    rw [handler, if_neg hnot]
    refine onData_spec old received bytes grown h hcrashed (fun hnil hne ↦ ?_) hblocks
    have hfirst : firstData [.onData bytes grown] = bytes := by rw [firstData, if_neg hne]
    rw [hfirst] at hroom
    exact hroom hnil hne

/-- The first data of one event more. -/
theorem firstData_cons (e : HttpEvent) (es : List HttpEvent) :
    firstData (e :: es) = if firstData [e] = [] then firstData es else firstData [e] := by
  cases e with
  | onHeader key value copied => rfl
  | onFinish => rfl
  | onData bytes grown => by_cases h : bytes = [] <;> simp [firstData, h]

/-- The event has no data, or all of it is first. -/
theorem firstData_singleton (e : HttpEvent) :
    (firstData [e] = [] ∧ ∀ received, receiveEvent received e = received) ∨
      ∃ bytes grown, e = .onData bytes grown ∧ bytes ≠ [] ∧ firstData [e] = bytes := by
  cases e with
  | onHeader key value copied => exact .inl ⟨rfl, fun _ ↦ rfl⟩
  | onFinish => exact .inl ⟨rfl, fun _ ↦ rfl⟩
  | onData bytes grown =>
    by_cases h : bytes = []
    · exact .inl ⟨by simp [firstData, h], fun _ ↦ by simp [receiveEvent, h]⟩
    · exact .inr ⟨bytes, grown, rfl, h, by simp [firstData, h]⟩

/-- An event without data receives nothing. -/
theorem receiveEvent_of_firstData {e : HttpEvent} (h : firstData [e] = [])
    (received : List UInt8) : receiveEvent received e = received := by
  rcases firstData_singleton e with ⟨_, hsame⟩ | ⟨bytes, grown, _, hne, hfirst⟩
  · exact hsame received
  · exact absurd (hfirst.symm.trans h) hne

/-- Events without data receive nothing. -/
theorem received_of_firstData {es : List HttpEvent} (h : firstData es = [])
    {received : List UInt8} : es.foldl receiveEvent received = received := by
  induction es with
  | nil => rfl
  | cons e es ih =>
    rw [firstData_cons] at h
    rcases firstData_singleton e with ⟨he, hsame⟩ | ⟨bytes, grown, _, hne, he⟩
    · rw [if_pos he] at h
      rw [List.foldl_cons, hsame, ih h]
    · rw [he, if_neg hne] at h
      exact absurd h hne

/-- The events without a crash: none starts with data for an old size. -/
theorem events_spec (old : Nat) (received : List UInt8) (es : List HttpEvent)
    (h : s.Holds old received) (hcrashed : s.crashed = false)
    (hroom : received = [] → firstData es ≠ [] → old < (firstData es).length)
    (hblocks : s.data.isSome.toNat ≤ s.blocks) :
    EventsSpec s (es.foldl handler s) old received es := by
  induction es generalizing s old received with
  | nil =>
    refine ⟨hcrashed, h, ?_, ?_, ?_⟩
    · simp [keepFields]
    · simp [eventCalls]
    · simp [keepBlocks, copies]
  | cons e es ih =>
    have hframe := frame_handler s e
    have hone := handler_spec old received e h hcrashed (fun hnil hne ↦ by
      have := hroom hnil
      rw [firstData_cons, if_neg hne] at this
      exact this hne) hblocks
    have hblocks' : (s.handler e).data.isSome.toNat ≤ (s.handler e).blocks := by
      have := hone.blocks
      omega
    have hrest := ih (if firstData [e] = [] then old else 0) (receiveEvent received e) hone.holds
      hone.crashed (fun hnil hne ↦ ?_) hblocks'
    · refine ⟨hrest.crashed, ?_, ?_, ?_, ?_⟩
      · have hold := hrest.holds
        rw [firstData_cons]
        by_cases hfirst : firstData [e] = []
        · simpa [hfirst] using hold
        · simpa [hfirst] using hold
      · rw [List.foldl_cons, hrest.respKeep, hframe.headerCb, hone.respKeep]
        unfold keepFields
        split <;> rfl
      · rw [List.foldl_cons, hrest.calls, hframe.headerCb, hframe.bodyCb, hone.calls]
        simp [eventCalls]
      · have hrest := hrest.blocks
        have hone := hone.blocks
        have hkeep : keepBlocks s.headerCb (e :: es) =
            keepBlocks s.headerCb [e] + keepBlocks s.headerCb es := by
          unfold keepBlocks
          split
          · simp only [copies, List.countP_cons, List.countP_nil]
            omega
          · rfl
        rw [hframe.headerCb] at hrest
        rw [List.foldl_cons, hkeep]
        omega
    · by_cases hfirst : firstData [e] = []
      · rw [receiveEvent_of_firstData hfirst] at hnil
        rw [if_pos hfirst]
        have := hroom hnil
        rw [firstData_cons, if_pos hfirst] at this
        exact this hne
      · rw [if_neg hfirst]
        exact List.length_pos_iff.mpr hne

/-- The events with a crash: they start with data for an old size. -/
theorem events_crash (old : Nat) (es : List HttpEvent) (h : s.Holds old [])
    (hcrashed : s.crashed = false) (hfirst : firstData es ≠ [])
    (hroom : (firstData es).length ≤ old) (hblocks : s.data.isSome.toNat ≤ s.blocks) :
    (es.foldl handler s).crashed = true := by
  induction es generalizing s with
  | nil => exact absurd rfl hfirst
  | cons e es ih =>
    rw [firstData_cons] at hfirst hroom
    rw [List.foldl_cons]
    rcases firstData_singleton e with ⟨he, hsame⟩ | ⟨bytes, grown, rfl, hne, he⟩
    · rw [if_pos he] at hfirst hroom
      have hone := handler_spec old [] e h hcrashed (fun _ hne ↦ absurd he hne) hblocks
      have hholds := hone.holds
      have hcount := hone.blocks
      rw [if_pos he, List.foldl_cons, List.foldl_nil, hsame] at hholds
      exact ih hholds hone.crashed hfirst hroom (by omega)
    · rw [if_neg (by rw [he]; exact hne), he] at hroom
      have hcrash : (s.handler (.onData bytes grown)).crashed = true := by
        rw [handler, if_neg (by simp [hcrashed])]
        exact onData_crash h hne hroom
      rw [events_of_crashed hcrash]
      exact hcrash

/-! ### A round -/

/-- Between two rounds: nothing is left of the last answer but the size of its buffer. -/
structure Idle (s : HttpsState) : Prop where
  respKeep : s.respKeep = ⟨none, none, none⟩
  data : s.data = none
  fillSize : s.fillSize = 0
  crashed : s.crashed = false
  result : s.result = none

/-- The state before the handling of the answer. -/
def performed (s : HttpsState) (r : HttpRound) : HttpsState :=
  r.events.foldl handler { s with sent := s.sent ++ [s.client] }

end HttpsState

namespace HttpRound

/-- The first data of the answer fits into a buffer of an old size. -/
def Crashes (r : HttpRound) (old : Nat) : Prop :=
  firstData r.events ≠ [] ∧ (firstData r.events).length ≤ old

instance (r : HttpRound) (old : Nat) : Decidable (r.Crashes old) :=
  inferInstanceAs (Decidable (_ ∧ _))

/-- The size of the buffer after the answer. -/
def leftover (old : Nat) (r : HttpRound) : Nat :=
  if firstData r.events = [] then old else r.received.length

/-- The value of a header field that the client has when there is a header callback. -/
def keptIf (r : HttpRound) (headerCb : Bool) (name : List UInt8) : Option (List UInt8) :=
  if headerCb then r.kept name else none

/-- The answer is taken for a redirect. -/
def IsRedirect (r : HttpRound) : Prop := r.err = 0 ∧ 301 ≤ r.status ∧ r.status < 400

instance (r : HttpRound) : Decidable r.IsRedirect := inferInstanceAs (Decidable (_ ∧ _ ∧ _))

/-- A location that is joined with the last URL. -/
def relative (location : List UInt8) : Bool := strncmp location (ascii "http") 4 ≠ 0

/-- The URL that an answer redirects to. -/
def target (r : HttpRound) (headerCb : Bool) (lastUrl : List UInt8) : Option (List UInt8) :=
  (r.keptIf headerCb (ascii "Location")).bind (fun location ↦
    if r.copied then
      if relative location then if r.joined then joinUrl lastUrl location else none
      else some location
    else none)

/-- The blocks of kept header fields that no pointer keeps. -/
def lostFields (r : HttpRound) (headerCb : Bool) : Nat :=
  if headerCb then
    r.lost (ascii "Location") + r.lost (ascii "Authorization") + r.lost (ascii "Set-Cookie")
  else 0

/-- The copy of a relative location, whose pointer is overwritten. -/
def lostCopy (r : HttpRound) (headerCb : Bool) : Nat :=
  match r.keptIf headerCb (ascii "Location") with
  | some location => (r.copied && relative location).toNat
  | none => 0

end HttpRound

/-- The fields kept are at most the blocks for them. -/
theorem isSome_kept_le (name : List UInt8) (es : List HttpEvent) (old : Option (List UInt8)) :
    (es.foldl (keepEvent name) old).isSome.toNat ≤ old.isSome.toNat + copies name es := by
  induction es generalizing old with
  | nil => exact Nat.le_add_right _ _
  | cons e es ih =>
    have hone : (keepEvent name old e).isSome.toNat ≤ old.isSome.toNat + copies name [e] := by
      cases e with
      | onHeader key value copied =>
        rw [HttpsState.copies_onHeader, keepEvent]
        split
        · cases copied <;> simp
        · exact Nat.le_add_right _ _
      | onData bytes grown => exact Nat.le_add_right _ _
      | onFinish => exact Nat.le_add_right _ _
    have hcons : copies name (e :: es) = copies name [e] + copies name es := by
      simp only [copies, List.countP_cons, List.countP_nil]
      omega
    have hrest := ih (keepEvent name old e)
    rw [List.foldl_cons, hcons]
    omega

namespace HttpsState

variable {s t : HttpsState} {r : HttpRound}

/-- A round crashes exactly when its first data fits into the old size. -/
theorem performed_crashed (h : s.Idle) :
    ((s.performed r).crashed = true ↔ r.Crashes s.size) := by
  have hzero : ({ s with sent := s.sent ++ [s.client] } : HttpsState).data.isSome.toNat ≤
      s.blocks := by
    show s.data.isSome.toNat ≤ s.blocks
    rw [h.data]
    exact Nat.zero_le _
  have hholds : ({ s with sent := s.sent ++ [s.client] } : HttpsState).Holds s.size [] :=
    ⟨h.data, h.fillSize, rfl⟩
  by_cases hcrash : r.Crashes s.size
  · exact iff_of_true (events_crash _ _ hholds h.crashed hcrash.1 hcrash.2 hzero) hcrash
  · have hspec := events_spec s.size [] r.events hholds h.crashed (fun _ hne ↦ by
      refine Nat.lt_of_not_le fun hle ↦ hcrash ⟨hne, hle⟩) hzero
    exact iff_of_false (by rw [performed, hspec.crashed]; decide) hcrash

/-- What the events of a round leave, when it does not crash. -/
theorem performed_spec (h : s.Idle) (hcrash : ¬ r.Crashes s.size) :
    (s.performed r).size = HttpRound.leftover s.size r ∧
      (s.performed r).respKeep =
        { location := r.keptIf s.headerCb (ascii "Location")
          auth := r.keptIf s.headerCb (ascii "Authorization")
          cookie := r.keptIf s.headerCb (ascii "Set-Cookie") } ∧
      (s.performed r).calls = s.calls ++ eventCalls s.headerCb s.bodyCb [] r.events ∧
      (s.performed r).blocks = s.blocks + (s.performed r).data.isSome.toNat +
        r.lostFields s.headerCb + (s.performed r).respKeep.location.isSome.toNat +
        (s.performed r).respKeep.auth.isSome.toNat +
        (s.performed r).respKeep.cookie.isSome.toNat := by
  have hzero : ({ s with sent := s.sent ++ [s.client] } : HttpsState).data.isSome.toNat = 0 := by
    show s.data.isSome.toNat = 0
    rw [h.data]
    rfl
  have hspec := events_spec (s := { s with sent := s.sent ++ [s.client] }) s.size [] r.events
    ⟨h.data, h.fillSize, rfl⟩ h.crashed (fun _ hne ↦ Nat.lt_of_not_le fun hle ↦ hcrash ⟨hne, hle⟩)
    (Nat.le_trans (Nat.le_of_eq hzero) (Nat.zero_le _))
  have hkeep : (s.performed r).respKeep =
        { location := r.keptIf s.headerCb (ascii "Location")
          auth := r.keptIf s.headerCb (ascii "Authorization")
          cookie := r.keptIf s.headerCb (ascii "Set-Cookie") } := by
    rw [performed, hspec.respKeep, h.respKeep]
    simp only [keepFields, HttpRound.keptIf]
    split <;> rfl
  refine ⟨?_, hkeep, hspec.calls, ?_⟩
  · have hsize := hspec.holds.size
    rw [performed, hsize, HttpRound.leftover]
    by_cases hfirst : firstData r.events = []
    · rw [received_of_firstData hfirst, if_pos rfl, if_pos hfirst, if_pos hfirst]
    · rw [if_neg hfirst, if_neg hfirst, HttpRound.received]
      split
      · next hnil => rw [hnil]; rfl
      · rfl
  · have hblocks := hspec.blocks
    rw [hzero] at hblocks
    have hl := isSome_kept_le (ascii "Location") r.events none
    have ha := isSome_kept_le (ascii "Authorization") r.events none
    have hc := isSome_kept_le (ascii "Set-Cookie") r.events none
    rw [hkeep]
    simp only [HttpRound.keptIf, HttpRound.lostFields, HttpRound.lost, HttpRound.kept, keepBlocks,
      performed, Option.isSome_none, Bool.toNat_false] at hl ha hc hblocks ⊢
    cases hcb : s.headerCb with
    | true =>
      simp only [hcb, if_true] at hblocks ⊢
      omega
    | false =>
      simp only [hcb, Bool.false_eq_true, if_false, Option.isSome_none, Bool.toNat_false]
        at hblocks ⊢
      omega

end HttpsState

end Esp32Robot.Http

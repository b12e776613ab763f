import Mathlib.Algebra.GroupWithZero.Nat
import Esp32Robot.Http.HttpsRounds

/-!
# Runs of the HTTPS client

The requests that `https_request_advance` sends one after another: each follows from the answer to
the one before. A round crashes, returns, or goes on with a redirect, and the state between two
rounds is a function of what was answered.
-/

namespace Esp32Robot.Http

open Esp32Robot.Base

/-! ### Header fields -/

namespace HttpClient

variable {c : HttpClient} {key key' : List UInt8} {value : Option (List UInt8)}

/-- Names that are the same have the same names. -/
theorem sameField_trans {a b d : List UInt8} (h : sameField a b = true) :
    sameField a d = sameField b d := by
  simp only [sameField, beq_iff_eq] at h ⊢
  rw [h]

/-- In either order. -/
theorem sameField_comm (a b : List UInt8) : sameField a b = sameField b a := by
  simp only [sameField]
  exact Bool.beq_comm

/-- The value of a field that was set, and of the others. -/
theorem header_setHeader :
    (c.setHeader key value).header key' = if sameField key key' then value else c.header key' := by
  have hold : (c.headers.filter (fun h ↦ !sameField h.1 key)).find?
      (fun h ↦ sameField h.1 key') =
        if sameField key key' then none else c.headers.find? (fun h ↦ sameField h.1 key') := by
    rw [List.find?_filter]
    cases hsame : sameField key key' with
    | true =>
      rw [if_pos rfl, List.find?_eq_none]
      intro h _
      rw [sameField_comm h.1 key', ← sameField_trans hsame, sameField_comm key h.1]
      cases sameField h.1 key <;> simp
    | false =>
      rw [if_neg (by decide)]
      congr 1
      funext h
      cases hkey : sameField h.1 key with
      | true => simp [sameField_trans hkey, hsame]
      | false => simp
  rw [header, setHeader, List.find?_append, hold, header]
  cases hsame : sameField key key' with
  | true => cases value <;> simp [hsame]
  | false => cases value <;> simp [hsame]

end HttpClient

/-! ### One request after another -/

/-- The request after a redirect from a last URL to the next. It goes there when the client takes
the URL, and else to the URL of the request before. -/
structure Follows (headerCb : Bool) (last : List UInt8) (m : HttpClient) (r : HttpRound)
    (next : List UInt8) (m' : HttpClient) : Prop where
  redirect : r.IsRedirect
  target : r.target headerCb last = some next
  url : m'.url = if r.urlSet then next else m.url
  message : (m'.method, m'.postField) =
    if HttpsState.keepsMethod r.status then (m.method, m.postField) else (.get, none)
  auth : m'.header (ascii "Authorization") =
    match r.keptIf headerCb (ascii "Authorization") with
    | some value => if isSameOrigin last next then some value else none
    | none => m.header (ascii "Authorization")
  cookie : m'.header (ascii "Cookie") =
    (r.keptIf headerCb (ascii "Set-Cookie")).or (m.header (ascii "Cookie"))
  contentType : m'.header (ascii "Content-Type") =
    if HttpsState.keepsMethod r.status then m.header (ascii "Content-Type") else none
  others : ∀ key, sameField (ascii "Authorization") key = false →
    sameField (ascii "Cookie") key = false → sameField (ascii "Content-Type") key = false →
    m'.header key = m.header key

namespace HttpsState

variable {s t : HttpsState} {r : HttpRound}

/-- A round that returns. -/
structure Ended (s : HttpsState) (r : HttpRound) (t : HttpsState) : Prop where
  crashed : t.crashed = false
  result : t.result = some (if r.err = 0 then if r.IsRedirect then -1 else 0 else r.err)
  stop : r.IsRedirect → s.redirectCount < s.redirectLimit →
    r.target s.headerCb s.lastUrl = none
  sent : t.sent = s.sent ++ [s.client]
  calls : t.calls = s.calls ++ eventCalls s.headerCb s.bodyCb [] r.events
  blocks : t.blocks + s.lastUrlCopied.toNat = s.blocks + r.lostFields s.headerCb +
    if r.IsRedirect ∧ s.redirectCount < s.redirectLimit then r.lostCopy s.headerCb else 0

/-- A round that goes on with a redirect. -/
structure Continued (s : HttpsState) (r : HttpRound) (t : HttpsState) : Prop where
  idle : t.Idle
  follows : Follows s.headerCb s.lastUrl s.client r t.lastUrl t.client
  lastUrlCopied : t.lastUrlCopied = true
  count : s.redirectCount < s.redirectLimit
  redirectCount : t.redirectCount = s.redirectCount + 1
  redirectLimit : t.redirectLimit = s.redirectLimit
  headerCb : t.headerCb = s.headerCb
  bodyCb : t.bodyCb = s.bodyCb
  size : t.size = HttpRound.leftover s.size r
  sent : t.sent = s.sent ++ [s.client]
  calls : t.calls = s.calls ++ eventCalls s.headerCb s.bodyCb [] r.events
  blocks : t.blocks + s.lastUrlCopied.toNat =
    s.blocks + r.lostFields s.headerCb + r.lostCopy s.headerCb + 1

/-- The method and the body after a redirect. -/
def redirectClient (c : HttpClient) (status : Int) : HttpClient :=
  if keepsMethod status then c else { c.clearPostField with method := .get }

/-- Dropping the body drops the content type. -/
theorem header_redirectClient (c : HttpClient) (status : Int) (key : List UInt8) :
    (redirectClient c status).header key =
      if keepsMethod status = false ∧ sameField (ascii "Content-Type") key = true then none
      else c.header key := by
  unfold redirectClient
  split
  · next hkeeps => rw [if_neg (by simp [hkeeps])]
  · next hkeeps =>
    show (c.setHeader (ascii "Content-Type") none).header key = _
    rw [HttpClient.header_setHeader]
    simp [hkeeps]

/-- How the handling of a redirect goes: it fails, or leads to the URL. -/
theorem handleRedirect_cases {headerCb : Bool}
    (h : s.respKeep.location = r.keptIf headerCb (ascii "Location")) :
    (r.target headerCb s.lastUrl = none ∧ ∃ c, s.handleRedirect r =
      ({ s with client := c, blocks := s.blocks + r.lostCopy headerCb }, false)) ∨
    ∃ url, r.target headerCb s.lastUrl = some url ∧ s.handleRedirect r =
      (redirectTo
        { s with
          client := redirectClient s.client r.status
          blocks := s.blocks + 1 + r.lostCopy headerCb } url r.urlSet, true) := by
  rw [HttpRound.target, HttpRound.lostCopy, ← h]
  cases hlocation : s.respKeep.location with
  | none =>
    refine .inl ⟨rfl, s.client, ?_⟩
    rw [handleRedirect]
    simp only [hlocation]
    rfl
  | some location =>
    have hset : (if keepsMethod r.status then s
        else { s with client := { s.client.clearPostField with method := .get } }) =
        { s with client := redirectClient s.client r.status } := by
      rw [redirectClient]
      split <;> rfl
    cases hcopied : r.copied with
    | false =>
      refine .inl ⟨rfl, redirectClient s.client r.status, ?_⟩
      rw [handleRedirect]
      simp only [hlocation, hset, hcopied]
      rfl
    | true =>
      by_cases hhttp : strncmp location (ascii "http") 4 = 0
      · have hrelative : HttpRound.relative location = false := by simp [HttpRound.relative, hhttp]
        refine .inr ⟨location, by simp [hrelative], ?_⟩
        rw [handleRedirect]
        simp only [hlocation, hset, hcopied, hhttp, hrelative]
        rfl
      · have hrelative : HttpRound.relative location = true := by simp [HttpRound.relative, hhttp]
        cases hjoin : joinUrl s.lastUrl location with
        | none =>
          refine .inl ⟨by simp [hrelative, hjoin], redirectClient s.client r.status, ?_⟩
          rw [handleRedirect]
          simp only [hlocation, hset, hcopied, hhttp, hrelative, hjoin]
          rfl
        | some url =>
          cases hjoined : r.joined with
          | false =>
            refine .inl ⟨by simp [hrelative], redirectClient s.client r.status, ?_⟩
            rw [handleRedirect]
            simp only [hlocation, hset, hcopied, hhttp, hrelative, hjoin, hjoined]
            rfl
          | true =>
            refine .inr ⟨url, by simp [hrelative, hjoin], ?_⟩
            rw [handleRedirect]
            simp only [hlocation, hset, hcopied, hhttp, hrelative, hjoin, hjoined]
            rfl

/-- The client after a redirect to a URL. -/
theorem redirectTo_client (s : HttpsState) (url : List UInt8) (urlSet : Bool) :
    (s.redirectTo url urlSet).client.url = (if urlSet then url else s.client.url) ∧
      (s.redirectTo url urlSet).client.method = s.client.method ∧
      (s.redirectTo url urlSet).client.postField = s.client.postField ∧
      ∀ key, (s.redirectTo url urlSet).client.header key =
        if sameField (ascii "Cookie") key = true ∧ s.respKeep.cookie.isSome = true then
          s.respKeep.cookie
        else if sameField (ascii "Authorization") key = true ∧ s.respKeep.auth.isSome = true then
          if isSameOrigin s.lastUrl url then s.respKeep.auth else none
        else s.client.header key := by
  have hauth (key : List UInt8) (same : Bool) :
      (setAuth s.client s.respKeep.auth same).header key =
        if sameField (ascii "Authorization") key = true ∧ s.respKeep.auth.isSome = true then
          if same then s.respKeep.auth else none
        else s.client.header key := by
    cases s.respKeep.auth with
    | none => simp [setAuth]
    | some value => simp [setAuth, HttpClient.header_setHeader]
  have hcookie (c : HttpClient) (key : List UInt8) :
      (setCookie c s.respKeep.cookie).header key =
        if sameField (ascii "Cookie") key = true ∧ s.respKeep.cookie.isSome = true then
          s.respKeep.cookie
        else c.header key := by
    cases s.respKeep.cookie with
    | none => simp [setCookie]
    | some value => simp [setCookie, HttpClient.header_setHeader]
  have hkept (c : HttpClient) : (setCookie c s.respKeep.cookie).method = c.method ∧
      (setCookie c s.respKeep.cookie).postField = c.postField := by
    cases s.respKeep.cookie <;> exact ⟨rfl, rfl⟩
  have hkept' (same : Bool) : (setAuth s.client s.respKeep.auth same).method = s.client.method ∧
      (setAuth s.client s.respKeep.auth same).postField = s.client.postField := by
    cases s.respKeep.auth <;> exact ⟨rfl, rfl⟩
  refine ⟨rfl, (hkept _).1.trans (hkept' _).1, (hkept _).2.trans (hkept' _).2, fun key ↦ ?_⟩
  rw [← hauth, ← hcookie]
  rfl

/-- The blocks of the kept fields are freed. -/
theorem retryPerform_blocks (s : HttpsState) :
    s.retryPerform.blocks = s.blocks - s.data.isSome.toNat - s.respKeep.location.isSome.toNat -
      s.respKeep.auth.isSome.toNat - s.respKeep.cookie.isSome.toNat := rfl

/-- What `_exit` frees. -/
theorem exit_blocks (s : HttpsState) (err : Int) :
    (s.exit err).blocks = s.blocks - s.lastUrlCopied.toNat - s.respKeep.location.isSome.toNat -
      s.respKeep.auth.isSome.toNat - s.respKeep.cookie.isSome.toNat - s.data.isSome.toNat := rfl

/-- The rounds from a state between two: a crash, the end, or a redirect. -/
theorem step_cases (h : s.Idle) (hblocks : s.lastUrlCopied.toNat ≤ s.blocks)
    (ht : s.step r = some t) :
    (r.Crashes s.size ∧ t.crashed = true ∧ t.result = none ∧ t.sent = s.sent ++ [s.client]) ∨
      (¬ r.Crashes s.size ∧ (s.Ended r t ∨ s.Continued r t)) := by
  have hframe : ({ s with sent := s.sent ++ [s.client] } : HttpsState).Frame (s.performed r) :=
    frame_events _ r.events
  have hrun : ¬ (s.crashed = true ∨ s.result ≠ none) := by simp [h.crashed, h.result]
  rw [step, if_neg hrun] at ht
  change some (if (s.performed r).crashed = true then s.performed r else
    (s.performed r).afterPerform r) = some t at ht
  obtain rfl := Option.some.inj ht
  by_cases hcrash : r.Crashes s.size
  · rw [if_pos ((performed_crashed h).mpr hcrash)]
    exact .inl ⟨hcrash, (performed_crashed h).mpr hcrash, hframe.result.trans h.result, hframe.sent⟩
  refine .inr ⟨hcrash, ?_⟩
  have hnot : ¬ (s.performed r).crashed = true := fun hc ↦ hcrash ((performed_crashed h).mp hc)
  obtain ⟨hsize, hkeep, hcalls, hcount⟩ := performed_spec h hcrash
  rw [if_neg hnot]
  have hcrashed := Bool.eq_false_iff.mpr hnot
  generalize s.performed r = p at *
  obtain ⟨hclient, hheader, hbody, hlast, hcopied, hlimit, hredirects, hsent, hresult⟩ := hframe
  dsimp only at hclient hheader hbody hlast hcopied hlimit hredirects hsent hresult
  rw [h.result] at hresult
  have hexit (err : Int) (hnone : ¬ (r.IsRedirect ∧ s.redirectCount < s.redirectLimit))
      (herr : err = if r.err = 0 then if r.IsRedirect then -1 else 0 else r.err) :
      s.Ended r (p.exit err) := by
    refine ⟨hcrashed, congrArg some herr, fun hr hlt ↦ absurd ⟨hr, hlt⟩ hnone, hsent, hcalls, ?_⟩
    rw [if_neg hnone, exit_blocks, hcopied, hcount]
    omega
  unfold afterPerform
  split
  · next herr =>
    split
    · next hstatus =>
      have hredirect : r.IsRedirect := ⟨herr, hstatus⟩
      split
      · next hle =>
        rw [hlimit, hredirects] at hle
        refine .inl (hexit (-1) (fun hlt ↦ ?_) (by rw [if_pos herr, if_pos hredirect]))
        exact Nat.lt_irrefl _ (Nat.lt_of_lt_of_le hlt.2 hle)
      · next hlt =>
        rw [hlimit, hredirects, Nat.not_le] at hlt
        have hlocation : p.respKeep.location = r.keptIf s.headerCb (ascii "Location") := by
          rw [hkeep]
        rcases handleRedirect_cases hlocation with ⟨htarget, c, hhandle⟩ | ⟨url, htarget, hhandle⟩
        · rw [hlast] at htarget
          rw [hhandle]
          refine .inl ⟨hcrashed, ?_, fun _ _ ↦ htarget, hsent, hcalls, ?_⟩
          · rw [if_pos herr, if_pos hredirect]
            rfl
          · rw [if_pos ⟨hredirect, hlt⟩]
            simp only [Bool.false_eq_true, if_false, exit_blocks, hcopied, hcount]
            omega
        · rw [hlast] at htarget
          have hold (key : List UInt8) : (redirectClient p.client r.status).header key =
              if keepsMethod r.status = false ∧ sameField (ascii "Content-Type") key = true then
                none
              else s.client.header key := by
            rw [header_redirectClient, hclient]
          have holdUrl : (redirectClient p.client r.status).url = s.client.url := by
            rw [redirectClient, hclient]
            split <;> rfl
          obtain ⟨c, hc, hurl, hmethod, hpost, hfield⟩ : ∃ c : HttpClient, redirectTo
              { p with
                client := redirectClient p.client r.status
                blocks := p.blocks + 1 + r.lostCopy s.headerCb } url r.urlSet =
              { p with
                client := c
                lastUrl := url
                lastUrlCopied := true
                blocks := p.blocks + 1 + r.lostCopy s.headerCb - p.lastUrlCopied.toNat } ∧ _ :=
            ⟨_, rfl, redirectTo_client _ url r.urlSet⟩
          rw [hc] at hhandle hurl hmethod hpost hfield
          simp only [hkeep, hold, holdUrl, hlast] at hurl hmethod hpost hfield
          rw [hhandle]
          refine .inr ⟨⟨rfl, rfl, rfl, hcrashed, hresult⟩,
            ⟨hredirect, htarget, hurl, ?_, ?_, ?_, ?_, ?_⟩, rfl, hlt, ?_, hlimit, hheader, hbody,
            hsize, hsent, hcalls, ?_⟩
          · show (c.method, c.postField) = _
            rw [hmethod, hpost, redirectClient, hclient]
            split <;> rfl
          · refine (hfield (ascii "Authorization")).trans ?_
            rw [if_neg fun hsame ↦ absurd hsame.1 (by decide)]
            show (if _ ∧ _ then _ else _) = match r.keptIf s.headerCb (ascii "Authorization") with
              | some value => if isSameOrigin s.lastUrl url then some value else none
              | none => s.client.header (ascii "Authorization")
            cases r.keptIf s.headerCb (ascii "Authorization") with
            | none =>
              rw [if_neg (by simp), if_neg fun hsame ↦ absurd hsame.2 (by decide)]
            | some value => rw [if_pos ⟨by decide, rfl⟩]
          · refine (hfield (ascii "Cookie")).trans ?_
            show (if _ ∧ _ then _ else _) = (r.keptIf s.headerCb (ascii "Set-Cookie")).or
              (s.client.header (ascii "Cookie"))
            cases r.keptIf s.headerCb (ascii "Set-Cookie") with
            | none => rw [if_neg (by simp), if_neg fun hsame ↦ absurd hsame.1 (by decide),
                if_neg fun hsame ↦ absurd hsame.2 (by decide), Option.none_or]
            | some value => rw [if_pos ⟨by decide, rfl⟩, Option.some_or]
          · refine (hfield (ascii "Content-Type")).trans ?_
            rw [if_neg fun hsame ↦ absurd hsame.1 (by decide),
              if_neg fun hsame ↦ absurd hsame.1 (by decide)]
            have hsame : sameField (ascii "Content-Type") (ascii "Content-Type") = true := by decide
            show (if _ ∧ _ then none else s.client.header (ascii "Content-Type")) = _
            cases keepsMethod r.status <;> simp [hsame]
          · intro key hauth hcookie htype
            refine (hfield key).trans ?_
            rw [if_neg (by simp [hcookie]), if_neg (by simp [hauth]), if_neg (by simp [htype])]
          · exact congrArg (· + 1) hredirects
          · simp only [if_true, retryPerform_blocks, hcopied, hcount]
            omega
    · next hstatus =>
      have hredirect : ¬ r.IsRedirect := fun hr ↦ hstatus hr.2
      exact .inl (hexit 0 (fun hr ↦ hredirect hr.1) (by rw [if_pos herr, if_neg hredirect]))
  · next herr =>
    exact .inl (hexit r.err (fun hr ↦ herr hr.1.1) (by rw [if_neg herr]))

end HttpsState

/-! ### Runs -/

/-- `last_url` after answers that redirect. -/
def lastUrl (headerCb : Bool) (url : List UInt8) (rs : List HttpRound) : List UInt8 :=
  rs.foldl (fun last r ↦ (r.target headerCb last).getD last) url

/-- Each request follows from the one before and its answer. -/
def Chained (headerCb : Bool) (url : List UInt8) (ms : List HttpClient) (rs : List HttpRound) :
    Prop :=
  ∀ i m r m', ms[i]? = some m → rs[i]? = some r → ms[i + 1]? = some m' →
    Follows headerCb (lastUrl headerCb url (rs.take i)) m r
      (lastUrl headerCb url (rs.take (i + 1))) m'

/-- The blocks that no pointer keeps after answers: of repeated header fields, and the copies of
relative locations while redirects are followed. -/
def leakedBlocks (headerCb : Bool) (limit : Nat) (rs : List HttpRound) : Nat :=
  (rs.map (·.lostFields headerCb)).sum +
    ((rs.take limit).map (fun r ↦ if r.IsRedirect then r.lostCopy headerCb else 0)).sum

/-- A request more that follows from the last. -/
theorem Chained.concat {headerCb : Bool} {url : List UInt8} {ms : List HttpClient}
    {rs : List HttpRound} {m m' : HttpClient} {r : HttpRound}
    (h : Chained headerCb url (ms ++ [m]) rs) (hlength : ms.length = rs.length)
    (hlast : Follows headerCb (lastUrl headerCb url rs) m r (lastUrl headerCb url (rs ++ [r])) m') :
    Chained headerCb url (ms ++ [m] ++ [m']) (rs ++ [r]) := by
  intro i a b a' ha hb ha'
  rcases Nat.lt_or_ge i rs.length with hi | hi
  · rw [List.getElem?_append_left (by simp; omega)] at ha ha'
    rw [List.getElem?_append_left hi] at hb
    rw [List.take_append_of_le_length (by omega), List.take_append_of_le_length (by omega)]
    exact h i a b a' ha hb ha'
  · have hlt := (List.getElem?_eq_some_iff.mp hb).1
    obtain rfl : i = rs.length := by
      rw [List.length_append, List.length_singleton] at hlt
      omega
    rw [List.getElem?_append_left (by simp; omega), ← hlength, List.getElem?_concat_length] at ha
    rw [List.getElem?_concat_length] at hb
    rw [show rs.length + 1 = (ms ++ [m]).length by simp [hlength],
      List.getElem?_concat_length] at ha'
    cases ha
    cases hb
    cases ha'
    rw [List.take_left' rfl, List.take_of_length_le (by simp)]
    exact hlast

/-- An answer after the last request. -/
theorem Chained.answer {headerCb : Bool} {url : List UInt8} {ms : List HttpClient}
    {rs : List HttpRound} {m : HttpClient} (h : Chained headerCb url (ms ++ [m]) rs)
    (hlength : ms.length = rs.length) (r : HttpRound) :
    Chained headerCb url (ms ++ [m]) (rs ++ [r]) := by
  intro i a b a' ha hb ha'
  have hlt := (List.getElem?_eq_some_iff.mp ha').1
  rw [List.length_append, List.length_singleton] at hlt
  rw [List.getElem?_append_left (by omega)] at hb
  rw [List.take_append_of_le_length (by omega), List.take_append_of_le_length (by omega)]
  exact h i a b a' ha hb ha'

/-- One answer more. -/
theorem leakedBlocks_concat (headerCb : Bool) (limit : Nat) (rs : List HttpRound) (r : HttpRound) :
    leakedBlocks headerCb limit (rs ++ [r]) = leakedBlocks headerCb limit rs +
      r.lostFields headerCb +
        if r.IsRedirect ∧ rs.length < limit then r.lostCopy headerCb else 0 := by
  have hsum (l : List Nat) (n : Nat) : (l ++ [n]).sum = l.sum + n := by
    rw [List.sum_append_nat, List.sum_cons, List.sum_nil, Nat.add_zero]
  unfold leakedBlocks
  rw [List.map_append, List.map_singleton, hsum]
  rcases Nat.lt_or_ge rs.length limit with hlt | hge
  · rw [List.take_of_length_le (by simp; omega), List.take_of_length_le (Nat.le_of_lt hlt),
      List.map_append, List.map_singleton, hsum]
    simp only [hlt, and_true]
    omega
  · rw [List.take_append_of_le_length hge, if_neg (fun h ↦ absurd h.2 (Nat.not_lt.mpr hge))]
    omega

namespace HttpsState

variable {s t st : HttpsState} {r : HttpRound} {rs : List HttpRound}

/-- A request that has not returned after answers. -/
structure Going (st : HttpsState) (rs : List HttpRound) (s : HttpsState) : Prop where
  idle : s.Idle
  headerCb : s.headerCb = st.headerCb
  bodyCb : s.bodyCb = st.bodyCb
  redirectLimit : s.redirectLimit = st.redirectLimit
  redirectCount : s.redirectCount = rs.length
  bound : rs.length ≤ st.redirectLimit
  lastUrl : s.lastUrl = Http.lastUrl st.headerCb st.lastUrl rs
  size : s.size = rs.foldl HttpRound.leftover 0
  length : s.sent.length = rs.length
  first : (s.sent ++ [s.client]).head? = some st.client
  chained : Chained st.headerCb st.lastUrl (s.sent ++ [s.client]) rs
  calls : s.calls = rs.flatMap (fun r ↦ eventCalls st.headerCb st.bodyCb [] r.events)
  blocks : s.blocks = s.lastUrlCopied.toNat + leakedBlocks st.headerCb st.redirectLimit rs

/-- A redirect more. -/
theorem Going.step (h : Going st rs s) (ht : s.Continued r t) : Going st (rs ++ [r]) t := by
  have hbound := ht.count
  rw [h.redirectCount, h.redirectLimit] at hbound
  have hfollows := ht.follows
  rw [h.lastUrl, h.headerCb] at hfollows
  have hlast : t.lastUrl = Http.lastUrl st.headerCb st.lastUrl (rs ++ [r]) := by
    rw [Http.lastUrl, List.foldl_append]
    show t.lastUrl = (r.target st.headerCb (Http.lastUrl st.headerCb st.lastUrl rs)).getD _
    rw [hfollows.target, Option.getD_some]
  refine ⟨ht.idle, ht.headerCb.trans h.headerCb, ht.bodyCb.trans h.bodyCb,
    ht.redirectLimit.trans h.redirectLimit, ?_, ?_, hlast, ?_, ?_, ?_, ?_, ?_, ?_⟩
  · rw [ht.redirectCount, h.redirectCount, List.length_append, List.length_singleton]
  · rw [List.length_append, List.length_singleton]
    exact hbound
  · rw [ht.size, h.size, List.foldl_append]
    rfl
  · rw [ht.sent, List.length_append, List.length_append, h.length]
    rfl
  · rw [ht.sent, List.head?_append, h.first]
    rfl
  · rw [ht.sent]
    rw [hlast] at hfollows
    exact h.chained.concat h.length hfollows
  · rw [ht.calls, h.calls, List.flatMap_append, List.flatMap_singleton, h.headerCb, h.bodyCb]
  · have hblocks := ht.blocks
    rw [h.blocks, h.headerCb] at hblocks
    rw [leakedBlocks_concat, if_pos ⟨ht.follows.redirect, hbound⟩, ht.lastUrlCopied,
      Bool.toNat_true]
    omega

/-- The state of a known method before the first round. -/
theorem going_start {maxRedirects : UInt8} {req : HttpsRequest}
    (h : (start maxRedirects req).result = none) :
    Going (start maxRedirects req) [] (start maxRedirects req) := by
  refine ⟨⟨rfl, rfl, rfl, rfl, h⟩, rfl, rfl, rfl, rfl, Nat.zero_le _, rfl, rfl, rfl, rfl, ?_, rfl,
    ?_⟩
  · intro i m r m' _ hr
    simp at hr
  · simp [start, leakedBlocks]

/-- A request that goes on takes another step. -/
theorem open_of_step (ht : s.step r = some t) : s.crashed = false ∧ s.result = none := by
  unfold step at ht
  split at ht
  · cases ht
  · next h =>
    refine ⟨Bool.eq_false_iff.mpr fun hc ↦ h (.inl hc), ?_⟩
    exact Classical.not_not.mp fun hne ↦ h (.inr hne)

/-- What has happened in a run: nothing yet, or a last answer to a request that went on. -/
theorem run_cases (hst : Going st [] st) (h : run step st rs = some s) :
    (rs = [] ∧ s = st) ∨ ∃ rs' r u, rs = rs' ++ [r] ∧ Going st rs' u ∧
      ((r.Crashes u.size ∧ s.crashed = true ∧ s.result = none ∧ s.sent = u.sent ++ [u.client]) ∨
        (¬ r.Crashes u.size ∧ (u.Ended r s ∨ u.Continued r s))) := by
  induction rs using concat_induction generalizing s with
  | nil => exact .inl ⟨rfl, (Option.some.inj h).symm⟩
  | concat rs r ih =>
    obtain ⟨u, hu, he⟩ := run_concat_some.mp h
    obtain ⟨hcrashed, hresult⟩ := open_of_step he
    have hgoing : Going st rs u := by
      rcases ih hu with ⟨rfl, rfl⟩ | ⟨rs', r', v, rfl, hv, hcrash | ⟨_, hended | hcontinued⟩⟩
      · exact hst
      · exact absurd (hcrash.2.1.symm.trans hcrashed) (by decide)
      · exact absurd (hended.result.symm.trans hresult) (by simp)
      · exact hv.step hcontinued
    refine .inr ⟨rs, r, u, rfl, hgoing, step_cases hgoing.idle ?_ he⟩
    rw [hgoing.blocks]
    exact Nat.le_add_right _ _

end HttpsState

/-! ### What a run shows -/

namespace HttpsState

/-- The redirects that a request follows at most. -/
def maxFollowed (maxRedirects : UInt8) : Nat := if maxRedirects = 0 then 3 else maxRedirects.toNat

section Results

variable {maxRedirects : UInt8} {req : HttpsRequest} {rs : List HttpRound} {s : HttpsState}

/-- A run without rounds, or one of a known method. -/
theorem start_cases (h : run step (start maxRedirects req) rs = some s) :
    (rs = [] ∧ s = start maxRedirects req) ∨
      Going (start maxRedirects req) [] (start maxRedirects req) := by
  cases rs with
  | nil => exact .inl ⟨rfl, (Option.some.inj h).symm⟩
  | cons r rs =>
    obtain ⟨u, hu, _⟩ := run_cons_some.mp h
    exact .inr (going_start (open_of_step hu).2)

/-- The requests of a run: as many as answers, bounded, and each following from the last. -/
theorem chained_run (h : run step (start maxRedirects req) rs = some s) :
    s.sent.length = rs.length ∧ rs.length ≤ maxFollowed maxRedirects + 1 ∧
      Chained req.headerCb req.url s.sent rs ∧
      ∀ m, s.sent.head? = some m → m = (start maxRedirects req).client := by
  have hnone : Chained req.headerCb req.url [] [] := fun i m r m' hm ↦ by simp at hm
  rcases start_cases h with ⟨rfl, rfl⟩ | hst
  · exact ⟨rfl, Nat.zero_le _, hnone, fun m hm ↦ by simp [start] at hm⟩
  rcases run_cases hst h with ⟨rfl, rfl⟩ | ⟨rs', r, u, rfl, hu, hlast⟩
  · exact ⟨rfl, Nat.zero_le _, hnone, fun m hm ↦ by simp [start] at hm⟩
  have hsent : s.sent = u.sent ++ [u.client] := by
    rcases hlast with hcrash | ⟨_, hended | hcontinued⟩
    · exact hcrash.2.2.2
    · exact hended.sent
    · exact hcontinued.sent
  rw [hsent]
  refine ⟨?_, ?_, ?_, ?_⟩
  · rw [List.length_append, List.length_append, hu.length]
    rfl
  · rw [List.length_append, List.length_singleton]
    exact Nat.add_le_add_right hu.bound 1
  · exact hu.chained.answer hu.length r
  · intro m hm
    rw [hu.first] at hm
    exact (Option.some.inj hm).symm

end Results

end HttpsState

end Esp32Robot.Http

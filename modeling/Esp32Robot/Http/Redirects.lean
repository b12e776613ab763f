import Esp32Robot.Http.HttpsRuns

/-!
# Redirects of the HTTPS client

What the runs of `https_request_advance` come to. The requests are bounded in number, and each is
what the answer before it redirects to; an authorization goes on with them until an answer brings
another. The body callback gets what each answer brings, and a later answer can be written through a
null pointer. What a redirect allocates is not all freed.
-/

namespace Esp32Robot.Http

open Esp32Robot.Base

namespace HttpsState

variable {maxRedirects : UInt8} {req : HttpsRequest} {rs : List HttpRound} {s : HttpsState}

/-! ### The requests -/

/-- A request after an answer that drops the method asks for the URL, without a content type. -/
theorem get_of_chained {headerCb : Bool} {url : List UInt8} {ms : List HttpClient}
    (h : Chained headerCb url ms rs) (hlength : ms.length ≤ rs.length) {i j : Nat} {r : HttpRound}
    {m : HttpClient} (hij : i < j) (hr : rs[i]? = some r) (hdrop : keepsMethod r.status = false)
    (hm : ms[j]? = some m) :
    m.method = .get ∧ m.postField = none ∧ m.header (ascii "Content-Type") = none := by
  induction j generalizing m with
  | zero => exact absurd hij (Nat.not_lt_zero _)
  | succ j ih =>
    have hlt := (List.getElem?_eq_some_iff.mp hm).1
    obtain ⟨a, ha⟩ : ∃ a, ms[j]? = some a := ⟨_, List.getElem?_eq_getElem (by omega)⟩
    obtain ⟨b, hb⟩ : ∃ b, rs[j]? = some b := ⟨_, List.getElem?_eq_getElem (by omega)⟩
    have hmessage := (h j a b m ha hb hm).message
    have htype := (h j a b m ha hb hm).contentType
    rcases Nat.lt_succ_iff_lt_or_eq.mp hij with hlt | rfl
    · obtain ⟨hmethod, hpost, hnone⟩ := ih hlt ha
      rw [hmethod, hpost, ite_self] at hmessage
      rw [hnone, ite_self] at htype
      exact ⟨(Prod.mk.inj hmessage).1, (Prod.mk.inj hmessage).2, htype⟩
    · cases hr.symm.trans hb
      rw [if_neg (by simp [hdrop])] at hmessage htype
      exact ⟨(Prod.mk.inj hmessage).1, (Prod.mk.inj hmessage).2, htype⟩

/-- The result of a run that returns after an answer. -/
theorem result_run (h : run step (start maxRedirects req) rs = some s) :
    s.result = some 0 ↔
      s.crashed = false ∧ ∃ r, rs.getLast? = some r ∧ r.err = 0 ∧ ¬ r.IsRedirect := by
  rcases start_cases h with ⟨rfl, rfl⟩ | hst
  · refine iff_of_false ?_ (fun ⟨_, r, hr, _⟩ ↦ by simp at hr)
    simp only [start]
    split <;> simp
  rcases run_cases hst h with ⟨rfl, rfl⟩ | ⟨rs', r, u, rfl, _, hcrash | ⟨_, hended | hcontinued⟩⟩
  · rw [hst.idle.result]
    exact iff_of_false (by simp) (fun ⟨_, r, hr, _⟩ ↦ by simp at hr)
  · rw [hcrash.2.2.1, hcrash.2.1]
    exact iff_of_false (by simp) (by simp)
  · rw [hended.result, hended.crashed, List.getLast?_concat]
    by_cases herr : r.err = 0
    · by_cases hredirect : r.IsRedirect <;> simp [herr, hredirect]
    · simp [herr]
  · rw [hcontinued.idle.result, List.getLast?_concat]
    exact iff_of_false (by simp) (by simp [hcontinued.follows.redirect])

/-- In every run there are at most one request more than redirects allowed, and only one without a
header callback. Each is what the answer to the one before redirects to, or goes to the URL of the
one before when the client does not take the new one; after an answer other than 307 and 308 it
asks for the URL without a body and its type. The request succeeds exactly when its last answer
came and is no redirect, whatever else the status says. -/
theorem requests_follow (maxRedirects : UInt8) (req : HttpsRequest) (rs : List HttpRound)
    (s : HttpsState) (h : run step (start maxRedirects req) rs = some s) :
    s.sent.length = rs.length ∧ rs.length ≤ maxFollowed maxRedirects + 1 ∧
      (req.headerCb = false → rs.length ≤ 1) ∧ Chained req.headerCb req.url s.sent rs ∧
      (∀ (i j : Nat) (r : HttpRound) (m : HttpClient), i < j → rs[i]? = some r →
        keepsMethod r.status = false → s.sent[j]? = some m →
        m.method = .get ∧ m.postField = none ∧ m.header (ascii "Content-Type") = none) ∧
      (s.result = some 0 ↔
        s.crashed = false ∧ ∃ r, rs.getLast? = some r ∧ r.err = 0 ∧ ¬ r.IsRedirect) := by
  obtain ⟨hlength, hbound, hchained, _⟩ := chained_run h
  refine ⟨hlength, hbound, fun hcb ↦ Nat.le_of_not_lt fun hlt ↦ ?_, hchained, ?_, result_run h⟩
  · have hfollows := hchained 0 _ _ _ (List.getElem?_eq_getElem (by omega))
      (List.getElem?_eq_getElem (by omega)) (List.getElem?_eq_getElem (by omega))
    have htarget := hfollows.target
    rw [HttpRound.target, HttpRound.keptIf, hcb] at htarget
    simp at htarget
  · intro i j r m hij hr hdrop hm
    exact get_of_chained hchained (Nat.le_of_eq hlength) hij hr hdrop hm

/-- A request with a token. -/
private def tokenRequest : HttpsRequest where
  method := ascii "POST"
  url := ascii "http://host/offer"
  headers := [ascii "Authorization: Bearer token"]
  data := some (ascii "sdp")
  headerCb := true
  bodyCb := true

/-- An answer with a page and a location. -/
private def moved (location : String) : HttpRound where
  events := [.onHeader (ascii "Location") (ascii location) true, .onData (ascii "moved") true,
    .onFinish]
  err := 0
  status := 302
  copied := true
  joined := true
  urlSet := true

/-- An answer. -/
private def found (data : String) : HttpRound where
  events := [.onData (ascii data) true, .onFinish]
  err := 0
  status := 200
  copied := true
  joined := true
  urlSet := true

/-- An offer that is redirected to another host, and one that is redirected to no URL: the first URL
is asked again. -/
theorem requests_follow_moved :
    (∃ s, run step (start 0 tokenRequest) [moved "http://other/offer", found "answer"] = some s ∧
      s.sent.length = 2 ∧ s.result = some 0 ∧
      ∀ m, s.sent[1]? = some m →
        m.method = .get ∧ m.postField = none ∧ m.header (ascii "Content-Type") = none) ∧
    ∃ s m, run step (start 0 tokenRequest)
        [{ moved "httpdocs/x" with urlSet := false }, found "answer"] = some s ∧
      s.sent[1]? = some m ∧ m.url = tokenRequest.url := by
  have hresult := requests_follow 0 tokenRequest [moved "http://other/offer", found "answer"] _ rfl
  have hrefused := requests_follow 0 tokenRequest
    [{ moved "httpdocs/x" with urlSet := false }, found "answer"] _ rfl
  refine ⟨⟨_, rfl, hresult.1, hresult.2.2.2.2.2.mpr (by decide +kernel),
    fun m hm ↦ hresult.2.2.2.2.1 0 1 _ m (by decide) rfl rfl hm⟩, ?_⟩
  exact ⟨_, _, rfl, rfl, (hrefused.2.2.2.1 0 _ _ _ rfl rfl rfl).url⟩

/-! ### The authorization -/

/-- The authorization that an answer brings. -/
abbrev authOf (headerCb : Bool) (r : HttpRound) : Option (List UInt8) :=
  r.keptIf headerCb (ascii "Authorization")

/-- A request carries an authorization exactly when the requester gave it and no answer since
brought one, or the last answer that brought one brought it and redirected to what `is_same_origin`
takes for the same origin as `last_url`. The URLs after that do not matter. -/
theorem authorization_source (maxRedirects : UInt8) (req : HttpsRequest) (rs : List HttpRound)
    (s : HttpsState) (h : run step (start maxRedirects req) rs = some s) (j : Nat) (m : HttpClient)
    (hm : s.sent[j]? = some m) (value : List UInt8) :
    m.header (ascii "Authorization") = some value ↔
      ((requestClient req).header (ascii "Authorization") = some value ∧
        ∀ (k : Nat) (r : HttpRound), k < j → rs[k]? = some r → authOf req.headerCb r = none) ∨
      ∃ (i : Nat) (r : HttpRound), i < j ∧ rs[i]? = some r ∧
        authOf req.headerCb r = some value ∧
        isSameOrigin (Http.lastUrl req.headerCb req.url (rs.take i))
          (Http.lastUrl req.headerCb req.url (rs.take (i + 1))) = true ∧
        ∀ (k : Nat) (r' : HttpRound), i < k → k < j → rs[k]? = some r' →
          authOf req.headerCb r' = none := by
  obtain ⟨hlength, _, hchained, hfirst⟩ := chained_run h
  induction j generalizing m with
  | zero =>
    obtain rfl := hfirst m (by rw [List.head?_eq_getElem?]; exact hm)
    constructor
    · exact fun hvalue ↦ .inl ⟨hvalue, fun k r hk ↦ absurd hk (Nat.not_lt_zero _)⟩
    · rintro (⟨hvalue, _⟩ | ⟨i, _, hi, _⟩)
      · exact hvalue
      · exact absurd hi (Nat.not_lt_zero _)
  | succ j ih =>
    have hlt := (List.getElem?_eq_some_iff.mp hm).1
    obtain ⟨a, ha⟩ : ∃ a, s.sent[j]? = some a := ⟨_, List.getElem?_eq_getElem (by omega)⟩
    obtain ⟨r, hr⟩ : ∃ r, rs[j]? = some r := ⟨_, List.getElem?_eq_getElem (by omega)⟩
    have hauth := (hchained j a r m ha hr hm).auth
    -- The answer before this request brings an authorization, or leaves the old one.
    cases hbrought : authOf req.headerCb r with
    | none =>
      have hkept : m.header (ascii "Authorization") = a.header (ascii "Authorization") := by
        rw [hauth]
        split
        · next w hw => exact absurd (hbrought.symm.trans hw) (by simp)
        · rfl
      have hnone (k : Nat) (r' : HttpRound) (hk : k = j) (hr' : rs[k]? = some r') :
          authOf req.headerCb r' = none := by
        rw [hk] at hr'
        rw [← Option.some.inj (hr.symm.trans hr'), hbrought]
      rw [hkept, ih a ha]
      constructor
      · rintro (⟨hvalue, hall⟩ | ⟨i, r', hi, hr', hb, hsame, hall⟩)
        · refine .inl ⟨hvalue, fun k r' hk hr' ↦ ?_⟩
          exact (Nat.lt_succ_iff_lt_or_eq.mp hk).elim (hall k r' · hr') (hnone k r' · hr')
        · refine .inr ⟨i, r', Nat.lt_succ_of_lt hi, hr', hb, hsame, ?_⟩
          intro k r'' hik hk hr''
          exact (Nat.lt_succ_iff_lt_or_eq.mp hk).elim (hall k r'' hik · hr'') (hnone k r'' · hr'')
      · rintro (⟨hvalue, hall⟩ | ⟨i, r', hi, hr', hb, hsame, hall⟩)
        · exact .inl ⟨hvalue, fun k r' hk hr' ↦ hall k r' (Nat.lt_succ_of_lt hk) hr'⟩
        · rcases Nat.lt_succ_iff_lt_or_eq.mp hi with hi | rfl
          · exact .inr ⟨i, r', hi, hr', hb, hsame,
              fun k r'' hik hk hr'' ↦ hall k r'' hik (Nat.lt_succ_of_lt hk) hr''⟩
          · exact absurd ((hnone i r' rfl hr').symm.trans hb) (by simp)
    | some w =>
      have hnew : m.header (ascii "Authorization") =
          if isSameOrigin (Http.lastUrl req.headerCb req.url (rs.take j))
            (Http.lastUrl req.headerCb req.url (rs.take (j + 1))) then some w else none := by
        rw [hauth]
        split
        · next w' hw => rw [Option.some.inj (hbrought.symm.trans hw)]
        · next hw => exact absurd (hbrought.symm.trans hw) (by simp)
      rw [hnew]
      constructor
      · intro hvalue
        split at hvalue
        · next hsame =>
          obtain rfl := Option.some.inj hvalue
          refine .inr ⟨j, r, Nat.lt_succ_self j, hr, hbrought, hsame, ?_⟩
          intro k r' hjk hk
          exact absurd hk (by omega)
        · cases hvalue
      · rintro (⟨_, hall⟩ | ⟨i, r', hi, hr', hb, hsame, hall⟩)
        · exact absurd ((hall j r (Nat.lt_succ_self j) hr).symm.trans hbrought) (by simp)
        · rcases Nat.lt_succ_iff_lt_or_eq.mp hi with hi | rfl
          · have := hall j r hi (Nat.lt_succ_self j) hr
            exact absurd (this.symm.trans hbrought) (by simp)
          · obtain rfl := Option.some.inj (hr.symm.trans hr')
            rw [if_pos hsame, ← hb, hbrought]

/-- The token goes to the other host. -/
theorem authorization_source_moved :
    ∃ s m, run step (start 0 tokenRequest) [moved "http://other/offer", found "answer"] = some s ∧
      s.sent[1]? = some m ∧ isSameOrigin tokenRequest.url m.url = false ∧
      m.header (ascii "Authorization") = some (ascii "Bearer token") := by
  refine ⟨_, _, rfl, rfl, by decide +kernel, ?_⟩
  refine (authorization_source 0 tokenRequest [moved "http://other/offer", found "answer"] _ rfl 1 _
    rfl (ascii "Bearer token")).mpr (.inl ⟨by decide +kernel, fun k r hk hr ↦ ?_⟩)
  obtain rfl : k = 0 := by omega
  rw [← Option.some.inj hr]
  decide +kernel

/-! ### The answers -/

/-- The bodies among calls. -/
def bodies (calls : List HttpCall) : List (List UInt8) :=
  calls.filterMap (fun c ↦
    match c with
    | .body data => some data
    | .header _ _ => none)

/-- All data of an answer. -/
def answerData (r : HttpRound) : List UInt8 :=
  r.events.flatMap (fun e ↦
    match e with
    | .onData bytes _ => bytes
    | _ => [])

/-- The answer finishes once, at its end, and its data finds memory. -/
def Whole (r : HttpRound) : Prop :=
  ∃ es, r.events = es ++ [.onFinish] ∧ .onFinish ∉ es ∧ ∀ bytes, .onData bytes false ∉ es

/-- The body of an answer that is whole. -/
theorem bodies_of_whole {headerCb bodyCb : Bool} {r : HttpRound} (h : Whole r) :
    bodies (eventCalls headerCb bodyCb [] r.events) =
      if answerData r ≠ [] ∧ bodyCb = true then [answerData r] else [] := by
  obtain ⟨es, hes, hfinish, hgrown⟩ := h
  have hgeneral (received : List UInt8) :
      bodies (eventCalls headerCb bodyCb received (es ++ [.onFinish])) =
        if received ++ answerData { r with events := es } ≠ [] ∧ bodyCb = true then
          [received ++ answerData { r with events := es }]
        else [] := by
    clear hes
    induction es generalizing received with
    | nil =>
      simp only [List.nil_append, eventCalls, answerData, List.flatMap_nil, List.append_nil]
      split <;> rfl
    | cons e es ih =>
      have ih := ih (fun hmem ↦ hfinish (List.mem_cons_of_mem _ hmem))
        (fun bytes hmem ↦ hgrown bytes (List.mem_cons_of_mem _ hmem))
      cases e with
      | onHeader key value copied =>
        rw [List.cons_append, eventCalls, bodies, List.filterMap_append]
        have hcall : (if headerCb then [HttpCall.header key value] else []).filterMap
            (fun c ↦ match c with
              | .body data => some data
              | .header _ _ => none) = [] := by
          split <;> rfl
        rw [hcall, List.nil_append]
        exact ih received
      | onData bytes grown =>
        have hreceive : receiveEvent received (.onData bytes grown) = received ++ bytes := by
          rw [receiveEvent]
          split
          · next hnil => rw [hnil, List.append_nil]
          · cases grown with
            | true => rfl
            | false => exact absurd (List.mem_cons_self ..) (hgrown bytes)
        have hdata : answerData { r with events := .onData bytes grown :: es } =
            bytes ++ answerData { r with events := es } := rfl
        rw [List.cons_append, eventCalls, hdata, ← List.append_assoc, hreceive]
        exact ih (received ++ bytes)
      | onFinish => exact absurd (List.mem_cons_self ..) hfinish
  have hdata : answerData r = answerData { r with events := es } := by
    rw [answerData, hes, List.flatMap_append]
    simp [answerData]
  rw [hdata, hes, hgeneral []]
  rfl

/-- A run crashes exactly when the first data of its last answer fits into the buffer size that the
redirects before have left. Otherwise the calls of the callbacks are those of each answer, with the
bytes received since memory was last out; of whole answers, redirects among them, the body callback
gets all data, each answer once. -/
theorem answers_passed_on (maxRedirects : UInt8) (req : HttpsRequest) (rs : List HttpRound)
    (s : HttpsState) (h : run step (start maxRedirects req) rs = some s) :
    (s.crashed = true ↔
      ∃ rs' r, rs = rs' ++ [r] ∧ HttpRound.Crashes r (rs'.foldl HttpRound.leftover 0)) ∧
      (s.crashed = false →
        s.calls = rs.flatMap (fun r ↦ eventCalls req.headerCb req.bodyCb [] r.events) ∧
        ((∀ r ∈ rs, Whole r) → bodies s.calls =
          if req.bodyCb then (rs.map answerData).filter (· ≠ []) else [])) := by
  have hbodies (hcalls : s.calls =
      rs.flatMap (fun r ↦ eventCalls req.headerCb req.bodyCb [] r.events))
      (hwhole : ∀ r ∈ rs, Whole r) : bodies s.calls =
        if req.bodyCb then (rs.map answerData).filter (· ≠ []) else [] := by
    rw [hcalls]
    clear hcalls h
    induction rs with
    | nil => simp [bodies]
    | cons r rs ih =>
      have ih := ih (fun r hr ↦ hwhole r (List.mem_cons_of_mem _ hr))
      rw [List.flatMap_cons, bodies, List.filterMap_append]
      change bodies _ ++ bodies _ = _
      rw [bodies_of_whole (hwhole r (List.mem_cons_self ..)), ih]
      cases req.bodyCb with
      | true => by_cases hnil : answerData r = [] <;> simp [hnil]
      | false => simp
  rcases start_cases h with ⟨rfl, rfl⟩ | hst
  · refine ⟨iff_of_false (by simp [start]) (fun ⟨_, _, heq, _⟩ ↦ by simp at heq), fun _ ↦ ?_⟩
    exact ⟨rfl, hbodies rfl⟩
  rcases run_cases hst h with ⟨rfl, rfl⟩ | ⟨rs', r, u, rfl, hu, hlast⟩
  · refine ⟨iff_of_false (by simp [start]) (fun ⟨_, _, heq, _⟩ ↦ by simp at heq), fun _ ↦ ?_⟩
    exact ⟨rfl, hbodies rfl⟩
  have hcrash : (∃ rs'' r', rs' ++ [r] = rs'' ++ [r'] ∧
      HttpRound.Crashes r' (rs''.foldl HttpRound.leftover 0)) ↔ r.Crashes u.size := by
    rw [hu.size]
    constructor
    · rintro ⟨rs'', r', heq, hcrash⟩
      obtain ⟨rfl, hr⟩ := List.append_inj' heq rfl
      obtain rfl := List.singleton_inj.mp hr
      exact hcrash
    · exact fun hcrash ↦ ⟨rs', r, rfl, hcrash⟩
  have hcalls (hcalls : s.calls = u.calls ++ eventCalls u.headerCb u.bodyCb [] r.events) :
      s.calls = (rs' ++ [r]).flatMap (fun r ↦ eventCalls req.headerCb req.bodyCb [] r.events) := by
    rw [hcalls, hu.calls, hu.headerCb, hu.bodyCb, List.flatMap_append, List.flatMap_singleton]
    rfl
  rw [hcrash]
  rcases hlast with ⟨hcrash, hcrashed, _⟩ | ⟨hcrash, hended | hcontinued⟩
  · exact ⟨iff_of_true hcrashed hcrash, fun hfalse ↦ absurd (hcrashed.symm.trans hfalse) (by simp)⟩
  · refine ⟨iff_of_false (by simp [hended.crashed]) hcrash, fun _ ↦ ?_⟩
    exact ⟨hcalls hended.calls, hbodies (hcalls hended.calls)⟩
  · refine ⟨iff_of_false (by simp [hcontinued.idle.crashed]) hcrash, fun _ ↦ ?_⟩
    exact ⟨hcalls hcontinued.calls, hbodies (hcalls hcontinued.calls)⟩

/-- A page and an answer, and an answer no larger than the page before it. -/
theorem answers_passed_on_moved :
    (∃ s, run step (start 0 tokenRequest) [moved "http://other/offer", found "answer"] = some s ∧
      bodies s.calls = [ascii "moved", ascii "answer"]) ∧
      ∃ s, run step (start 0 tokenRequest) [moved "http://other/offer", found "none"] = some s ∧
        s.crashed = true := by
  have hwhole : ∀ r ∈ [moved "http://other/offer", found "answer"], Whole r := by
    intro r hr
    rcases List.mem_cons.mp hr with rfl | hr
    · exact ⟨[.onHeader (ascii "Location") (ascii "http://other/offer") true,
        .onData (ascii "moved") true], rfl, by decide, by simp⟩
    · rw [List.mem_singleton.mp hr]
      exact ⟨[.onData (ascii "answer") true], rfl, by decide, by simp⟩
  have hpassed :=
    answers_passed_on 0 tokenRequest [moved "http://other/offer", found "answer"] _ rfl
  have hcrash := answers_passed_on 0 tokenRequest [moved "http://other/offer", found "none"] _ rfl
  refine ⟨⟨_, rfl, ((hpassed.2 (by decide +kernel)).2 hwhole).trans (by decide +kernel)⟩,
    _, rfl, hcrash.1.mpr ⟨[moved "http://other/offer"], found "none", rfl, by decide +kernel⟩⟩

/-! ### Memory -/

/-- When a request has returned, the blocks that are left are those of repeated header fields that
were overwritten, and one for each relative location that was followed. -/
theorem blocks_left (maxRedirects : UInt8) (req : HttpsRequest) (rs : List HttpRound)
    (s : HttpsState) (h : run step (start maxRedirects req) rs = some s)
    (hresult : s.result ≠ none) :
    s.blocks = leakedBlocks req.headerCb (maxFollowed maxRedirects) rs := by
  rcases start_cases h with ⟨rfl, rfl⟩ | hst
  · simp [start, leakedBlocks]
  rcases run_cases hst h with ⟨rfl, rfl⟩ | ⟨rs', r, u, rfl, hu, hcrash | ⟨_, hended | hcontinued⟩⟩
  · exact absurd hst.idle.result hresult
  · exact absurd hcrash.2.2.1 hresult
  · have hblocks := hended.blocks
    have hcb : (start maxRedirects req).headerCb = req.headerCb := rfl
    have hlimit : (start maxRedirects req).redirectLimit = maxFollowed maxRedirects := rfl
    rw [hu.blocks, hu.headerCb, hu.redirectCount, hu.redirectLimit, hcb, hlimit] at hblocks
    rw [leakedBlocks_concat]
    omega
  · exact absurd hcontinued.idle.result hresult

/-- A location of the same host leaves a block. -/
theorem blocks_left_moved :
    ∃ s, run step (start 0 tokenRequest) [moved "/answer", found "answer"] = some s ∧
      s.result = some 0 ∧ s.blocks = 1 := by
  refine ⟨_, rfl, by decide +kernel, ?_⟩
  exact (blocks_left 0 tokenRequest [moved "/answer", found "answer"] _ rfl
    (by decide +kernel)).trans (by decide +kernel)

end HttpsState

end Esp32Robot.Http

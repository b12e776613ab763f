import Esp32Robot.Base.Run
import Esp32Robot.Http.UrlUtils

/-!
# The HTTPS client

`https_request_advance` of `https_client.c`, one step for each `esp_http_client_perform`. What the
server answers is a list of the events that the client library passes to `_http_event_handler`, with
the outcome of every allocation. A write through a null pointer stops the request.
-/

namespace Esp32Robot.Http

open Esp32Robot.Base

/-- Methods of `esp_http_client`. -/
inductive HttpMethod where
  | get
  | post
  | patch
  | delete
  deriving DecidableEq, Repr

/-- What the handle of `esp_http_client` is set to send. -/
structure HttpClient where
  url : List UInt8
  method : HttpMethod
  headers : List (List UInt8 × List UInt8)
  postField : Option (List UInt8)
  deriving DecidableEq

/-- Names of header fields are compared without case. -/
def sameField (a b : List UInt8) : Bool :=
  let lower (c : UInt8) : UInt8 := if 65 ≤ c && c ≤ 90 then c + 32 else c
  a.map lower == b.map lower

namespace HttpClient

/-- `esp_http_client_set_header`: no value deletes the field. -/
def setHeader (c : HttpClient) (key : List UInt8) (value : Option (List UInt8)) : HttpClient :=
  { c with headers :=
      c.headers.filter (fun h ↦ !sameField h.1 key) ++ (value.map (key, ·)).toList }

/-- `esp_http_client_set_post_field` without data: it deletes the content type. -/
def clearPostField (c : HttpClient) : HttpClient :=
  { c.setHeader (ascii "Content-Type") none with postField := none }

/-- The value of a header field. -/
def header (c : HttpClient) (key : List UInt8) : Option (List UInt8) :=
  (c.headers.find? (fun h ↦ sameField h.1 key)).map (·.2)

end HttpClient

/-- An event for `_http_event_handler`; the others only log. `copied` and `grown` say whether its
`strdup` or `realloc` gets memory. -/
inductive HttpEvent where
  | onHeader (key value : List UInt8) (copied : Bool)
  | onData (data : List UInt8) (grown : Bool)
  | onFinish
  deriving DecidableEq

/-- How one `esp_http_client_perform` goes: the events, its result, the status code, whether the
copy and the joined URL of a redirect get memory, and whether `esp_http_client_set_url` takes the
URL. -/
structure HttpRound where
  events : List HttpEvent
  err : Int
  status : Int
  copied : Bool
  joined : Bool
  urlSet : Bool
  deriving DecidableEq

/-- A call of one of the callbacks of the request. -/
inductive HttpCall where
  | header (key value : List UInt8)
  | body (data : List UInt8)
  deriving DecidableEq

/-- `http_resp_keep_t`. -/
structure HttpRespKeep where
  location : Option (List UInt8)
  auth : Option (List UInt8)
  cookie : Option (List UInt8)
  deriving DecidableEq

/-- `https_request_t`, with whether the callbacks are given. -/
structure HttpsRequest where
  method : List UInt8
  url : List UInt8
  headers : List (List UInt8)
  data : Option (List UInt8)
  headerCb : Bool
  bodyCb : Bool

/-- The state of `https_request_advance`: `client`, the fields of `http_info_t`, whether `last_url`
is a copy, and the count of redirects; with what was sent, the calls of the callbacks, the number
of allocated blocks, and the result. -/
structure HttpsState where
  client : HttpClient
  headerCb : Bool
  bodyCb : Bool
  respKeep : HttpRespKeep
  data : Option (List UInt8)
  fillSize : Nat
  size : Nat
  lastUrl : List UInt8
  lastUrlCopied : Bool
  redirectLimit : Nat
  redirectCount : Nat
  sent : List HttpClient
  calls : List HttpCall
  blocks : Nat
  crashed : Bool
  result : Option Int

namespace HttpsState

/-- A `strdup` into a field whose old value is not freed. -/
def keep (s : HttpsState) (set : HttpRespKeep → Option (List UInt8) → HttpRespKeep)
    (value : List UInt8) (copied : Bool) : HttpsState :=
  { s with
    respKeep := set s.respKeep (if copied then some value else none)
    blocks := s.blocks + copied.toNat }

/-- `HTTP_EVENT_ON_HEADER`, `https_client.c:70–83`. -/
def onHeader (s : HttpsState) (key value : List UInt8) (copied : Bool) : HttpsState :=
  if s.headerCb then
    let s :=
      if strcmp key (ascii "Location") = 0 then
        s.keep (fun k v ↦ { k with location := v }) value copied
      else if strcmp key (ascii "Authorization") = 0 then
        s.keep (fun k v ↦ { k with auth := v }) value copied
      else if strcmp key (ascii "Set-Cookie") = 0 then
        s.keep (fun k v ↦ { k with cookie := v }) value copied
      else s
    { s with calls := s.calls ++ [.header key value] }
  else s

/-- `memcpy` to the end of the response buffer. -/
def copyData (s : HttpsState) (bytes : List UInt8) : HttpsState :=
  match s.data with
  | none => { s with crashed := true }
  | some block =>
    { s with
      data := some (block.take s.fillSize ++ bytes ++ block.drop (s.fillSize + bytes.length))
      fillSize := s.fillSize + bytes.length }

/-- `HTTP_EVENT_ON_DATA`, `https_client.c:84–107`. New bytes of a block are zero here. -/
def onData (s : HttpsState) (bytes : List UInt8) (grown : Bool) : HttpsState :=
  if bytes = [] then s
  else
    let need := s.fillSize + bytes.length
    if s.size < need then
      if grown then
        let block := s.data.getD []
        copyData
          { s with
            data := some (block ++ List.replicate (need - block.length) 0)
            size := need
            blocks := if s.data.isSome then s.blocks else s.blocks + 1 } bytes
      else
        { s with
          data := none
          fillSize := 0
          size := 0
          blocks := s.blocks - s.data.isSome.toNat }
    else s.copyData bytes

/-- `HTTP_EVENT_ON_FINISH`, `https_client.c:108–117`. -/
def onFinish (s : HttpsState) : HttpsState :=
  if s.fillSize ≠ 0 ∧ s.bodyCb = true then
    { s with calls := s.calls ++ [.body ((s.data.getD []).take s.fillSize)] }
  else s

/-- `_http_event_handler`, until a crash. -/
def handler (s : HttpsState) (e : HttpEvent) : HttpsState :=
  if s.crashed then s
  else
    match e with
    | .onHeader key value copied => s.onHeader key value copied
    | .onData bytes grown => s.onData bytes grown
    | .onFinish => s.onFinish

/-- `free_resp_header`. -/
def freeRespHeader (s : HttpsState) : HttpsState :=
  { s with
    respKeep := ⟨none, none, none⟩
    blocks := s.blocks - s.respKeep.location.isSome.toNat - s.respKeep.auth.isSome.toNat -
      s.respKeep.cookie.isSome.toNat }

/-- `RETRY_PERFORM`, `https_client.c:282–288`: the size of the buffer stays. -/
def retryPerform (s : HttpsState) : HttpsState :=
  freeRespHeader
    { s with
      data := none
      fillSize := 0
      blocks := s.blocks - s.data.isSome.toNat }

/-- `_exit`, `https_client.c:315–325`. -/
def exit (s : HttpsState) (err : Int) : HttpsState :=
  let s := freeRespHeader { s with blocks := s.blocks - s.lastUrlCopied.toNat }
  { s with
    blocks := s.blocks - s.data.isSome.toNat
    result := some err }

/-- The status codes that keep the method. -/
def keepsMethod (status : Int) : Bool := status = 307 || status = 308

/-- The authorization of a redirect, `https_client.c:153–161`. -/
def setAuth (c : HttpClient) (auth : Option (List UInt8)) (sameOrigin : Bool) : HttpClient :=
  match auth with
  | some value => c.setHeader (ascii "Authorization") (if sameOrigin then some value else none)
  | none => c

/-- The cookie of a redirect, `https_client.c:162–165`. -/
def setCookie (c : HttpClient) (cookie : Option (List UInt8)) : HttpClient :=
  match cookie with
  | some value => c.setHeader (ascii "Cookie") (some value)
  | none => c

/-- Lines 153–173 of `https_handle_redirect`, once the URL is known. The result of
`esp_http_client_set_url` is not looked at: the client keeps its URL when that fails. -/
def redirectTo (s : HttpsState) (fullUrl : List UInt8) (urlSet : Bool) : HttpsState :=
  let client := setAuth s.client s.respKeep.auth (isSameOrigin s.lastUrl fullUrl)
  { s with
    client := { setCookie client s.respKeep.cookie with
      url := if urlSet then fullUrl else s.client.url }
    lastUrl := fullUrl
    lastUrlCopied := true
    blocks := s.blocks - s.lastUrlCopied.toNat }

/-- `https_handle_redirect`, `https_client.c:132–174`: the state and whether it succeeds. -/
def handleRedirect (s : HttpsState) (r : HttpRound) : HttpsState × Bool :=
  match s.respKeep.location with
  | none => (s, false)
  | some location =>
    let s :=
      if keepsMethod r.status then s
      else { s with client := { s.client.clearPostField with method := .get } }
    if r.copied then
      let s := { s with blocks := s.blocks + 1 }
      if strncmp location (ascii "http") 4 = 0 then (s.redirectTo location r.urlSet, true)
      else
        -- The pointer to the copy is overwritten.
        match joinUrl s.lastUrl location with
        | none => (s, false)
        | some fullUrl =>
          if r.joined then
            (redirectTo { s with blocks := s.blocks + 1 } fullUrl r.urlSet, true)
          else (s, false)
    else (s, false)

/-- What follows `esp_http_client_perform`, `https_client.c:291–314`. -/
def afterPerform (s : HttpsState) (r : HttpRound) : HttpsState :=
  if r.err = 0 then
    if 301 ≤ r.status ∧ r.status < 400 then
      if s.redirectLimit ≤ s.redirectCount then s.exit (-1)
      else
        let (s, ok) := s.handleRedirect r
        let s := { s with redirectCount := s.redirectCount + 1 }
        if ok then s.retryPerform else s.exit (-1)
    else s.exit 0
  else s.exit r.err

/-- One round, from `esp_http_client_perform` to the next or to the result. -/
def step (s : HttpsState) (r : HttpRound) : Option HttpsState :=
  if s.crashed = true ∨ s.result ≠ none then none
  else
    let s := r.events.foldl handler { s with sent := s.sent ++ [s.client] }
    some (if s.crashed then s else s.afterPerform r)

/-- A line `Key: Value` of the request; a line without a colon is passed over. -/
def requestHeader (c : HttpClient) (line : List UInt8) : HttpClient :=
  match line.dropWhile (· ≠ 58) with
  | [] => c
  | _ :: rest => c.setHeader (line.takeWhile (· ≠ 58)) (some (rest.drop 1))

/-- Whether a line of the request is its content type. -/
def isContentType (line : List UInt8) : Bool :=
  58 ∈ line && strcmp (line.takeWhile (· ≠ 58)) (ascii "Content-Type") = 0

/-- The method of a request, `https_client.c:237–248`. -/
def requestMethod (method : List UInt8) : Option HttpMethod :=
  if strcmp method (ascii "POST") = 0 then some .post
  else if strcmp method (ascii "DELETE") = 0 then some .delete
  else if strcmp method (ascii "PATCH") = 0 then some .patch
  else if strcmp method (ascii "GET") = 0 then some .get
  else none

/-- What the client is set to send first, `https_client.c:233–281`. A failed copy of a header line
is tried again. -/
def requestClient (req : HttpsRequest) : HttpClient :=
  let client := req.headers.foldl requestHeader
    { url := req.url
      method := (requestMethod req.method).getD .get
      headers := []
      postField := none }
  match req.data with
  | none => client
  | some data =>
    let client :=
      if req.headers.any isContentType then client
      else client.setHeader (ascii "Content-Type") (some (ascii "text/plain;charset=UTF-8"))
    { client with postField := some data }

/-- The state before the first round, `https_client.c:192–288`; an unknown method returns. -/
def start (maxRedirects : UInt8) (req : HttpsRequest) : HttpsState :=
  { client := requestClient req
    headerCb := req.headerCb
    bodyCb := req.bodyCb
    respKeep := ⟨none, none, none⟩
    data := none
    fillSize := 0
    size := 0
    lastUrl := req.url
    lastUrlCopied := false
    redirectLimit := if maxRedirects = 0 then 3 else maxRedirects.toNat
    redirectCount := 0
    sent := []
    calls := []
    blocks := 0
    crashed := false
    result := if (requestMethod req.method).isSome then none else some (-1) }

end HttpsState

end Esp32Robot.Http

import Mathlib.Order.WellFounded
import Esp32Robot.Base.Run

/-!
# The body of a POST request

The loop of `webrtc_signal_post_handler` in `IDF_esp32p4_webrtc/main/webrtc_http_server.c`
that reads a request body into its buffer, over the results of `httpd_req_recv`. The
server runs its handlers in one task, which the loop holds as long as it runs.
-/

namespace Esp32Robot.Http

open Esp32Robot.Base

/-- `MAX_CONTENT_LEN`, `webrtc_http_server.c:22`. -/
def maxContentLen : Nat := 16 * 1024

/-- `HTTPD_SOCK_ERR_TIMEOUT` of the HTTP server. -/
def httpdSockErrTimeout : Int := -3

/-- What the handler reads of a request, and whether `malloc` succeeds. -/
structure PostRequest where
  options : Bool
  contentLen : Nat
  allocated : Bool
  deriving DecidableEq, Repr

/-- Where the handler is: in the loop, or behind it after an answer, a failure or the whole body. -/
inductive PostPhase where
  | reading
  | answered
  | failed
  | received
  deriving DecidableEq, Repr

/-- The variables of the loop, and the index and length of each write to the buffer of
`contentLen + 1` bytes. -/
structure PostBody where
  contentLen : Nat
  readed : Nat
  phase : PostPhase
  writes : List (Nat × Nat)
  deriving DecidableEq, Repr

namespace PostBody

/-- The condition of the loop, and the terminator behind it; `webrtc_http_server.c:129,140`. -/
def whileReading (b : PostBody) : PostBody :=
  if b.readed < b.contentLen then b
  else { b with phase := .received, writes := b.writes ++ [(b.readed, 1)] }

/-- One iteration with the result of `httpd_req_recv`, `webrtc_http_server.c:130–138`. -/
def onRecv (ret : Int) (b : PostBody) : PostBody :=
  if ret ≤ 0 then
    if ret = httpdSockErrTimeout then b else { b with phase := .failed }
  else
    whileReading { b with
      readed := b.readed + ret.toNat
      writes := b.writes ++ [(b.readed, ret.toNat)] }

/-- One step; `httpd_req_recv` returns no more than was asked for. -/
def step (b : PostBody) (ret : Int) : Option PostBody :=
  if b.phase = .reading ∧ ret ≤ b.contentLen - b.readed then some (b.onRecv ret) else none

end PostBody

/-- `webrtc_signal_post_handler` up to its loop, `webrtc_http_server.c:103–129`. -/
def webrtcSignalPostHandler (req : PostRequest) : PostBody :=
  if req.options || maxContentLen < req.contentLen || !req.allocated then
    ⟨req.contentLen, 0, .answered, []⟩
  else PostBody.whileReading ⟨req.contentLen, 0, .reading, []⟩

/-- The body after the first `n` results, when the loop asks for so many. -/
def bodyAfter (req : PostRequest) (results : Nat → Int) (n : Nat) : Option PostBody :=
  run PostBody.step (webrtcSignalPostHandler req) ((List.range n).map results)

/-- The loop writes within its buffer, and ends after some number of results. -/
def LoopBounded (req : PostRequest) (results : Nat → Int) : Prop :=
  (∀ n b, bodyAfter req results n = some b → ∀ w ∈ b.writes, w.1 + w.2 ≤ req.contentLen + 1) ∧
    ∃ n, ∀ b, bodyAfter req results n = some b → b.phase ≠ .reading

/-- How many bytes the first `n` results bring. -/
def received (results : Nat → Int) : Nat → Nat
  | 0 => 0
  | n + 1 => received results n + (results n).toNat

/-- The handler gets to its loop. -/
def PostRequest.reads (req : PostRequest) : Prop :=
  req.options = false ∧ req.contentLen ≤ maxContentLen ∧ req.allocated = true

/-- The handler reads the body, and from some call on every one times out: before, none failed and
they did not bring the whole body. -/
def Stalls (req : PostRequest) (results : Nat → Int) : Prop :=
  req.reads ∧
    ∃ n, (∀ m < n, results m = httpdSockErrTimeout ∨ 0 < results m) ∧
      received results n < req.contentLen ∧ ∀ m, n ≤ m → results m = httpdSockErrTimeout

/-! ### The buffer -/

/-- All writes are within the buffer, and the rest of the body fits. -/
structure InBuffer (contentLen : Nat) (b : PostBody) : Prop where
  sameLen : b.contentLen = contentLen
  readed : b.readed ≤ contentLen
  writes : ∀ w ∈ b.writes, w.1 + w.2 ≤ contentLen + 1

/-- The terminator is within the buffer. -/
theorem inBuffer_whileReading {contentLen : Nat} {b : PostBody} (h : InBuffer contentLen b) :
    InBuffer contentLen b.whileReading := by
  unfold PostBody.whileReading
  split
  · exact h
  · refine ⟨h.sameLen, h.readed, ?_⟩
    intro w hw
    rcases List.mem_append.mp hw with hw | hw
    · exact h.writes w hw
    · cases List.mem_singleton.mp hw
      exact Nat.add_le_add_right h.readed 1

/-- Every result is written within the buffer. -/
theorem inBuffer_step {contentLen : Nat} {b c : PostBody} {ret : Int} (h : InBuffer contentLen b)
    (hc : b.step ret = some c) : InBuffer contentLen c := by
  simp only [PostBody.step] at hc
  split at hc
  · next hret =>
    cases hc
    have hlen := h.sameLen
    have hreaded := h.readed
    unfold PostBody.onRecv
    split
    · split
      · exact h
      · exact ⟨h.sameLen, h.readed, h.writes⟩
    · refine inBuffer_whileReading ⟨h.sameLen, by simp only; omega, ?_⟩
      intro w hw
      rcases List.mem_append.mp hw with hw | hw
      · exact h.writes w hw
      · cases List.mem_singleton.mp hw
        simp only
        omega
  · exact absurd hc (by simp)

/-- All along the loop the writes are within the buffer. -/
theorem inBuffer_bodyAfter {req : PostRequest} {results : Nat → Int} {n : Nat} {b : PostBody}
    (h : bodyAfter req results n = some b) : InBuffer req.contentLen b := by
  refine run_invariant ?_ (fun _ _ _ hb hc ↦ inBuffer_step hb hc) h
  unfold webrtcSignalPostHandler
  split
  · exact ⟨rfl, Nat.zero_le _, List.forall_mem_nil _⟩
  · exact inBuffer_whileReading ⟨rfl, Nat.zero_le _, List.forall_mem_nil _⟩

/-! ### The loop -/

/-- The results after one more. -/
theorem bodyAfter_succ {req : PostRequest} {results : Nat → Int} {n : Nat} {c : PostBody} :
    bodyAfter req results (n + 1) = some c ↔
      ∃ b, bodyAfter req results n = some b ∧ b.step (results n) = some c := by
  rw [bodyAfter, List.range_succ, List.map_append, List.map_singleton, run_concat_some]
  rfl

/-- The loop starts when there is a body to read. -/
theorem reading_start (req : PostRequest) :
    (webrtcSignalPostHandler req).phase = .reading ↔ req.reads ∧ 0 < req.contentLen := by
  simp only [webrtcSignalPostHandler, PostBody.whileReading, PostRequest.reads]
  split
  · next hout =>
    simp only [Bool.or_eq_true, decide_eq_true_eq, Bool.not_eq_true'] at hout
    apply iff_of_false PostPhase.noConfusion
    rintro ⟨⟨hoptions, hlen, hallocated⟩, _⟩
    rcases hout with (h | h) | h
    · exact Bool.false_ne_true (hoptions.symm.trans h)
    · omega
    · exact Bool.false_ne_true (h.symm.trans hallocated)
  · next hin =>
    simp only [Bool.or_eq_true, decide_eq_true_eq, Bool.not_eq_true', not_or, Bool.not_eq_true,
      Bool.not_eq_false, Nat.not_lt] at hin
    obtain ⟨⟨hoptions, hlen⟩, hallocated⟩ := hin
    split
    · next hpos => exact iff_of_true rfl ⟨⟨hoptions, hlen, hallocated⟩, hpos⟩
    · next hzero => exact iff_of_false PostPhase.noConfusion (fun h ↦ hzero h.2)

/-- A result is added to what was read, and keeps the length. -/
theorem onRecv_readed (b : PostBody) (ret : Int) :
    (b.onRecv ret).contentLen = b.contentLen ∧ (b.onRecv ret).readed = b.readed + ret.toNat := by
  simp only [PostBody.onRecv, PostBody.whileReading]
  split
  · have hnone : ret.toNat = 0 := by omega
    split <;> exact ⟨rfl, hnone ▸ rfl⟩
  · split <;> exact ⟨rfl, rfl⟩

/-- The loop goes on after a timeout, and after bytes when some are missing. -/
theorem onRecv_reading {b : PostBody} (h : b.phase = .reading) (ret : Int) :
    (b.onRecv ret).phase = .reading ↔
      ret = httpdSockErrTimeout ∨ 0 < ret ∧ b.readed + ret.toNat < b.contentLen := by
  simp only [PostBody.onRecv, PostBody.whileReading]
  split
  · split
    · next htimeout => exact iff_of_true h (.inl htimeout)
    · next htimeout =>
      apply iff_of_false PostPhase.noConfusion
      rintro (h | ⟨hpos, _⟩)
      · exact htimeout h
      · omega
  · next hpos =>
    have htimeout : ret ≠ httpdSockErrTimeout := by
      simp only [httpdSockErrTimeout]
      omega
    split
    · next hlt => exact iff_of_true h (.inr ⟨by omega, hlt⟩)
    · next hge =>
      apply iff_of_false PostPhase.noConfusion
      rintro (h | ⟨_, hlt⟩)
      · exact htimeout h
      · exact hge hlt

/-- After the first `n` results the handler has read what they brought. -/
theorem bodyAfter_readed {req : PostRequest} {results : Nat → Int} {n : Nat} {b : PostBody}
    (h : bodyAfter req results n = some b) :
    b.contentLen = req.contentLen ∧ b.readed = received results n := by
  induction n generalizing b with
  | zero =>
    cases h
    simp only [webrtcSignalPostHandler, PostBody.whileReading, received]
    split
    · exact ⟨rfl, rfl⟩
    · split <;> exact ⟨rfl, rfl⟩
  | succ n ih =>
    obtain ⟨c, hc, hstep⟩ := bodyAfter_succ.mp h
    simp only [PostBody.step] at hstep
    split at hstep
    · cases hstep
      obtain ⟨hlen, hreaded⟩ := ih hc
      obtain ⟨hlen', hreaded'⟩ := onRecv_readed c (results n)
      exact ⟨hlen'.trans hlen, by rw [hreaded', hreaded, received]⟩
    · exact absurd hstep (by simp)

/-- The loop goes on after the first `n` results when none failed and they did not bring the whole
body. -/
theorem reading_iff {req : PostRequest} {results : Nat → Int} {n : Nat} :
    (∃ b, bodyAfter req results n = some b ∧ b.phase = .reading) ↔
      req.reads ∧ (∀ m < n, results m = httpdSockErrTimeout ∨ 0 < results m) ∧
        received results n < req.contentLen := by
  induction n with
  | zero =>
    constructor
    · rintro ⟨b, hb, hreading⟩
      cases hb
      obtain ⟨hreads, hpos⟩ := (reading_start req).mp hreading
      exact ⟨hreads, fun m hm ↦ absurd hm (Nat.not_lt_zero m), hpos⟩
    · rintro ⟨hreads, _, hpos⟩
      exact ⟨_, rfl, (reading_start req).mpr ⟨hreads, hpos⟩⟩
  | succ n ih =>
    constructor
    · rintro ⟨c, hc, hreading⟩
      obtain ⟨b, hb, hstep⟩ := bodyAfter_succ.mp hc
      simp only [PostBody.step] at hstep
      split at hstep
      · next hret =>
        cases hstep
        obtain ⟨hreads, hok, hlt⟩ := ih.mp ⟨b, hb, hret.1⟩
        obtain ⟨hlen, hreaded⟩ := bodyAfter_readed hb
        have hlast := (onRecv_reading hret.1 (results n)).mp hreading
        refine ⟨hreads, ?_, ?_⟩
        · intro m hm
          rcases Nat.lt_succ_iff_lt_or_eq.mp hm with hm | rfl
          · exact hok m hm
          · exact hlast.imp_right And.left
        · rw [received]
          rcases hlast with htimeout | ⟨_, hlt'⟩
          · rw [htimeout]
            exact hlt
          · omega
      · exact absurd hstep (by simp)
    · rintro ⟨hreads, hok, hlt⟩
      rw [received] at hlt
      obtain ⟨b, hb, hreading⟩ := ih.mpr ⟨hreads, fun m hm ↦ hok m (by omega), by omega⟩
      obtain ⟨hlen, hreaded⟩ := bodyAfter_readed hb
      have hstep : b.step (results n) = some (b.onRecv (results n)) :=
        if_pos ⟨hreading, by omega⟩
      refine ⟨_, bodyAfter_succ.mpr ⟨b, hb, hstep⟩, (onRecv_reading hreading _).mpr ?_⟩
      exact (hok n (by omega)).imp_right fun hpos ↦ ⟨hpos, by omega⟩

/-! ### Endless loops -/

/-- Results bring no fewer bytes the more there are. -/
theorem received_mono {results : Nat → Int} {m n : Nat} (h : m ≤ n) :
    received results m ≤ received results n := by
  induction n with
  | zero => exact Nat.le_zero.mp h ▸ Nat.le_refl _
  | succ n ih =>
    rcases Nat.le_succ_iff.mp h with h | rfl
    · exact Nat.le_trans (ih h) (Nat.le_add_right _ _)
    · exact Nat.le_refl _

/-- Within a body that is never whole the results stop bringing bytes. -/
theorem eventually_timeout {results : Nat → Int} {contentLen : Nat}
    (hok : ∀ n, results n = httpdSockErrTimeout ∨ 0 < results n)
    (hlt : ∀ n, received results n < contentLen) :
    ∃ n, ∀ m, n ≤ m → results m = httpdSockErrTimeout := by
  -- After the results that leave the fewest bytes missing no bytes come any more.
  obtain ⟨n, hleast⟩ :
      ∃ n, ∀ m, contentLen - received results n ≤ contentLen - received results m :=
    ⟨_, fun m ↦ Function.argmin_le (fun n ↦ contentLen - received results n) m⟩
  refine ⟨n, fun m hm ↦ (hok m).resolve_right fun hpos ↦ ?_⟩
  have hmore : received results n ≤ received results m := received_mono hm
  have hfewest := hleast (m + 1)
  have := hlt (m + 1)
  simp only [received] at hfewest this
  omega

/-- Timeouts bring no bytes. -/
theorem received_le_of_timeouts {results : Nat → Int} {k : Nat}
    (h : ∀ m, k ≤ m → results m = httpdSockErrTimeout) (n : Nat) :
    received results n ≤ received results k := by
  rcases Nat.le_total n k with hn | hn
  · exact received_mono hn
  · induction n, hn using Nat.le_induction with
    | base => exact Nat.le_refl _
    | succ n hn ih =>
      rw [received, h n hn]
      exact ih

/-- The loop of the handler writes within its buffer and ends exactly when the client does not
stall before the end of its body. -/
theorem loopBounded_iff (req : PostRequest) (results : Nat → Int) :
    LoopBounded req results ↔ ¬ Stalls req results := by
  constructor
  · rintro ⟨_, n, hends⟩ ⟨hreads, k, hok, hlt, htimeouts⟩
    have hokn : ∀ m < n, results m = httpdSockErrTimeout ∨ 0 < results m := by
      intro m _
      rcases Nat.lt_or_ge m k with hm | hm
      · exact hok m hm
      · exact .inl (htimeouts m hm)
    obtain ⟨b, hb, hreading⟩ := reading_iff.mpr
      ⟨hreads, hokn, Nat.lt_of_le_of_lt (received_le_of_timeouts htimeouts n) hlt⟩
    exact hends b hb hreading
  · intro hstalls
    refine ⟨fun n b h ↦ (inBuffer_bodyAfter h).writes, Classical.byContradiction fun hends ↦ ?_⟩
    have hloops (n : Nat) : req.reads ∧
        (∀ m < n, results m = httpdSockErrTimeout ∨ 0 < results m) ∧
        received results n < req.contentLen := by
      refine reading_iff.mp (Classical.byContradiction fun hno ↦ hends ⟨n, ?_⟩)
      exact fun b hb hreading ↦ hno ⟨b, hb, hreading⟩
    obtain ⟨n, htimeouts⟩ := eventually_timeout
      (fun m ↦ (hloops (m + 1)).2.1 m (Nat.lt_succ_self m)) (fun n ↦ (hloops n).2.2)
    exact hstalls ⟨(hloops 0).1, n, (hloops n).2.1, (hloops n).2.2, htimeouts⟩

/-- A client announces one byte and sends none. -/
theorem silent_client_holds : ¬ LoopBounded ⟨false, 1, true⟩ (fun _ ↦ httpdSockErrTimeout) := by
  rintro ⟨_, n, hends⟩
  have hloops (n : Nat) : bodyAfter ⟨false, 1, true⟩ (fun _ ↦ httpdSockErrTimeout) n =
      some ⟨1, 0, .reading, []⟩ := by
    induction n with
    | zero => rfl
    | succ n ih => exact bodyAfter_succ.mpr ⟨_, ih, rfl⟩
  exact hends _ (hloops n) rfl

end Esp32Robot.Http

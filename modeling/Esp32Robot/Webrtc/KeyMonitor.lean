import Esp32Robot.Base.Run
import Esp32Robot.Webrtc.DoorBell

/-!
# The key monitor threads

`start_webrtc`, `stop_webrtc` and `key_monitor_thread` of
`IDF_esp32p4_webrtc/main/webrtc.c`, in the build with Janus signaling, at the
statements that the threads of the key depend on. One call of the application
follows the other; between two of its statements any thread may poll the key. A
thread ends where its poll finds `monitor_key` reset. A start sets the flag again
for its own thread, so the earlier ones must have ended by then, and only the
cleanup of a session resets it, so a start that opens no session leaves it set.
-/

namespace Esp32Robot.Webrtc

open Esp32Robot.Base

/-- Who called `cleanup_webrtc_handle`: `stop_webrtc`, the start of `start_webrtc` for the old
session, or one of its error paths. -/
inductive CleanupCaller where
  | stop
  | restart
  | failure
  deriving DecidableEq, Repr

/-- The statements of `start_webrtc`, `cleanup_webrtc_handle` and `stop_webrtc`. -/
inductive SessionInstr where
  | testNetwork
  | testWebrtc
  | testHandle (caller : CleanupCaller)
  | unsetMonitorKey (caller : CleanupCaller)
  | clearHandle (caller : CleanupCaller)
  | closeHandle (caller : CleanupCaller)
  | setMonitorKey
  | createKeyThread
  | openWebrtc
  | startHandle
  | returnError
  deriving DecidableEq, Repr

/-- A `key_monitor_thread`: its `last_level` and `init_level` once it has read the key, and whether
it has not ended. -/
structure KeyThread where
  levels : Option (Bool × Bool)
  alive : Bool
  deriving DecidableEq, Repr

/-- Whether there is a session, `monitor_key`, whether the last `start_webrtc` has returned an
error, the next statement of the call in progress, the threads created so far, and how often they
called `send_cmd("ring")`. -/
structure KeyMonitor where
  webrtc : Bool
  monitorKey : Bool
  returnedError : Bool
  call : Option SessionInstr
  keyThreads : List KeyThread
  rings : Nat
  deriving DecidableEq, Repr

/-- Where `cleanup_webrtc_handle` returns to. -/
def CleanupCaller.resume : CleanupCaller → Option SessionInstr
  | .stop => none
  | .restart => some .setMonitorKey
  | .failure => some .returnError

/-- One statement; `ok` is the outcome of the call in it. -/
def SessionInstr.exec (ok : Bool) (s : KeyMonitor) : SessionInstr → KeyMonitor
  -- `start_webrtc`, `webrtc.c:668–682,762–807`. Without a network it leaves the session as it is.
  | .testNetwork =>
    if ok then { s with call := some .testWebrtc }
    else { s with call := none, returnedError := true }
  | .testWebrtc =>
    { s with call := if s.webrtc then some (.testHandle .restart) else some .setMonitorKey }
  | .setMonitorKey => { s with monitorKey := true, call := some .createKeyThread }
  | .createKeyThread =>
    { s with
      keyThreads := if ok then s.keyThreads ++ [⟨none, true⟩] else s.keyThreads
      call := some .openWebrtc }
  -- `esp_webrtc_open` stores the handle only when it succeeds, `esp_webrtc.c:736–766`.
  | .openWebrtc =>
    if ok then { s with webrtc := true, call := some .startHandle }
    else { s with call := some (.testHandle .failure) }
  | .startHandle => { s with call := if ok then none else some (.testHandle .failure) }
  | .returnError => { s with returnedError := true, call := none }
  -- `cleanup_webrtc_handle`, `webrtc.c:100–111`
  | .testHandle c => { s with call := if s.webrtc then some (.unsetMonitorKey c) else c.resume }
  | .unsetMonitorKey c => { s with monitorKey := false, call := some (.clearHandle c) }
  | .clearHandle c => { s with webrtc := false, call := some (.closeHandle c) }
  | .closeHandle c => { s with call := c.resume }

/-- What a thread reads of the key, and the test of `monitor_key` that follows,
`webrtc.c:651–665`. -/
def KeyThread.poll (level monitorKey : Bool) (k : KeyThread) : KeyThread where
  levels :=
    match k.levels with
    | none => some (level, level)
    | some (last, init) => some (if level ≠ last then level else last, init)
  alive := monitorKey

/-- The thread finds the key pressed: its level has changed, and not to the initial one. -/
def KeyThread.rings (level : Bool) (k : KeyThread) : Bool :=
  match k.levels with
  | none => false
  | some (last, init) => level ≠ last && level ≠ init

/-- A call of `start_webrtc` or `stop_webrtc`, its next statement, or a poll of a thread. -/
inductive KeyEvent where
  | start
  | stop
  | exec (ok : Bool)
  | poll (thread : Nat) (level : Bool)
  deriving DecidableEq, Repr

namespace KeyMonitor

/-- The static initial values. -/
def initial : KeyMonitor where
  webrtc := false
  monitorKey := false
  returnedError := false
  call := none
  keyThreads := []
  rings := 0

/-- A poll of a thread that has not ended. -/
def poll (i : Nat) (level : Bool) (s : KeyMonitor) : Option KeyMonitor :=
  match s.keyThreads[i]? with
  | some k =>
    if k.alive then
      some { s with
        keyThreads := s.keyThreads.set i (k.poll level s.monitorKey)
        rings := s.rings + (k.rings level).toNat }
    else none
  | none => none

/-- One step. A call begins when the one before it has returned. -/
def step (s : KeyMonitor) : KeyEvent → Option KeyMonitor
  | .start =>
    if s.call = none then some { s with call := some .testNetwork, returnedError := false }
    else none
  | .stop => if s.call = none then some { s with call := some (.testHandle .stop) } else none
  | .exec ok => s.call.map (SessionInstr.exec ok s)
  | .poll i level => s.poll i level

/-- How many threads are alive. -/
def live (s : KeyMonitor) : Nat := s.keyThreads.countP KeyThread.alive

/-- Thread `i` is alive. -/
def Alive (s : KeyMonitor) (i : Nat) : Prop := ∃ k, s.keyThreads[i]? = some k ∧ k.alive = true

end KeyMonitor

open KeyMonitor

/-- Threads do not accumulate in a run: at most one is alive while there is a session, and when
`start_webrtc` has returned an error, and every thread alive then has polled the key again without
a start in between, none is alive. -/
structure NoAccumulation (es : List KeyEvent) : Prop where
  single : ∀ pre s, pre <+: es → run step initial pre = some s → s.webrtc = true → s.live ≤ 1
  ended : ∀ pre post s t, pre ++ post <+: es → run step initial pre = some s →
    s.returnedError = true → .start ∉ post →
    (∀ i, s.Alive i → ∃ level, .poll i level ∈ post) → run step s post = some t → t.live = 0

/-- `monitor_key` is set for a new thread when no other one is alive, `esp_webrtc_open` does not
fail while one is, and no start is refused for the missing network while a session has one. -/
def Orderly (s : KeyMonitor) : KeyEvent → Prop
  | .exec ok =>
    (s.call = some .setMonitorKey → s.live = 0) ∧
      (s.call = some .openWebrtc → ok = false → s.live = 0) ∧
      (s.call = some .testNetwork → ok = false → s.webrtc = true → s.live = 0)
  | _ => True

instance (s : KeyMonitor) (e : KeyEvent) : Decidable (Orderly s e) :=
  match e with
  | .exec _ => inferInstanceAs (Decidable (_ ∧ _))
  | .start | .stop | .poll _ _ => isTrue trivial

namespace KeyMonitor

/-! ### Calls without a poll in between -/

/-- The session and the flag are those of the application. -/
def Agrees (s : KeyMonitor) (d : DoorBell) : Prop :=
  s.webrtc = d.webrtc.isSome ∧ s.monitorKey = d.monitorKey

/-- Scheduling a retry leaves both. -/
theorem agrees_scheduleJanusRetry {s : KeyMonitor} {d : DoorBell} {net : Bool} :
    Agrees s (scheduleJanusRetry net d) ↔ Agrees s d := by
  unfold scheduleJanusRetry
  split <;> exact Iff.rfl

/-- What `start_webrtc` does once the old session is gone. -/
theorem runs_openAndStart {s : KeyMonitor} {d : DoorBell} (hs : s.webrtc = false)
    (hd : d.webrtc = none) (hcall : s.call = some .setMonitorKey) (net : Bool)
    (outcome : StartOutcome) :
    ∃ oks t, run step s (List.map .exec oks) = some t ∧ t.call = none ∧
      Agrees t (openAndStart net outcome d).2 ∧
      t.keyThreads.length = s.keyThreads.length + 1 := by
  obtain ⟨webrtc, monitorKey, returnedError, call, keyThreads, rings⟩ := s
  cases hs
  cases hcall
  cases outcome with
  | openFails =>
    refine ⟨[true, true, false, true, true], _, rfl, rfl, ?_, by simp [SessionInstr.exec]⟩
    apply agrees_scheduleJanusRetry.mpr
    simp [Agrees, cleanupWebrtcHandle, DoorBell.emit, SessionInstr.exec, hd]
  | startFails =>
    refine ⟨[true, true, true, false, true, true, true, true, true], _, rfl, rfl, ?_,
      by simp [SessionInstr.exec]⟩
    apply agrees_scheduleJanusRetry.mpr
    exact ⟨rfl, rfl⟩
  | starts =>
    refine ⟨[true, true, true, true], _, rfl, rfl, ?_, by simp [SessionInstr.exec]⟩
    exact ⟨rfl, rfl⟩

/-- `start_webrtc` first closes the old session. -/
theorem runs_restart {s : KeyMonitor} {d : DoorBell} (h : Agrees s d) (hidle : s.call = none)
    (outcome : StartOutcome) :
    ∃ oks t e, run step s (.start :: List.map .exec oks) = some t ∧ t.webrtc = false ∧
      t.call = some .setMonitorKey ∧ t.keyThreads = s.keyThreads ∧ e.webrtc = none ∧
      startWebrtc true outcome d = openAndStart true outcome e := by
  obtain ⟨webrtc, monitorKey, returnedError, call, keyThreads, rings⟩ := s
  obtain ⟨hwebrtc, hkey⟩ := h
  cases hidle
  cases hd : d.webrtc with
  | none =>
    rw [hd] at hwebrtc
    cases hwebrtc
    refine ⟨[true, true], _, { d.emit .startWebrtc with janusRetryStop := false },
      rfl, rfl, rfl, rfl, hd, ?_⟩
    simp [startWebrtc, DoorBell.emit, hd]
  | some handle =>
    rw [hd] at hwebrtc
    cases hwebrtc
    refine ⟨[true, true, true, true, true, true], _, cleanupWebrtcHandle { d.emit .startWebrtc with
      janusRetryStop := false, webrtcConnected := false }, rfl, rfl, rfl, rfl, ?_, ?_⟩
    · simp [cleanupWebrtcHandle, DoorBell.emit, hd]
    · simp [startWebrtc, DoorBell.emit, hd]

/-- `start_webrtc` runs as the application's, and creates a thread once it passed the network
test. -/
theorem runs_startWebrtc {s : KeyMonitor} {d : DoorBell} (h : Agrees s d) (hidle : s.call = none)
    (net : Bool) (outcome : StartOutcome) :
    ∃ oks t, run step s (.start :: List.map .exec oks) = some t ∧ t.call = none ∧
      Agrees t (startWebrtc net outcome d).2 ∧
      t.keyThreads.length = s.keyThreads.length + net.toNat := by
  cases net with
  | false =>
    refine ⟨[false], { s with returnedError := true }, ?_, hidle, h, rfl⟩
    simp [run_cons, step, hidle, SessionInstr.exec]
  | true =>
    obtain ⟨oks, u, e, hu, hwebrtc, hcall, hthreads, he, hstart⟩ := runs_restart h hidle outcome
    obtain ⟨oks', t, ht, hdone, hagrees, hlength⟩ :=
      runs_openAndStart hwebrtc he hcall true outcome
    refine ⟨oks ++ oks', t, ?_, hdone, ?_, ?_⟩
    · rw [List.map_append, ← List.cons_append]
      exact run_append_some.mpr ⟨u, hu, ht⟩
    · rw [hstart]
      exact hagrees
    · rw [hlength, hthreads]
      rfl

/-- So does `stop_webrtc`, which creates none. -/
theorem runs_stopWebrtc {s : KeyMonitor} {d : DoorBell} (h : Agrees s d) (hidle : s.call = none) :
    ∃ oks t, run step s (.stop :: List.map .exec oks) = some t ∧ t.call = none ∧
      Agrees t (stopWebrtc d) ∧ t.keyThreads = s.keyThreads := by
  obtain ⟨webrtc, monitorKey, returnedError, call, keyThreads, rings⟩ := s
  obtain ⟨hwebrtc, hkey⟩ := h
  cases hidle
  cases hd : d.webrtc with
  | none =>
    rw [hd] at hwebrtc
    cases hwebrtc
    refine ⟨[true], _, rfl, rfl, ?_, rfl⟩
    simp only [Agrees, stopWebrtc, cleanupWebrtcHandle, DoorBell.emit, hd]
    exact ⟨rfl, hkey⟩
  | some handle =>
    rw [hd] at hwebrtc
    cases hwebrtc
    refine ⟨[true, true, true, true], _, rfl, rfl, ?_, rfl⟩
    simp only [Agrees, stopWebrtc, cleanupWebrtcHandle, DoorBell.emit, hd]
    exact ⟨rfl, rfl⟩

section Step

variable {s t : KeyMonitor} {i j : Nat} {level ok : Bool}

/-! ### One poll -/

/-- A poll reads the key for a thread that is alive, and ends it unless the flag is set. -/
theorem poll_some (h : s.poll i level = some t) :
    ∃ k, s.keyThreads[i]? = some k ∧ k.alive = true ∧
      t = { s with
        keyThreads := s.keyThreads.set i (k.poll level s.monitorKey)
        rings := s.rings + (k.rings level).toNat } := by
  unfold poll at h
  split at h
  · next k hk =>
    split at h
    · next halive =>
      cases h
      exact ⟨k, hk, halive, rfl⟩
    · exact absurd h (by simp)
  · exact absurd h (by simp)

/-- A poll does not make a thread alive. -/
theorem live_poll (h : s.poll i level = some t) : t.live ≤ s.live := by
  obtain ⟨k, hk, halive, rfl⟩ := poll_some h
  obtain ⟨hi, rfl⟩ := List.getElem?_eq_some_iff.mp hk
  have hpos : 0 < s.live := List.countP_pos_iff.mpr ⟨_, List.mem_of_getElem? hk, halive⟩
  unfold live at hpos ⊢
  rw [List.countP_set hi, if_pos halive]
  split <;> omega

/-- Where the flag is reset, a poll ends its thread and leaves the others. -/
theorem alive_poll (h : s.poll i level = some t) (hkey : s.monitorKey = false)
    (halive : t.Alive j) : s.Alive j ∧ j ≠ i := by
  obtain ⟨k, hk, _, rfl⟩ := poll_some h
  obtain ⟨x, hx, hxalive⟩ := halive
  by_cases hij : i = j
  · subst hij
    obtain ⟨hi, _⟩ := List.getElem?_eq_some_iff.mp hk
    rw [List.getElem?_set_self hi] at hx
    cases hx
    exact absurd (hkey.symm.trans hxalive) (by decide)
  · rw [List.getElem?_set_ne hij] at hx
    exact ⟨⟨x, hx, hxalive⟩, Ne.symm hij⟩

/-- No thread is alive when none of them is. -/
theorem live_eq_zero (h : ∀ i, ¬ s.Alive i) : s.live = 0 := by
  apply List.countP_eq_zero.mpr
  intro k hk halive
  obtain ⟨i, hi⟩ := List.mem_iff_getElem?.mp hk
  exact h i ⟨k, hi, halive⟩

/-- A thread that is alive is counted. -/
theorem live_pos (h : s.Alive i) : 0 < s.live := by
  obtain ⟨k, hk, halive⟩ := h
  exact List.countP_pos_iff.mpr ⟨k, List.mem_of_getElem? hk, halive⟩

end Step

end KeyMonitor

/-! ### Orderly runs -/

/-- The statements that `stop_webrtc` runs. -/
def SessionInstr.inStop : SessionInstr → Bool
  | .testHandle .stop | .unsetMonitorKey .stop | .clearHandle .stop | .closeHandle .stop => true
  | _ => false

namespace KeyMonitor

/-- There is at most one thread, none when the next one is created, and without a session the flag
is reset or there is none, unless the session of a thread is about to be opened. After an error
the flag is reset or there is none, and no call but of `stop_webrtc` is in progress. -/
structure OneThread (s : KeyMonitor) : Prop where
  one : s.live ≤ 1
  create : s.call = some .createKeyThread → s.live = 0
  closed : s.webrtc = false → s.call ≠ some .openWebrtc → s.monitorKey = false ∨ s.live = 0
  unset : ∀ c, s.call = some (.clearHandle c) → s.monitorKey = false
  cleared : ∀ c, s.call = some (.closeHandle c) → s.webrtc = false
  failing : s.call = some .returnError → s.webrtc = false
  error : s.returnedError = true →
    (s.monitorKey = false ∨ s.live = 0) ∧ ∀ ins ∈ s.call, ins.inStop = true

/-- Nothing has been created yet. -/
theorem oneThread_initial : OneThread initial := by
  constructor <;> simp [initial, live]

section Runs

variable {s t u : KeyMonitor} {i j : Nat} {level ok : Bool} {e : KeyEvent} {ins : SessionInstr}

/-- Going on to a statement that does not need the threads counted. -/
theorem OneThread.goto (h : OneThread s) (next : Option SessionInstr)
    (hopen : s.call = some .openWebrtc → s.live = 0) (hcreate : next ≠ some .createKeyThread)
    (hunset : ∀ c, next = some (.clearHandle c) → s.monitorKey = false)
    (hcleared : ∀ c, next = some (.closeHandle c) → s.webrtc = false)
    (hfailing : next = some .returnError → s.webrtc = false)
    (herror : s.returnedError = true → ∀ ins ∈ next, ins.inStop = true) :
    OneThread { s with call := next } where
  one := h.one
  create hcall := absurd hcall hcreate
  closed hclosed _ := by
    by_cases hcall : s.call = some .openWebrtc
    · exact .inr (hopen hcall)
    · exact h.closed hclosed hcall
  unset := hunset
  cleared := hcleared
  failing := hfailing
  error hreturned := ⟨(h.error hreturned).1, herror hreturned⟩

/-- A new start forgets the error of the one before it. -/
theorem OneThread.forget (h : OneThread s) : OneThread { s with returnedError := false } :=
  { h with error := fun herror ↦ absurd herror Bool.false_ne_true }

/-- `cleanup_webrtc_handle` returns. -/
theorem OneThread.resume (h : OneThread s) {c : CleanupCaller} (hclosed : s.webrtc = false)
    (hcall : s.call = some (.testHandle c) ∨ s.call = some (.closeHandle c)) :
    OneThread { s with call := c.resume } := by
  apply h.goto
  · intro hopen
    rw [hopen] at hcall
    exact hcall.elim (fun h ↦ nomatch h) (fun h ↦ nomatch h)
  · cases c <;> exact fun h ↦ nomatch h
  · cases c <;> exact fun _ h ↦ nomatch h
  · cases c <;> exact fun _ h ↦ nomatch h
  · exact fun _ ↦ hclosed
  · intro herror ins hins
    have hstop := (h.error herror).2
    cases c
    · cases hins
    all_goals
      rcases hcall with hcall | hcall <;> exact absurd (hstop _ hcall) (by decide)

/-- A statement of `start_webrtc` is not reached after an error. -/
theorem OneThread.noError (h : OneThread s) (hcall : s.call = some ins)
    (hins : ins.inStop = false) : s.returnedError = false := by
  cases herror : s.returnedError with
  | false => rfl
  | true => exact absurd (hins.symm.trans ((h.error herror).2 ins hcall)) (by decide)

/-- A poll. -/
theorem OneThread.poll (h : OneThread s) (ht : s.poll i level = some t) : OneThread t := by
  have hlive := live_poll ht
  obtain ⟨k, _, _, rfl⟩ := poll_some ht
  constructor
  · exact Nat.le_trans hlive h.one
  · intro hcall
    have := h.create hcall
    omega
  · intro hclosed hcall
    rcases h.closed hclosed hcall with hkey | hnone
    · exact .inl hkey
    · exact .inr (by omega)
  · exact h.unset
  · exact h.cleared
  · exact h.failing
  · intro hreturned
    obtain ⟨hquiet, hstop⟩ := h.error hreturned
    exact ⟨hquiet.imp_right (by omega), hstop⟩

/-- A new thread is created when there is none. -/
theorem OneThread.createKeyThread (h : OneThread s) (hcall : s.call = some .createKeyThread) :
    OneThread (SessionInstr.createKeyThread.exec ok s) := by
  have hnone := h.create hcall
  have herror := h.noError hcall rfl
  have hone : (SessionInstr.createKeyThread.exec ok s).live ≤ 1 := by
    unfold live at hnone ⊢
    cases ok
    · exact Nat.le_trans (Nat.le_of_eq hnone) (Nat.zero_le 1)
    · simp [SessionInstr.exec, List.countP_append, hnone]
  constructor
  · exact hone
  · exact fun h ↦ nomatch h
  · exact fun _ hopen ↦ absurd rfl hopen
  · exact fun _ h ↦ nomatch h
  · exact fun _ h ↦ nomatch h
  · exact fun h ↦ nomatch h
  · intro hreturned
    exact absurd (herror.symm.trans hreturned) (by decide)

/-- A session is cleaned up: the flag is reset before the handle. -/
theorem OneThread.cleanup (h : OneThread s) {c : CleanupCaller} (hcall : s.call = some ins)
    (hins : ins = .unsetMonitorKey c ∨ ins = .clearHandle c) : OneThread (ins.exec ok s) := by
  have herror (hreturned : s.returnedError = true) : c = .stop := by
    have hstop := (h.error hreturned).2 ins hcall
    rcases hins with rfl | rfl <;> cases c <;> first | rfl | exact absurd hstop (by decide)
  have hopen : s.call ≠ some .openWebrtc := by
    rw [hcall]
    rcases hins with rfl | rfl <;> exact fun h ↦ nomatch h
  rcases hins with rfl | rfl
  · constructor
    · exact h.one
    · exact fun h ↦ nomatch h
    · exact fun _ _ ↦ .inl rfl
    · exact fun _ _ ↦ rfl
    · exact fun _ h ↦ nomatch h
    · exact fun h ↦ nomatch h
    · intro hreturned
      cases herror hreturned
      exact ⟨.inl rfl, by simp [SessionInstr.exec, SessionInstr.inStop]⟩
  · constructor
    · exact h.one
    · exact fun h ↦ nomatch h
    · exact fun _ _ ↦ .inl (h.unset c hcall)
    · exact fun _ h ↦ nomatch h
    · exact fun _ _ ↦ rfl
    · exact fun h ↦ nomatch h
    · intro hreturned
      cases herror hreturned
      exact ⟨.inl (h.unset .stop hcall), by simp [SessionInstr.exec, SessionInstr.inStop]⟩

/-- The flag is set when there is no thread, and a session is opened for the one created since. -/
theorem OneThread.startThread (h : OneThread s) (hcall : s.call = some ins)
    (hins : ins = .setMonitorKey ∧ s.live = 0 ∨ ins = .openWebrtc ∧ ok = true) :
    OneThread (ins.exec ok s) := by
  have herror : s.returnedError = false := by
    rcases hins with ⟨rfl, _⟩ | ⟨rfl, _⟩ <;> exact h.noError hcall rfl
  rcases hins with ⟨rfl, hnone⟩ | ⟨rfl, rfl⟩
  · constructor
    · exact h.one
    · exact fun _ ↦ hnone
    · exact fun _ _ ↦ .inr hnone
    · exact fun _ h ↦ nomatch h
    · exact fun _ h ↦ nomatch h
    · exact fun h ↦ nomatch h
    · exact fun hreturned ↦ absurd (herror.symm.trans hreturned) (by decide)
  · constructor
    · exact h.one
    · exact fun h ↦ nomatch h
    · exact fun h ↦ nomatch h
    · exact fun _ h ↦ nomatch h
    · exact fun _ h ↦ nomatch h
    · exact fun h ↦ nomatch h
    · exact fun hreturned ↦ absurd (herror.symm.trans hreturned) (by decide)

/-- `start_webrtc` returns an error. -/
theorem OneThread.returnsError (h : OneThread s) (hcall : s.call = some ins)
    (hins : ins = .testNetwork ∧ ok = false ∨ ins = .returnError)
    (hrefused : ins = .testNetwork → s.webrtc = true → s.live = 0) :
    OneThread (ins.exec ok s) := by
  have hidle : OneThread { s with call := none } := by
    apply h.goto <;> rcases hins with ⟨rfl, _⟩ | rfl <;> simp [hcall]
  have hopen : s.call ≠ some .openWebrtc := by
    rw [hcall]
    rcases hins with ⟨rfl, _⟩ | rfl <;> exact fun h ↦ nomatch h
  have hquiet : s.monitorKey = false ∨ s.live = 0 := by
    cases hwebrtc : s.webrtc with
    | false => exact h.closed hwebrtc hopen
    | true =>
      rcases hins with ⟨hins, _⟩ | rfl
      · exact .inr (hrefused hins hwebrtc)
      · exact absurd (hwebrtc.symm.trans (h.failing hcall)) (by decide)
  rcases hins with ⟨rfl, rfl⟩ | rfl
  all_goals exact { hidle with error := fun _ ↦ ⟨hquiet, by simp [SessionInstr.exec]⟩ }

/-- `start_webrtc` goes on to another test. -/
theorem OneThread.proceed (h : OneThread s) (hcall : s.call = some ins)
    (hins : ins.inStop = false) (hopen : ins = .openWebrtc → s.live = 0)
    {next : Option SessionInstr} (hnext : next ∈ [none, some .testWebrtc, some .setMonitorKey,
      some (.testHandle .restart), some (.testHandle .failure)]) :
    OneThread { s with call := next } := by
  have herror := h.noError hcall hins
  have hopen' : s.call = some .openWebrtc → s.live = 0 := by
    intro h
    exact hopen (Option.some.inj (hcall.symm.trans h))
  simp only [List.mem_cons, List.not_mem_nil, or_false] at hnext
  rcases hnext with rfl | rfl | rfl | rfl | rfl <;>
    exact h.goto _ hopen' (by simp) (by simp) (by simp) (by simp) (by simp [herror])

/-- The test of `cleanup_webrtc_handle`. -/
theorem OneThread.testHandle (h : OneThread s) {c : CleanupCaller}
    (hcall : s.call = some (.testHandle c)) :
    OneThread ((SessionInstr.testHandle c).exec ok s) := by
  by_cases hwebrtc : s.webrtc = true
  · have herror : s.returnedError = true →
        ∀ ins ∈ some (SessionInstr.unsetMonitorKey c), ins.inStop = true := by
      intro hreturned ins hins
      have hstop := (h.error hreturned).2 _ hcall
      cases hins
      cases c <;> first | rfl | exact absurd hstop (by decide)
    have hexec : (SessionInstr.testHandle c).exec ok s =
        { s with call := some (.unsetMonitorKey c) } := by
      simp only [SessionInstr.exec, if_pos hwebrtc]
    rw [hexec]
    exact h.goto _ (by simp [hcall]) (by simp) (by simp) (by simp) (by simp) herror
  · have hexec : (SessionInstr.testHandle c).exec ok s = { s with call := c.resume } := by
      simp only [SessionInstr.exec, if_neg hwebrtc]
    rw [hexec]
    exact h.resume (Bool.eq_false_iff.mpr hwebrtc) (.inl hcall)

/-- One statement that meets the condition. -/
theorem OneThread.exec (h : OneThread s) (hcall : s.call = some ins)
    (hset : ins = .setMonitorKey → s.live = 0)
    (hopens : ins = .openWebrtc → ok = false → s.live = 0)
    (hrefused : ins = .testNetwork → ok = false → s.webrtc = true → s.live = 0) :
    OneThread (ins.exec ok s) := by
  cases ins with
  | testNetwork =>
    cases ok
    · exact h.returnsError hcall (.inl ⟨rfl, rfl⟩) (fun h ↦ hrefused h rfl)
    · exact h.proceed hcall rfl (fun h ↦ nomatch h) (by simp)
  | testWebrtc =>
    apply h.proceed hcall rfl (fun h ↦ nomatch h)
    split <;> simp
  | testHandle c => exact h.testHandle hcall
  | unsetMonitorKey c => exact h.cleanup hcall (.inl rfl)
  | clearHandle c => exact h.cleanup hcall (.inr rfl)
  | closeHandle c => exact h.resume (h.cleared c hcall) (.inr hcall)
  | setMonitorKey => exact h.startThread hcall (.inl ⟨rfl, hset rfl⟩)
  | createKeyThread => exact h.createKeyThread hcall
  | openWebrtc =>
    cases ok
    · exact h.proceed hcall rfl (fun _ ↦ hopens rfl rfl) (by simp)
    · exact h.startThread hcall (.inr ⟨rfl, rfl⟩)
  | startHandle =>
    apply h.proceed hcall rfl (fun h ↦ nomatch h)
    split <;> simp
  | returnError => exact h.returnsError hcall (.inr rfl) (fun h ↦ nomatch h)

/-- One step that meets the condition. -/
theorem OneThread.step (h : OneThread s) (he : Orderly s e) (ht : s.step e = some t) :
    OneThread t := by
  cases e with
  | start =>
    simp only [KeyMonitor.step] at ht
    split at ht
    · next hidle =>
      cases ht
      exact h.forget.goto _ (by simp [hidle]) (by simp) (by simp) (by simp) (by simp) (by simp)
    · exact absurd ht (by simp)
  | stop =>
    simp only [KeyMonitor.step] at ht
    split at ht
    · next hidle =>
      cases ht
      exact h.goto _ (by simp [hidle]) (by simp) (by simp) (by simp) (by simp)
        (by simp [SessionInstr.inStop])
    · exact absurd ht (by simp)
  | exec ok =>
    obtain ⟨ins, hcall, rfl⟩ := Option.map_eq_some_iff.mp ht
    apply h.exec hcall
    · rintro rfl
      exact he.1 hcall
    · rintro rfl
      exact he.2.1 hcall
    · rintro rfl
      exact he.2.2 hcall
  | poll i level => exact h.poll ht

/-- A run whose steps all meet the condition. -/
theorem oneThread_run {es : List KeyEvent} (h : StepsMeet Orderly KeyMonitor.step initial es)
    (hs : run KeyMonitor.step initial es = some s) : OneThread s :=
  run_invariant_of_meet oneThread_initial (fun _ _ _ hu he ht ↦ hu.step he ht) h hs

/-! ### After an error -/

/-- A statement of `stop_webrtc` creates no thread. -/
theorem exec_inStop (s : KeyMonitor) (ok : Bool) (hins : ins.inStop = true) :
    (ins.exec ok s).keyThreads = s.keyThreads ∧
      (ins.exec ok s).returnedError = s.returnedError := by
  unfold SessionInstr.inStop at hins
  split at hins
  all_goals first | exact ⟨rfl, rfl⟩ | exact absurd hins (by decide)

/-- Until the next start no thread becomes alive, and a poll ends its thread. -/
theorem alive_step (h : OneThread s) (herror : s.returnedError = true) (hstart : e ≠ .start)
    (ht : s.step e = some t) :
    t.returnedError = true ∧ ∀ j, t.Alive j → s.Alive j ∧ ∀ level, e ≠ .poll j level := by
  cases e with
  | start => exact absurd rfl hstart
  | stop =>
    simp only [step] at ht
    split at ht
    · cases ht
      exact ⟨herror, fun j hj ↦ ⟨hj, fun _ h ↦ nomatch h⟩⟩
    · exact absurd ht (by simp)
  | exec ok =>
    obtain ⟨ins, hcall, rfl⟩ := Option.map_eq_some_iff.mp ht
    obtain ⟨hthreads, hreturned⟩ := exec_inStop s ok ((h.error herror).2 ins hcall)
    refine ⟨hreturned.trans herror, fun j hj ↦ ⟨?_, fun _ h ↦ nomatch h⟩⟩
    unfold Alive at hj ⊢
    rw [hthreads] at hj
    exact hj
  | poll i level =>
    have hkey : s.monitorKey = false := by
      obtain ⟨k, hk, halive, _⟩ := poll_some ht
      have hpos := live_pos ⟨k, hk, halive⟩
      rcases (h.error herror).1 with hkey | hnone
      · exact hkey
      · omega
    refine ⟨?_, ?_⟩
    · obtain ⟨_, _, _, rfl⟩ := poll_some ht
      exact herror
    · intro j hj
      obtain ⟨hsame, hne⟩ := alive_poll ht hkey hj
      refine ⟨hsame, ?_⟩
      rintro level' heq
      cases heq
      exact hne rfl

/-- A thread that is alive some steps after an error has been alive all along, and has not polled
the key. -/
theorem alive_run {post : List KeyEvent} (h : OneThread s) (herror : s.returnedError = true)
    (hmeet : StepsMeet Orderly step s post) (hstart : .start ∉ post)
    (ht : run step s post = some t) :
    OneThread t ∧ t.returnedError = true ∧
      ∀ j, t.Alive j → s.Alive j ∧ ∀ level, .poll j level ∉ post := by
  induction post using concat_induction generalizing t with
  | nil =>
    cases ht
    exact ⟨h, herror, fun j hj ↦ ⟨hj, fun _ ↦ List.not_mem_nil⟩⟩
  | concat post e ih =>
    obtain ⟨u, hu, he⟩ := run_concat_some.mp ht
    simp only [List.mem_append, List.mem_singleton, not_or] at hstart ⊢
    obtain ⟨hinv, hreturned, halive⟩ := ih hmeet.left hstart.1 hu
    obtain ⟨hreturned', halive'⟩ := alive_step hinv hreturned (Ne.symm hstart.2) he
    refine ⟨hinv.step (hmeet.last hu) he, hreturned', ?_⟩
    intro j hj
    obtain ⟨hbefore, hne⟩ := halive' j hj
    obtain ⟨hfirst, hnone⟩ := halive j hbefore
    exact ⟨hfirst, fun level ↦ ⟨hnone level, (hne level).symm⟩⟩

/-! ### Where the condition fails -/

/-- While a new session is prepared there is none, and from its thread on the flag is set. It stays
set until the session is cleaned up. -/
def Preparing (s : KeyMonitor) : Prop :=
  match s.call with
  | some .createKeyThread | some .openWebrtc => s.monitorKey = true ∧ s.webrtc = false
  | some .setMonitorKey | some (.closeHandle _) => s.webrtc = false
  | some (.clearHandle _) => True
  | _ => s.webrtc = true → s.monitorKey = true

/-- Every step keeps it. -/
theorem Preparing.step (h : Preparing s) (ht : s.step e = some t) : Preparing t := by
  have hcalls (hidle : s.call = none) : s.webrtc = true → s.monitorKey = true := by
    simpa only [Preparing, hidle] using h
  cases e with
  | start =>
    simp only [KeyMonitor.step] at ht
    split at ht <;> cases ht
    exact hcalls ‹_›
  | stop =>
    simp only [KeyMonitor.step] at ht
    split at ht <;> cases ht
    exact hcalls ‹_›
  | poll i level =>
    obtain ⟨_, _, _, rfl⟩ := poll_some ht
    exact h
  | exec ok =>
    obtain ⟨ins, hcall, rfl⟩ := Option.map_eq_some_iff.mp ht
    simp only [Preparing, hcall] at h
    cases ins with
    | testNetwork => cases ok <;> exact h
    | testWebrtc => cases hwebrtc : s.webrtc <;> simp_all [Preparing, SessionInstr.exec]
    | testHandle c =>
      cases hwebrtc : s.webrtc <;> cases c <;>
        simp_all [Preparing, SessionInstr.exec, CleanupCaller.resume]
    | unsetMonitorKey c => exact trivial
    | clearHandle c => exact rfl
    | closeHandle c =>
      have hclosed : s.webrtc = false := h
      cases c
      · exact fun hwebrtc ↦ absurd (hwebrtc.symm.trans hclosed) (by decide)
      · exact hclosed
      · exact fun hwebrtc ↦ absurd (hwebrtc.symm.trans hclosed) (by decide)
    | setMonitorKey => exact ⟨rfl, h⟩
    | createKeyThread => exact h
    | openWebrtc => cases ok <;> exact fun _ ↦ h.1
    | startHandle => cases ok <;> exact h
    | returnError => exact h

/-- All along a run. -/
theorem preparing_run {es : List KeyEvent} (hs : run KeyMonitor.step initial es = some s) :
    Preparing s := by
  have hinitial : Preparing initial := fun h ↦ absurd h (by decide)
  exact run_invariant (I := Preparing) hinitial (fun _ _ _ h ht ↦ h.step ht) hs

/-- While the flag is set, polls leave every thread alive. -/
theorem run_polls (is : List Nat) (his : ∀ i ∈ is, s.Alive i) (hkey : s.monitorKey = true) :
    ∃ t, run step s (is.map (fun i ↦ .poll i false)) = some t ∧ ∀ j, s.Alive j → t.Alive j := by
  induction is generalizing s with
  | nil => exact ⟨s, rfl, fun _ h ↦ h⟩
  | cons i is ih =>
    obtain ⟨k, hk, halive⟩ := his i List.mem_cons_self
    obtain ⟨hi, _⟩ := List.getElem?_eq_some_iff.mp hk
    obtain ⟨u, hu⟩ : ∃ u, s.poll i false = some u := by
      unfold poll
      simp [hk, halive]
    have hsame : ∀ j, s.Alive j → u.Alive j := by
      obtain ⟨k, _, _, rfl⟩ := poll_some hu
      rintro j ⟨x, hx, hxalive⟩
      by_cases hij : i = j
      · subst hij
        exact ⟨_, List.getElem?_set_self hi, hkey⟩
      · exact ⟨x, (List.getElem?_set_ne hij).trans hx, hxalive⟩
    have hkey' : u.monitorKey = true := by
      obtain ⟨_, _, _, rfl⟩ := poll_some hu
      exact hkey
    obtain ⟨t, ht, hall⟩ := ih (fun j hj ↦ hsame j (his j (List.mem_cons_of_mem i hj))) hkey'
    refine ⟨t, ?_, fun j hj ↦ hall j (hsame j hj)⟩
    rw [List.map_cons, run_cons_some]
    exact ⟨u, hu, ht⟩

/-- The threads that are alive can be listed. -/
theorem exists_alive_list (s : KeyMonitor) : ∃ is : List Nat, ∀ i, i ∈ is ↔ s.Alive i := by
  refine ⟨(List.range s.keyThreads.length).filter
    (fun i ↦ s.keyThreads[i]?.any KeyThread.alive), ?_⟩
  intro i
  simp only [List.mem_filter, List.mem_range, Option.any_eq_true]
  constructor
  · rintro ⟨_, k, hk, halive⟩
    exact ⟨k, hk, halive⟩
  · rintro ⟨k, hk, halive⟩
    obtain ⟨hi, _⟩ := List.getElem?_eq_some_iff.mp hk
    exact ⟨hi, k, hk, halive⟩

/-- Polls meet the condition. -/
theorem orderly_polls (is : List Nat) :
    StepsMeet Orderly step s (is.map (fun i ↦ .poll i false)) := by
  intro pre e post u hes _
  have he : e ∈ is.map (fun i ↦ KeyEvent.poll i false) := by
    rw [hes]
    simp
  obtain ⟨i, _, rfl⟩ := List.mem_map.mp he
  exact trivial

/-- The flag is set for a second thread, and its session is opened. -/
theorem accumulates_of_setMonitorKey {es : List KeyEvent} (hs : run step initial es = some s)
    (hcall : s.call = some .setMonitorKey) (hlive : s.live ≠ 0) (ht : s.step (.exec ok) = some t) :
    ∃ fs, StepsMeet Orderly step t fs ∧ ¬ NoAccumulation (es ++ .exec ok :: fs) := by
  obtain ⟨ins, hins, rfl⟩ := Option.map_eq_some_iff.mp ht
  cases hcall.symm.trans hins
  refine ⟨[.exec true, .exec true], ?_, ?_⟩
  · simp [stepsMeet_cons, stepsMeet_nil, Orderly, SessionInstr.exec, KeyMonitor.step]
  · intro h
    have hrun : run step initial (es ++ [.exec ok, .exec true, .exec true]) = some { s with
        monitorKey := true
        keyThreads := s.keyThreads ++ [⟨none, true⟩]
        webrtc := true
        call := some .startHandle } :=
      run_append_some.mpr ⟨s, hs, run_cons_some.mpr ⟨_, ht, rfl⟩⟩
    have hone := h.single _ _ (List.prefix_refl _) hrun rfl
    simp only [live, List.countP_append, List.countP_singleton, if_true] at hone hlive
    omega

/-- After an error of `start_webrtc` that leaves the flag set, polls do not end the threads. -/
theorem accumulates_of_error {es : List KeyEvent} {u : KeyMonitor}
    (hu : run step initial es = some u) (herror : u.returnedError = true)
    (hkey : u.monitorKey = true) (hlive : u.live ≠ 0) :
    ∃ is : List Nat, ¬ NoAccumulation (es ++ is.map (fun i ↦ .poll i false)) := by
  -- The threads that are alive are polled one after the other.
  obtain ⟨is, hmem⟩ := exists_alive_list u
  obtain ⟨v, hv, hall⟩ := run_polls (s := u) is (fun i hi ↦ (hmem i).mp hi) hkey
  refine ⟨is, fun h ↦ ?_⟩
  have hnone := h.ended es _ _ _ (List.prefix_refl _) hu herror (by simp)
    (fun i hi ↦ ⟨false, List.mem_map.mpr ⟨i, (hmem i).mpr hi, rfl⟩⟩) hv
  obtain ⟨k, hk, halive⟩ := List.countP_pos_iff.mp (Nat.pos_of_ne_zero hlive)
  obtain ⟨i, hi⟩ := List.mem_iff_getElem?.mp hk
  have hpos := live_pos (hall i ⟨k, hi, halive⟩)
  omega

/-- A session cannot be opened for a thread: polls do not end it, nor any other one. -/
theorem accumulates_of_openWebrtc {es : List KeyEvent} (hs : run step initial es = some s)
    (hcall : s.call = some .openWebrtc) (hlive : s.live ≠ 0)
    (ht : s.step (.exec false) = some t) :
    ∃ fs, StepsMeet Orderly step t fs ∧ ¬ NoAccumulation (es ++ .exec false :: fs) := by
  have hpreparing := preparing_run hs
  simp only [Preparing, hcall] at hpreparing
  obtain ⟨hkey, hwebrtc⟩ := hpreparing
  obtain ⟨ins, hins, rfl⟩ := Option.map_eq_some_iff.mp ht
  cases hcall.symm.trans hins
  let u : KeyMonitor := { s with returnedError := true, call := none }
  have hreturns : run step (SessionInstr.openWebrtc.exec false s) [.exec true, .exec true] =
      some u := by
    simp [run_cons, KeyMonitor.step, SessionInstr.exec, CleanupCaller.resume, hwebrtc, u]
  have hu : run step initial (es ++ [.exec false, .exec true, .exec true]) = some u :=
    run_append_some.mpr ⟨s, hs, run_cons_some.mpr ⟨_, ht, hreturns⟩⟩
  obtain ⟨is, hno⟩ := accumulates_of_error hu rfl hkey hlive
  refine ⟨[.exec true, .exec true] ++ is.map (fun i ↦ .poll i false), ?_, ?_⟩
  · refine stepsMeet_cons.mpr ⟨?_, fun x hx ↦ stepsMeet_cons.mpr ⟨?_, fun _ _ ↦ orderly_polls is⟩⟩
    · simp [Orderly, SessionInstr.exec]
    · have hx : some { s with call := some .returnError } = some x := by
        simpa [KeyMonitor.step, SessionInstr.exec, CleanupCaller.resume, hwebrtc] using hx
      cases hx
      simp [Orderly]
  · simpa using hno

/-- A start is refused while there is a session: polls do not end its thread. -/
theorem accumulates_of_testNetwork {es : List KeyEvent} (hs : run step initial es = some s)
    (hcall : s.call = some .testNetwork) (hwebrtc : s.webrtc = true) (hlive : s.live ≠ 0)
    (ht : s.step (.exec false) = some t) :
    ∃ fs, StepsMeet Orderly step t fs ∧ ¬ NoAccumulation (es ++ .exec false :: fs) := by
  have hpreparing := preparing_run hs
  simp only [Preparing, hcall] at hpreparing
  have hkey : s.monitorKey = true := hpreparing hwebrtc
  obtain ⟨ins, hins, rfl⟩ := Option.map_eq_some_iff.mp ht
  cases hcall.symm.trans hins
  have hu : run step initial (es ++ [.exec false]) =
      some { s with call := none, returnedError := true } :=
    run_concat_some.mpr ⟨s, hs, ht⟩
  obtain ⟨is, hno⟩ := accumulates_of_error hu rfl hkey hlive
  exact ⟨is.map (fun i ↦ .poll i false), orderly_polls is, by simpa using hno⟩

end Runs

end KeyMonitor

/-- Threads do not accumulate in a run in which the flag is set for a new thread only when no other
one is alive, `esp_webrtc_open` does not fail while one is, and no start is refused for the missing
network while a session has one. -/
theorem noAccumulation_of_orderly {es : List KeyEvent} (h : StepsMeet Orderly step initial es) :
    NoAccumulation es := by
  constructor
  · rintro pre s ⟨post, rfl⟩ hs _
    exact (oneThread_run h.left hs).one
  · rintro pre post s t ⟨rest, rfl⟩ hs herror hstart hpolls ht
    have hinv : OneThread s := oneThread_run h.left.left hs
    obtain ⟨_, _, halive⟩ := alive_run hinv herror (h.left.right hs) hstart ht
    apply live_eq_zero
    intro j hj
    obtain ⟨hbefore, hnone⟩ := halive j hj
    obtain ⟨level, hpoll⟩ := hpolls j hbefore
    exact hnone level hpoll

/-- One event that does not meet the condition can be followed by events that all meet it, so that
threads accumulate. -/
theorem accumulates_of_not_orderly {es : List KeyEvent} {e : KeyEvent} {s t : KeyMonitor}
    (hs : run step initial es = some s) (he : ¬ Orderly s e) (ht : s.step e = some t) :
    ∃ fs, StepsMeet Orderly step t fs ∧ ¬ NoAccumulation (es ++ e :: fs) := by
  cases e with
  | exec ok =>
    by_cases hset : s.call = some .setMonitorKey ∧ s.live ≠ 0
    · exact accumulates_of_setMonitorKey hs hset.1 hset.2 ht
    · by_cases hopen : s.call = some .openWebrtc ∧ ok = false ∧ s.live ≠ 0
      · obtain ⟨hcall, rfl, hlive⟩ := hopen
        exact accumulates_of_openWebrtc hs hcall hlive ht
      · by_cases hrefused : s.call = some .testNetwork ∧ ok = false ∧ s.webrtc = true ∧ s.live ≠ 0
        · obtain ⟨hcall, rfl, hwebrtc, hlive⟩ := hrefused
          exact accumulates_of_testNetwork hs hcall hwebrtc hlive ht
        · refine absurd ⟨fun hcall ↦ ?_, fun hcall hok ↦ ?_, fun hcall hok hwebrtc ↦ ?_⟩ he
          · by_cases hlive : s.live = 0
            · exact hlive
            · exact absurd ⟨hcall, hlive⟩ hset
          · by_cases hlive : s.live = 0
            · exact hlive
            · exact absurd ⟨hcall, hok, hlive⟩ hopen
          · by_cases hlive : s.live = 0
            · exact hlive
            · exact absurd ⟨hcall, hok, hwebrtc, hlive⟩ hrefused
  | start => exact absurd trivial he
  | stop => exact absurd trivial he
  | poll i level => exact absurd trivial he

/-- A session is started and stopped, its thread ends, and another start fails after its session
was opened. -/
private def orderlyRun : List KeyEvent :=
  [.start, .exec true, .exec true, .exec true, .exec true, .exec true, .exec true, .poll 0 false,
    .stop, .exec true, .exec true, .exec true, .exec true, .poll 0 true,
    .start, .exec true, .exec true, .exec true, .exec true, .exec true, .exec false,
    .exec true, .exec true, .exec true, .exec true, .exec true, .poll 1 false]

/-- Its threads do not accumulate. -/
theorem noAccumulation_orderlyRun :
    (run step initial orderlyRun).isSome = true ∧ NoAccumulation orderlyRun :=
  ⟨rfl, noAccumulation_of_orderly (by decide)⟩

/-- A start whose session cannot be opened, and a poll of its thread. -/
private def openFails : List KeyEvent :=
  [.start, .exec true, .exec true, .exec true, .exec true, .exec false, .exec true, .exec true]

/-- The thread of a session that could not be opened is left behind. -/
theorem thread_without_session : ¬ ∀ es, NoAccumulation es := by
  intro h
  refine absurd ((h (openFails ++ [.poll 0 false])).ended openFails [.poll 0 false] _ _
    (List.prefix_refl _) rfl rfl (by decide) ?_ rfl) (by decide)
  rintro i ⟨k, hk, _⟩
  cases i with
  | zero => exact ⟨false, List.mem_singleton.mpr rfl⟩
  | succ i => exact nomatch hk

end Esp32Robot.Webrtc

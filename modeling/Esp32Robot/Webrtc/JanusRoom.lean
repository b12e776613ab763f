import Esp32Robot.Webrtc.JanusPublisher

/-!
# The requests of a Janus session

Every request of the signaling has its place among those of a publisher and names the ids that the
server gave, as far as a double and the buffers hold them. No destroy is sent when a later step of
the start fails, or when the stop lacks memory.
-/

namespace Esp32Robot.Webrtc

open Esp32Robot.Base

namespace JanusSignaling

variable {s t : JanusSignaling} {p : Publisher} {c : ApiChoice} {r : JanusRequest}

/-- An answer that the start goes on with was given to a request that was sent. -/
theorem accepted_some {json : Json} (h : accepted c = some json) :
    (c.object && c.printed) = true ∧ c.answer.good = some json := by
  unfold accepted at h
  unfold JanusAnswer.good
  cases hsent : c.object && c.printed with
  | false => simp [hsent] at h
  | true =>
    refine ⟨rfl, ?_⟩
    simpa [hsent] using h

/-- A call of `janus_send_api` changes nothing but the log, where a request in its place moves the
publisher. -/
theorem sendApi_spec (r : JanusRequest) (c : ApiChoice) (p' : Publisher)
    (h : run (Publisher.step (.written s.cfg)) Publisher.empty s.log = some p)
    (hr : Publisher.step (.written s.cfg) p (r, c.answer) = some p') :
    ∃ log, s.sendApi r c = { s with log := log } ∧
      run (Publisher.step (.written s.cfg)) Publisher.empty log =
        some (if c.object && c.printed then p' else p) := by
  unfold sendApi
  split
  · exact ⟨_, rfl, run_concat_some.mpr ⟨p, h, hr⟩⟩
  · exact ⟨s.log, rfl, h⟩

/-- A number that is converted is zero only when it was. -/
theorem idNumber_eq_zero {n : Nat} (h : toDouble n < UInt64.size) :
    Json.idNumber n = 0 ↔ n = 0 := by
  constructor
  · intro hzero
    have hnat := congrArg UInt64.toNat hzero
    rw [Json.idNumber, UInt64.toNat_ofNat_of_lt' h, UInt64.toNat_zero] at hnat
    by_cases hn : n = 0
    · exact hn
    · have := toDouble_pos (Nat.pos_of_ne_zero hn)
      omega
  · rintro rfl
    rfl

/-- The source reads an id exactly when the answer gives one. -/
theorem idOf_accepted {json : Json} (hc : Converts c) (h : accepted c = some json) :
    idOf json = 0 ∧ c.answer.id = none ∨
      idOf json ≠ 0 ∧ ∃ n, c.answer.id = some n ∧ idOf json = Json.idNumber n := by
  have hconverts := hc json h
  rw [idOf, JanusAnswer.id, (accepted_some h).2, Option.bind_some, ← idItem]
  cases hitem : idItem json with
  | none => exact .inl ⟨rfl, rfl⟩
  | some item =>
    rw [hitem] at hconverts
    cases item with
    | number n =>
      have hzero := idNumber_eq_zero hconverts
      by_cases hn : n = 0
      · exact .inl ⟨hzero.mpr hn, if_pos hn⟩
      · exact .inr ⟨fun hid ↦ hn (hzero.mp hid), n, if_neg hn, rfl⟩
    | null => exact .inl ⟨rfl, rfl⟩
    | bool value => exact .inl ⟨rfl, rfl⟩
    | string value => exact .inl ⟨rfl, rfl⟩
    | array items => exact .inl ⟨rfl, rfl⟩
    | object members => exact .inl ⟨rfl, rfl⟩

/-- The requests of a signaling are those of this publisher. -/
structure Placed (s : JanusSignaling) (p : Publisher) : Prop where
  log : run (Publisher.step (.written s.cfg)) Publisher.empty s.log = some p
  idle : s.phase = .idle → s.log = [] ∧ s.localSdpSent = false
  opened : s.phase ≠ .idle → s.phase ≠ .failed →
    p.Has s.sessionId s.handleId ∧ s.handleId ≠ 0 ∧ p.joined = true
  running : s.phase = .running → p.offered = s.localSdpSent ∧ p.detachSent = false
  kept : s.phase ≠ .stopped → p.destroySent = false
  polling : s.pollThread ≠ .gone → s.phase = .running ∨ ∃ txn, s.phase = .stopping txn

/-- The requests of the start. -/
theorem getIds_spec (txn : CString) {create attach : ApiChoice} (join : ApiChoice)
    (hcreates : Converts create) (hattaches : Converts attach) (hlog : s.log = []) :
    ∃ p session handle log, (s.getIds txn create attach join).1 =
        { s with sessionId := session, handleId := handle, log := log } ∧
      run (Publisher.step (.written s.cfg)) Publisher.empty log = some p ∧
      p.offered = false ∧ p.detachSent = false ∧ p.destroySent = false ∧
      ((s.getIds txn create attach join).2 = true →
        p.Has session handle ∧ handle ≠ 0 ∧ p.joined = true) := by
  have hempty : run (Publisher.step (.written s.cfg)) Publisher.empty s.log =
      some Publisher.empty := by
    rw [hlog]
    rfl
  obtain ⟨log, hsent, hcreate⟩ :=
    sendApi_spec ⟨.create, s.cfg.signalUrl.bytes, txn⟩ create _ hempty (if_pos rfl)
  unfold getIds
  simp only [hsent]
  cases hgood : accepted create with
  | none =>
    refine ⟨_, s.sessionId, s.handleId, log, rfl, hcreate, ?_, ?_, ?_, nofun⟩ <;> split <;> rfl
  | some json =>
    rw [if_pos (accepted_some hgood).1] at hcreate
    rcases idOf_accepted hcreates hgood with ⟨hsid, hid⟩ | ⟨hsid, sid, hid, hread⟩
    · rw [hid] at hcreate
      simp only [hsid, if_true]
      exact ⟨_, 0, s.handleId, log, rfl, hcreate, rfl, rfl, rfl, nofun⟩
    · rw [hid] at hcreate
      simp only [hsid, if_false]
      obtain ⟨log', hsent', hattach⟩ :=
        sendApi_spec (s := { s with log := log, sessionId := idOf json })
          ⟨.attach, sessionUrl s.cfg (idOf json), txn⟩ attach _ hcreate
          (if_pos (by rw [hread]; rfl))
      simp only [hsent']
      cases hgood' : accepted attach with
      | none =>
        refine ⟨_, idOf json, s.handleId, log', rfl, hattach, ?_, ?_, ?_, nofun⟩ <;> split <;> rfl
      | some json' =>
        rw [if_pos (accepted_some hgood').1] at hattach
        rcases idOf_accepted hattaches hgood' with ⟨hhid, hid'⟩ | ⟨hhid, hidn, hid', hread'⟩
        · rw [hid'] at hattach
          simp only [hhid, if_true]
          exact ⟨_, idOf json, 0, log', rfl, hattach, rfl, rfl, rfl, nofun⟩
        · rw [hid'] at hattach
          simp only [hhid, if_false]
          obtain ⟨log'', hsent'', hjoin⟩ := sendApi_spec
            (s := { s with log := log', sessionId := idOf json, handleId := idOf json' })
            ⟨.join, handleUrl s.cfg (idOf json) (idOf json'), txn⟩ join _ hattach
            (if_pos ⟨by rw [hread, hread']; rfl, rfl⟩)
          simp only [hsent'']
          refine ⟨_, idOf json, idOf json', log'', rfl, hjoin, ?_, ?_, ?_, fun hok ↦ ?_⟩
          · split <;> rfl
          · split <;> rfl
          · split <;> rfl
          · obtain ⟨json'', hgood''⟩ := Option.isSome_iff_exists.mp hok
            obtain ⟨hcond'', hjson''⟩ := accepted_some hgood''
            rw [if_pos hcond'']
            exact ⟨⟨by rw [hread]; rfl, by rw [hread']; rfl⟩, hhid, by rw [hjson'']; rfl⟩

/-! ### Steps -/

/-- Nothing is asked before the start. -/
theorem placed_initial (cfg : JanusCfg) : Placed (initial cfg) Publisher.empty where
  log := rfl
  idle _ := ⟨rfl, rfl⟩
  opened h := absurd rfl h
  running h := nomatch h
  kept _ := rfl
  polling h := absurd rfl h

/-- The poll thread is gone before the start. -/
theorem Placed.gone (h : Placed s p) (hidle : s.phase = .idle) : s.pollThread = .gone := by
  by_cases hpoll : s.pollThread = .gone
  · exact hpoll
  · rcases h.polling hpoll with hphase | ⟨txn, hphase⟩ <;> simp [hidle] at hphase

/-- A start asks in order. -/
theorem placed_start (h : Placed s p) (hidle : s.phase = .idle) (txn : Option CString)
    {create attach : ApiChoice} (join : ApiChoice) (sema thread : Bool)
    (hcreates : Converts create) (hattaches : Converts attach) :
    ∃ p', Placed (s.start txn create attach join sema thread) p' := by
  obtain ⟨hlog, hsdp⟩ := h.idle hidle
  have hgone := h.gone hidle
  have hkept := h.kept (by simp [hidle])
  have hfailed : Placed { s with phase := .failed } p :=
    { log := h.log, idle := nofun, opened := fun _ hf ↦ absurd rfl hf, running := nofun,
      kept := fun _ ↦ hkept, polling := fun hpoll ↦ absurd hgone hpoll }
  unfold start
  split
  · exact ⟨p, hfailed⟩
  · cases txn with
    | none => exact ⟨p, hfailed⟩
    | some txn =>
      obtain ⟨p', sid, hid, log, hids, hrun, hoffered, hdetached, hdestroyed, hjoined⟩ :=
        getIds_spec txn join hcreates hattaches hlog
      refine ⟨p', ?_⟩
      simp only [hids]
      split
      · rename_i hok
        simp only [Bool.and_eq_true] at hok
        exact
          { log := hrun, idle := nofun, opened := fun _ _ ↦ hjoined hok.1.1,
            running := fun _ ↦ ⟨hoffered.trans hsdp.symm, hdetached⟩,
            kept := fun _ ↦ hdestroyed, polling := fun _ ↦ .inl rfl }
      · exact
          { log := hrun, idle := nofun, opened := fun _ hf ↦ absurd rfl hf, running := nofun,
            kept := fun _ ↦ hdestroyed, polling := fun hpoll ↦ absurd hgone hpoll }

/-- The publisher of a running signaling is in the room. -/
theorem Placed.inRoom (h : Placed s p) (hrun : s.phase = .running) : p.inRoom = true := by
  simp [Publisher.inRoom, (h.opened (by simp [hrun]) (by simp [hrun])).2.2, (h.running hrun).2,
    h.kept (by simp [hrun])]

/-- Requests of the running signaling add at most that the offer had an answer. -/
theorem Placed.next {log : List (JanusRequest × JanusAnswer)} {sent : Bool} (h : Placed s p)
    (hrun : s.phase = .running) (hlog : run (Publisher.step (.written s.cfg)) Publisher.empty log =
      some { p with offered := sent }) :
    Placed { s with log := log, localSdpSent := sent } { p with offered := sent } where
  log := hlog
  idle hidle := nomatch hrun.symm.trans hidle
  opened := h.opened
  running _ := ⟨rfl, (h.running hrun).2⟩
  kept := h.kept
  polling := h.polling

/-- A request of the running signaling that leaves the publisher as it is. -/
theorem Placed.send (h : Placed s p) (hrun : s.phase = .running)
    (hr : Publisher.step (.written s.cfg) p (r, c.answer) = some p) :
    Placed (s.sendApi r c) p := by
  have hsame : { p with offered := s.localSdpSent } = p := by
    rw [← (h.running hrun).1]
  obtain ⟨log, hsent, hlog⟩ := sendApi_spec r c p h.log hr
  rw [ite_self, ← hsame] at hlog
  rw [hsent, ← hsame]
  exact h.next hrun hlog

/-- A message is sent in its place, and the offer once. -/
theorem placed_sendMsg (h : Placed s p) (hrun : s.phase = .running) (m : PeerMessage)
    (txn : Option CString) (c : ApiChoice) : ∃ p', Placed (s.sendMsg m txn c).1 p' := by
  obtain ⟨hhas, _, _⟩ := h.opened (by simp [hrun]) (by simp [hrun])
  obtain ⟨hoffered, _⟩ := h.running hrun
  have hin := h.inRoom hrun
  unfold sendMsg
  cases txn with
  | none => exact ⟨p, h⟩
  | some txn =>
    cases hobject : c.object with
    | false => exact ⟨p, h⟩
    | true =>
      simp only [if_true]
      cases m with
      | sdp data =>
        by_cases hsdp : s.localSdpSent = true
        · simp only [hsdp, if_true]
          exact ⟨p, h⟩
        · rw [Bool.not_eq_true] at hsdp
          obtain ⟨log, hsent, hlog⟩ := sendApi_spec
            ⟨.publish data, handleUrl s.cfg s.sessionId s.handleId, txn⟩ c
            { p with offered := c.answer.ret = 0 } h.log
            (Publisher.step_publish hhas hin (hoffered.trans hsdp) data txn c.answer)
          simp only [hsdp, Bool.false_eq_true, if_false, hsent]
          split
          · rename_i hok
            rw [Bool.and_eq_true, decide_eq_true_eq] at hok
            simp only [hobject, hok.1, hok.2, Bool.and_self, decide_true, if_true] at hlog
            exact ⟨_, h.next hrun hlog⟩
          · rename_i hok
            have hsame : (if c.object && c.printed then
                { p with offered := c.answer.ret = 0 } else p) =
                { p with offered := false } := by
              cases hprinted : c.printed with
              | false =>
                simp only [Bool.and_false, Bool.false_eq_true, if_false]
                rw [← hoffered.trans hsdp]
              | true => simpa [hobject, hprinted, hsdp] using hok
            rw [hsame] at hlog
            exact ⟨_, h.next hrun hlog⟩
      | candidate json =>
        cases json with
        | none => exact ⟨p, h⟩
        | some json =>
          exact ⟨p, h.send hrun (Publisher.step_trickle hhas hin json txn c.answer)⟩
      | bye =>
        exact ⟨p, h.send hrun (Publisher.step_unpublish hhas hin txn c.answer)⟩
      | customized => exact ⟨p, h⟩

/-- The poll thread leaves when `running` is reset. -/
theorem placed_test (h : Placed s p) (hpoll : s.pollThread = .testing) :
    Placed { s with pollThread := if s.phase = .running then .asking else .gone } p where
  log := h.log
  idle := h.idle
  opened := h.opened
  running := h.running
  kept := h.kept
  polling _ := h.polling (by simp [hpoll])

/-- A round of the poll thread asks in the session. -/
theorem placed_pollRound (h : Placed s p) (hpoll : s.pollThread = .asking) (now : UInt64)
    (answer : JanusAnswer) (printed : Nat → Bool) :
    Placed (s.pollRound now answer printed) p := by
  have hphase := h.polling (by simp [hpoll])
  have hne : s.phase ≠ .idle ∧ s.phase ≠ .failed ∧ s.phase ≠ .stopped := by
    rcases hphase with hphase | ⟨txn, hphase⟩ <;> simp [hphase]
  obtain ⟨hidle, hfailed, hstopped⟩ := hne
  obtain ⟨hhas, _, hjoined⟩ := h.opened hidle hfailed
  have hr : Publisher.step (.written s.cfg) p
      (⟨.poll now, pollUrl s.cfg s.sessionId now, .lit ""⟩, answer) = some p :=
    Publisher.step_poll hhas hjoined (h.kept hstopped) now _ answer
  exact
    { log := run_concat_some.mpr ⟨p, h.log, hr⟩, idle := fun hi ↦ absurd hi hidle,
      opened := h.opened, running := h.running, kept := h.kept, polling := fun _ ↦ hphase }

/-- The handle is detached once. -/
theorem placed_stop (h : Placed s p) (hrun : s.phase = .running) (txn : Option CString)
    (c : ApiChoice) : ∃ p', Placed (s.stop txn c) p' := by
  obtain ⟨hhas, hne, hjoined⟩ := h.opened (by simp [hrun]) (by simp [hrun])
  have hin := h.inRoom hrun
  have hkept := h.kept (by simp [hrun])
  have hstopping : Placed { s with phase := .stopping txn } p :=
    { log := h.log, idle := by simp, opened := fun _ _ ↦ ⟨hhas, hne, hjoined⟩,
      running := by simp, kept := fun _ ↦ hkept, polling := fun _ ↦ .inr ⟨txn, rfl⟩ }
  unfold stop
  cases txn with
  | none => exact ⟨p, hstopping⟩
  | some txn =>
    simp only [hne, if_false]
    obtain ⟨log, hsent, hlog⟩ := sendApi_spec (s := { s with phase := .stopping (some txn) })
      ⟨.detach, handleUrl s.cfg s.sessionId s.handleId, txn⟩ c
      { p with detachSent := true } hstopping.log (Publisher.step_detach hhas hin txn c.answer)
    rw [hsent]
    refine ⟨_,
      { log := hlog, idle := by simp, opened := fun _ _ ↦ ?_, running := by simp,
        kept := fun _ ↦ ?_, polling := fun _ ↦ .inr ⟨_, rfl⟩ }⟩
    · split <;> exact ⟨hhas, hne, hjoined⟩
    · split <;> exact hkept

/-- The destroy is sent when there is memory for the request and for its transaction. -/
theorem placed_afterWait {txn : Option CString} (h : Placed s p)
    (hphase : s.phase = .stopping txn) (hgone : s.pollThread = .gone) (c : ApiChoice) :
    ∃ p', Placed (s.afterWait txn c) p' ∧
      (p'.destroySent = true ↔ txn.isSome ∧ (c.object && c.printed) = true) := by
  obtain ⟨hhas, hne, hjoined⟩ := h.opened (by simp [hphase]) (by simp [hphase])
  have hkept := h.kept (by simp [hphase])
  have hstopped : Placed { s with phase := .stopped } p :=
    { log := h.log, idle := by simp, opened := fun _ _ ↦ ⟨hhas, hne, hjoined⟩,
      running := by simp, kept := fun hs ↦ absurd rfl hs,
      polling := fun hpoll ↦ absurd hgone hpoll }
  unfold afterWait
  cases txn with
  | none => exact ⟨p, hstopped, by simp [hkept]⟩
  | some txn =>
    simp only [hne, if_false]
    obtain ⟨log, hsent, hlog⟩ := sendApi_spec (s := { s with phase := .stopped })
      ⟨.destroy, sessionUrl s.cfg s.sessionId, txn⟩ c { p with destroySent := true } hstopped.log
      (Publisher.step_destroy hhas hjoined hkept txn c.answer)
    rw [hsent]
    refine ⟨_,
      { log := hlog, idle := by simp, opened := fun _ _ ↦ ?_, running := by simp,
        kept := fun hs ↦ absurd rfl hs, polling := fun hpoll ↦ absurd hgone hpoll }, ?_⟩
    · split <;> exact ⟨hhas, hne, hjoined⟩
    · cases hsend : c.object && c.printed <;> simp [hkept]

/-- A start ends running or failed. -/
theorem phase_start (txn : Option CString) (create attach join : ApiChoice)
    (sema thread : Bool) : (s.start txn create attach join sema thread).phase = .running ∨
      (s.start txn create attach join sema thread).phase = .failed := by
  unfold start
  grind

/-- A message leaves the signaling running. -/
theorem phase_sendMsg (m : PeerMessage) (txn : Option CString) (c : ApiChoice) :
    (s.sendMsg m txn c).1.phase = s.phase := by
  unfold sendMsg
  grind [sendApi]

/-- The first part of the stop waits for the poll thread. -/
theorem phase_stop (txn : Option CString) (c : ApiChoice) :
    (s.stop txn c).phase = .stopping txn := by
  unfold stop
  grind [sendApi]

/-- The second part ends it. -/
theorem phase_afterWait (txn : Option CString) (c : ApiChoice) :
    (s.afterWait txn c).phase = .stopped := by
  unfold afterWait
  grind [sendApi]

/-- A call keeps the configuration. -/
theorem cfg_step {call : JanusCall} (hplaced : Placed s p) (h : s.step call = some t) :
    t.cfg = s.cfg := by
  rcases step_cases h with
    ⟨txn, create, attach, join, sema, thread, _, ⟨hidle, hcreates, hattaches⟩, rfl⟩ |
    ⟨m, txn, c, _, _, rfl⟩ | ⟨_, _, rfl⟩ | ⟨now, answer, printed, _, _, rfl⟩ |
    ⟨txn, c, _, _, rfl⟩ | ⟨txn, c, _, _, _, rfl⟩
  · unfold start
    cases txn with
    | none => split <;> rfl
    | some txn =>
      obtain ⟨_, sid, hid, log, hids, _⟩ :=
        getIds_spec txn join hcreates hattaches (hplaced.idle hidle).1
      simp only [hids]
      split
      · rfl
      · split <;> rfl
  · unfold sendMsg
    grind [sendApi]
  · rfl
  · rfl
  · unfold stop
    grind [sendApi]
  · unfold afterWait
    grind [sendApi]

/-! ### Runs -/

/-- How the stop of a signaling went, against the calls and the publisher. -/
structure Ending (calls : List JanusCall) (s : JanusSignaling) (p : Publisher) : Prop where
  before : (∀ txn, s.phase ≠ .stopping txn) → s.phase ≠ .stopped → ∀ txn c, .stop txn c ∉ calls
  stopping : ∀ txn, s.phase = .stopping txn → ∀ x, (∃ c, .stop x c ∈ calls) ↔ x = txn
  waiting : s.phase ≠ .stopped → ∀ c, .afterWait c ∉ calls
  stopped : s.phase = .stopped → (p.destroySent = true ↔
    ∃ txn c d, .stop (some txn) c ∈ calls ∧ .afterWait d ∈ calls ∧
      (d.object && d.printed) = true)

/-- A call that is no part of the stop. -/
theorem Ending.quiet {calls : List JanusCall} {call : JanusCall} {p' : Publisher}
    (h : Ending calls s p) (hstop : ∀ txn c, call ≠ .stop txn c)
    (hwait : ∀ c, call ≠ .afterWait c) (hs : s.phase ≠ .stopped)
    (hphase : t.phase = s.phase ∨ s.phase = .idle ∧ (t.phase = .running ∨ t.phase = .failed)) :
    Ending (calls ++ [call]) t p' := by
  obtain ⟨hbefore, hstopping, hwaiting, _⟩ := h
  have hmem (txn : Option CString) (c : ApiChoice) :
      .stop txn c ∈ calls ++ [call] ↔ .stop txn c ∈ calls := by
    simp [(hstop txn c).symm]
  have hmem' (c : ApiChoice) : .afterWait c ∈ calls ++ [call] ↔ .afterWait c ∈ calls := by
    simp [(hwait c).symm]
  refine ⟨fun hne _ txn c hc ↦ ?_, fun txn ht x ↦ ?_, fun _ c hc ↦ ?_, fun ht ↦ ?_⟩
  · refine hbefore (fun x hx ↦ ?_) hs txn c ((hmem txn c).mp hc)
    rcases hphase with hphase | ⟨hidle, _⟩
    · exact hne x (hphase.trans hx)
    · cases hidle.symm.trans hx
  · rcases hphase with hphase | ⟨_, hphase | hphase⟩
    · simp only [hmem]
      exact hstopping txn (hphase.symm.trans ht) x
    · cases hphase.symm.trans ht
    · cases hphase.symm.trans ht
  · exact hwaiting hs c ((hmem' c).mp hc)
  · rcases hphase with hphase | ⟨_, hphase | hphase⟩
    · exact absurd (hphase.symm.trans ht) hs
    · cases hphase.symm.trans ht
    · cases hphase.symm.trans ht

/-- The requests of a run of calls, in their places. -/
theorem ending_run {cfg : JanusCfg} {calls : List JanusCall}
    (h : run step (initial cfg) calls = some s) :
    s.cfg = cfg ∧ ∃ p, Placed s p ∧ Ending calls s p := by
  refine run_history (I := fun calls s ↦ s.cfg = cfg ∧ ∃ p, Placed s p ∧
    Ending calls s p) ?_ ?_ h
  · exact ⟨rfl, Publisher.empty, placed_initial cfg, by simp, nofun, by simp, nofun⟩
  · rintro calls s call t _ ⟨hcfg, p, hplaced, hending⟩ hstep
    refine ⟨(cfg_step hplaced hstep).trans hcfg, ?_⟩
    have hpolling (hpoll : s.pollThread ≠ .gone) : s.phase ≠ .stopped := by
      rcases hplaced.polling hpoll with hphase | ⟨txn, hphase⟩ <;> simp [hphase]
    rcases step_cases hstep with
      ⟨txn, create, attach, join, sema, thread, rfl, ⟨hidle, hcreates, hattaches⟩, rfl⟩ |
      ⟨m, txn, c, rfl, hrun, rfl⟩ | ⟨rfl, hpoll, rfl⟩ | ⟨now, answer, printed, rfl, hpoll, rfl⟩ |
      ⟨txn, c, rfl, hrun, rfl⟩ | ⟨txn, c, rfl, hstopping, hgone, rfl⟩
    · obtain ⟨p', hp'⟩ := placed_start hplaced hidle txn join sema thread hcreates hattaches
      exact ⟨p', hp', hending.quiet nofun nofun (by simp [hidle])
        (.inr ⟨hidle, phase_start txn create attach join sema thread⟩)⟩
    · obtain ⟨p', hp'⟩ := placed_sendMsg hplaced hrun m txn c
      exact ⟨p', hp', hending.quiet nofun nofun (by simp [hrun])
        (.inl (phase_sendMsg m txn c))⟩
    · exact ⟨p, placed_test hplaced hpoll, hending.quiet nofun nofun
        (hpolling (by simp [hpoll])) (.inl rfl)⟩
    · exact ⟨p, placed_pollRound hplaced hpoll now answer printed, hending.quiet nofun nofun
        (hpolling (by simp [hpoll])) (.inl rfl)⟩
    · obtain ⟨p', hp'⟩ := placed_stop hplaced hrun txn c
      have hphase := phase_stop (s := s) txn c
      have hbefore := hending.before (by simp [hrun]) (by simp [hrun])
      have hwaiting := hending.waiting (by simp [hrun])
      refine ⟨p', hp', ⟨?_, ?_, ?_, ?_⟩⟩
      · intro hne
        exact absurd hphase (hne txn)
      · intro x hx y
        rw [hphase, JanusPhase.stopping.injEq] at hx
        simp [hbefore, hx]
      · simp [hwaiting]
      · simp [hphase]
    · obtain ⟨p', hp', hdestroyed⟩ := placed_afterWait hplaced hstopping hgone c
      have hphase := phase_afterWait (s := s) txn c
      have hstops := hending.stopping txn hstopping
      have hwaiting := hending.waiting (by simp [hstopping])
      refine ⟨p', hp', ⟨?_, ?_, ?_, ?_⟩⟩
      · simp [hphase]
      · simp [hphase]
      · simp [hphase]
      · intro _
        rw [hdestroyed]
        simp only [List.mem_append, List.mem_singleton, reduceCtorEq, or_false]
        constructor
        · rintro ⟨hsome, hsent⟩
          obtain ⟨x, rfl⟩ := Option.isSome_iff_exists.mp hsome
          obtain ⟨d, hd⟩ := (hstops (some x)).mpr rfl
          exact ⟨x, d, c, hd, .inr rfl, hsent⟩
        · rintro ⟨x, d, e, hd, he, hsent⟩
          rcases he with he | he
          · exact absurd he (hwaiting e)
          · cases he
            rw [← (hstops (some x)).mp ⟨d, hd⟩]
            exact ⟨rfl, hsent⟩

/-- The answer with an id. -/
private def withId (id : Nat) : ApiChoice where
  object := true
  printed := true
  answer := ⟨0, some (some (.object [(ascii "data", .object [(ascii "id", .number id)])]))⟩

/-- A server in the local network. -/
private def localCfg : JanusCfg where
  signalUrl := .lit "http://10.0.0.2:8088/janus"
  roomId := 1234
  token := none
  pin := none
  display := none
  apiSecret := none

/-- A destroy is sent exactly when a started signaling is stopped with memory for the transaction
and for the request; after a start that fails, none is. -/
theorem destroy_sent_iff {cfg : JanusCfg} {calls : List JanusCall}
    (h : run step (initial cfg) calls = some s) :
    ((∃ e ∈ s.log, e.1.verb = .destroy) ↔
      ∃ txn c d, .stop (some txn) c ∈ calls ∧ .afterWait d ∈ calls ∧
        (d.object && d.printed) = true) ∧
      (s.phase = .failed → ¬∃ e ∈ s.log, e.1.verb = .destroy) := by
  obtain ⟨rfl, p, hplaced, hending⟩ := ending_run h
  rw [← Publisher.destroySent_iff hplaced.log]
  refine ⟨?_, fun hfailed ↦ ?_⟩
  · by_cases hstopped : s.phase = .stopped
    · exact hending.stopped hstopped
    · refine ⟨fun hsent ↦ ?_, fun ⟨_, _, d, _, hd, _⟩ ↦ ?_⟩
      · rw [hplaced.kept hstopped] at hsent
        cases hsent
      · exact absurd hd (hending.waiting hstopped d)
  · rw [hplaced.kept (by simp [hfailed])]
    exact Bool.false_ne_true

/-- A start whose `attach` is refused. -/
private def refusedCalls : List JanusCall :=
  [.start (some (.lit "1")) (withId 7) ⟨true, true, ⟨-1, none⟩⟩ (withId 0) true true]

/-- It has created a session, and sends no destroy. -/
theorem destroy_sent_iff_refused : ∃ s, run step (initial localCfg) refusedCalls = some s ∧
    (∃ e ∈ s.log, e.1.verb = .create ∧ e.2.id = some 7) ∧
      ¬∃ e ∈ s.log, e.1.verb = .destroy := by
  have h : run step (initial localCfg) refusedCalls = some _ := rfl
  exact ⟨_, h, ⟨_, List.mem_cons_self, rfl, rfl⟩, (destroy_sent_iff h).2 rfl⟩

/-! ### Long URLs -/

/-- An id of twenty digits. -/
private def longId : Nat := 10000000000000000000

/-- It is read as it is. -/
private theorem exactId_longId : ExactId longId := by
  unfold ExactId
  decide +kernel

/-- It has twenty digits. -/
private theorem length_longId : (decimalNat longId).length = 20 := by
  rw [decimalNat, List.length_map]
  have hle : ¬ (Nat.toDigits 10 longId).length ≤ 19 := by
    rw [Nat.length_toDigits_le_iff (by omega) (by omega)]
    decide
  have hlt : (Nat.toDigits 10 longId).length ≤ 20 := by
    rw [Nat.length_toDigits_le_iff (by omega) (by omega)]
    decide
  omega

/-- The start whose answers give it. -/
private def longCall : JanusCall :=
  .start (some (.lit "1")) (withId longId) (withId longId) (withId longId) true true

/-- Its requests. -/
private theorem log_longId {cfg : JanusCfg} (hroom : cfg.roomId ≠ 0) :
    ∃ s, (initial cfg).step longCall = some s ∧
      s.log = [(⟨.create, cfg.signalUrl.bytes, .lit "1"⟩, (withId longId).answer),
        (⟨.attach, sessionUrl cfg (Json.idNumber longId), .lit "1"⟩, (withId longId).answer),
        (⟨.join, handleUrl cfg (Json.idNumber longId) (Json.idNumber longId), .lit "1"⟩,
          (withId longId).answer)] := by
  obtain ⟨json, hgood, hid, hitem⟩ : ∃ json, accepted (withId longId) = some json ∧
    idOf json = Json.idNumber longId ∧ idItem json = some (.number longId) := ⟨_, rfl, rfl, rfl⟩
  have hne : Json.idNumber longId ≠ 0 := by decide +kernel
  have hsent : ((withId longId).object && (withId longId).printed) = true := rfl
  have hconverts : Converts (withId longId) := by
    intro json' hjson'
    cases Option.some.inj (hgood.symm.trans hjson')
    rw [hitem]
    exact (by decide +kernel : toDouble longId < UInt64.size)
  refine ⟨(initial cfg).start (some (.lit "1")) (withId longId) (withId longId) (withId longId)
    true true, ?_, ?_⟩
  · unfold longCall step
    exact if_pos ⟨rfl, hconverts, hconverts⟩
  simp only [start, initial, getIds, sendApi, hsent, hgood, hid, hne, hroom, if_true, if_false]
  rfl

/-- A signaling without a room asks for nothing. -/
theorem log_of_no_room {cfg : JanusCfg} {calls : List JanusCall} (hroom : cfg.roomId = 0)
    (h : run step (initial cfg) calls = some s) : s.log = [] := by
  have hinv : s.cfg = cfg ∧ s.log = [] ∧ s.pollThread = .gone ∧
      (s.phase = .idle ∨ s.phase = .failed) := by
    refine run_invariant (I := fun s ↦ s.cfg = cfg ∧ s.log = [] ∧ s.pollThread = .gone ∧
      (s.phase = .idle ∨ s.phase = .failed)) ⟨rfl, rfl, rfl, .inl rfl⟩ ?_ h
    rintro s call t ⟨rfl, hlog, hgone, hphase⟩ hstep
    rcases step_cases hstep with ⟨txn, create, attach, join, sema, thread, _, _, rfl⟩ |
      ⟨m, txn, c, _, hrun, rfl⟩ | ⟨_, hpoll, rfl⟩ | ⟨now, answer, printed, _, hpoll, rfl⟩ |
      ⟨txn, c, _, hrun, rfl⟩ | ⟨txn, c, _, hstopping, _, rfl⟩
    · have hfailed : s.start txn create attach join sema thread = { s with phase := .failed } :=
        if_pos hroom
      rw [hfailed]
      exact ⟨rfl, hlog, hgone, .inr rfl⟩
    · simp [hrun] at hphase
    · simp [hpoll] at hgone
    · simp [hpoll] at hgone
    · simp [hrun] at hphase
    · simp [hstopping] at hphase
  exact hinv.2.1

/-- With ids that are read as they are, the requests name them whole in every run exactly when the
signaling URL leaves room for two of twenty digits, or when there is no room to join. -/
theorem whole_ids_iff (cfg : JanusCfg) :
    (∀ calls s, run step (initial cfg) calls = some s → ExactIds s.log →
      ∃ p, run (Publisher.step (.whole cfg)) Publisher.empty s.log = some p) ↔
    cfg.roomId = 0 ∨ cfg.signalUrl.bytes.length ≤ 277 := by
  constructor
  · intro h
    by_cases hroom : cfg.roomId = 0
    · exact .inl hroom
    · refine .inr ?_
      obtain ⟨s, hstep, hlog⟩ := log_longId hroom
      have hid : (withId longId).answer.id = some longId := rfl
      have hexact : ExactIds s.log := by
        intro e he _ n hn
        have hanswer : e.2 = (withId longId).answer := by
          rw [hlog] at he
          simp only [List.mem_cons, List.not_mem_nil, or_false] at he
          rcases he with rfl | rfl | rfl <;> rfl
        rw [hanswer, hid] at hn
        cases hn
        exact exactId_longId
      obtain ⟨p, hrun⟩ := h [longCall] s (by rw [run_singleton, hstep]) hexact
      rw [hlog] at hrun
      obtain ⟨u, hcreate, hrun⟩ := run_cons_some.mp hrun
      obtain ⟨v, hattach, hrun⟩ := run_cons_some.mp hrun
      obtain ⟨w, hjoin, _⟩ := run_cons_some.mp hrun
      obtain ⟨_, rfl⟩ := Option.ite_some_none_eq_some.mp hcreate
      simp only [Publisher.step, hid] at hattach
      obtain ⟨_, rfl⟩ := Option.ite_some_none_eq_some.mp hattach
      simp only [Publisher.step] at hjoin
      obtain ⟨⟨hurl, _⟩, _⟩ := Option.ite_some_none_eq_some.mp hjoin
      have hlength := congrArg List.length hurl
      simp only [JanusUrls.whole, handleUrl, snprintf, List.length_take, List.length_append,
        List.length_cons, exactId_longId.decimal64, length_longId] at hlength
      omega
  · rintro (hroom | hlength) calls s h hexact
    · exact ⟨Publisher.empty, by rw [log_of_no_room hroom h]; rfl⟩
    · obtain ⟨rfl, p, hplaced, _⟩ := ending_run h
      exact ⟨p, Publisher.run_whole hlength hexact hplaced.log⟩

end JanusSignaling

end Esp32Robot.Webrtc

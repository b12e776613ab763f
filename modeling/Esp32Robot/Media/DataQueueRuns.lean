import Esp32Robot.Media.DataQueueThreads

/-!
# What the threads around a data queue can rely on

Every run of the threads is one of a first-in first-out queue of blocks; a thread that
waits is not left alone; and the one call that ends the program is the drop of a block
that takes the whole buffer, of which `data_queue_consume_all` says `size >= q->size`
where the other functions say `size > q->size` (`data_queue.c` line 148).
-/

namespace Esp32Robot.Media

open Base DataQueue

namespace QueueThreads

variable {s t : QueueThreads} {blocks : List (List UInt8)} {size total : Int}

/-! ### Blocks arrive in order -/

/-- The room of a filling writer ends before a block that the reader holds, or starts behind it. -/
theorem Inv.apart (h : Inv total s blocks) {ptr p n : Int} {seen : List UInt8}
    (hw : s.writer = .filling ptr size) (hr : s.reader = .holding p n seen) :
    ptr + size ≤ p - allocHeadSize ∨ p + n ≤ ptr - allocHeadSize := by
  have hwriter := h.writer
  have hreader := h.reader
  rw [hw] at hwriter
  rw [hr] at hreader
  obtain ⟨_, rfl, hfree⟩ := hwriter
  obtain ⟨rfl, rfl, hhead⟩ := hreader
  obtain ⟨rest, rfl⟩ := List.head?_eq_some_iff.mp hhead
  have hbefore := hfree.before
  have hspan := @span_nonneg rest
  simp only [allocHeadSize] at hbefore ⊢
  generalize hbs : seen :: rest = bs at h
  cases h.holds with
  | straight hback hlow hhigh hfill hchain =>
    have hend := hchain.end_eq
    rw [← hbs, span_cons] at hend
    exact .inr (by omega)
  | wrapped hne hlow hroom hhigh hfill hfront hback =>
    have := hfront.lt_end hne
    exact .inl (by omega)

/-- What was sent is taken in the same order and byte by byte, in every order of the threads' steps;
the reader's block stays as it was when the reader got it; and the writer's room is in the buffer
and never reaches into that block. -/
theorem blocks_in_order {buffer : Cells} (hlow : 0 ≤ size) (hhigh : size < 2147483648)
    {es : List QueueEvent} (h : run step (initial buffer size) es = some s)
    (hgoes : s.ended = false) :
    ∃ blocks, run Transfer.apply [] s.log = some blocks ∧ s.q.Holds blocks ∧
      (∀ p n seen, s.reader = .holding p n seen →
        blocks.head? = some seen ∧ s.q.buffer.bytesAt p n.toNat = seen) ∧
      ∀ ptr n, s.writer = .filling ptr n → allocHeadSize ≤ ptr ∧ ptr + n ≤ size ∧
        ∀ p m seen, s.reader = .holding p m seen →
          ptr + n ≤ p - allocHeadSize ∨ p + m ≤ ptr - allocHeadSize := by
  obtain ⟨blocks, hinv⟩ := inv_run hlow hhigh h hgoes
  refine ⟨blocks, hinv.log, hinv.holds, ?_, ?_⟩
  · intro p n seen hr
    have hreader := hinv.reader
    rw [hr] at hreader
    obtain ⟨rfl, rfl, hhead⟩ := hreader
    obtain ⟨rest, rfl⟩ := List.head?_eq_some_iff.mp hhead
    exact ⟨rfl, hinv.holds.head.2.1⟩
  · intro ptr n hw
    have hwriter := hinv.writer
    rw [hw] at hwriter
    obtain ⟨hpos, hptr, hfree⟩ := hwriter
    have := hfree.low
    have := hfree.high
    have := hinv.int.1
    exact ⟨by omega, by omega, fun p m seen hr ↦ hinv.apart hw hr⟩

/-- Writing a block. -/
private def put (bytes : List UInt8) : List QueueEvent :=
  [.getBuffer bytes.length, .fill 0 bytes, .sendBuffer bytes.length]

/-- Two blocks; the first one is taken while a third one, for which the writer goes on at the start
of the buffer, is filled; then the second one is read. -/
private def goesOn : List QueueEvent :=
  put [1, 2, 3, 4, 5, 6, 7, 8] ++ put [9, 10] ++ [.readLock, .readUnlock, .getBuffer 3, .readLock,
    .fill 0 [11, 12, 13]]

/-- The writer fills the start of the buffer while the reader holds a block behind it. -/
theorem blocks_in_order_goesOn :
    ∃ s, run step (initial (fun _ ↦ 0) 20) goesOn = some s ∧
      s.writer = .filling 4 3 ∧ s.reader = .holding 16 2 [9, 10] ∧
      ∃ blocks, run Transfer.apply [] s.log = some blocks ∧ blocks.head? = some [9, 10] := by
  have hends : (run step (initial (fun _ ↦ 0) 20) goesOn).isSome = true := by decide +kernel
  obtain ⟨s, hs⟩ := Option.isSome_iff_exists.mp hends
  have hstate : (run step (initial (fun _ ↦ 0) 20) goesOn).map (fun s ↦
      (s.ended, s.writer, s.reader)) = some (false, .filling 4 3, .holding 16 2 [9, 10]) := by
    decide +kernel
  rw [hs, Option.map_some, Option.some.injEq, Prod.mk.injEq, Prod.mk.injEq] at hstate
  obtain ⟨hgoes, hwriter, hreader⟩ := hstate
  obtain ⟨blocks, hlog, _, hheld, _⟩ := blocks_in_order (by decide) (by decide) hs hgoes
  exact ⟨s, hs, hwriter, hreader, blocks, hlog, (hheld _ _ _ hreader).1⟩

/-! ### The program goes on -/

/-- A step ends the program when a writer sends a negative size, or when the blocks of a queue that
is still used are dropped and one of them takes the whole buffer, and no other step does. -/
theorem ended_iff {buffer : Cells} (hlow : 0 ≤ size) (hhigh : size < 2147483648)
    {es : List QueueEvent} {e : QueueEvent} (h : run step (initial buffer size) es = some s)
    (ht : s.step e = some t) :
    t.ended = true ↔ (∃ n, e = .sendBuffer n ∧ n < -allocHeadSize) ∨
      (e = .consumeAll ∧ s.q.quit = false ∧
        ∃ b, run Transfer.apply [] s.log = some [b] ∧ allocHeadSize + b.length = size) := by
  obtain ⟨blocks, hinv⟩ := inv_run hlow hhigh h (not_ended_of_step ht)
  have hsize := hinv.int.1
  constructor
  · intro hend
    obtain ⟨hno, _⟩ | ⟨_, n, rfl, hbad⟩ | ⟨_, rfl, hquit, b, hb, hwhole⟩ := hinv.step ht
    · exact absurd hend (by simp [hno])
    · exact .inl ⟨n, rfl, hbad.2⟩
    · -- A block that takes the whole buffer is alone in it.
      obtain ⟨pre, post, rfl⟩ := List.append_of_mem hb
      have hspan := hinv.holds.span_le
      rw [span_append, span_cons] at hspan
      have hpre := @length_le_span pre
      have hpost := @length_le_span post
      have hpreNil : pre = [] := List.length_eq_zero_iff.mp (by omega)
      have hpostNil : post = [] := List.length_eq_zero_iff.mp (by omega)
      subst hpreNil hpostNil
      exact .inr ⟨rfl, hquit, b, hinv.log, by simp only [allocHeadSize]; omega⟩
  · have hgoes := not_ended_of_step ht
    unfold QueueThreads.step at ht
    rw [if_neg (by simp [hgoes])] at ht
    rintro (⟨n, rfl, hneg⟩ | ⟨rfl, hquit, b, hlog, hwhole⟩)
    · simp only at ht
      split at ht
      · rw [Option.ite_none_right_eq_some, hinv.holds.sendBuffer_negative hneg] at ht
        cases ht.2
        rfl
      · exact absurd ht (by simp)
    · rw [hinv.log] at hlog
      obtain rfl := Option.some.inj hlog
      rw [Option.ite_none_right_eq_some] at ht
      obtain ⟨hidle, ht⟩ := ht
      simp only [allocHeadSize] at hwhole
      obtain ⟨hnone, _⟩ | ⟨q, bs, _, hno, _⟩ := hinv.consumeAll hidle
      · rw [hnone] at ht
        cases ht
        rfl
      · exact absurd ⟨b, List.mem_singleton.mpr rfl, by omega⟩ (hno hquit)

/-- The block of 16 bytes in a buffer of 20 bytes. -/
theorem ended_iff_whole :
    ∃ s t, run step (initial (fun _ ↦ 0) 20) (put (List.replicate 16 7)) = some s ∧
      s.step .consumeAll = some t ∧ t.ended = true := by
  have hends : (run step (initial (fun _ ↦ 0) 20)
      (put (List.replicate 16 7) ++ [.consumeAll])).isSome = true := by decide +kernel
  obtain ⟨t, ht⟩ := Option.isSome_iff_exists.mp hends
  obtain ⟨s, hs, hstep⟩ := run_concat_some.mp ht
  have hstate : (run step (initial (fun _ ↦ 0) 20) (put (List.replicate 16 7))).map (fun s ↦
      (s.q.quit, s.log)) = some (false, [.sent (List.replicate 16 7)]) := by decide +kernel
  rw [hs, Option.map_some, Option.some.injEq, Prod.mk.injEq] at hstate
  obtain ⟨hquit, hlog⟩ := hstate
  refine ⟨s, t, hs, hstep,
    (ended_iff (by decide) (by decide) hs hstep).mpr (.inr ⟨rfl, hquit, ?_⟩)⟩
  exact ⟨List.replicate 16 7, by rw [hlog]; rfl, by decide⟩

/-! ### No wait for ever -/

/-- The blocks after a step are those that the log leaves. -/
theorem Inv.next (h : Inv total s blocks) {e : QueueEvent} (ht : s.step e = some t)
    (hgoes : t.ended = false) {ext : List Transfer} {bs : List (List UInt8)}
    (hlog : t.log = s.log ++ ext) (hext : run Transfer.apply blocks ext = some bs) :
    Inv total t bs := by
  obtain ⟨cs, hnext⟩ := h.next_some ht hgoes
  have hruns : run Transfer.apply [] t.log = some bs := by
    rw [hlog, run_append, h.log, Option.bind_some, hext]
  rw [hnext.log] at hruns
  exact Option.some.inj hruns ▸ hnext

/-- The steps of the reader up to a block. -/
def readerLeft : Reader → Nat
  | .waiting => 3
  | .woken => 2
  | .cleared => 1
  | .idle => 1
  | .holding _ _ _ => 0

/-- The reader's loop finds the oldest block. -/
theorem readLockLoop_holding {b : List UInt8} {rest : List (List UInt8)}
    (h : s.q.Holds (b :: rest)) (hquit : s.q.quit = false) :
    ∃ ptr n seen, s.readLockLoop.reader = .holding ptr n seen ∧
      s.readLockLoop.writer = s.writer ∧ s.readLockLoop.log = s.log ∧
      s.readLockLoop.q.quit = false ∧ s.readLockLoop.ended = s.ended := by
  unfold QueueThreads.readLockLoop
  rw [if_neg (by simp [hquit]), h.readLockTurn]
  exact ⟨_, _, _, rfl, rfl, rfl, hquit, rfl⟩

/-- While a block is there, the reader has a step that brings it closer to the end of the blocks,
and the writer's wait goes on. -/
theorem Inv.readerStep {b : List UInt8} {rest : List (List UInt8)}
    (h : Inv total s (b :: rest)) (hgoes : s.ended = false) (hquit : s.q.quit = false) :
    ∃ e t bs, e.ofReader = true ∧ s.step e = some t ∧ Inv total t bs ∧ t.ended = false ∧
      t.q.quit = false ∧ t.writer = s.writer ∧
      4 * bs.length + readerLeft t.reader < 4 * (b :: rest).length + readerLeft s.reader := by
  cases hr : s.reader with
  | idle =>
    have hstep : s.step .readLock = some s.readLockLoop := by
      simp [QueueThreads.step, hgoes, hr]
    obtain ⟨ptr, n, seen, hreader, hwriter, hlog, hquitNext, hend⟩ :=
      readLockLoop_holding h.holds hquit
    refine ⟨_, _, b :: rest, rfl, hstep, ?_, hend.trans hgoes, hquitNext, hwriter, ?_⟩
    · exact h.next hstep (hend.trans hgoes) (hlog.trans (List.append_nil _).symm) rfl
    · simp [hreader, readerLeft]
  | waiting =>
    have hbit : s.q.event.dataArrive = true := by
      have hreader := h.reader
      rw [hr] at hreader
      obtain harrive | ⟨_, hnil⟩ := hreader
      · exact harrive
      · exact absurd hnil (by simp)
    have hstep : s.step .readerWakes = some { s with reader := .woken } := by
      simp [QueueThreads.step, hgoes, hr, hbit]
    refine ⟨_, _, b :: rest, rfl, hstep, ?_, hgoes, hquit, rfl, ?_⟩
    · exact h.next hstep hgoes (List.append_nil _).symm rfl
    · simp [readerLeft]
  | woken =>
    have hstep : s.step .readerClears =
        some { s with reader := .cleared, q := { s.q with event.dataArrive := false } } := by
      simp [QueueThreads.step, hgoes, hr]
    refine ⟨_, _, b :: rest, rfl, hstep, ?_, hgoes, hquit, rfl, ?_⟩
    · exact h.next hstep hgoes (List.append_nil _).symm rfl
    · simp [readerLeft]
  | cleared =>
    have hstep : s.step .readerRetries =
        some (QueueThreads.readLockLoop { s with q := waitEnd s.q }) := by
      simp [QueueThreads.step, hgoes, hr]
    have hholds : (waitEnd s.q).Holds (b :: rest) := h.holds.of_same rfl rfl rfl rfl rfl rfl
    obtain ⟨ptr, n, seen, hreader, hwriter, hlog, hquitNext, hend⟩ :=
      readLockLoop_holding (s := { s with q := waitEnd s.q }) hholds hquit
    refine ⟨_, _, b :: rest, rfl, hstep, ?_, hend.trans hgoes, hquitNext, hwriter, ?_⟩
    · exact h.next hstep (hend.trans hgoes) (hlog.trans (List.append_nil _).symm) rfl
    · simp [hreader, readerLeft]
  | holding ptr n seen =>
    obtain ⟨q, bs, hq, hnext⟩ := h.readUnlock hr
    have hstep : s.step .readUnlock =
        some { s with reader := .idle, q := q, log := s.log ++ [.taken seen] } := by
      simp [QueueThreads.step, hgoes, hr, hq]
    have hhead : (b :: rest).head? = some seen := by
      have hreader := h.reader
      rw [hr] at hreader
      exact hreader.2.2
    have hquitNext : q.quit = false := by
      obtain ⟨r, hr, _, _, _, _, _, _, hsame, _⟩ := h.holds.readUnlock
      rw [hq] at hr
      rw [Option.some.inj hr, hsame, hquit]
    refine ⟨_, _, rest, rfl, hstep, ?_, hgoes, hquitNext, rfl, ?_⟩
    · exact h.next hstep hgoes rfl (by simp [Transfer.apply, hhead])
    · simp only [readerLeft, List.length_cons]
      omega

/-- The writer's loop finds room in an empty queue. -/
theorem getBufferLoop_filling (h : s.q.Holds []) (hquit : s.q.quit = false) (hpos : 0 ≤ size)
    (hsize : size + allocHeadSize ≤ s.q.size) :
    ∃ ptr, (s.getBufferLoop size).writer = .filling ptr size := by
  unfold QueueThreads.getBufferLoop
  rw [if_neg (by simp [hquit])]
  split
  · exact ⟨_, rfl⟩
  · next q hturn =>
    obtain ⟨_, _, _, _, ⟨hptr, _⟩ | ⟨_, hring, hshort, _⟩⟩ :=
      h.getBufferTurn (by simp only [allocHeadSize]; omega) hturn
    · exact absurd hptr (by simp)
    · exact absurd rfl (h.waits hsize (by rwa [hring] at hshort)).1

/-- The steps of a blocked writer's wait lead to its room when there is no block. -/
theorem Inv.writerSteps (h : Inv total s []) (hgoes : s.ended = false) (hquit : s.q.quit = false)
    (hw : s.writer = .waiting size) :
    ∃ t ptr, run QueueThreads.step s [.writerWakes, .writerClears, .writerRetries] = some t ∧
      t.writer = .filling ptr size := by
  have hwriter := h.writer
  rw [hw] at hwriter
  obtain ⟨hpos, hsize, hbit⟩ := hwriter
  have hbit : s.q.event.dataConsume = true := by
    obtain hbit | ⟨_, hback, _⟩ := hbit
    · exact hbit
    · exact absurd rfl (h.holds.ne_nil hback)
  have hwakes : s.step .writerWakes = some { s with writer := .woken size } := by
    simp [QueueThreads.step, hgoes, hw, hbit]
  have hclears : QueueThreads.step { s with writer := .woken size } .writerClears = some { s with
      writer := .cleared size, q := { s.q with event.dataConsume := false } } := by
    simp [QueueThreads.step, hgoes]
  have hretries : QueueThreads.step { s with
      writer := .cleared size, q := { s.q with event.dataConsume := false } } .writerRetries =
        some (QueueThreads.getBufferLoop { s with
          writer := .cleared size
          q := waitEnd { s.q with event.dataConsume := false } } size) := by
    simp [QueueThreads.step, hgoes]
  have hholds : (waitEnd { s.q with event.dataConsume := false }).Holds [] :=
    h.holds.of_same rfl rfl rfl rfl rfl rfl
  obtain ⟨ptr, hptr⟩ := getBufferLoop_filling (s := { s with
    writer := .cleared size
    q := waitEnd { s.q with event.dataConsume := false } }) hholds hquit hpos hsize
  refine ⟨_, ptr, ?_, hptr⟩
  rw [run_cons, hwakes, Option.bind_some, run_cons, hclears, Option.bind_some, run_singleton,
    hretries]

/-- A writer that waits gets its room when the reader goes on. -/
theorem Inv.served (h : Inv total s blocks) (hgoes : s.ended = false) (hquit : s.q.quit = false)
    (hw : s.writer = .waiting size) :
    ∃ es t ptr, (∀ e ∈ es, QueueEvent.ofReader e = true) ∧ run QueueThreads.step s es = some t ∧
      t.writer = .filling ptr size := by
  -- The reader's steps, by the blocks that are left and its steps up to the next one.
  generalize hn : 4 * blocks.length + readerLeft s.reader = n
  induction n using Nat.strongRecOn generalizing s blocks with
  | _ n ih =>
    cases blocks with
    | nil =>
      obtain ⟨t, ptr, ht, hfills⟩ := h.writerSteps hgoes hquit hw
      exact ⟨_, t, ptr, by decide, ht, hfills⟩
    | cons b rest =>
      obtain ⟨e, u, bs, he, hstep, hnext, hgoesNext, hquitNext, hwriter, hless⟩ :=
        h.readerStep hgoes hquit
      obtain ⟨es, t, ptr, hes, ht, hfills⟩ :=
        ih _ (hn ▸ hless) hnext hgoesNext hquitNext (hwriter.trans hw) rfl
      refine ⟨e :: es, t, ptr, ?_, run_cons_some.mpr ⟨u, hstep, ht⟩, hfills⟩
      intro x hx
      obtain rfl | hx := List.mem_cons.mp hx
      · exact he
      · exact hes x hx

/-- A wakeup that waits has its bit, or somebody uses the queue. -/
def WakerOk (s : QueueThreads) : Prop :=
  s.waker = .waiting → s.q.event.userFree = true ∨ s.q.user ≠ 0

/-- Who stops using the queue sets the bit of the wakeup, except with `data_queue_peek_unlock`. -/
theorem wakerOk_step (h : Inv total s blocks) (hok : WakerOk s) {e : QueueEvent}
    (he : e ≠ .peekUnlock) (ht : s.step e = some t) : WakerOk t := by
  intro hwaits
  -- while the wakeup waits, the loops of the other threads leave
  have hquit : s.waker = .waiting → s.q.quit = true := fun hw ↦ h.quit (by simp [hw])
  unfold QueueThreads.step at ht
  cases e <;> grind [WakerOk, QueueThreads.getBufferLoop, QueueThreads.readLockLoop,
    QueueThreads.crash, QueueThreads.wakeupLoop, waitEnd, releaseUser, DataQueue.sendBuffer,
    DataQueue.readUnlock, consumeAll_of_quit]

/-- All along a run without `data_queue_peek_unlock`. -/
theorem wakerOk_run {buffer : Cells} (hlow : 0 ≤ size) (hhigh : size < 2147483648)
    {es : List QueueEvent} (h : run step (initial buffer size) es = some s)
    (hes : ∀ e ∈ es, e ≠ .peekUnlock) (hgoes : s.ended = false) : WakerOk s := by
  have hboth : s.ended = false → (∃ blocks, Inv size s blocks) ∧ WakerOk s := by
    refine run_invariant_of_meet (P := fun _ e ↦ e ≠ .peekUnlock)
      (I := fun s ↦ s.ended = false → (∃ blocks, Inv size s blocks) ∧ WakerOk s)
      (fun _ ↦ ⟨⟨[], inv_initial buffer hlow hhigh⟩, nofun⟩) ?_ (stepsMeet_of_forall hes) h
    intro u e v hu he hv hgoes
    obtain ⟨⟨blocks, hinv⟩, hok⟩ := hu (not_ended_of_step hv)
    exact ⟨hinv.next_some hv hgoes, wakerOk_step hinv hok he hv⟩
  exact (hboth hgoes).2

/-- No wakeup is lost: a writer blocks only while a block is there that the reader, who is not
blocked then, can take, and before a shutdown its request is granted by the reader's calls alone; a
reader blocks only while there is no block; and `data_queue_wakeup` blocks only while somebody uses
the queue, unless `data_queue_peek_unlock` was called, which sets no bit. -/
theorem no_lost_wakeup {buffer : Cells} (hlow : 0 ≤ size) (hhigh : size < 2147483648)
    {es : List QueueEvent} (h : run step (initial buffer size) es = some s)
    (hgoes : s.ended = false) :
    (∀ n, s.writer = .waiting n → s.step .writerWakes = none →
      (∃ b rest, run Transfer.apply [] s.log = some (b :: rest)) ∧
        s.q.getAvailableSize < n + allocHeadSize ∧
        ¬ (s.reader = .waiting ∧ s.step .readerWakes = none)) ∧
      (s.reader = .waiting → s.step .readerWakes = none →
        run Transfer.apply [] s.log = some []) ∧
      (∀ n, s.writer = .waiting n → s.q.quit = false →
        ∃ fs t ptr, (∀ e ∈ fs, QueueEvent.ofReader e = true) ∧ run step s fs = some t ∧
          t.writer = .filling ptr n) ∧
      ((∀ e ∈ es, e ≠ .peekUnlock) → s.waker = .waiting → s.step .wakerWakes = none →
        s.q.user ≠ 0) := by
  obtain ⟨blocks, hinv⟩ := inv_run hlow hhigh h hgoes
  have hreaderBlocked (hr : s.reader = .waiting) (hblocked : s.step .readerWakes = none) :
      blocks = [] := by
    have hreader := hinv.reader
    rw [hr] at hreader
    obtain harrive | ⟨_, hnil⟩ := hreader
    · exact absurd hblocked (by simp [QueueThreads.step, hgoes, hr, harrive])
    · exact hnil
  refine ⟨?_, ?_, fun n hw hquit ↦ hinv.served hgoes hquit hw, ?_⟩
  · intro n hw hblocked
    have hwriter := hinv.writer
    rw [hw] at hwriter
    obtain ⟨_, _, hbit | ⟨_, hback, hshort⟩⟩ := hwriter
    · exact absurd hblocked (by simp [QueueThreads.step, hgoes, hw, hbit])
    · have hne := hinv.holds.ne_nil hback
      obtain ⟨b, rest, rfl⟩ := List.exists_cons_of_ne_nil hne
      exact ⟨⟨b, rest, hinv.log⟩, hshort, fun hboth ↦ hne (hreaderBlocked hboth.1 hboth.2)⟩
  · intro hr hblocked
    rw [hinv.log, hreaderBlocked hr hblocked]
  · intro hes hw hblocked
    obtain hbit | huser := wakerOk_run hlow hhigh h hes hgoes hw
    · exact absurd hblocked (by simp [QueueThreads.step, hgoes, hw, hbit])
    · exact huser

/-- A writer that asks for more than there is behind a block of 8 bytes in a buffer of 16. -/
private def fillsUp : List QueueEvent := put [1, 2, 3, 4, 5, 6, 7, 8] ++ [.getBuffer 8]

/-- The blocked writer is served. -/
theorem no_lost_wakeup_fillsUp :
    ∃ s, run step (initial (fun _ ↦ 0) 16) fillsUp = some s ∧ s.writer = .waiting 8 ∧
      ∃ fs t ptr, run step s fs = some t ∧ t.writer = .filling ptr 8 := by
  have hends : (run step (initial (fun _ ↦ 0) 16) fillsUp).isSome = true := by decide +kernel
  obtain ⟨s, hs⟩ := Option.isSome_iff_exists.mp hends
  have hstate : (run step (initial (fun _ ↦ 0) 16) fillsUp).map (fun s ↦
      (s.ended, s.q.quit, s.writer)) = some (false, false, .waiting 8) := by decide +kernel
  rw [hs, Option.map_some, Option.some.injEq, Prod.mk.injEq, Prod.mk.injEq] at hstate
  obtain ⟨hgoes, hquit, hwriter⟩ := hstate
  obtain ⟨_, _, hserved, _⟩ := no_lost_wakeup (by decide) (by decide) hs hgoes
  obtain ⟨fs, t, ptr, _, ht, hfills⟩ := hserved 8 hwriter hquit
  exact ⟨s, hs, hwriter, fs, t, ptr, ht, hfills⟩

/-! ### What the other threads learn -/

/-- The writer's loop finds the room that is available. -/
theorem getBufferLoop_available (hquit : s.q.quit = false)
    (hsize : size + allocHeadSize ≤ s.q.getAvailableSize) :
    ∃ ptr, (s.getBufferLoop size).writer = .filling ptr size := by
  have hring : s.q.ringBack (size + allocHeadSize) = s.q := by
    unfold ringBack
    rw [if_neg (by omega)]
  unfold QueueThreads.getBufferLoop getBufferTurn
  simp only [hquit, Bool.false_eq_true, if_false, hring]
  rw [if_pos hsize]
  exact ⟨_, rfl⟩

/-- `data_queue_query` counts what was sent and not taken, and `data_queue_get_buffer` gives what
`data_queue_get_available` tells without a wait. -/
theorem query_counts {buffer : Cells} (hlow : 0 ≤ size) (hhigh : size < 2147483648)
    {es : List QueueEvent} (h : run step (initial buffer size) es = some s)
    (hgoes : s.ended = false) :
    ∃ blocks, run Transfer.apply [] s.log = some blocks ∧
      s.q.query = some ((blocks.length : Int), (blocks.flatten.length : Int)) ∧
      ∀ n, 0 < n → n ≤ s.q.getAvailable → s.writer = .idle → s.q.quit = false →
        ∃ t ptr, s.step (.getBuffer n) = some t ∧ t.writer = .filling ptr n := by
  obtain ⟨blocks, hinv⟩ := inv_run hlow hhigh h hgoes
  refine ⟨blocks, hinv.log, hinv.holds.query, ?_⟩
  intro n hpos havail hidle hquit
  have hstep (hfits : n + allocHeadSize ≤ s.q.size) :
      s.step (.getBuffer n) = some (s.getBufferLoop n) := by
    have hnot : ¬ s.q.size < n + allocHeadSize := by omega
    have hok : SizeOk n := ⟨Int.le_of_lt hpos, by have := hinv.int; omega⟩
    simp [QueueThreads.step, hgoes, hidle, hnot, hok]
  unfold getAvailable at havail
  simp only [allocHeadSize] at havail
  split at havail
  · next hempty =>
    have hnil : blocks = [] := by
      apply Classical.not_not.mp
      intro hne
      have hdata := hinv.holds.haveData_iff.mpr hne
      simp [haveData, hempty.1, hempty.2] at hdata
    subst hnil
    have hfits : n + allocHeadSize ≤ s.q.size := by
      simp only [allocHeadSize]
      split at havail <;> omega
    obtain ⟨ptr, hptr⟩ := getBufferLoop_filling hinv.holds hquit (Int.le_of_lt hpos) hfits
    exact ⟨_, ptr, hstep hfits, hptr⟩
  · have hroom : n + allocHeadSize ≤ s.q.getAvailableSize := by
      simp only [allocHeadSize]
      split at havail <;> omega
    have hfree := hinv.holds.free hroom (by simp only [allocHeadSize]; omega)
    have := hfree.low
    have := hfree.high
    obtain ⟨ptr, hptr⟩ := getBufferLoop_available hquit hroom
    exact ⟨_, ptr, hstep (by omega), hptr⟩

/-- Two blocks of 8 and of 2 bytes, and 20 bytes behind them. -/
theorem query_counts_two :
    ∃ s, run step (initial (fun _ ↦ 0) 42) (put [1, 2, 3, 4, 5, 6, 7, 8] ++ put [9, 10]) = some s ∧
      s.q.query = some (2, 10) ∧
      ∃ t ptr, s.step (.getBuffer 20) = some t ∧ t.writer = .filling ptr 20 := by
  have hends : (run step (initial (fun _ ↦ 0) 42)
      (put [1, 2, 3, 4, 5, 6, 7, 8] ++ put [9, 10])).isSome = true := by decide +kernel
  obtain ⟨s, hs⟩ := Option.isSome_iff_exists.mp hends
  have hstate : (run step (initial (fun _ ↦ 0) 42)
      (put [1, 2, 3, 4, 5, 6, 7, 8] ++ put [9, 10])).map (fun s ↦
        (s.ended, s.q.quit, s.writer, s.q.getAvailable, s.log)) = some (false, false, .idle, 20,
          [.sent [1, 2, 3, 4, 5, 6, 7, 8], .sent [9, 10]]) := by decide +kernel
  rw [hs, Option.map_some, Option.some.injEq] at hstate
  simp only [Prod.mk.injEq] at hstate
  obtain ⟨hgoes, hquit, hidle, havail, hlog⟩ := hstate
  obtain ⟨bs, hbs, hquery, hroom⟩ := query_counts (by decide) (by decide) hs hgoes
  rw [hlog] at hbs
  obtain rfl : bs = [[1, 2, 3, 4, 5, 6, 7, 8], [9, 10]] := (Option.some.inj hbs).symm
  exact ⟨s, hs, hquery, hroom 20 (by decide) (Int.le_of_eq havail.symm) hidle hquit⟩

/-- `data_queue_wakeup` returns once. -/
theorem returned_step {e : QueueEvent} (hback : s.waker = .returned) (ht : s.step e = some t) :
    t.waker = .returned := by
  unfold QueueThreads.step at ht
  cases e <;> grind [QueueThreads.getBufferLoop, QueueThreads.readLockLoop, QueueThreads.crash]

/-- When `data_queue_wakeup` has returned, no thread waits for a bit or has a pointer into the
buffer, and none gets one any more. -/
theorem returned_unused {buffer : Cells} (hlow : 0 ≤ size) (hhigh : size < 2147483648)
    {es fs : List QueueEvent} (h : run step (initial buffer size) es = some s)
    (hback : s.waker = .returned) (ht : run step s fs = some t) (hgoes : t.ended = false) :
    t.writer = .idle ∧ t.reader = .idle := by
  have hkept : t.waker = .returned := by
    apply run_invariant (I := fun u : QueueThreads ↦ u.waker = .returned) hback ?_ ht
    exact fun u e v hu hv ↦ returned_step hu hv
  obtain ⟨blocks, hinv⟩ := inv_run hlow hhigh (run_append_some.mpr ⟨s, h, ht⟩) hgoes
  have hzero := hinv.returned hkept
  rw [hinv.user] at hzero
  constructor
  · cases hw : t.writer <;> cases hr : t.reader <;> simp [hw, hr, writerUses, readerUses] at hzero
    rfl
  · cases hw : t.writer <;> cases hr : t.reader <;> simp [hw, hr, writerUses, readerUses] at hzero
    rfl

/-- A wakeup of a reader that waits for a first block. -/
private def wakesUp : List QueueEvent :=
  [.readLock, .wakeup, .readerWakes, .readerClears, .readerRetries, .wakerWakes, .wakerClears,
    .wakerRetries]

/-- After the wakeup of a waiting reader, a call of the writer leaves without a pointer. -/
theorem returned_unused_wakesUp :
    ∃ s t, run step (initial (fun _ ↦ 0) 16) wakesUp = some s ∧ s.waker = .returned ∧
      run step s [.getBuffer 4] = some t ∧ t.writer = .idle ∧ t.reader = .idle := by
  have hends : (run step (initial (fun _ ↦ 0) 16) (wakesUp ++ [.getBuffer 4])).isSome = true := by
    decide +kernel
  obtain ⟨t, ht⟩ := Option.isSome_iff_exists.mp hends
  have hstate : (run step (initial (fun _ ↦ 0) 16) (wakesUp ++ [.getBuffer 4])).map (fun s ↦
      s.ended) = some false := by decide +kernel
  have hreturned : (run step (initial (fun _ ↦ 0) 16) wakesUp).map (fun s ↦ s.waker) =
      some .returned := by decide +kernel
  rw [ht, Option.map_some, Option.some.injEq] at hstate
  obtain ⟨s, hs, hstep⟩ := run_append_some.mp ht
  rw [hs, Option.map_some, Option.some.injEq] at hreturned
  exact ⟨s, t, hs, hreturned, hstep,
    returned_unused (by decide) (by decide) hs hreturned hstep hstate⟩

end QueueThreads
end Esp32Robot.Media

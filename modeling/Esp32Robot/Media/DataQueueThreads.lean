import Esp32Robot.Base.Run
import Esp32Robot.Media.DataQueue

/-!
# Threads around a data queue

One writer at a time (`write_lock`), one reader, and a thread that calls
`data_queue_wakeup`, in any order of their critical sections. Where the C code waits
for a bit of `q->event`, the wait and the clearing of the bit are steps of their own
(`data_queue.c` lines 35–90). The log of what was sent, taken and dropped is one of a
first-in first-out queue of blocks. The callers ask for sizes, and send sizes, that fit
an `int` together with the length in front of the block.
-/

namespace Esp32Robot.Media

open Base DataQueue

/-- Where the thread that has `write_lock` is. -/
inductive Writer where
  | idle
  | waiting (size : Int)
  | woken (size : Int)
  | cleared (size : Int)
  | filling (ptr size : Int)
  deriving DecidableEq, Repr

/-- Where the reader is; `seen` are the bytes behind the pointer when it got it. -/
inductive Reader where
  | idle
  | waiting
  | woken
  | cleared
  | holding (ptr size : Int) (seen : List UInt8)
  deriving DecidableEq, Repr

/-- Where the thread is that calls `data_queue_wakeup`. -/
inductive Waker where
  | idle
  | waiting
  | woken
  | cleared
  | returned
  deriving DecidableEq, Repr

/-- What the calls did to the blocks. -/
inductive Transfer where
  | sent (block : List UInt8)
  | taken (block : List UInt8)
  | dropped
  deriving DecidableEq, Repr

/-- A first-in first-out queue of blocks: only the oldest one can be taken. -/
def Transfer.apply (blocks : List (List UInt8)) : Transfer → Option (List (List UInt8))
  | .sent b => some (blocks ++ [b])
  | .taken b => if blocks.head? = some b then some blocks.tail else none
  | .dropped => some []

/-- A data queue with its threads; `ended` when one of them wrote to the null pointer. -/
structure QueueThreads where
  q : DataQueue
  writer : Writer
  reader : Reader
  waker : Waker
  log : List Transfer
  ended : Bool

/-- The calls and the steps of the waits. -/
inductive QueueEvent where
  | getBuffer (size : Int)
  | writerWakes
  | writerClears
  | writerRetries
  | fill (offset : Int) (bytes : List UInt8)
  | sendBuffer (size : Int)
  | readLock
  | readerWakes
  | readerClears
  | readerRetries
  | peekUnlock
  | readUnlock
  | consumeAll
  | wakeup
  | wakerWakes
  | wakerClears
  | wakerRetries
  deriving DecidableEq, Repr

/-- The calls of the reader, and the steps of the writer's wait. -/
def QueueEvent.ofReader : QueueEvent → Bool
  | .readLock => true
  | .readerWakes => true
  | .readerClears => true
  | .readerRetries => true
  | .readUnlock => true
  | .writerWakes => true
  | .writerClears => true
  | .writerRetries => true
  | .getBuffer _ => false
  | .fill _ _ => false
  | .sendBuffer _ => false
  | .peekUnlock => false
  | .consumeAll => false
  | .wakeup => false
  | .wakerWakes => false
  | .wakerClears => false
  | .wakerRetries => false

namespace QueueThreads

/-- A new queue. -/
def initial (buffer : Cells) (size : Int) : QueueThreads :=
  ⟨init buffer size, .idle, .idle, .idle, [], false⟩

/-- The thread wrote to the null pointer. -/
def crash (s : QueueThreads) : QueueThreads := { s with ended := true }

/-- The first half of `data_queue_wait_data` and of `data_queue_wait_consume`. -/
def waitBegin (q : DataQueue) : DataQueue := { q with user := q.user + 1 }

/-- Their second half. -/
def waitEnd (q : DataQueue) : DataQueue := releaseUser { q with user := q.user - 1 }

/-- The loop of `data_queue_get_buffer` up to its next wait, lines 234–258. -/
def getBufferLoop (s : QueueThreads) (size : Int) : QueueThreads :=
  if s.q.quit then { s with writer := .idle }
  else match s.q.getBufferTurn (size + allocHeadSize) with
    | (q, some ptr) => { s with q := q, writer := .filling ptr size }
    | (q, none) => { s with q := waitBegin q, writer := .waiting size }

/-- The loop of `data_queue_read_lock` up to its next wait, lines 332–357. -/
def readLockLoop (s : QueueThreads) : QueueThreads :=
  if s.q.quit then { s with reader := .idle }
  else match s.q.readLockTurn with
    | none => s.crash
    | some (q, none) => { s with q := waitBegin q, reader := .waiting }
    | some (q, some (ptr, size)) =>
      { s with q := q, reader := .holding ptr size (q.buffer.bytesAt ptr size.toNat) }

/-- The loop of `data_queue_wakeup` up to its next wait, lines 131–134. -/
def wakeupLoop (s : QueueThreads) : QueueThreads :=
  if s.q.user ≠ 0 then { s with waker := .waiting } else { s with waker := .returned }

/-- A size that a caller may ask for or send: it leaves room for the length in an `int`. -/
def SizeOk (size : Int) : Prop := 0 ≤ size ∧ size + allocHeadSize < 2147483648

instance (size : Int) : Decidable (SizeOk size) :=
  inferInstanceAs (Decidable (0 ≤ size ∧ size + allocHeadSize < 2147483648))

/-- A size that `data_queue_send_buffer` finds negative together with the length. -/
def SizeBad (size : Int) : Prop := -2147483648 ≤ size ∧ size < -allocHeadSize

instance (size : Int) : Decidable (SizeBad size) :=
  inferInstanceAs (Decidable (-2147483648 ≤ size ∧ size < -allocHeadSize))

/-- A step of one of the threads. A writer fills bytes that it asked for, sends no size from -4 to
-1, which would leave a block without room for its length, and only a reader that holds a block
gives it back. -/
def step (s : QueueThreads) (e : QueueEvent) : Option QueueThreads :=
  if s.ended then none
  else match e with
  | .getBuffer size =>
    if s.writer = .idle ∧ SizeOk size then
      if size + allocHeadSize > s.q.size then some s else some (s.getBufferLoop size)
    else none
  | .writerWakes =>
    match s.writer with
    | .waiting size =>
      if s.q.event.dataConsume then some { s with writer := .woken size } else none
    | _ => none
  | .writerClears =>
    match s.writer with
    | .woken size =>
      some { s with writer := .cleared size, q := { s.q with event.dataConsume := false } }
    | _ => none
  | .writerRetries =>
    match s.writer with
    | .cleared size => some (getBufferLoop { s with q := waitEnd s.q } size)
    | _ => none
  | .fill offset bytes =>
    match s.writer with
    | .filling ptr size =>
      if 0 ≤ offset ∧ offset + bytes.length ≤ size then
        some { s with q := { s.q with buffer := s.q.buffer.write (ptr + offset) bytes } }
      else none
    | _ => none
  | .sendBuffer size =>
    match s.writer with
    | .filling ptr _ =>
      if SizeOk size ∨ SizeBad size then
        match s.q.sendBuffer size with
        | none => some s.crash
        | some (q, ret) => some { s with
            q := q
            writer := .idle
            log := if ret = 0 ∧ size ≠ 0 then
              s.log ++ [.sent (s.q.buffer.bytesAt ptr size.toNat)] else s.log }
      else none
    | _ => none
  | .readLock => if s.reader = .idle then some s.readLockLoop else none
  | .readerWakes =>
    if s.reader = .waiting ∧ s.q.event.dataArrive then some { s with reader := .woken } else none
  | .readerClears =>
    if s.reader = .woken then
      some { s with reader := .cleared, q := { s.q with event.dataArrive := false } }
    else none
  | .readerRetries =>
    if s.reader = .cleared then some (readLockLoop { s with q := waitEnd s.q }) else none
  | .peekUnlock =>
    match s.reader with
    | .holding _ _ _ => some { s with reader := .idle, q := s.q.peekUnlock }
    | _ => none
  | .readUnlock =>
    match s.reader with
    | .holding _ _ seen =>
      match s.q.readUnlock with
      | none => some s.crash
      | some q => some { s with reader := .idle, q := q, log := s.log ++ [.taken seen] }
    | _ => none
  | .consumeAll =>
    if s.reader = .idle then
      match s.q.consumeAll with
      | none => some s.crash
      | some q => some { s with q := q, log := if s.q.quit then s.log else s.log ++ [.dropped] }
    else none
  | .wakeup =>
    if s.waker = .idle then
      some (wakeupLoop { s with q := dataConsumed (notifyData { s.q with quit := true }) })
    else none
  | .wakerWakes =>
    if s.waker = .waiting ∧ s.q.event.userFree then some { s with waker := .woken } else none
  | .wakerClears =>
    if s.waker = .woken then
      some { s with waker := .cleared, q := { s.q with event.userFree := false } }
    else none
  | .wakerRetries => if s.waker = .cleared then some s.wakeupLoop else none

/-! ### The invariant -/

/-- A blocked writer asks for more room than there is behind a block that is still to be read; a
filling one has its room. -/
def WriterOk (q : DataQueue) : Writer → Prop
  | .idle => True
  | .waiting size => 0 ≤ size ∧ size + allocHeadSize ≤ q.size ∧
      (q.event.dataConsume = true ∨
        (q.quit = false ∧ q.fillEnd ≠ 0 ∧ q.getAvailableSize < size + allocHeadSize))
  | .woken size => 0 ≤ size ∧ size + allocHeadSize ≤ q.size
  | .cleared size => 0 ≤ size ∧ size + allocHeadSize ≤ q.size
  | .filling ptr size =>
      0 ≤ size ∧ ptr = q.wp + allocHeadSize ∧ q.Free (size + allocHeadSize)

/-- A blocked reader finds no block; one that holds a block holds the oldest one. -/
def ReaderOk (q : DataQueue) (blocks : List (List UInt8)) : Reader → Prop
  | .idle => True
  | .waiting => q.event.dataArrive = true ∨ (q.quit = false ∧ blocks = [])
  | .woken => True
  | .cleared => True
  | .holding ptr size seen =>
      ptr = q.rp + allocHeadSize ∧ size = seen.length ∧ blocks.head? = some seen

/-- What the writer counts in `user`. -/
def writerUses : Writer → Int
  | .idle => 0
  | .waiting _ => 1
  | .woken _ => 1
  | .cleared _ => 1
  | .filling _ _ => 1

/-- What the reader counts in `user`. -/
def readerUses : Reader → Int
  | .idle => 0
  | .waiting => 1
  | .woken => 1
  | .cleared => 1
  | .holding _ _ _ => 1

/-- The queue holds the blocks that the log leaves, and the threads are where they can be. -/
structure Inv (total : Int) (s : QueueThreads) (blocks : List (List UInt8)) : Prop where
  holds : s.q.Holds blocks
  int : s.q.size = total ∧ total < 2147483648
  writer : WriterOk s.q s.writer
  reader : ReaderOk s.q blocks s.reader
  user : s.q.user = writerUses s.writer + readerUses s.reader
  quit : s.waker ≠ .idle → s.q.quit = true
  returned : s.waker = .returned → s.q.user = 0
  log : run Transfer.apply [] s.log = some blocks

section Steps

variable {s t : QueueThreads} {q r : DataQueue} {blocks : List (List UInt8)} {w : Writer}
variable {size ret total : Int}

/-- A new queue is in order. -/
theorem inv_initial (buffer : Cells) (hlow : 0 ≤ size) (hhigh : size < 2147483648) :
    Inv size (initial buffer size) [] :=
  ⟨holds_init buffer hlow, ⟨rfl, hhigh⟩, trivial, trivial, rfl, fun h ↦ absurd rfl h, nofun, rfl⟩

/-- The writer stays in order when the positions stay, and the bit that it waits for. -/
theorem WriterOk.of_same (h : WriterOk q w) (hsize : r.size = q.size)
    (hfillEnd : r.fillEnd = q.fillEnd) (hwp : r.wp = q.wp) (hrp : r.rp = q.rp)
    (hquit : r.quit = q.quit) (hevent : r.event.dataConsume = q.event.dataConsume) :
    WriterOk r w := by
  have havail : r.getAvailableSize = q.getAvailableSize := by
    unfold getAvailableSize
    rw [hsize, hfillEnd, hwp, hrp]
  cases w with
  | idle => exact h
  | waiting size =>
    show 0 ≤ size ∧ size + allocHeadSize ≤ r.size ∧ (r.event.dataConsume = true ∨
      (r.quit = false ∧ r.fillEnd ≠ 0 ∧ r.getAvailableSize < size + allocHeadSize))
    rw [hsize, hevent, hquit, hfillEnd, havail]
    exact h
  | woken size => exact ⟨h.1, hsize ▸ h.2⟩
  | cleared size => exact ⟨h.1, hsize ▸ h.2⟩
  | filling ptr size => exact ⟨h.1, hwp ▸ h.2.1, h.2.2.of_same hsize hfillEnd hwp hrp⟩

/-- The writer stays in order when the reader goes on and sets the bit. -/
theorem WriterOk.consumed (h : WriterOk q w) (hsize : r.size = q.size) (hwp : r.wp = q.wp)
    (hfree : ∀ n, q.Free n → r.Free n) (hevent : r.event.dataConsume = true) : WriterOk r w := by
  cases w with
  | idle => exact h
  | waiting size => exact ⟨h.1, hsize ▸ h.2.1, .inl hevent⟩
  | woken size => exact ⟨h.1, hsize ▸ h.2⟩
  | cleared size => exact ⟨h.1, hsize ▸ h.2⟩
  | filling ptr size => exact ⟨h.1, hwp ▸ h.2.1, hfree _ h.2.2⟩

/-- The reader stays in order when the position of a block that it holds stays, and the bit that it
waits for. -/
theorem ReaderOk.of_same {x : Reader} (h : ReaderOk q blocks x) (hrp : blocks ≠ [] → r.rp = q.rp)
    (hquit : r.quit = q.quit) (hevent : r.event.dataArrive = q.event.dataArrive) :
    ReaderOk r blocks x := by
  cases x with
  | idle => exact h
  | waiting =>
    show r.event.dataArrive = true ∨ (r.quit = false ∧ blocks = [])
    rw [hevent, hquit]
    exact h
  | woken => exact h
  | cleared => exact h
  | holding ptr size seen =>
    obtain ⟨hptr, hsize, hhead⟩ := h
    have hne : blocks ≠ [] := by
      rintro rfl
      exact absurd hhead (by simp)
    exact ⟨hptr.trans (by rw [hrp hne]), hsize, hhead⟩

/-- The reader stays in order when the bit that it waits for is set. -/
theorem ReaderOk.arrived {x : Reader} (h : ReaderOk q blocks x) (hrp : r.rp = q.rp)
    (hevent : r.event.dataArrive = true) : ReaderOk r blocks x := by
  cases x with
  | idle => exact h
  | waiting => exact .inl hevent
  | woken => exact h
  | cleared => exact h
  | holding ptr size seen => exact ⟨h.1.trans (by rw [hrp]), h.2⟩

/-- A writer that uses the queue counts. -/
theorem writerUses_nonneg (w : Writer) : 0 ≤ writerUses w := by
  cases w <;> simp [writerUses]

/-- A reader that uses the queue counts. -/
theorem readerUses_nonneg (x : Reader) : 0 ≤ readerUses x := by
  cases x <;> simp [readerUses]

/-- A request does not move the reader from a block. -/
theorem rp_getBufferTurn (h : q.Holds blocks) (hne : blocks ≠ []) :
    (q.getBufferTurn size).1.rp = q.rp := by
  have hdata := h.haveData_iff.mpr hne
  have hpositions : q.fillEnd = 0 → q.wp ≠ q.rp := by
    intro hzero hwp
    simp [haveData, hzero, hwp] at hdata
  have hring : (q.ringBack size).rp = q.rp := by
    unfold ringBack
    split
    · next hshort =>
      simp only
      rw [if_neg (hpositions hshort.2)]
    · rfl
  unfold getBufferTurn
  simp only
  split <;> exact hring

/-- A writer that stops using the queue counts no more. -/
theorem Inv.writerLeaves (h : Inv total s blocks) (huses : writerUses s.writer = 1) (free : Bool) :
    Inv total { s with
      writer := .idle
      q := { s.q with user := s.q.user - 1, event.userFree := free } } blocks := by
  obtain ⟨hholds, hint, hwriter, hreader, huser, hquit, hreturned, hlog⟩ := h
  refine ⟨hholds.of_same rfl rfl rfl rfl rfl rfl, hint, trivial,
    hreader.of_same (fun _ ↦ rfl) rfl rfl, ?_, hquit, ?_, hlog⟩
  · show s.q.user - 1 = 0 + readerUses s.reader
    omega
  · intro hback
    have hzero := hreturned hback
    have := readerUses_nonneg s.reader
    omega

/-- A reader that stops using the queue counts no more. -/
theorem Inv.readerLeaves (h : Inv total s blocks) (huses : readerUses s.reader = 1) (free : Bool) :
    Inv total { s with
      reader := .idle
      q := { s.q with user := s.q.user - 1, event.userFree := free } } blocks := by
  obtain ⟨hholds, hint, hwriter, hreader, huser, hquit, hreturned, hlog⟩ := h
  refine ⟨hholds.of_same rfl rfl rfl rfl rfl rfl, hint, hwriter.of_same rfl rfl rfl rfl rfl rfl,
    trivial, ?_, hquit, ?_, hlog⟩
  · show s.q.user - 1 = writerUses s.writer + 0
    omega
  · intro hback
    have hzero := hreturned hback
    have := writerUses_nonneg s.writer
    omega

/-- The writer's loop keeps the queue in order. -/
theorem Inv.getBufferLoop (h : Inv total { s with writer := .idle } blocks) (hpos : 0 ≤ size)
    (hsize : size + allocHeadSize ≤ s.q.size) : Inv total (s.getBufferLoop size) blocks := by
  obtain ⟨hholds, hint, -, hreader, huser, hquit, hreturned, hlog⟩ := h
  simp only at hholds hint hreader huser hquit hreturned hlog
  unfold QueueThreads.getBufferLoop
  split
  · exact ⟨hholds, hint, trivial, hreader, huser, hquit, hreturned, hlog⟩
  · next hgoes =>
    have hwaker : s.waker = .idle := Classical.not_not.mp fun hne ↦ hgoes (hquit hne)
    have hhead : 0 < size + allocHeadSize := by
      simp only [allocHeadSize]
      omega
    have hrp : blocks ≠ [] → (s.q.getBufferTurn (size + allocHeadSize)).1.rp = s.q.rp :=
      rp_getBufferTurn hholds
    split
    · next r ptr hturn =>
      obtain ⟨hkept, hsame, hquitSame, hevent, hptr⟩ := hholds.getBufferTurn hhead hturn
      rw [hturn] at hrp
      obtain ⟨hptr, hfree, huserNext⟩ | ⟨hnone, _⟩ := hptr
      · refine ⟨hkept, hsame ▸ hint, ⟨hpos, Option.some.inj hptr, hfree⟩, ?_, ?_, ?_, ?_, hlog⟩
        · exact hreader.of_same hrp hquitSame (by rw [hevent])
        · show r.user = 1 + readerUses s.reader
          rw [huserNext, huser, writerUses]
          omega
        · exact fun hne ↦ absurd hwaker hne
        · exact fun hback ↦ absurd (hwaker.symm.trans hback) (by simp)
      · exact absurd hnone (by simp)
    · next r hturn =>
      obtain ⟨hkept, hsame, hquitSame, hevent, hptr⟩ := hholds.getBufferTurn hhead hturn
      rw [hturn] at hrp
      obtain ⟨hnone, _⟩ | ⟨_, hring, hshort, huserNext⟩ := hptr
      · exact absurd hnone (by simp)
      · have hwaits := hholds.waits hsize (by rwa [hring] at hshort)
        have hquitFalse : r.quit = false := by
          rw [hquitSame]
          exact Bool.eq_false_iff.mpr hgoes
        refine ⟨hkept.of_same rfl rfl rfl rfl rfl rfl, hsame ▸ hint, ?_, ?_, ?_, ?_, ?_, hlog⟩
        · refine ⟨hpos, hsame ▸ hsize, .inr ⟨hquitFalse, ?_, hshort⟩⟩
          show r.fillEnd ≠ 0
          rw [hring]
          exact hwaits.2
        · exact hreader.of_same hrp hquitSame (by rw [waitBegin, hevent])
        · show r.user + 1 = 1 + readerUses s.reader
          rw [huserNext, huser, writerUses]
          omega
        · exact fun hne ↦ absurd hwaker hne
        · exact fun hback ↦ absurd (hwaker.symm.trans hback) (by simp)

/-- The reader's loop keeps the queue in order, and does not end the program. -/
theorem Inv.readLockLoop (h : Inv total { s with reader := .idle } blocks) :
    Inv total s.readLockLoop blocks ∧ s.readLockLoop.ended = s.ended := by
  obtain ⟨hholds, hint, hwriter, -, huser, hquit, hreturned, hlog⟩ := h
  simp only at hholds hint hwriter huser hquit hreturned hlog
  unfold QueueThreads.readLockLoop
  split
  · exact ⟨⟨hholds, hint, hwriter, trivial, huser, hquit, hreturned, hlog⟩, rfl⟩
  · next hgoes =>
    have hwaker : s.waker = .idle := Classical.not_not.mp fun hne ↦ hgoes (hquit hne)
    have huses : readerUses .idle = 0 := rfl
    rw [huses] at huser
    rw [hholds.readLockTurn]
    cases blocks with
    | nil =>
      refine ⟨⟨hholds.of_same rfl rfl rfl rfl rfl rfl, hint, ?_, ?_, ?_, ?_, ?_, hlog⟩, rfl⟩
      · exact hwriter.of_same rfl rfl rfl rfl rfl rfl
      · exact .inr ⟨Bool.eq_false_iff.mpr hgoes, rfl⟩
      · show s.q.user + 1 = writerUses s.writer + 1
        omega
      · exact fun hne ↦ absurd hwaker hne
      · exact fun hback ↦ absurd (hwaker.symm.trans hback) (by simp)
    | cons b rest =>
      refine ⟨⟨hholds.of_same rfl rfl rfl rfl rfl rfl, hint, ?_, ?_, ?_, ?_, ?_, hlog⟩, rfl⟩
      · exact hwriter.of_same rfl rfl rfl rfl rfl rfl
      · refine ⟨rfl, ?_, ?_⟩
        · rw [Cells.length_bytesAt]
          simp
        · show some b = some (s.q.buffer.bytesAt (s.q.rp + 4) b.length)
          rw [hholds.head.2.1]
      · show s.q.user + 1 = writerUses s.writer + 1
        omega
      · exact fun hne ↦ absurd hwaker hne
      · exact fun hback ↦ absurd (hwaker.symm.trans hback) (by simp)

/-- The waker's loop returns only when nobody uses the queue. -/
theorem Inv.wakeupLoop (h : Inv total s blocks) (hquit : s.q.quit = true) :
    Inv total s.wakeupLoop blocks := by
  obtain ⟨hholds, hint, hwriter, hreader, huser, -, -, hlog⟩ := h
  unfold QueueThreads.wakeupLoop
  split
  · exact ⟨hholds, hint, hwriter, hreader, huser, fun _ ↦ hquit, nofun, hlog⟩
  · next hzero =>
    exact ⟨hholds, hint, hwriter, hreader, huser, fun _ ↦ hquit,
      fun _ ↦ Classical.not_not.mp hzero, hlog⟩

/-- Filling bytes that were asked for keeps the queue in order. -/
theorem Inv.fill (h : Inv total s blocks) {ptr offset : Int} {bytes : List UInt8}
    (hw : s.writer = .filling ptr size) (hlow : 0 ≤ offset) (hhigh : offset + bytes.length ≤ size) :
    Inv total { s with q := { s.q with buffer := s.q.buffer.write (ptr + offset) bytes } }
      blocks := by
  obtain ⟨hholds, hint, hwriter, hreader, huser, hquit, hreturned, hlog⟩ := h
  have hroom := hwriter
  rw [hw] at hroom
  obtain ⟨_, rfl, hfree⟩ := hroom
  refine ⟨?_, hint, hwriter.of_same rfl rfl rfl rfl rfl rfl,
    hreader.of_same (fun _ ↦ rfl) rfl rfl, huser, hquit, hreturned, hlog⟩
  refine hholds.write hfree (fun i hi ↦ ?_) rfl rfl rfl rfl rfl
  apply Cells.write_outside
  simp only [allocHeadSize] at hi ⊢
  omega

/-- Sending keeps the queue in order with one more block, the one that the log names, or with the
same blocks. -/
theorem Inv.sendBuffer (h : Inv total s blocks) {ptr room : Int} (hw : s.writer = .filling ptr room)
    (hsize : 0 ≤ size) (ht : s.q.sendBuffer size = some (q, ret)) :
    ∃ bs, Inv total { s with
      q := q
      writer := .idle
      log := if ret = 0 ∧ size ≠ 0 then
        s.log ++ [.sent (s.q.buffer.bytesAt ptr size.toNat)] else s.log } bs := by
  obtain ⟨hholds, hint, hwriter, hreader, huser, hquit, hreturned, hlog⟩ := h
  rw [hw] at hwriter huser
  obtain ⟨_, rfl, _⟩ := hwriter
  obtain ⟨r, ret', hr, hsizeSame, hquitSame, hrp, hfillEnd, huserNext, _, _, hcases⟩ :=
    hholds.sendBuffer (hint.1 ▸ hint.2) hsize
  rw [ht] at hr
  obtain ⟨rfl, rfl⟩ := Prod.mk.inj (Option.some.inj hr)
  have huserHere : q.user = writerUses .idle + readerUses s.reader := by
    rw [huserNext, huser]
    simp only [writerUses]
    omega
  have hquitHere : s.waker ≠ .idle → q.quit = true := fun hne ↦ hquitSame ▸ hquit hne
  have hreturnedHere : s.waker = .returned → q.user = 0 := by
    intro hback
    have hzero := hreturned hback
    rw [huser] at hzero
    simp only [writerUses] at hzero
    cases hreaderAt : s.reader <;> simp [hreaderAt, readerUses] at hzero
  obtain ⟨rfl, hne, harrive, hnext⟩ | ⟨hiff, harrive, hnext, _⟩ := hcases
  · refine ⟨_, hnext, hsizeSame ▸ hint, trivial, ?_, huserHere, hquitHere, hreturnedHere, ?_⟩
    · cases hreaderAt : s.reader with
      | idle => trivial
      | waiting => exact .inl harrive
      | woken => trivial
      | cleared => trivial
      | holding p n seen =>
        rw [hreaderAt] at hreader
        obtain ⟨hp, hn, hhead⟩ := hreader
        refine ⟨hp.trans (by rw [hrp]), hn, ?_⟩
        rw [List.head?_append, hhead]
        rfl
    · simp only
      rw [if_pos ⟨trivial, hne⟩, run_concat_some]
      exact ⟨blocks, hlog, rfl⟩
  · refine ⟨blocks, hnext, hsizeSame ▸ hint, trivial, ?_, huserHere, hquitHere, hreturnedHere, ?_⟩
    · exact hreader.of_same (fun _ ↦ hrp) hquitSame harrive
    · simp only
      rw [if_neg (fun hboth ↦ hboth.2 (hiff.mp hboth.1))]
      exact hlog

/-- Giving a block back keeps the queue in order without it, and the log names it. -/
theorem Inv.readUnlock (h : Inv total s blocks) {ptr : Int} {seen : List UInt8}
    (hr : s.reader = .holding ptr size seen) :
    ∃ q bs, s.q.readUnlock = some q ∧
      Inv total { s with reader := .idle, q := q, log := s.log ++ [.taken seen] } bs := by
  obtain ⟨hholds, hint, hwriter, hreader, huser, hquit, hreturned, hlog⟩ := h
  rw [hr] at hreader huser
  obtain ⟨_, _, hhead⟩ := hreader
  obtain ⟨rest, rfl⟩ := List.head?_eq_some_iff.mp hhead
  obtain ⟨q, hq, hrest, hfree, _, hsizeSame, hwp, huserNext, hquitSame, hevent⟩ :=
    hholds.readUnlock
  refine ⟨q, rest, hq, hrest, hsizeSame ▸ hint, ?_, trivial, ?_, ?_, ?_, ?_⟩
  · exact hwriter.consumed hsizeSame hwp hfree (by rw [hevent])
  · show q.user = writerUses s.writer + readerUses .idle
    rw [huserNext, huser]
    simp only [readerUses]
    omega
  · exact fun hne ↦ hquitSame ▸ hquit hne
  · intro hback
    have hzero := hreturned hback
    rw [huser] at hzero
    cases hwriterAt : s.writer <;> simp [hwriterAt, writerUses, readerUses] at hzero
  · rw [run_concat_some]
    exact ⟨_, hlog, by simp [Transfer.apply]⟩

/-- Dropping all blocks keeps the queue in order with none, and ends the program exactly when a
block takes the whole buffer. -/
theorem Inv.consumeAll (h : Inv total s blocks) (hr : s.reader = .idle) :
    (s.q.consumeAll = none ∧ s.q.quit = false ∧ ∃ b ∈ blocks, 4 + (b.length : Int) = s.q.size) ∨
      ∃ q bs, s.q.consumeAll = some q ∧
        (s.q.quit = false → ¬ ∃ b ∈ blocks, 4 + (b.length : Int) = s.q.size) ∧
        Inv total { s with q := q, log := if s.q.quit then s.log else s.log ++ [.dropped] } bs := by
  obtain ⟨hholds, hint, hwriter, hreader, huser, hquit, hreturned, hlog⟩ := h
  by_cases hquitAt : s.q.quit = true
  · refine .inr ⟨s.q, blocks, consumeAll_of_quit hquitAt, ?_, ?_⟩
    · exact fun hgoes ↦ absurd hgoes (by simp [hquitAt])
    rw [if_pos hquitAt]
    exact ⟨hholds, hint, hwriter, hreader, huser, hquit, hreturned, hlog⟩
  · have hgoes : s.q.quit = false := Bool.eq_false_iff.mpr hquitAt
    have hwaker : s.waker = .idle := Classical.not_not.mp fun hne ↦ hquitAt (hquit hne)
    have hturns := hholds.consumeTurns hgoes hholds.length_le
    split at hturns
    · next hwhole => exact .inl ⟨hturns, hgoes, hwhole⟩
    · next hnone =>
      obtain ⟨q, hq, hempty, hfree, _, hsizeSame, hwp, huserNext, hquitSame, hevent⟩ := hturns
      refine .inr ⟨q, [], hq, fun _ ↦ hnone, hempty, hsizeSame ▸ hint, ?_, ?_, ?_, ?_, ?_, ?_⟩
      · cases hblocks : blocks with
        | nil =>
          subst hblocks
          cases hholds.consumeTurns_nil.symm.trans hq
          exact hwriter
        | cons b rest => exact hwriter.consumed hsizeSame hwp hfree (by simp [hevent, hblocks])
      · rw [hr]
        trivial
      · show q.user = _
        rw [huserNext, huser]
      · exact fun hne ↦ absurd hwaker hne
      · exact fun hback ↦ absurd (hwaker.symm.trans hback) (by simp)
      · rw [if_neg hquitAt, run_concat_some]
        exact ⟨blocks, hlog, rfl⟩

/-- The writer's loop does not end the program. -/
theorem ended_getBufferLoop : (s.getBufferLoop size).ended = s.ended := by
  unfold QueueThreads.getBufferLoop
  split
  · rfl
  · split <;> rfl

/-- So does the waker's loop. -/
theorem ended_wakeupLoop : s.wakeupLoop.ended = s.ended := by
  unfold QueueThreads.wakeupLoop
  split <;> rfl

/-- A step keeps the queue in order with the blocks that the log leaves; the program ends only when
a negative size is sent, or when all blocks are dropped and one of them takes the whole buffer. -/
theorem Inv.step (h : Inv total s blocks) {e : QueueEvent} (ht : s.step e = some t) :
    (t.ended = false ∧ ∃ bs, Inv total t bs) ∨
      (t.ended = true ∧ ∃ n, e = .sendBuffer n ∧ SizeBad n) ∨
      (t.ended = true ∧ e = .consumeAll ∧ s.q.quit = false ∧
        ∃ b ∈ blocks, 4 + (b.length : Int) = s.q.size) := by
  unfold QueueThreads.step at ht
  split at ht
  · exact absurd ht (by simp)
  have hended : s.ended = false := Bool.eq_false_iff.mpr ‹_›
  have hkept := h
  obtain ⟨hholds, hint, hwriter, hreader, huser, hquit, hreturned, hlog⟩ := h
  cases e with
  | getBuffer size =>
    simp only [Option.ite_none_right_eq_some] at ht
    obtain ⟨⟨hidle, hpos⟩, ht⟩ := ht
    split at ht
    · cases ht
      exact .inl ⟨hended, blocks, hkept⟩
    · next hfits =>
      cases ht
      have hhere : Inv total { s with writer := .idle } blocks :=
        ⟨hholds, hint, trivial, hreader, by rw [huser, hidle], hquit, hreturned, hlog⟩
      exact .inl ⟨ended_getBufferLoop.trans hended, blocks,
        hhere.getBufferLoop hpos.1 (by omega)⟩
  | writerWakes =>
    simp only at ht
    split at ht
    · next size hw =>
      rw [Option.ite_none_right_eq_some, Option.some.injEq] at ht
      obtain ⟨hbit, rfl⟩ := ht
      rw [hw] at hwriter huser
      exact .inl ⟨hended, blocks, hholds, hint, ⟨hwriter.1, hwriter.2.1⟩, hreader, huser, hquit,
        hreturned, hlog⟩
    · exact absurd ht (by simp)
  | writerClears =>
    simp only at ht
    split at ht
    · next size hw =>
      cases ht
      rw [hw] at hwriter huser
      exact .inl ⟨hended, blocks, hholds.of_same rfl rfl rfl rfl rfl rfl, hint, hwriter,
        hreader.of_same (fun _ ↦ rfl) rfl rfl, huser, hquit, hreturned, hlog⟩
    · exact absurd ht (by simp)
  | writerRetries =>
    simp only at ht
    split at ht
    · next size hw =>
      cases ht
      rw [hw] at hwriter
      exact .inl ⟨ended_getBufferLoop.trans hended, blocks,
        (hkept.writerLeaves (by rw [hw]; rfl) true).getBufferLoop hwriter.1 hwriter.2⟩
    · exact absurd ht (by simp)
  | fill offset bytes =>
    simp only at ht
    split at ht
    · next ptr size hw =>
      rw [Option.ite_none_right_eq_some, Option.some.injEq] at ht
      obtain ⟨⟨hlow, hhigh⟩, rfl⟩ := ht
      exact .inl ⟨hended, blocks, hkept.fill hw hlow hhigh⟩
    · exact absurd ht (by simp)
  | sendBuffer size =>
    simp only at ht
    split at ht
    · next ptr room hw =>
      rw [Option.ite_none_right_eq_some] at ht
      obtain ⟨hok | hbad, ht⟩ := ht
      · split at ht
        · next hnone =>
          obtain ⟨r, ret, hr, _⟩ := hholds.sendBuffer (hint.1 ▸ hint.2) hok.1
          exact absurd (hnone.symm.trans hr) (by simp)
        · next q ret hsend =>
          cases ht
          exact .inl ⟨hended, hkept.sendBuffer hw hok.1 hsend⟩
      · rw [hholds.sendBuffer_negative hbad.2] at ht
        cases ht
        exact .inr (.inl ⟨rfl, size, rfl, hbad⟩)
    · exact absurd ht (by simp)
  | readLock =>
    rw [Option.ite_none_right_eq_some, Option.some.injEq] at ht
    obtain ⟨hidle, rfl⟩ := ht
    have hhere : Inv total { s with reader := .idle } blocks :=
      ⟨hholds, hint, hwriter, trivial, by rw [huser, hidle], hquit, hreturned, hlog⟩
    obtain ⟨hloop, hendedLoop⟩ := hhere.readLockLoop
    exact .inl ⟨hendedLoop.trans hended, blocks, hloop⟩
  | readerWakes =>
    rw [Option.ite_none_right_eq_some, Option.some.injEq] at ht
    obtain ⟨⟨hw, _⟩, rfl⟩ := ht
    rw [hw] at huser
    exact .inl ⟨hended, blocks, hholds, hint, hwriter, trivial, huser, hquit, hreturned, hlog⟩
  | readerClears =>
    rw [Option.ite_none_right_eq_some, Option.some.injEq] at ht
    obtain ⟨hw, rfl⟩ := ht
    rw [hw] at huser
    exact .inl ⟨hended, blocks, hholds.of_same rfl rfl rfl rfl rfl rfl, hint,
      hwriter.of_same rfl rfl rfl rfl rfl rfl, trivial, huser, hquit, hreturned, hlog⟩
  | readerRetries =>
    rw [Option.ite_none_right_eq_some, Option.some.injEq] at ht
    obtain ⟨hw, rfl⟩ := ht
    obtain ⟨hloop, hendedLoop⟩ := Inv.readLockLoop (s := { s with q := waitEnd s.q })
      (hkept.readerLeaves (by rw [hw]; rfl) true)
    exact .inl ⟨hendedLoop.trans hended, blocks, hloop⟩
  | peekUnlock =>
    simp only at ht
    split at ht
    · next ptr size seen hr =>
      cases ht
      exact .inl ⟨hended, blocks, hkept.readerLeaves (by rw [hr]; rfl) s.q.event.userFree⟩
    · exact absurd ht (by simp)
  | readUnlock =>
    simp only at ht
    split at ht
    · next ptr size seen hr =>
      obtain ⟨q, bs, hq, hnext⟩ := hkept.readUnlock hr
      rw [hq] at ht
      cases ht
      exact .inl ⟨hended, bs, hnext⟩
    · exact absurd ht (by simp)
  | consumeAll =>
    rw [Option.ite_none_right_eq_some] at ht
    obtain ⟨hidle, ht⟩ := ht
    obtain ⟨hnone, hgoes, hwhole⟩ | ⟨q, bs, hq, _, hnext⟩ := hkept.consumeAll hidle
    · rw [hnone] at ht
      cases ht
      exact .inr (.inr ⟨rfl, rfl, hgoes, hwhole⟩)
    · rw [hq] at ht
      cases ht
      exact .inl ⟨hended, bs, hnext⟩
  | wakeup =>
    rw [Option.ite_none_right_eq_some, Option.some.injEq] at ht
    obtain ⟨hidle, rfl⟩ := ht
    have hhere :
        Inv total { s with q := dataConsumed (notifyData { s.q with quit := true }) } blocks :=
      ⟨hholds.of_same rfl rfl rfl rfl rfl rfl, hint,
        hwriter.consumed rfl rfl (fun _ hfree ↦ hfree.of_same rfl rfl rfl rfl) rfl,
        hreader.arrived rfl rfl, huser, fun _ ↦ rfl, hreturned, hlog⟩
    exact .inl ⟨ended_wakeupLoop.trans hended, blocks, hhere.wakeupLoop rfl⟩
  | wakerWakes =>
    rw [Option.ite_none_right_eq_some, Option.some.injEq] at ht
    obtain ⟨⟨hw, _⟩, rfl⟩ := ht
    exact .inl ⟨hended, blocks, hholds, hint, hwriter, hreader, huser,
      fun _ ↦ hquit (by simp [hw]), nofun, hlog⟩
  | wakerClears =>
    rw [Option.ite_none_right_eq_some, Option.some.injEq] at ht
    obtain ⟨hw, rfl⟩ := ht
    exact .inl ⟨hended, blocks, hholds.of_same rfl rfl rfl rfl rfl rfl, hint,
      hwriter.of_same rfl rfl rfl rfl rfl rfl, hreader.of_same (fun _ ↦ rfl) rfl rfl, huser,
      fun _ ↦ hquit (by simp [hw]), nofun, hlog⟩
  | wakerRetries =>
    rw [Option.ite_none_right_eq_some, Option.some.injEq] at ht
    obtain ⟨hw, rfl⟩ := ht
    exact .inl ⟨ended_wakeupLoop.trans hended, blocks,
      hkept.wakeupLoop (hquit (by simp [hw]))⟩

/-- A state from which there is a step has not ended. -/
theorem not_ended_of_step {e : QueueEvent} (ht : s.step e = some t) : s.ended = false := by
  unfold QueueThreads.step at ht
  split at ht
  · exact absurd ht (by simp)
  · exact Bool.eq_false_iff.mpr ‹_›

/-- A step that does not end the program keeps the queue in order. -/
theorem Inv.next_some (h : Inv total s blocks) {e : QueueEvent} (ht : s.step e = some t)
    (hgoes : t.ended = false) : ∃ bs, Inv total t bs := by
  obtain ⟨_, hnext⟩ | ⟨hend, _⟩ | ⟨hend, _⟩ := h.step ht
  · exact hnext
  · exact absurd hgoes (by simp [hend])
  · exact absurd hgoes (by simp [hend])

/-- A queue is in order as long as the program has not ended. -/
theorem inv_run {buffer : Cells} (hlow : 0 ≤ size) (hhigh : size < 2147483648)
    {es : List QueueEvent} (h : run step (initial buffer size) es = some s)
    (hgoes : s.ended = false) : ∃ blocks, Inv size s blocks := by
  apply run_invariant (I := fun s ↦ s.ended = false → ∃ blocks, Inv size s blocks)
    (fun _ ↦ ⟨[], inv_initial buffer hlow hhigh⟩) ?_ h hgoes
  intro u e v hu he hv
  obtain ⟨blocks, hinv⟩ := hu (not_ended_of_step he)
  exact hinv.next_some he hv

end Steps

end QueueThreads
end Esp32Robot.Media

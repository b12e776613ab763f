import Esp32Robot.Base.Blocks

/-!
# The data queue of the media library

`data_queue_t` of `components/media_lib_sal` is one array in which blocks stand one
behind the other. A writer asks for room, fills it, and sends as much of it as it
filled; a reader gets the oldest block where it stands, and gives it back. When the
room behind the last block is too short, the writer notes where the blocks end in
`fill_end` and goes on at the start of the array (`data_queue.c` lines 28–425).

A function here is what its C function does while it holds `q->lock`; the loops that
wait with the lock released are those of the threads. `none` is the write to the null
pointer by which the C code ends the program when the length in front of a block is
out of range.
-/

namespace Esp32Robot.Media

open Base

/-- The bits of `q->event`. -/
structure QueueBits where
  dataArrive : Bool
  dataConsume : Bool
  userFree : Bool
  deriving DecidableEq, Repr

/-- `data_queue_t` with the contents of its buffer; its locks are those of the threads. -/
structure DataQueue where
  buffer : Cells
  size : Int
  fillEnd : Int
  wp : Int
  rp : Int
  filled : Int
  user : Int
  quit : Bool
  event : QueueBits

namespace DataQueue

/-- `DATA_Q_ALLOC_HEAD_SIZE`. -/
def allocHeadSize : Int := 4

/-- `data_queue_init` with the contents that `media_lib_malloc` returned. -/
def init (buffer : Cells) (size : Int) : DataQueue :=
  ⟨buffer, size, 0, 0, 0, 0, 0, false, ⟨false, false, false⟩⟩

/-- `_data_queue_have_data`. -/
def haveData (q : DataQueue) : Bool := !(q.wp == q.rp && q.fillEnd == 0)

/-- `_data_queue_have_data_from_last`. -/
def haveDataFromLast (q : DataQueue) : Bool := q.filled != 0

/-- `data_queue_release_user`. -/
def releaseUser (q : DataQueue) : DataQueue := { q with event.userFree := true }

/-- `data_queue_notify_data`. -/
def notifyData (q : DataQueue) : DataQueue := { q with event.dataArrive := true }

/-- `data_queue_data_consumed`. -/
def dataConsumed (q : DataQueue) : DataQueue := { q with event.dataConsume := true }

/-- `get_available_size`. -/
def getAvailableSize (q : DataQueue) : Int :=
  if q.wp > q.rp then q.size - q.wp
  else if q.wp = q.rp then if q.fillEnd ≠ 0 then 0 else q.size - q.wp
  else q.rp - q.wp

/-- `data_queue_get_available`. -/
def getAvailable (q : DataQueue) : Int :=
  let avail := if q.wp = q.rp ∧ q.fillEnd = 0 then q.size else q.getAvailableSize
  if avail ≥ allocHeadSize then avail - allocHeadSize else 0

/-- Lines 237–244 of `data_queue_get_buffer`: go on at the start of the buffer when the room behind
the last block is too short. -/
def ringBack (q : DataQueue) (size : Int) : DataQueue :=
  if q.getAvailableSize < size ∧ q.fillEnd = 0 then
    let r := if q.wp = q.rp then { q with wp := 0, rp := 0 } else q
    { r with fillEnd := r.wp, wp := 0 }
  else q

/-- One turn of the loop of `data_queue_get_buffer`; the pointer, when the room is enough. -/
def getBufferTurn (q : DataQueue) (size : Int) : DataQueue × Option Int :=
  let r := q.ringBack size
  if r.getAvailableSize ≥ size then
    ({ r with user := r.user + 1 }, some (r.wp + allocHeadSize))
  else (r, none)

/-- `data_queue_send_buffer`: the queue and the return value. -/
def sendBuffer (q : DataQueue) (size : Int) : Option (DataQueue × Int) :=
  if size = 0 then some ((releaseUser { q with user := q.user - 1 }), 0)
  else
    let size := size + allocHeadSize
    if q.getAvailableSize ≥ size then
      let buffer := q.buffer.storeInt q.wp size
      if size < 0 ∨ size > q.size then none
      else
        some (releaseUser (notifyData { q with
          buffer := buffer, wp := q.wp + size, filled := q.filled + size, user := q.user - 1 }), 0)
    else some (releaseUser { q with user := q.user - 1 }, -1)

/-- `cur_rp` of `data_queue_read_lock`. -/
def curRp (q : DataQueue) : Int :=
  if q.filled ≤ q.wp then q.wp - q.filled else q.wp + q.fillEnd - q.filled

/-- One turn of the loop of `data_queue_read_lock`; the pointer and the size, when there is a
block. -/
def readLockTurn (q : DataQueue) : Option (DataQueue × Option (Int × Int)) :=
  if q.haveDataFromLast = false then some (q, none)
  else
    let dataSize := q.buffer.loadInt q.curRp
    if dataSize < 0 ∨ dataSize > q.size then none
    else some ({ q with user := q.user + 1 },
      some (q.curRp + allocHeadSize, dataSize - allocHeadSize))

/-- `data_queue_peek_unlock`. -/
def peekUnlock (q : DataQueue) : DataQueue := { q with user := q.user - 1 }

/-- The reader's position behind a block, at the start of the buffer when it was the last one before
`fill_end`. -/
def advance (q : DataQueue) (size : Int) : DataQueue :=
  let r := { q with rp := q.rp + size, filled := q.filled - size }
  if r.fillEnd ≠ 0 ∧ r.rp ≥ r.fillEnd then { r with fillEnd := 0, rp := 0 } else r

/-- `data_queue_read_unlock`. -/
def readUnlock (q : DataQueue) : Option DataQueue :=
  if q.haveData then
    let size := q.buffer.loadInt q.rp
    if size < 0 ∨ size > q.size then none
    else
      let r := q.advance size
      some (releaseUser (dataConsumed { r with user := r.user - 1 }))
  else some q

/-- One turn of the loop of `data_queue_consume_all`. -/
def consumeTurn (q : DataQueue) : Option DataQueue :=
  let size := q.buffer.loadInt q.rp
  if size < 0 ∨ size ≥ q.size then none else some (dataConsumed (q.advance size))

/-- The first turns of the loop of `data_queue_consume_all`. -/
def consumeTurns : Nat → DataQueue → Option DataQueue
  | 0, q => some q
  | turns + 1, q =>
    if q.haveData && !q.quit then q.consumeTurn.bind (consumeTurns turns) else some q

/-- `data_queue_consume_all`; each turn takes at least one byte, so that these turns are enough. -/
def consumeAll (q : DataQueue) : Option DataQueue := consumeTurns q.filled.toNat q

/-- The variables of the loop of `data_queue_query`. -/
structure Query where
  rp : Int
  ring : Int
  qNum : Int
  qSize : Int
  deriving DecidableEq, Repr

/-- The loop of `data_queue_query` goes on. -/
def queryOn (q : DataQueue) (l : Query) : Bool := l.rp != q.wp || l.ring != 0

/-- One turn of the loop of `data_queue_query`. -/
def queryTurn (q : DataQueue) (l : Query) : Option Query :=
  let size := q.buffer.loadInt l.rp
  if size < 0 ∨ size > q.size then none
  else
    let rp := l.rp + size
    let back := l.ring ≠ 0 ∧ rp = l.ring
    some ⟨if back then 0 else rp, if back then 0 else l.ring, l.qNum + 1,
      l.qSize + (size - allocHeadSize)⟩

/-- The first turns of the loop of `data_queue_query`. -/
def queryTurns (q : DataQueue) : Nat → Query → Option Query
  | 0, l => some l
  | turns + 1, l => if q.queryOn l then (q.queryTurn l).bind (queryTurns q turns) else some l

/-- `data_queue_query`: the number of blocks and of payload bytes. -/
def query (q : DataQueue) : Option (Int × Int) :=
  if q.haveData then
    (q.queryTurns q.filled.toNat ⟨q.rp, q.fillEnd, 0, 0⟩).map (fun l ↦ (l.qNum, l.qSize))
  else some (0, 0)

/-! ### What a queue holds -/

/-- The blocks in a queue, the oldest one first. They stand between `rp` and `wp`, or, when the
writer went on at the start, first up to `fill_end` and then from the start on. -/
inductive Holds (q : DataQueue) : List (List UInt8) → Prop where
  | straight {blocks : List (List UInt8)} (back : q.fillEnd = 0) (low : 0 ≤ q.rp)
      (high : q.wp ≤ q.size) (filled : q.filled = q.wp - q.rp)
      (chain : Chain q.buffer q.rp blocks q.wp) : Holds q blocks
  | wrapped {front back : List (List UInt8)} (some : front ≠ []) (low : 0 ≤ q.wp)
      (room : q.wp ≤ q.rp) (high : q.fillEnd ≤ q.size)
      (filled : q.filled = q.fillEnd - q.rp + q.wp)
      (chainFront : Chain q.buffer q.rp front q.fillEnd)
      (chainBack : Chain q.buffer 0 back q.wp) : Holds q (front ++ back)

/-- The next bytes that the writer may write are in the buffer, and no block stands there. -/
structure Free (q : DataQueue) (n : Int) : Prop where
  low : 0 ≤ q.wp
  high : q.wp + n ≤ q.size
  before : q.fillEnd ≠ 0 → q.wp + n ≤ q.rp

section Holds

variable {q : DataQueue} {blocks : List (List UInt8)} {size : Int}

/-- A new queue holds nothing. -/
theorem holds_init (buffer : Cells) (hsize : 0 ≤ size) : Holds (init buffer size) [] :=
  .straight rfl (Int.le_refl _) hsize rfl rfl

/-- The blocks take the bytes that are filled. -/
theorem Holds.filled_eq (h : q.Holds blocks) : q.filled = span blocks := by
  cases h with
  | straight _ _ _ hfilled hchain =>
    have := hchain.end_eq
    omega
  | wrapped _ _ _ _ hfilled hfront hback =>
    have := hfront.end_eq
    have := hback.end_eq
    rw [span_append]
    omega

/-- The blocks are in the buffer. -/
theorem Holds.span_le (h : q.Holds blocks) : span blocks ≤ q.size := by
  rw [← h.filled_eq]
  cases h with
  | straight _ hlow hhigh hfilled hchain => omega
  | wrapped _ _ hroom hhigh hfilled hfront hback => omega

/-- The positions of a queue that holds blocks. -/
theorem Holds.positions (h : q.Holds blocks) :
    0 ≤ q.rp ∧ 0 ≤ q.wp ∧ q.wp ≤ q.size ∧ 0 ≤ q.fillEnd ∧
      (q.fillEnd = 0 → q.rp ≤ q.wp) ∧ (q.fillEnd ≠ 0 → q.wp ≤ q.rp ∧ q.rp < q.fillEnd) := by
  cases h with
  | straight hback hlow hhigh hfilled hchain =>
    have := hchain.end_eq
    have := @span_nonneg blocks
    omega
  | @wrapped front back hne hlow hroom hhigh hfilled hfront hback =>
    have := hfront.lt_end hne
    have := hback.end_eq
    have := @span_nonneg back
    omega

/-- When the writer went on at the start there is a block. -/
theorem Holds.ne_nil (h : q.Holds blocks) (hback : q.fillEnd ≠ 0) : blocks ≠ [] := by
  cases h with
  | straight hzero _ _ _ _ => exact absurd hzero hback
  | wrapped hne _ _ _ _ _ _ => exact fun hnil ↦ hne (List.append_eq_nil_iff.mp hnil).1

/-- `_data_queue_have_data` tells whether there is a block. -/
theorem Holds.haveData_iff (h : q.Holds blocks) : q.haveData = true ↔ blocks ≠ [] := by
  have hpos := h.positions
  have hiff : q.haveData = true ↔ ¬ (q.wp = q.rp ∧ q.fillEnd = 0) := by
    rw [haveData, Bool.not_eq_true', Bool.and_eq_false_iff, beq_eq_false_iff_ne,
      beq_eq_false_iff_ne]
    omega
  rw [hiff]
  cases h with
  | straight hback hlow hhigh hfilled hchain =>
    rw [Ne, hchain.eq_nil_iff]
    omega
  | @wrapped front back hne hlow hroom hhigh hfilled hfront hback =>
    have hpositive := hfront.lt_end hne
    simp only [ne_eq, List.append_eq_nil_iff, hne, false_and, not_false_iff, iff_true]
    omega

/-- What a queue holds is a matter of its buffer and its positions. -/
theorem Holds.of_same {t : DataQueue} (h : q.Holds blocks) (hbuffer : t.buffer = q.buffer)
    (hsize : t.size = q.size) (hfillEnd : t.fillEnd = q.fillEnd) (hwp : t.wp = q.wp)
    (hrp : t.rp = q.rp) (hfilled : t.filled = q.filled) : t.Holds blocks := by
  cases h with
  | straight hback hlow hhigh hfill hchain =>
    refine .straight (by omega) (by omega) (by omega) (by omega) ?_
    rwa [hbuffer, hrp, hwp]
  | wrapped hne hlow hroom hhigh hfill hfront hback =>
    refine .wrapped hne (by omega) (by omega) (by omega) (by omega) ?_ ?_
    · rwa [hbuffer, hrp, hfillEnd]
    · rwa [hbuffer, hwp]

/-- Whether bytes are free is a matter of the positions. -/
theorem Free.of_same {t : DataQueue} {n : Int} (h : q.Free n) (hsize : t.size = q.size)
    (hfillEnd : t.fillEnd = q.fillEnd) (hwp : t.wp = q.wp) (hrp : t.rp = q.rp) : t.Free n :=
  ⟨by have := h.low; omega, by have := h.high; omega, by have := h.before; omega⟩

/-- Writing to the free bytes leaves the blocks. -/
theorem Holds.write {t : DataQueue} {n : Int} (h : q.Holds blocks) (hfree : q.Free n)
    (hsame : ∀ i, i < q.wp ∨ q.wp + n ≤ i → t.buffer i = q.buffer i) (hsize : t.size = q.size)
    (hfillEnd : t.fillEnd = q.fillEnd) (hwp : t.wp = q.wp) (hrp : t.rp = q.rp)
    (hfilled : t.filled = q.filled) : t.Holds blocks := by
  obtain ⟨_, _, hbefore⟩ := hfree
  have hpos := h.positions
  cases h with
  | straight hback hlow hhigh hfill hchain =>
    refine .straight (by omega) (by omega) (by omega) (by omega) ?_
    rw [hrp, hwp]
    exact hchain.congr fun i _ hi ↦ hsame i (.inl hi)
  | wrapped hne hlow hroom hhigh hfill hfront hback =>
    refine .wrapped hne (by omega) (by omega) (by omega) (by omega) ?_ ?_
    · rw [hrp, hfillEnd]
      exact hfront.congr fun i hi _ ↦ hsame i (.inr (by omega))
    · rw [hwp]
      exact hback.congr fun i _ hi ↦ hsame i (.inl hi)

/-! ### Room for the writer -/

/-- The available bytes are free. -/
theorem Holds.free (h : q.Holds blocks) (hsize : size ≤ q.getAvailableSize) (hpos : 0 < size) :
    q.Free size := by
  have hq := h.positions
  have havail : q.wp + size ≤ q.size ∧ (q.fillEnd ≠ 0 → q.wp + size ≤ q.rp) := by
    unfold getAvailableSize at hsize
    cases h <;> grind
  exact ⟨hq.2.1, havail.1, havail.2⟩

/-- No negative number of bytes is available. -/
theorem Holds.available_nonneg (h : q.Holds blocks) : 0 ≤ q.getAvailableSize := by
  have hq := h.positions
  unfold getAvailableSize
  grind

/-- Going on at the start leaves the blocks. -/
theorem Holds.ringBack (h : q.Holds blocks) : (q.ringBack size).Holds blocks := by
  unfold DataQueue.ringBack
  split
  · next hshort =>
    have hpos := h.positions
    cases h with
    | straight hback hlow hhigh hfill hchain =>
      split
      · next heq =>
        have hnil := hchain.eq_nil_iff.mpr heq.symm
        subst hnil
        exact .straight rfl (Int.le_refl _) (by show (0 : Int) ≤ q.size; omega)
          (by show q.filled = 0 - 0; omega) rfl
      · next hne =>
        have hsome : blocks ≠ [] := fun hnil ↦ hne (hchain.eq_nil_iff.mp hnil).symm
        have hfilled : q.filled = q.wp - q.rp + 0 := by omega
        have hnone : Chain q.buffer 0 [] 0 := rfl
        have hwrapped := Holds.wrapped (q := { q with fillEnd := q.wp, wp := 0 }) hsome
          (Int.le_refl _) hlow hhigh hfilled hchain hnone
        rwa [List.append_nil] at hwrapped
    | wrapped hne hlow hroom hhigh hfill hfront hback =>
      have := hfront.lt_end hne
      exact absurd hshort.2 (by omega)
  · exact h

/-- A request for which the room is too short although the writer may go on at the start waits for
a block that is still to be read. -/
theorem Holds.waits (h : q.Holds blocks) (hsize : size ≤ q.size)
    (hshort : (q.ringBack size).getAvailableSize < size) :
    blocks ≠ [] ∧ (q.ringBack size).fillEnd ≠ 0 := by
  have hback : (q.ringBack size).fillEnd ≠ 0 := by
    intro hzero
    unfold DataQueue.ringBack getAvailableSize at hshort hzero
    have hpos := h.positions
    grind
  exact ⟨(h.ringBack).ne_nil hback, hback⟩

/-! ### Sending -/

/-- `data_queue_get_buffer` keeps the blocks, and gives a pointer behind the length of a block that
fits into the free bytes. -/
theorem Holds.getBufferTurn (h : q.Holds blocks) (hpos : 0 < size) {t : DataQueue}
    {ptr : Option Int} (ht : q.getBufferTurn size = (t, ptr)) :
    t.Holds blocks ∧ t.size = q.size ∧ t.quit = q.quit ∧ t.event = q.event ∧
      ((ptr = some (t.wp + allocHeadSize) ∧ t.Free size ∧ t.user = q.user + 1) ∨
        (ptr = none ∧ t = q.ringBack size ∧ t.getAvailableSize < size ∧ t.user = q.user)) := by
  have hring : (q.ringBack size).Holds blocks := h.ringBack
  have hsame : (q.ringBack size).size = q.size ∧ (q.ringBack size).quit = q.quit ∧
      (q.ringBack size).event = q.event ∧ (q.ringBack size).user = q.user := by
    unfold DataQueue.ringBack
    split
    · split <;> exact ⟨rfl, rfl, rfl, rfl⟩
    · exact ⟨rfl, rfl, rfl, rfl⟩
  obtain ⟨hsize, hquit, hevent, huser⟩ := hsame
  unfold DataQueue.getBufferTurn at ht
  simp only at ht
  split at ht
  · next havail =>
    obtain ⟨rfl, rfl⟩ := Prod.mk.inj ht
    refine ⟨hring.of_same rfl rfl rfl rfl rfl rfl, hsize, hquit, hevent, .inl ⟨rfl, ?_, ?_⟩⟩
    · exact (hring.free havail hpos).of_same rfl rfl rfl rfl
    · show (q.ringBack size).user + 1 = q.user + 1
      rw [huser]
  · next hshort =>
    obtain ⟨rfl, rfl⟩ := Prod.mk.inj ht
    exact ⟨hring, hsize, hquit, hevent, .inr ⟨rfl, rfl, by omega, huser⟩⟩

/-- A block behind the blocks. -/
private theorem Holds.push (h : q.Holds blocks) {t : DataQueue} {b : List UInt8}
    (hfree : q.Free (allocHeadSize + b.length))
    (hlength : t.buffer.loadInt q.wp = 4 + b.length)
    (hbytes : t.buffer.bytesAt (q.wp + 4) b.length = b)
    (hsame : ∀ i, i < q.wp ∨ q.wp + 4 ≤ i → t.buffer i = q.buffer i) (hsize : t.size = q.size)
    (hfillEnd : t.fillEnd = q.fillEnd) (hwp : t.wp = q.wp + (4 + b.length)) (hrp : t.rp = q.rp)
    (hfilled : t.filled = q.filled + (4 + b.length)) : t.Holds (blocks ++ [b]) := by
  obtain ⟨hfreeLow, hfreeHigh, hbefore⟩ := hfree
  simp only [allocHeadSize] at hfreeHigh hbefore
  cases h with
  | straight hback hlow hhigh hfill hchain =>
    have hkept : Chain t.buffer q.rp blocks q.wp := hchain.congr fun i _ hi ↦ hsame i (.inl hi)
    refine .straight (by omega) (by omega) (by omega) (by omega) ?_
    rw [hrp, hwp]
    exact hkept.concat hlength hbytes
  | @wrapped front back hne hlow hroom hhigh hfill hfront hback =>
    have hpositive := hfront.lt_end hne
    have hfrontKept : Chain t.buffer q.rp front q.fillEnd :=
      hfront.congr fun i hi _ ↦ hsame i (.inr (by omega))
    have hbackKept : Chain t.buffer 0 back q.wp := hback.congr fun i _ hi ↦ hsame i (.inl hi)
    rw [List.append_assoc]
    refine .wrapped hne (by omega) (by omega) (by omega) (by omega) ?_ ?_
    · rwa [hrp, hfillEnd]
    · rw [hwp]
      exact hbackKept.concat hlength hbytes

/-- `data_queue_send_buffer` puts the bytes behind the pointer at the end, or nothing when the size
is 0 or does not fit, and never ends the program. -/
theorem Holds.sendBuffer (h : q.Holds blocks) (hint : q.size < 2147483648) (hsize : 0 ≤ size) :
    ∃ t ret, q.sendBuffer size = some (t, ret) ∧ t.size = q.size ∧ t.quit = q.quit ∧
      t.rp = q.rp ∧ t.fillEnd = q.fillEnd ∧ t.user = q.user - 1 ∧
      t.event.dataConsume = q.event.dataConsume ∧ t.event.userFree = true ∧
      ((ret = 0 ∧ size ≠ 0 ∧ t.event.dataArrive = true ∧
          t.Holds (blocks ++ [q.buffer.bytesAt (q.wp + allocHeadSize) size.toNat])) ∨
        ((ret = 0 ↔ size = 0) ∧ t.event.dataArrive = q.event.dataArrive ∧ t.Holds blocks ∧
          (size ≠ 0 → q.getAvailableSize < size + allocHeadSize))) := by
  unfold DataQueue.sendBuffer
  by_cases hzero : size = 0
  · rw [if_pos hzero]
    refine ⟨_, _, rfl, rfl, rfl, rfl, rfl, rfl, rfl, rfl, .inr ⟨by simp [hzero], rfl, ?_, ?_⟩⟩
    · exact h.of_same rfl rfl rfl rfl rfl rfl
    · exact fun hne ↦ absurd hzero hne
  · rw [if_neg hzero]
    simp only
    split
    · next havail =>
      have hfree := h.free havail (by simp only [allocHeadSize]; omega)
      have hhigh := hfree.high
      have hlow := hfree.low
      simp only [allocHeadSize] at hhigh
      rw [if_neg (by simp only [allocHeadSize]; omega)]
      refine ⟨_, _, rfl, rfl, rfl, rfl, rfl, rfl, rfl, rfl, .inl ⟨rfl, hzero, rfl, ?_⟩⟩
      have hlength :
          ((q.buffer.bytesAt (q.wp + allocHeadSize) size.toNat).length : Int) = size := by
        rw [Cells.length_bytesAt]
        omega
      apply h.push
      · rw [hlength, Int.add_comm]
        exact hfree
      · rw [hlength, Int.add_comm 4]
        exact Cells.loadInt_storeInt (by simp only [allocHeadSize]; omega)
          (by simp only [allocHeadSize]; omega)
      · show (q.buffer.storeInt q.wp _).bytesAt _ _ = _
        rw [Cells.length_bytesAt]
        exact Cells.bytesAt_congr fun i hi _ ↦ Cells.storeInt_outside (.inr hi)
      · exact fun i hi ↦ Cells.storeInt_outside hi
      · rfl
      · rfl
      · rw [hlength, Int.add_comm 4]
        rfl
      · rfl
      · rw [hlength, Int.add_comm 4]
        rfl
    · next hshort =>
      refine ⟨_, _, rfl, rfl, rfl, rfl, rfl, rfl, rfl, rfl, .inr ⟨by simp [hzero], rfl, ?_, ?_⟩⟩
      · exact h.of_same rfl rfl rfl rfl rfl rfl
      · intro _
        omega

/-- A negative size is written in front of the block, and then ends the program. -/
theorem Holds.sendBuffer_negative (h : q.Holds blocks) (hsize : size < -allocHeadSize) :
    q.sendBuffer size = none := by
  have hnonneg := h.available_nonneg
  have hlow : size + allocHeadSize < 0 := by omega
  have havail : q.getAvailableSize ≥ size + allocHeadSize := by omega
  have hzero : size ≠ 0 := by
    simp only [allocHeadSize] at hsize
    omega
  unfold DataQueue.sendBuffer
  rw [if_neg hzero]
  simp only
  rw [if_pos havail, if_pos (.inl hlow)]

/-! ### Reading -/

/-- The oldest block stands at `rp`, and its length is in the range that the reader checks. -/
theorem Holds.head {b : List UInt8} {rest : List (List UInt8)} (h : q.Holds (b :: rest)) :
    q.buffer.loadInt q.rp = 4 + b.length ∧ q.buffer.bytesAt (q.rp + 4) b.length = b ∧
      4 + (b.length : Int) ≤ q.size := by
  have hspan := h.span_le
  rw [span_cons] at hspan
  have := @span_nonneg rest
  generalize hbs : b :: rest = bs at h
  cases h with
  | straight _ _ _ _ hchain =>
    subst hbs
    exact ⟨hchain.1, hchain.2.1, by omega⟩
  | @wrapped front back hne _ _ _ _ hfront _ =>
    cases front with
    | nil => exact absurd rfl hne
    | cons c front =>
      obtain ⟨rfl, rfl⟩ := List.cons.inj hbs
      exact ⟨hfront.1, hfront.2.1, by omega⟩

/-- The position that the reader computes from the filled bytes is the one of the oldest block. -/
theorem Holds.curRp_eq (h : q.Holds blocks) (hne : blocks ≠ []) : q.curRp = q.rp := by
  unfold curRp
  cases h with
  | straight hback hlow hhigh hfill hchain => rw [if_pos (by omega)]; omega
  | wrapped hsome hlow hroom hhigh hfill hfront hback =>
    have := hfront.lt_end hsome
    rw [if_neg (by omega)]
    omega

/-- `filled` tells whether there is a block. -/
theorem Holds.haveDataFromLast_iff (h : q.Holds blocks) :
    q.haveDataFromLast = true ↔ blocks ≠ [] := by
  rw [haveDataFromLast, bne_iff_ne, h.filled_eq]
  cases blocks with
  | nil => simp
  | cons b bs =>
    have := @span_nonneg bs
    rw [span_cons]
    simp only [ne_eq, reduceCtorEq, not_false_iff, iff_true]
    omega

/-- `data_queue_read_lock` gives the oldest block where it stands, and waits when there is none. -/
theorem Holds.readLockTurn (h : q.Holds blocks) :
    q.readLockTurn = match blocks with
      | [] => some (q, none)
      | b :: _ =>
        some ({ q with user := q.user + 1 }, some (q.rp + allocHeadSize, (b.length : Int))) := by
  have hdata := h.haveDataFromLast_iff
  unfold DataQueue.readLockTurn
  cases blocks with
  | nil => rw [if_pos (by simpa using hdata)]
  | cons b rest =>
    obtain ⟨hlength, _, hsize⟩ := h.head
    rw [if_neg (by simp [hdata]), h.curRp_eq (by simp)]
    simp only [hlength]
    have hpayload : 4 + (b.length : Int) - allocHeadSize = b.length := by
      simp only [allocHeadSize]
      omega
    rw [if_neg (by omega), hpayload]

/-- Behind the oldest block the reader is at the next one, and what was free stays free. -/
theorem Holds.advance {b : List UInt8} {rest : List (List UInt8)} (h : q.Holds (b :: rest)) :
    (q.advance (4 + b.length)).Holds rest ∧
      ∀ n, q.Free n → (q.advance (4 + b.length)).Free n := by
  generalize hbs : b :: rest = bs at h
  cases h with
  | straight hback hlow hhigh hfill hchain =>
    subst hbs
    have hsame : q.advance (4 + b.length) =
        { q with rp := q.rp + (4 + b.length), filled := q.filled - (4 + b.length) } := by
      unfold DataQueue.advance
      exact if_neg (by simp [hback])
    rw [hsame]
    refine ⟨.straight hback ?_ hhigh ?_ hchain.2.2, ?_⟩
    · show 0 ≤ q.rp + (4 + (b.length : Int))
      omega
    · show q.filled - (4 + (b.length : Int)) = q.wp - (q.rp + (4 + (b.length : Int)))
      omega
    · exact fun n hfree ↦ ⟨hfree.low, hfree.high, fun hne ↦ absurd hback hne⟩
  | @wrapped front back hne hlow hroom hhigh hfill hfront hback =>
    cases front with
    | nil => exact absurd rfl hne
    | cons c front =>
      obtain ⟨rfl, rfl⟩ := List.cons.inj hbs
      have hpos : q.fillEnd ≠ 0 := by
        have := hfront.lt_end hne
        omega
      obtain ⟨_, _, hrest⟩ := hfront
      have hend := hrest.end_eq
      have hspan := @span_nonneg front
      unfold DataQueue.advance
      simp only
      by_cases hnil : front = []
      · subst hnil
        have hlast : q.rp + (4 + (b.length : Int)) = q.fillEnd := hrest
        rw [if_pos ⟨hpos, by omega⟩]
        refine ⟨.straight rfl (Int.le_refl _) ?_ ?_ hback, ?_⟩
        · show q.wp ≤ q.size
          omega
        · show q.filled - (4 + (b.length : Int)) = q.wp - 0
          omega
        · exact fun n hfree ↦ ⟨hfree.low, hfree.high, fun hzero ↦ absurd rfl hzero⟩
      · have hbefore := hrest.lt_end hnil
        rw [if_neg (by omega)]
        refine ⟨.wrapped hnil hlow ?_ hhigh ?_ hrest hback, ?_⟩
        · show q.wp ≤ q.rp + (4 + (b.length : Int))
          omega
        · show q.filled - (4 + (b.length : Int)) =
            q.fillEnd - (q.rp + (4 + (b.length : Int))) + q.wp
          omega
        · intro n hfree
          refine ⟨hfree.low, hfree.high, fun hzero ↦ ?_⟩
          have := hfree.before hpos
          show q.wp + n ≤ q.rp + (4 + (b.length : Int))
          omega

/-- A step of the reader leaves everything but its position and what is filled. -/
@[simp] theorem advance_same (q : DataQueue) (size : Int) :
    (q.advance size).buffer = q.buffer ∧ (q.advance size).size = q.size ∧
      (q.advance size).wp = q.wp ∧ (q.advance size).user = q.user ∧
      (q.advance size).quit = q.quit ∧ (q.advance size).event = q.event := by
  unfold DataQueue.advance
  simp only
  split <;> exact ⟨rfl, rfl, rfl, rfl, rfl, rfl⟩

/-- `data_queue_read_unlock` takes the oldest block out, and leaves what is free. -/
theorem Holds.readUnlock {b : List UInt8} {rest : List (List UInt8)} (h : q.Holds (b :: rest)) :
    ∃ t, q.readUnlock = some t ∧ t.Holds rest ∧ (∀ n, q.Free n → t.Free n) ∧
      t.buffer = q.buffer ∧ t.size = q.size ∧ t.wp = q.wp ∧ t.user = q.user - 1 ∧
      t.quit = q.quit ∧ t.event = ⟨q.event.dataArrive, true, true⟩ := by
  obtain ⟨hlength, _, hsize⟩ := h.head
  obtain ⟨hrest, hfree⟩ := h.advance
  obtain ⟨hbuffer, hsizeSame, hwp, huser, hquit, hevent⟩ := advance_same q (4 + b.length)
  unfold DataQueue.readUnlock
  rw [if_pos (h.haveData_iff.mpr (by simp))]
  simp only [hlength]
  rw [if_neg (by omega)]
  refine ⟨_, rfl, hrest.of_same rfl rfl rfl rfl rfl rfl, ?_, hbuffer, hsizeSame, hwp, ?_, hquit, ?_⟩
  · exact fun n hn ↦ (hfree n hn).of_same rfl rfl rfl rfl
  · show (q.advance (4 + b.length)).user - 1 = q.user - 1
    rw [huser]
  · show (⟨(q.advance (4 + b.length)).event.dataArrive, true, true⟩ : QueueBits) = _
    rw [hevent]

/-- `data_queue_consume_all` leaves an empty queue as it is. -/
theorem Holds.consumeTurns_nil (h : q.Holds []) {turns : Nat} :
    q.consumeTurns turns = some q := by
  have hdata : q.haveData = false := by
    rw [← Bool.not_eq_true, h.haveData_iff]
    simp
  cases turns with
  | zero => rfl
  | succ turns => simp [DataQueue.consumeTurns, hdata]

/-- `data_queue_consume_all` leaves a queue alone that shuts down. -/
theorem consumeAll_of_quit (hquit : q.quit = true) : q.consumeAll = some q := by
  unfold DataQueue.consumeAll
  cases q.filled.toNat <;> simp [DataQueue.consumeTurns, hquit]

/-- `data_queue_consume_all` empties the queue, unless one of the blocks takes the whole buffer:
there it ends the program. -/
theorem Holds.consumeTurns (h : q.Holds blocks) (hquit : q.quit = false) {turns : Nat}
    (hturns : blocks.length ≤ turns) :
    if ∃ b ∈ blocks, 4 + (b.length : Int) = q.size then q.consumeTurns turns = none
    else ∃ t, q.consumeTurns turns = some t ∧ t.Holds [] ∧ (∀ n, q.Free n → t.Free n) ∧
      t.buffer = q.buffer ∧ t.size = q.size ∧ t.wp = q.wp ∧ t.user = q.user ∧ t.quit = false ∧
      t.event = ⟨q.event.dataArrive, q.event.dataConsume || !blocks.isEmpty, q.event.userFree⟩ := by
  induction blocks generalizing q turns with
  | nil =>
    rw [if_neg (by simp)]
    exact ⟨q, h.consumeTurns_nil, h, fun _ hn ↦ hn, rfl, rfl, rfl, rfl, hquit, by simp⟩
  | cons b rest ih =>
    obtain ⟨turns, rfl⟩ : ∃ n, turns = n + 1 :=
      ⟨turns - 1, by rw [List.length_cons] at hturns; omega⟩
    have hdata : q.haveData = true := h.haveData_iff.mpr (by simp)
    have hturn :
        q.consumeTurns (turns + 1) = q.consumeTurn.bind (DataQueue.consumeTurns turns) := by
      simp [DataQueue.consumeTurns, hdata, hquit]
    obtain ⟨hlength, _, hsize⟩ := h.head
    by_cases hwhole : 4 + (b.length : Int) = q.size
    · have hends : q.consumeTurn = none := by
        unfold DataQueue.consumeTurn
        simp only [hlength]
        exact if_pos (by omega)
      rw [if_pos ⟨b, by simp, hwhole⟩, hturn, hends]
      rfl
    · have hgoes : q.consumeTurn = some (dataConsumed (q.advance (4 + b.length))) := by
        unfold DataQueue.consumeTurn
        simp only [hlength]
        exact if_neg (by omega)
      rw [hturn, hgoes, Option.bind_some]
      obtain ⟨hrest, hfree⟩ := h.advance
      obtain ⟨hbuffer, hsizeSame, hwp, huser, hquitSame, hevent⟩ :=
        advance_same q (4 + b.length)
      have hfuel : rest.length ≤ turns := by
        rw [List.length_cons] at hturns
        omega
      have hnext := ih (q := dataConsumed (q.advance (4 + b.length)))
        (hrest.of_same rfl rfl rfl rfl rfl rfl) (hquitSame.trans hquit) hfuel
      have hsizeNext : (dataConsumed (q.advance (4 + b.length))).size = q.size := hsizeSame
      rw [hsizeNext] at hnext
      simp only [List.mem_cons, exists_eq_or_imp, hwhole, false_or]
      split at hnext
      · next hlater => rwa [if_pos hlater]
      · next hlater =>
        rw [if_neg hlater]
        obtain ⟨t, ht, hholds, hfreeNext, hbufferNext, hsizeEq, hwpNext, huserNext, hquitNext,
          heventNext⟩ := hnext
        refine ⟨t, ht, hholds, ?_, hbufferNext.trans hbuffer, hsizeEq, hwpNext.trans hwp,
          huserNext.trans huser, hquitNext, ?_⟩
        · exact fun n hn ↦ hfreeNext n ((hfree n hn).of_same rfl rfl rfl rfl)
        · rw [heventNext]
          show (⟨(q.advance (4 + b.length)).event.dataArrive, _,
            (q.advance (4 + b.length)).event.userFree⟩ : QueueBits) = _
          rw [hevent]
          simp [dataConsumed]

/-- The blocks that a queue holds are no more than the bytes that they fill. -/
theorem Holds.length_le (h : q.Holds blocks) : blocks.length ≤ q.filled.toNat := by
  have := @length_le_span blocks
  have := h.filled_eq
  omega

/-! ### Counting -/

/-- The queue from the position of a count on. -/
private def countFrom (q : DataQueue) (l : Query) (filled : Int) : DataQueue :=
  { q with rp := l.rp, fillEnd := l.ring, filled := filled }

/-- A count goes on as long as there are blocks from its position on. -/
private theorem queryOn_eq (l : Query) (filled : Int) :
    q.queryOn l = (q.countFrom l filled).haveData := by
  have hcomm : (l.rp == q.wp) = (q.wp == l.rp) := BEq.comm
  rw [queryOn, haveData, Bool.not_and, bne, hcomm]
  rfl

/-- The oldest block does not go over the end of the blocks before the start. -/
private theorem Holds.head_le {b : List UInt8} {rest : List (List UInt8)}
    (h : q.Holds (b :: rest)) (hback : q.fillEnd ≠ 0) : q.rp + (4 + b.length) ≤ q.fillEnd := by
  generalize hbs : b :: rest = bs at h
  cases h with
  | straight hzero _ _ _ _ => exact absurd hzero hback
  | @wrapped front back hne _ _ _ _ hfront _ =>
    cases front with
    | nil => exact absurd rfl hne
    | cons c front =>
      obtain ⟨rfl, rfl⟩ := List.cons.inj hbs
      have hend := hfront.end_eq
      rw [span_cons] at hend
      have := @span_nonneg front
      omega

/-- The turns of a count add the blocks from its position on, one in each. -/
private theorem queryTurns_eq {l : Query} {filled : Int} (h : (q.countFrom l filled).Holds blocks)
    {turns : Nat} (hturns : blocks.length ≤ turns) :
    ∃ r, q.queryTurns turns l = some r ∧ q.queryOn r = false ∧
      r.qNum = l.qNum + blocks.length ∧
      r.qSize = l.qSize + blocks.flatten.length := by
  induction blocks generalizing l filled turns with
  | nil =>
    have hon : q.queryOn l = false := by
      rw [queryOn_eq l filled, ← Bool.not_eq_true, h.haveData_iff]
      simp
    refine ⟨l, ?_, hon, by simp, by simp⟩
    cases turns with
    | zero => rfl
    | succ turns => simp [queryTurns, hon]
  | cons b rest ih =>
    obtain ⟨turns, rfl⟩ : ∃ n, turns = n + 1 :=
      ⟨turns - 1, by rw [List.length_cons] at hturns; omega⟩
    have hon : q.queryOn l = true := by
      rw [queryOn_eq l filled, h.haveData_iff]
      simp
    obtain ⟨hlength, _, hsize⟩ := h.head
    have hlengthHere : q.buffer.loadInt l.rp = 4 + b.length := hlength
    have hsizeHere : 4 + (b.length : Int) ≤ q.size := hsize
    have hadvance := h.advance.1
    have hfuel : rest.length ≤ turns := by
      rw [List.length_cons] at hturns
      omega
    by_cases hback : l.ring ≠ 0 ∧ l.rp + (4 + (b.length : Int)) = l.ring
    · have hturn : q.queryTurn l =
          some ⟨0, 0, l.qNum + 1, l.qSize + (4 + (b.length : Int) - allocHeadSize)⟩ := by
        unfold queryTurn
        simp only [hlengthHere]
        rw [if_neg (by omega), if_pos hback, if_pos hback]
      have hnext : (q.countFrom l filled).advance (4 + b.length) =
          q.countFrom ⟨0, 0, l.qNum + 1, l.qSize + (4 + (b.length : Int) - allocHeadSize)⟩
            (filled - (4 + b.length)) := by
        unfold DataQueue.advance countFrom
        exact if_pos ⟨hback.1, Int.le_of_eq hback.2.symm⟩
      rw [hnext] at hadvance
      obtain ⟨r, hr, hoff, hnum, hsum⟩ := ih hadvance hfuel
      refine ⟨r, ?_, hoff, ?_, ?_⟩
      · rw [queryTurns, if_pos hon, hturn, Option.bind_some, hr]
      · rw [hnum, List.length_cons]
        push_cast
        omega
      · rw [hsum, List.flatten_cons, List.length_append, allocHeadSize]
        push_cast
        omega
    · have hturn : q.queryTurn l = some ⟨l.rp + (4 + (b.length : Int)), l.ring, l.qNum + 1,
          l.qSize + (4 + (b.length : Int) - allocHeadSize)⟩ := by
        unfold queryTurn
        simp only [hlengthHere]
        rw [if_neg (by omega), if_neg hback, if_neg hback]
      have hnext : (q.countFrom l filled).advance (4 + b.length) =
          q.countFrom ⟨l.rp + (4 + (b.length : Int)), l.ring, l.qNum + 1,
            l.qSize + (4 + (b.length : Int) - allocHeadSize)⟩ (filled - (4 + b.length)) := by
        unfold DataQueue.advance
        refine if_neg ?_
        rintro ⟨hring, hpast⟩
        have hle : l.rp + (4 + (b.length : Int)) ≤ l.ring := h.head_le hring
        have hge : l.rp + (4 + (b.length : Int)) ≥ l.ring := hpast
        exact hback ⟨hring, by omega⟩
      rw [hnext] at hadvance
      obtain ⟨r, hr, hoff, hnum, hsum⟩ := ih hadvance hfuel
      refine ⟨r, ?_, hoff, ?_, ?_⟩
      · rw [queryTurns, if_pos hon, hturn, Option.bind_some, hr]
      · rw [hnum, List.length_cons]
        push_cast
        omega
      · rw [hsum, List.flatten_cons, List.length_append, allocHeadSize]
        push_cast
        omega

/-- `data_queue_query` ends, with the number of the blocks and of their bytes. -/
theorem Holds.query (h : q.Holds blocks) :
    q.query = some ((blocks.length : Int), (blocks.flatten.length : Int)) := by
  unfold DataQueue.query
  split
  · have hhere : (q.countFrom ⟨q.rp, q.fillEnd, 0, 0⟩ q.filled).Holds blocks :=
      h.of_same rfl rfl rfl rfl rfl rfl
    obtain ⟨r, hr, _, hnum, hsum⟩ := queryTurns_eq hhere h.length_le
    rw [hr, Option.map_some, hnum, hsum, Int.zero_add, Int.zero_add]
  · next hnone =>
    have hnil : blocks = [] := by
      apply Classical.not_not.mp
      exact fun hne ↦ hnone (h.haveData_iff.mpr hne)
    subst hnil
    rfl

end Holds

end DataQueue
end Esp32Robot.Media

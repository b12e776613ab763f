import Esp32Robot.Webrtc.RtpTransformer

/-!
# Memory safety of the RTP receiver

The receiver trusts two length words of the frame. Their sums are formed in
32 bits, so that they wrap at 4294967296, and the frame is not compared with the
header size first: the accesses stay inside the frame exactly for the frames
that `WellSized` describes.
-/

namespace Esp32Robot.Webrtc

open Esp32Robot.Base

universe u

variable {β : Type u}

/-- The state in which a frame arrives: no access has been made yet. -/
def received (mem : Mem β) (frame : EspPeerRtpFrame β) (inPlace : Bool)
    (ctx : RtpTransformerCtx) : TransformState β where
  frame := frame
  inPlace := inPlace
  ctx := ctx
  heap := ⟨mem, []⟩

/-- Every access made so far lies inside the frame. -/
def TransformState.InFrame (s : TransformState β) : Prop :=
  ∀ a ∈ s.heap.log, a.Within s.frame.origData s.frame.origSize

/-- The size callback stays inside the frame, and what it accepts adds up over the integers
and is then transformed in place without leaving the frame. -/
structure ReceivesSafely [DecidableEq β] (s : TransformState β) : Prop where
  sizeInFrame : (rtpReceiverGetEncodedSize s).2.InFrame
  sizesAddUp : (rtpReceiverGetEncodedSize s).1 = .none →
    12 + s.originalSize.toNat + 4 + 4 + s.tailSize.toNat = s.frame.origSize.toNat
  encodedFits : (rtpReceiverGetEncodedSize s).1 = .none →
    (rtpReceiverGetEncodedSize s).2.frame.encodedSize.toNat = 12 + s.originalSize.toNat ∧
      (rtpReceiverGetEncodedSize s).2.frame.encodedSize ≤ s.frame.origSize
  transformInFrame : (rtpReceiverGetEncodedSize s).1 = .none →
    (rtpReceiverTransform (rtpReceiverGetEncodedSize s).2.sharingBuffer).2.InFrame

/-- The sizes that the receiver handles safely: `n` bytes in the frame, with length words `o`
and `t`. -/
structure WellSized (n o t : Nat) : Prop where
  sizeWord : 16 ≤ n
  fullTail : 20 + o < 4294967296 → 20 + o + t = n → 5 ≤ t
  wrapRejected : 4294967296 ≤ 20 + o →
    n + 4294967296 < 20 + o ∨ (4294967296 ≤ 16 + o ∧ (20 + o + t) % 4294967296 ≠ n)

/-! ### The offsets as numbers -/

section Offsets

variable (o t : UInt32)

private theorem toNat_payloadEnd :
    (rtpHeaderSize + o + 4).toNat = (16 + o.toNat) % 4294967296 := by
  simp only [rtpHeaderSize, UInt32.toNat_add, UInt32.reduceToNat]
  omega

private theorem toNat_payloadEnd' :
    (rtpHeaderSize + 4 + o).toNat = (16 + o.toNat) % 4294967296 := by
  simp only [rtpHeaderSize, UInt32.toNat_add, UInt32.reduceToNat]

private theorem toNat_tailStart :
    (rtpHeaderSize + o + 4 * 2).toNat = (20 + o.toNat) % 4294967296 := by
  simp only [rtpHeaderSize, UInt32.reduceMul, UInt32.toNat_add, UInt32.reduceToNat]
  omega

private theorem toNat_tailStart' :
    (rtpHeaderSize + 4 + o + 4).toNat = (20 + o.toNat) % 4294967296 := by
  simp only [rtpHeaderSize, UInt32.toNat_add, UInt32.reduceToNat]
  omega

private theorem toNat_frameEnd :
    (rtpHeaderSize + o + 4 * 2 + t).toNat = (20 + o.toNat + t.toNat) % 4294967296 := by
  rw [UInt32.toNat_add, toNat_tailStart]
  omega

end Offsets

/-! ### The two callbacks -/

section Callbacks

variable (s : TransformState β)

/-- The reads of an in-place transform up to the comparison of the tail. -/
def transformReads : List (Access β) :=
  [⟨.read, s.frame.origData, rtpHeaderSize, 4⟩,
    ⟨.read, s.frame.origData, rtpHeaderSize + 4 + s.originalSize, 4⟩,
    ⟨.read, s.frame.origData, rtpHeaderSize + 4 + s.originalSize + 4, 5⟩]

/-- The move of the payload of an in-place transform. -/
def transformMove : List (Access β) :=
  [⟨.read, s.frame.origData, rtpHeaderSize + 4, s.originalSize⟩,
    ⟨.write, s.frame.origData, rtpHeaderSize, s.originalSize⟩]

/-- The accesses of an in-place transform: the reads, then the move if the tail matched. -/
theorem log_rtpReceiverTransform [DecidableEq β]
    (hshare : s.frame.encodedData = s.frame.origData) :
    (rtpReceiverTransform s).2.heap.log = s.heap.log ++ transformReads s ∨
      (rtpReceiverTransform s).2.heap.log =
        s.heap.log ++ transformReads s ++ transformMove s := by
  simp only [rtpReceiverTransform]
  split
  · left
    simp only [TransformState.countError, TransformState.countFrame, Heap.log_loadBytes,
      Heap.log_load32, List.append_assoc]
    rfl
  · right
    simp only [TransformState.setEncodedSize, TransformState.countFrame, hshare, ne_eq,
      not_true_eq_false, if_false, Heap.log_copy, Heap.log_loadBytes, Heap.log_load32,
      List.append_assoc]
    rfl

/-- The transform leaves the original buffer and its size in the frame record. -/
theorem frame_rtpReceiverTransform [DecidableEq β] :
    (rtpReceiverTransform s).2.frame.origData = s.frame.origData ∧
      (rtpReceiverTransform s).2.frame.origSize = s.frame.origSize := by
  simp only [rtpReceiverTransform]
  split <;> exact ⟨rfl, rfl⟩

end Callbacks

/-! ### When the receiver is safe -/

section Safety

variable {s : TransformState β}

/-- The size callback's accesses when it reads both length words. -/
theorem inFrame_of_two_words {r : TransformState β} (hlog : s.heap.log = [])
    (hheap : r.heap = ((s.heap.load32 s.frame.origData rtpHeaderSize).2.load32 s.frame.origData
      (rtpHeaderSize + s.originalSize + 4)).2)
    (hdata : r.frame.origData = s.frame.origData) (hsize : r.frame.origSize = s.frame.origSize) :
    r.InFrame ↔ 16 ≤ s.frame.origSize.toNat ∧
      (16 + s.originalSize.toNat) % 4294967296 + 4 ≤ s.frame.origSize.toNat := by
  simp only [TransformState.InFrame, hheap, hdata, hsize, Heap.log_load32, hlog, List.nil_append,
    List.cons_append, List.forall_mem_cons, Access.Within, toNat_payloadEnd]
  simp [rtpHeaderSize]

variable [DecidableEq β]

/-- A frame rejected after the first length word is handled safely if it has that word. -/
theorem receivesSafely_of_short (hlog : s.heap.log = [])
    (hshort : rtpHeaderSize + s.originalSize + 4 * 2 > s.frame.origSize)
    (h : rtpReceiverGetEncodedSize s = (.badData, TransformState.countError
      { s with heap := (s.heap.load32 s.frame.origData rtpHeaderSize).2 })) :
    ReceivesSafely s ↔ WellSized s.frame.origSize.toNat s.originalSize.toNat s.tailSize.toNat := by
  have hlt : s.frame.origSize.toNat < (20 + s.originalSize.toNat) % 4294967296 := by
    rw [← toNat_tailStart]
    exact UInt32.lt_iff_toNat_lt.mp hshort
  have hin : (rtpReceiverGetEncodedSize s).2.InFrame ↔ 16 ≤ s.frame.origSize.toNat := by
    simp [h, TransformState.InFrame, TransformState.countError, hlog, Access.Within, rtpHeaderSize]
  have hret : (rtpReceiverGetEncodedSize s).1 ≠ .none := by simp [h]
  constructor
  · intro hs
    exact ⟨hin.mp hs.sizeInFrame, by omega, by omega⟩
  · intro hw
    exact ⟨hin.mpr hw.sizeWord, fun hn ↦ absurd hn hret, fun hn ↦ absurd hn hret,
      fun hn ↦ absurd hn hret⟩

/-- A frame rejected after both length words is handled safely if both lie inside it. -/
theorem receivesSafely_of_mismatch
    (hlong : ¬ rtpHeaderSize + s.originalSize + 4 * 2 > s.frame.origSize)
    (hne : rtpHeaderSize + s.originalSize + 4 * 2 + s.tailSize ≠ s.frame.origSize)
    (hret : (rtpReceiverGetEncodedSize s).1 = .badData)
    (hin : (rtpReceiverGetEncodedSize s).2.InFrame ↔ 16 ≤ s.frame.origSize.toNat ∧
      (16 + s.originalSize.toNat) % 4294967296 + 4 ≤ s.frame.origSize.toNat) :
    ReceivesSafely s ↔ WellSized s.frame.origSize.toNat s.originalSize.toNat s.tailSize.toNat := by
  have hle : (20 + s.originalSize.toNat) % 4294967296 ≤ s.frame.origSize.toNat := by
    rw [← toNat_tailStart]
    exact Nat.not_lt.mp (fun h ↦ hlong (UInt32.lt_iff_toNat_lt.mpr h))
  have hsum : (20 + s.originalSize.toNat + s.tailSize.toNat) % 4294967296 ≠
      s.frame.origSize.toNat := by
    rw [← toNat_frameEnd]
    exact fun h ↦ hne (UInt32.toNat_inj.mp h)
  have hn := s.frame.origSize.toNat_lt
  have ho := s.originalSize.toNat_lt
  have hno : (rtpReceiverGetEncodedSize s).1 ≠ .none := by simp [hret]
  constructor
  · intro hs
    obtain ⟨hlo, hword⟩ := hin.mp hs.sizeInFrame
    exact ⟨hlo, by omega, by omega⟩
  · rintro ⟨hlo, hfull, hwrap⟩
    exact ⟨hin.mpr ⟨hlo, by omega⟩, fun h ↦ absurd h hno, fun h ↦ absurd h hno,
      fun h ↦ absurd h hno⟩

/-- The accesses of an in-place transform stay inside the frame when the sizes add up over
the integers, and only if the frame has five bytes after the tail's length word. -/
theorem inFrame_rtpReceiverTransform (hshare : s.frame.encodedData = s.frame.origData)
    (hlog : s.InFrame) (ho : 16 + s.originalSize.toNat + 4 ≤ s.frame.origSize.toNat) :
    (rtpReceiverTransform s).2.InFrame ↔
      16 + s.originalSize.toNat + 4 + 5 ≤ s.frame.origSize.toNat := by
  obtain ⟨hdata, hsize⟩ := frame_rtpReceiverTransform s
  have hn := s.frame.origSize.toNat_lt
  have hend : (16 + s.originalSize.toNat) % 4294967296 = 16 + s.originalSize.toNat := by omega
  have htail : (20 + s.originalSize.toNat) % 4294967296 = 20 + s.originalSize.toNat := by omega
  have hreads : (∀ a ∈ transformReads s, a.Within s.frame.origData s.frame.origSize) ↔
      16 + s.originalSize.toNat + 4 + 5 ≤ s.frame.origSize.toNat := by
    simp only [transformReads, List.forall_mem_cons, Access.Within, toNat_payloadEnd',
      toNat_tailStart', hend, htail]
    simp [rtpHeaderSize]
    omega
  have hmove : ∀ a ∈ transformMove s, a.Within s.frame.origData s.frame.origSize := by
    simp only [transformMove, List.forall_mem_cons, Access.Within]
    simp [rtpHeaderSize]
    omega
  unfold TransformState.InFrame at hlog ⊢
  rw [hdata, hsize]
  rcases log_rtpReceiverTransform s hshare with h | h
  · rw [h, List.forall_mem_append, hreads]
    exact and_iff_right hlog
  · rw [h, List.forall_mem_append, List.forall_mem_append, hreads]
    constructor
    · exact fun hs ↦ hs.1.2
    · exact fun hs ↦ ⟨⟨hlog, hs⟩, hmove⟩

/-- A frame that the size callback accepts is handled safely if its sizes add up. -/
theorem receivesSafely_of_accepted (hlog : s.heap.log = [])
    (hlong : ¬ rtpHeaderSize + s.originalSize + 4 * 2 > s.frame.origSize)
    (heq : rtpHeaderSize + s.originalSize + 4 * 2 + s.tailSize = s.frame.origSize)
    {r : EspPeerErr × TransformState β} (hr : rtpReceiverGetEncodedSize s = r)
    (hheap : r.2.heap = ((s.heap.load32 s.frame.origData rtpHeaderSize).2.load32
      s.frame.origData (rtpHeaderSize + s.originalSize + 4)).2)
    (hdata : r.2.frame.origData = s.frame.origData)
    (hsize : r.2.frame.origSize = s.frame.origSize) (hret : r.1 = .none)
    (henc : r.2.frame.encodedSize = rtpHeaderSize + s.originalSize) :
    ReceivesSafely s ↔ WellSized s.frame.origSize.toNat s.originalSize.toNat s.tailSize.toNat := by
  subst hr
  have hle : (20 + s.originalSize.toNat) % 4294967296 ≤ s.frame.origSize.toNat := by
    rw [← toNat_tailStart]
    exact Nat.not_lt.mp (fun h ↦ hlong (UInt32.lt_iff_toNat_lt.mpr h))
  have hsum : (20 + s.originalSize.toNat + s.tailSize.toNat) % 4294967296 =
      s.frame.origSize.toNat := by
    rw [← toNat_frameEnd, heq]
  have hn := s.frame.origSize.toNat_lt
  have ho := s.originalSize.toNat_lt
  have ht := s.tailSize.toNat_lt
  have hin := inFrame_of_two_words hlog hheap hdata hsize
  -- The second callback reads the same payload length, the first wrote nothing.
  have hsame : (rtpReceiverGetEncodedSize s).2.sharingBuffer.originalSize = s.originalSize := by
    simp only [TransformState.originalSize, TransformState.sharingBuffer, hdata, hheap]
    rfl
  have htransform (hfit : 16 + s.originalSize.toNat + 4 ≤ s.frame.origSize.toNat)
      (hfirst : (rtpReceiverGetEncodedSize s).2.InFrame) :
      (rtpReceiverTransform (rtpReceiverGetEncodedSize s).2.sharingBuffer).2.InFrame ↔
        16 + s.originalSize.toNat + 4 + 5 ≤ s.frame.origSize.toNat := by
    have hb : (rtpReceiverGetEncodedSize s).2.sharingBuffer.frame.origSize = s.frame.origSize :=
      hsize
    have h := inFrame_rtpReceiverTransform
      (s := (rtpReceiverGetEncodedSize s).2.sharingBuffer) rfl hfirst
    rw [hsame, hb] at h
    exact h hfit
  have hencoded : 20 + s.originalSize.toNat ≤ s.frame.origSize.toNat →
      (rtpHeaderSize + s.originalSize).toNat = 12 + s.originalSize.toNat := by
    intro hfit
    simp only [rtpHeaderSize, UInt32.toNat_add, UInt32.reduceToNat]
    omega
  constructor
  · intro hs
    have hadd := hs.sizesAddUp hret
    have hread := (htransform (by omega) hs.sizeInFrame).mp (hs.transformInFrame hret)
    exact ⟨(hin.mp hs.sizeInFrame).1, by omega, by omega⟩
  · rintro ⟨hlo, hfull, hwrap⟩
    have hnowrap : 20 + s.originalSize.toNat < 4294967296 := by omega
    have hadd : 20 + s.originalSize.toNat + s.tailSize.toNat = s.frame.origSize.toNat := by omega
    have htail := hfull hnowrap hadd
    have hfirst : (rtpReceiverGetEncodedSize s).2.InFrame := hin.mpr ⟨hlo, by omega⟩
    refine ⟨hfirst, fun _ ↦ by omega, fun _ ↦ ?_, fun _ ↦ ?_⟩
    · rw [UInt32.le_iff_toNat_le, henc, hencoded (by omega)]
      omega
    · exact (htransform (by omega) hfirst).mpr (by omega)

/-- What a received audio frame needs for the receiver to handle it safely. -/
theorem receivesSafely_of_log_nil (hpt : s.frame.payloadType < 96) (hlog : s.heap.log = []) :
    ReceivesSafely s ↔ WellSized s.frame.origSize.toNat s.originalSize.toNat s.tailSize.toNat := by
  rcases rtpReceiverGetEncodedSize_cases s hpt with
    ⟨hshort, h⟩ | ⟨hlong, r, hr, hheap, hdata, hsize, ⟨hret, hne⟩ | ⟨hret, heq, henc⟩⟩
  · exact receivesSafely_of_short hlog hshort h
  · subst hr
    exact receivesSafely_of_mismatch hlong hne hret
      (inFrame_of_two_words hlog hheap hdata hsize)
  · exact receivesSafely_of_accepted hlog hlong heq hr hheap hdata hsize hret henc

end Safety

/-- Memory with one frame in it. -/
private def frameMem (bytes : List UInt8) : Mem Unit := fun _ i ↦ bytes.getD i 0

/-- A frame of 274 bytes with payload length `0xFFFFFFFF`: the sums wrap around, the tail is
found at offset 19, and the frame is accepted. -/
private def wrappingFrame : List UInt8 :=
  List.replicate 12 0 ++ [255, 255, 255, 255, 0, 0, 0] ++ tailMark

/-- The receiver leaves the frame on some audio frames. -/
theorem wrapping_frame_leaves_buffer :
    ¬ ∀ (mem : Mem Unit) (frame : EspPeerRtpFrame Unit) (inPlace : Bool)
      (ctx : RtpTransformerCtx), frame.payloadType < 96 →
      ReceivesSafely (received mem frame inPlace ctx) := by
  intro h
  have hs := h (frameMem wrappingFrame) ⟨(), 274, (), 0, 0⟩ false ⟨0, 0⟩ (by decide)
  have hw := (receivesSafely_of_log_nil (by decide) rfl).mp hs
  rcases hw.wrapRejected (by decide) with hlt | ⟨_, hne⟩
  · exact absurd hlt (by decide)
  · exact absurd hne (by decide)

/-- A received audio frame is handled safely exactly when it is well sized. -/
theorem receivesSafely_iff [DecidableEq β] (mem : Mem β) (frame : EspPeerRtpFrame β)
    (inPlace : Bool) (ctx : RtpTransformerCtx) (hpt : frame.payloadType < 96) :
    let s := received mem frame inPlace ctx
    ReceivesSafely s ↔ WellSized frame.origSize.toNat s.originalSize.toNat s.tailSize.toNat :=
  receivesSafely_of_log_nil hpt rfl

/-- A frame of one payload byte and an empty counter text is handled safely. -/
theorem receivesSafely_one_byte :
    ReceivesSafely (received
      (frameMem (List.replicate 12 0 ++ [1, 0, 0, 0, 77, 6, 0, 0, 0] ++ tailMark ++ [0]))
      ⟨(), 27, (), 0, 0⟩ false ⟨0, 0⟩) :=
  (receivesSafely_iff _ _ _ _ (by decide)).mpr
    ⟨by decide, fun _ _ ↦ by decide, fun h ↦ absurd h (by decide)⟩

end Esp32Robot.Webrtc

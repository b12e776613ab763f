import Esp32Robot.Webrtc.RtpTransformer

/-!
# RTP round trip

The encoded frame is a byte list, `encodeFrame`. The sender's two callbacks
announce its length and write exactly it; the receiver's two callbacks accept it
and restore the original frame, in place or into a separate buffer.
-/

namespace Esp32Robot.Webrtc

open Esp32Robot.Base

universe u v

variable {β : Type u} {γ : Type v}

/-- The tail with its terminator. -/
def tailString (frameCount : UInt32) : List UInt8 := tailText frameCount ++ [0]

/-- The encoded form of a frame: the header, the payload between its length and the tail's
length, and the tail. -/
def encodeFrame (frame : List UInt8) (frameCount : UInt32) : List UInt8 :=
  frame.take 12 ++ leBytes (UInt32.ofNat (frame.length - 12)) ++ frame.drop 12 ++
    leBytes (UInt32.ofNat (tailString frameCount).length) ++ tailString frameCount

/-- The tail string has at most sixteen bytes. -/
theorem length_tailString (frameCount : UInt32) :
    (tailString frameCount).length = (tailText frameCount).length + 1 ∧
      (tailText frameCount).length ≤ 15 := by
  have hd := length_decimal_le frameCount
  have hm : tailMark.length = 5 := rfl
  constructor
  · simp [tailString]
  · simp only [tailText, List.length_append]
    omega

/-- An encoded frame is longer by two length words and the tail. -/
theorem length_encodeFrame {frame : List UInt8} (frameCount : UInt32) (h : 12 ≤ frame.length) :
    (encodeFrame frame frameCount).length =
      frame.length + 8 + (tailString frameCount).length := by
  simp only [encodeFrame, List.length_append, List.length_take, List.length_drop, length_leBytes]
  omega

/-! ### The sender -/

section Sender

variable (s : TransformState β)

/-- The state between the sender's callbacks: the frame with its announced size. -/
structure Announced (s p : TransformState β) : Prop where
  audio : p.frame.payloadType < 96
  origData : p.frame.origData = s.frame.origData
  origSize : p.frame.origSize = s.frame.origSize
  encodedData : p.frame.encodedData = s.frame.encodedData
  encodedSize : p.frame.encodedSize =
    p.frame.origSize + 4 * 2 + UInt32.ofNat (tailString p.ctx.frameCount).length
  notInPlace : p.inPlace = false
  heap : p.heap = s.heap

/-- Both predictions of the encoded size agree. -/
theorem announcedSize_eq (origSize frameCount : UInt32) :
    origSize + 4 * 2 + UInt32.ofNat (tailText frameCount).length + 1 =
      origSize + 4 * 2 + UInt32.ofNat (tailString frameCount).length := by
  rw [(length_tailString frameCount).1, UInt32.ofNat_add, ← UInt32.add_assoc]
  rfl

/-- What the size callback announces when it accepts a frame. -/
theorem rtpSenderGetEncodedSize_ok {s : TransformState β}
    (hok : (rtpSenderGetEncodedSize s).1 = .none) :
    Announced s (rtpSenderGetEncodedSize s).2 := by
  unfold rtpSenderGetEncodedSize at hok ⊢
  split at hok
  · exact absurd hok (by simp)
  · next hvideo =>
    rw [if_neg hvideo]
    simp only at hok ⊢
    split at hok
    · exact absurd hok (by simp)
    · next hmtu =>
      rw [if_neg hmtu]
      exact ⟨UInt8.not_le.mp hvideo, rfl, rfl, rfl, announcedSize_eq _ _, rfl, rfl⟩

variable [DecidableEq β]

/-- The buffers after the five writes of the sender. -/
def sentHeap : Heap β :=
  let enc := s.frame.encodedData
  let payloadSize := s.frame.origSize - rtpHeaderSize
  let tail := tailString s.ctx.frameCount
  let heap := s.heap.copy enc 0 s.frame.origData 0 rtpHeaderSize
  let heap := heap.store32 enc rtpHeaderSize payloadSize
  let heap := heap.copy enc (rtpHeaderSize + 4) s.frame.origData rtpHeaderSize payloadSize
  let heap := heap.store32 enc (rtpHeaderSize + 4 + payloadSize) (UInt32.ofNat tail.length)
  heap.storeBytes enc (rtpHeaderSize + 4 + payloadSize + 4) tail

/-- The transform of an audio frame with a whole header. -/
theorem rtpSenderTransform_ok (hpt : s.frame.payloadType < 96) (hlo : 12 ≤ s.frame.origSize) :
    (rtpSenderTransform s).1 = .none ∧
      (rtpSenderTransform s).2.frame.encodedSize =
        s.frame.origSize + 4 * 2 + UInt32.ofNat (tailString s.ctx.frameCount).length ∧
      (rtpSenderTransform s).2.frame.encodedData = s.frame.encodedData ∧
      (rtpSenderTransform s).2.heap = sentHeap s := by
  obtain ⟨hlen, hle⟩ := length_tailString s.ctx.frameCount
  have hfit : snprintf 64 (tailText s.ctx.frameCount) =
      (tailText s.ctx.frameCount, (tailText s.ctx.frameCount).length) :=
    snprintf_of_lt (by omega)
  have htail : UInt32.ofNat (tailText s.ctx.frameCount).length + 1 =
      UInt32.ofNat (tailString s.ctx.frameCount).length := by
    rw [hlen, UInt32.ofNat_add]
    rfl
  have htake : (tailText s.ctx.frameCount ++ [0]).take
      (UInt32.ofNat (tailString s.ctx.frameCount).length).toNat = tailString s.ctx.frameCount := by
    rw [UInt32.toNat_ofNat']
    exact List.take_of_length_le (by rw [← tailString]; omega)
  have hrun : ¬ (decide (s.frame.payloadType ≥ 96) ||
      decide (s.frame.origSize < rtpHeaderSize)) = true := by
    simp only [Bool.or_eq_true, decide_eq_true_eq, not_or]
    exact ⟨UInt8.not_le.mpr hpt, UInt32.not_lt.mpr hlo⟩
  simp only [rtpSenderTransform, if_neg hrun, hfit, htail, htake]
  exact ⟨trivial, rfl, rfl, rfl⟩

variable {s} {frame : List UInt8}

/-- The sender fills the encoded buffer with the encoded frame. -/
theorem holds_sentHeap (hbuf : s.frame.origData ≠ s.frame.encodedData)
    (hlo : 12 ≤ s.frame.origSize.toNat) (hhi : s.frame.origSize.toNat ≤ 65535)
    (hlen : frame.length = s.frame.origSize.toNat) (hframe : s.heap.Holds s.frame.origData frame) :
    (sentHeap s).Holds s.frame.encodedData (encodeFrame frame s.ctx.frameCount) := by
  have hpay : (s.frame.origSize - rtpHeaderSize).toNat = frame.length - 12 := by
    rw [hlen, UInt32.toNat_sub_of_le _ _ (UInt32.le_iff_toNat_le.mpr (by exact hlo))]
    rfl
  have hword : UInt32.ofNat (frame.length - 12) = s.frame.origSize - rtpHeaderSize := by
    rw [← hpay, UInt32.ofNat_toNat]
  have htake : (frame.take 12).length = 12 := by
    rw [List.length_take]
    omega
  have hdrop : (frame.drop 12).length = frame.length - 12 := List.length_drop
  have hsplit : s.heap.Holds s.frame.origData (frame.take 12 ++ frame.drop 12) := by
    rwa [List.take_append_drop]
  have hofs : (rtpHeaderSize + 4 + (s.frame.origSize - rtpHeaderSize)).toNat =
      16 + (frame.length - 12) := by
    rw [UInt32.toNat_add, hpay]
    simp only [rtpHeaderSize, UInt32.reduceAdd, UInt32.reduceToNat]
    omega
  -- The original buffer is still what it was when its payload is copied.
  have hkept : ((s.heap.copy s.frame.encodedData 0 s.frame.origData 0 rtpHeaderSize).store32
      s.frame.encodedData rtpHeaderSize (s.frame.origSize - rtpHeaderSize)).Holds
        s.frame.origData (frame.take 12 ++ frame.drop 12) :=
    (hsplit.copy_ne hbuf).storeBytes_ne hbuf
  simp only [sentHeap, encodeFrame, hword]
  apply Heap.Holds.storeBytes
  · apply Heap.Holds.storeBytes
    · apply Heap.Holds.copy
      · apply Heap.Holds.storeBytes
        · exact (Heap.holds_append.mp hsplit).1.copy_start htake.symm
        · exact htake.symm
      · simp only [List.length_append, htake, length_leBytes]
        rfl
      · rw [hpay, hdrop]
      · intro k hk
        have hbyte := (Heap.holds_append.mp hkept).2 k hk
        rw [htake] at hbyte
        exact hbyte
    · simp only [List.length_append, htake, hdrop, length_leBytes, hofs]
  · rw [UInt32.toNat_add, hofs]
    simp only [List.length_append, htake, hdrop, length_leBytes, UInt32.reduceToNat]
    omega

/-- The accesses of the sender, in order. -/
def sentAccesses (s : TransformState β) : List (Access β) :=
  let orig := s.frame.origData
  let enc := s.frame.encodedData
  let payloadSize := s.frame.origSize - rtpHeaderSize
  [⟨.read, orig, 0, rtpHeaderSize⟩, ⟨.write, enc, 0, rtpHeaderSize⟩,
    ⟨.write, enc, rtpHeaderSize, 4⟩,
    ⟨.read, orig, rtpHeaderSize, payloadSize⟩, ⟨.write, enc, rtpHeaderSize + 4, payloadSize⟩,
    ⟨.write, enc, rtpHeaderSize + 4 + payloadSize, 4⟩,
    ⟨.write, enc, rtpHeaderSize + 4 + payloadSize + 4,
      UInt32.ofNat (tailString s.ctx.frameCount).length⟩]

/-- The sender makes these accesses. -/
theorem log_sentHeap : (sentHeap s).log = s.heap.log ++ sentAccesses s := by
  simp only [sentHeap, Heap.log_storeBytes, Heap.log_store32, Heap.log_copy, List.append_assoc]
  rfl

omit [DecidableEq β] in
/-- The sender's writes cover exactly the encoded frame. -/
theorem written_sentAccesses (hlo : 12 ≤ s.frame.origSize.toNat)
    (hhi : s.frame.origSize.toNat ≤ 65535) (b : β) (i : Nat) :
    Written (sentAccesses s) b i ↔ b = s.frame.encodedData ∧
      i < s.frame.origSize.toNat + 8 + (tailString s.ctx.frameCount).length := by
  obtain ⟨hlen, hle⟩ := length_tailString s.ctx.frameCount
  have hpay : (s.frame.origSize - rtpHeaderSize).toNat = s.frame.origSize.toNat - 12 :=
    UInt32.toNat_sub_of_le _ _ (UInt32.le_iff_toNat_le.mpr (by exact hlo))
  have hofs : (rtpHeaderSize + 4 + (s.frame.origSize - rtpHeaderSize)).toNat =
      s.frame.origSize.toNat + 4 := by
    rw [UInt32.toNat_add, hpay]
    simp only [rtpHeaderSize, UInt32.reduceAdd, UInt32.reduceToNat]
    omega
  have hofs' : (rtpHeaderSize + 4 + (s.frame.origSize - rtpHeaderSize) + 4).toNat =
      s.frame.origSize.toNat + 8 := by
    rw [UInt32.toNat_add, hofs]
    simp only [UInt32.reduceToNat]
    omega
  have htail : (UInt32.ofNat (tailString s.ctx.frameCount).length).toNat =
      (tailString s.ctx.frameCount).length := by
    rw [UInt32.toNat_ofNat']
    omega
  simp only [Written, sentAccesses, List.mem_cons, List.not_mem_nil, or_false, Access.Covers,
    exists_eq_or_imp, exists_eq_left, reduceCtorEq, false_and, true_and, false_or, hpay, hofs,
    hofs', htail]
  simp only [rtpHeaderSize, UInt32.reduceAdd, UInt32.reduceToNat]
  constructor
  · rintro (⟨hb, h⟩ | ⟨hb, h⟩ | ⟨hb, h⟩ | ⟨hb, h⟩ | ⟨hb, h⟩) <;> exact ⟨hb.symm, by omega⟩
  · rintro ⟨rfl, hi⟩
    simp only [true_and]
    omega

end Sender

/-! ### The receiver -/

section Receiver

variable {r : TransformState γ} {frame : List UInt8} {frameCount : UInt32}

/-- The parts of an encoded frame, each at its offset. -/
theorem holds_encodeFrame {h : Heap γ} {b : γ} (hlo : 12 ≤ frame.length)
    (hb : h.Holds b (encodeFrame frame frameCount)) :
    h.Holds b (frame.take 12) ∧
      (∀ k (hk : k < (leBytes (UInt32.ofNat (frame.length - 12))).length), h.mem b (12 + k) =
        (leBytes (UInt32.ofNat (frame.length - 12)))[k]) ∧
      (∀ k (hk : k < (frame.drop 12).length), h.mem b (16 + k) = (frame.drop 12)[k]) ∧
      (∀ k (hk : k < (leBytes (UInt32.ofNat (tailString frameCount).length)).length),
        h.mem b (frame.length + 4 + k) =
          (leBytes (UInt32.ofNat (tailString frameCount).length))[k]) ∧
      (∀ k (hk : k < (tailString frameCount).length),
        h.mem b (frame.length + 8 + k) = (tailString frameCount)[k]) := by
  have htake : (frame.take 12).length = 12 := by
    rw [List.length_take]
    omega
  have hdrop : (frame.drop 12).length = frame.length - 12 := List.length_drop
  obtain ⟨h₁, htail⟩ := Heap.holds_append.mp hb
  obtain ⟨h₂, htailSize⟩ := Heap.holds_append.mp h₁
  obtain ⟨h₃, hpayload⟩ := Heap.holds_append.mp h₂
  obtain ⟨hheader, hsize⟩ := Heap.holds_append.mp h₃
  simp only [List.length_append, htake, length_leBytes] at hpayload hsize
  simp only [List.length_append, htake, hdrop, length_leBytes] at htail htailSize
  have hofs : 12 + 4 + (frame.length - 12) = frame.length + 4 := by omega
  rw [hofs] at htail htailSize
  exact ⟨hheader, hsize, hpayload, htailSize, htail⟩

/-- The payload length that the receiver reads from an encoded frame. -/
theorem originalSize_of_holds (hlo : 12 ≤ frame.length)
    (hb : r.heap.Holds r.frame.origData (encodeFrame frame frameCount)) :
    r.originalSize = UInt32.ofNat (frame.length - 12) := by
  obtain ⟨_, hsize, _⟩ := holds_encodeFrame hlo hb
  exact Heap.load32_eq_of _ _ _ hsize

private theorem toNat_payloadLength (hlo : 12 ≤ frame.length) (hhi : frame.length ≤ 65535) :
    (UInt32.ofNat (frame.length - 12)).toNat = frame.length - 12 := by
  rw [UInt32.toNat_ofNat']
  omega

/-- The size callback accepts an encoded frame and announces its original length. -/
theorem rtpReceiverGetEncodedSize_accepts (hpt : r.frame.payloadType < 96)
    (hlo : 12 ≤ frame.length) (hhi : frame.length ≤ 65535)
    (hsize : r.frame.origSize.toNat = (encodeFrame frame frameCount).length)
    (hb : r.heap.Holds r.frame.origData (encodeFrame frame frameCount)) :
    (rtpReceiverGetEncodedSize r).1 = .none ∧
      (rtpReceiverGetEncodedSize r).2.frame.origData = r.frame.origData ∧
      (rtpReceiverGetEncodedSize r).2.heap.mem = r.heap.mem := by
  obtain ⟨hlen, hle⟩ := length_tailString frameCount
  obtain ⟨_, _, _, htailSize, _⟩ := holds_encodeFrame hlo hb
  rw [length_encodeFrame frameCount hlo] at hsize
  have horig := originalSize_of_holds hlo hb
  have hpay := toNat_payloadLength hlo hhi
  have hofs : (rtpHeaderSize + r.originalSize + 4).toNat = frame.length + 4 := by
    rw [horig, UInt32.toNat_add, UInt32.toNat_add, hpay]
    simp only [rtpHeaderSize, UInt32.reduceToNat]
    omega
  have htail : r.tailSize = UInt32.ofNat (tailString frameCount).length := by
    apply Heap.load32_eq_of
    rw [hofs]
    exact htailSize
  have hnum : (tailString frameCount).length < UInt32.size := by
    simp only [UInt32.size]
    omega
  have hend : (rtpHeaderSize + r.originalSize + 4 * 2).toNat = frame.length + 8 := by
    rw [horig, UInt32.toNat_add, UInt32.toNat_add, hpay]
    simp only [rtpHeaderSize, UInt32.reduceMul, UInt32.reduceToNat]
    omega
  rcases rtpReceiverGetEncodedSize_cases r hpt with
    ⟨hshort, _⟩ | ⟨_, q, hq, hheap, hdata, _, ⟨_, hne⟩ | ⟨hret, _⟩⟩
  · have hlt := UInt32.lt_iff_toNat_lt.mp hshort
    omega
  · refine absurd (UInt32.toNat_inj.mp ?_) hne
    rw [UInt32.toNat_add, hend, htail, UInt32.toNat_ofNat', hsize]
    omega
  · subst hq
    refine ⟨hret, hdata, ?_⟩
    rw [hheap]
    rfl

/-- Moving the payload behind the header, in the same buffer or with the header into another
one, leaves the original frame there. -/
theorem holds_unwrapped [DecidableEq γ] {h : Heap γ} {orig enc : γ} {size : UInt32}
    (hlo : 12 ≤ frame.length) (hsize : size.toNat = frame.length - 12)
    (hheader : h.Holds orig (frame.take 12))
    (hpayload : ∀ k (hk : k < (frame.drop 12).length), h.mem orig (16 + k) = (frame.drop 12)[k]) :
    (if ¬ enc = orig then
      (h.copy enc 0 orig 0 rtpHeaderSize).copy enc rtpHeaderSize orig (rtpHeaderSize + 4) size
    else h.copy orig rtpHeaderSize orig (rtpHeaderSize + 4) size).Holds enc frame := by
  have htake : (frame.take 12).length = 12 := by
    rw [List.length_take]
    omega
  have hdrop : size.toNat = (frame.drop 12).length := by
    rw [List.length_drop, hsize]
  rw [← List.take_append_drop 12 frame]
  by_cases hshare : enc = orig
  · rw [if_neg (not_not_intro hshare), hshare]
    exact hheader.copy htake.symm hdrop hpayload
  · rw [if_pos hshare]
    have hfirst : (h.copy enc 0 orig 0 rtpHeaderSize).Holds enc (frame.take 12) :=
      hheader.copy_start htake.symm
    refine hfirst.copy htake.symm hdrop ?_
    intro k hk
    rw [Heap.mem_copy_outside _ _ _ _ (.inl (Ne.symm hshare))]
    exact hpayload k hk

/-- Every tail string starts with the mark. -/
private theorem getElem_tailString (frameCount : UInt32) {k : Nat} (hk : k < tailMark.length)
    (hk' : k < (tailString frameCount).length) : (tailString frameCount)[k] = tailMark[k] := by
  simp only [tailString, tailText]
  rw [List.getElem_append_left (by simp; omega), List.getElem_append_left hk]

/-- The transform of an encoded frame, in place or not, restores the original frame. -/
theorem rtpReceiverTransform_restores [DecidableEq γ] (hlo : 12 ≤ frame.length)
    (hhi : frame.length ≤ 65535)
    (hb : r.heap.Holds r.frame.origData (encodeFrame frame frameCount)) :
    (rtpReceiverTransform r).1 = .none ∧
      (rtpReceiverTransform r).2.frame.encodedData = r.frame.encodedData ∧
      (rtpReceiverTransform r).2.frame.encodedSize.toNat = frame.length ∧
      (rtpReceiverTransform r).2.heap.Holds r.frame.encodedData frame := by
  obtain ⟨hheader, _, hpayload, _, htail⟩ := holds_encodeFrame hlo hb
  have horig := originalSize_of_holds hlo hb
  have hpay := toNat_payloadLength hlo hhi
  have hdrop : (frame.drop 12).length = frame.length - 12 := List.length_drop
  have htake : (frame.take 12).length = 12 := by
    rw [List.length_take]
    omega
  have hofs : (rtpHeaderSize + 4 + UInt32.ofNat (frame.length - 12) + 4).toNat =
      frame.length + 8 := by
    rw [UInt32.toNat_add, UInt32.toNat_add, hpay]
    simp only [rtpHeaderSize, UInt32.reduceAdd, UInt32.reduceToNat]
    omega
  have hmark (h : Heap γ) (hm : h.mem = r.heap.mem) :
      (h.loadBytes r.frame.origData (rtpHeaderSize + 4 + UInt32.ofNat (frame.length - 12) + 4)
        5).1 = tailMark := by
    change (h.loadBytes _ _ tailMark.length).1 = tailMark
    apply Heap.loadBytes_eq_of
    intro k hk
    have hk' : k < (tailString frameCount).length := by
      simp only [tailString, tailText, List.length_append]
      omega
    rw [hofs, hm, htail k hk']
    exact getElem_tailString frameCount hk hk'
  -- Both length words are read again, from the same bytes.
  have hword : (r.heap.load32 r.frame.origData rtpHeaderSize).1 =
      UInt32.ofNat (frame.length - 12) := horig
  have hmatch : strncmp tailMark tailMark 5 = 0 := strncmp_self tailMark 5
  have hsize : (rtpHeaderSize + UInt32.ofNat (frame.length - 12)).toNat = frame.length := by
    rw [UInt32.toNat_add, hpay]
    simp only [rtpHeaderSize, UInt32.reduceToNat]
    omega
  have hlast := hmark ((r.heap.load32 r.frame.origData rtpHeaderSize).2.load32 r.frame.origData
    (rtpHeaderSize + 4 + UInt32.ofNat (frame.length - 12))).2 rfl
  simp only [rtpReceiverTransform, hword, hlast, hmatch, ne_eq, not_true_eq_false, if_false]
  exact ⟨trivial, rfl, hsize, holds_unwrapped hlo hpay hheader hpayload⟩

end Receiver

/-! ### Both ends -/

/-- The bytes of a frame in its buffer. -/
def frameBytes (s : TransformState β) : List UInt8 :=
  (List.range s.frame.origSize.toNat).map (s.heap.mem s.frame.origData)

/-- A buffer holds a frame exactly when it agrees with the frame's buffer up to its size. -/
theorem holds_frameBytes {s : TransformState β} {h : Heap γ} {b : γ} :
    h.Holds b (frameBytes s) ↔
      ∀ i < s.frame.origSize.toNat, h.mem b i = s.heap.mem s.frame.origData i := by
  simp only [Heap.Holds, frameBytes, List.length_map, List.length_range, List.getElem_map,
    List.getElem_range]

/-- The transform after an accepting size callback succeeds, reports the announced size and
writes exactly the first bytes of the encoded buffer, up to that size. -/
structure SendsExactly [DecidableEq β] (s : TransformState β) : Prop where
  succeeds : (rtpSenderTransform s).1 = .none
  reportsSize : (rtpSenderTransform s).2.frame.encodedSize = s.frame.encodedSize
  writes : ∃ log, (rtpSenderTransform s).2.heap.log = s.heap.log ++ log ∧
    ∀ b i, Written log b i ↔ b = s.frame.encodedData ∧ i < s.frame.encodedSize.toNat

/-- An audio frame that carries the encoded bytes of `sent`. -/
structure Carries (sent : TransformState β) (r : TransformState γ) : Prop where
  audio : r.frame.payloadType < 96
  size : r.frame.origSize = sent.frame.encodedSize
  bytes : ∀ i < sent.frame.encodedSize.toNat,
    r.heap.mem r.frame.origData i = sent.heap.mem sent.frame.encodedData i

/-- The receiver pair accepts `r` and yields the frame of `s`, byte for byte. -/
structure Restores [DecidableEq γ] (s : TransformState β) (r : TransformState γ) : Prop where
  accepts : (rtpReceiverGetEncodedSize r).1 = .none
  succeeds : (rtpReceiverTransform (rtpReceiverGetEncodedSize r).2).1 = .none
  size : (rtpReceiverTransform (rtpReceiverGetEncodedSize r).2).2.frame.encodedSize =
    s.frame.origSize
  bytes : ∀ i < s.frame.origSize.toNat,
    (rtpReceiverTransform (rtpReceiverGetEncodedSize r).2).2.heap.mem
      (rtpReceiverTransform (rtpReceiverGetEncodedSize r).2).2.frame.encodedData i =
      s.heap.mem s.frame.origData i

/-- The size that an accepting sender announces is the length of the encoded frame. -/
theorem toNat_announcedSize {s : TransformState β} (hlo : 12 ≤ s.frame.origSize.toNat)
    (hhi : s.frame.origSize.toNat ≤ 65535) :
    (s.frame.origSize + 4 * 2 + UInt32.ofNat (tailString s.ctx.frameCount).length).toNat =
      s.frame.origSize.toNat + 8 + (tailString s.ctx.frameCount).length := by
  obtain ⟨hlen, hle⟩ := length_tailString s.ctx.frameCount
  rw [UInt32.toNat_add, UInt32.toNat_add, UInt32.toNat_ofNat']
  simp only [UInt32.reduceMul, UInt32.reduceToNat]
  omega

/-- After an accepting size callback, the transform sends exactly what was announced. -/
theorem sendsExactly_of_announced [DecidableEq β] {s p : TransformState β} (hp : Announced s p)
    (hlo : 12 ≤ p.frame.origSize.toNat) (hhi : p.frame.origSize.toNat ≤ 65535) :
    SendsExactly p := by
  obtain ⟨hret, hsize, _, hheap⟩ :=
    rtpSenderTransform_ok p hp.audio (UInt32.le_iff_toNat_le.mpr hlo)
  refine ⟨hret, hsize.trans hp.encodedSize.symm, sentAccesses p, ?_, ?_⟩
  · rw [hheap]
    exact log_sentHeap
  · intro b i
    rw [written_sentAccesses hlo hhi, hp.encodedSize, toNat_announcedSize hlo hhi]

/-- A receiver that gets the bytes sent after an accepting size callback restores the frame. -/
theorem restores_of_announced [DecidableEq β] [DecidableEq γ] {s p : TransformState β}
    (hp : Announced s p) (hlo : 12 ≤ p.frame.origSize.toNat)
    (hhi : p.frame.origSize.toNat ≤ 65535) (hne : p.frame.origData ≠ p.frame.encodedData)
    {r : TransformState γ} (hr : Carries (rtpSenderTransform p).2 r) : Restores s r := by
  obtain ⟨_, hsize, hdata, hheap⟩ :=
    rtpSenderTransform_ok p hp.audio (UInt32.le_iff_toNat_le.mpr hlo)
  have hlen : (frameBytes p).length = p.frame.origSize.toNat := by simp [frameBytes]
  have hsent := holds_sentHeap hne hlo hhi hlen (holds_frameBytes.mpr (fun _ _ ↦ rfl))
  have hann := toNat_announcedSize hlo hhi
  rw [← hsize] at hann
  have henc : (encodeFrame (frameBytes p) p.ctx.frameCount).length =
      (rtpSenderTransform p).2.frame.encodedSize.toNat := by
    rw [length_encodeFrame p.ctx.frameCount (by omega), hlen, hann]
  have hheld : r.heap.Holds r.frame.origData (encodeFrame (frameBytes p) p.ctx.frameCount) := by
    intro k hk
    rw [hr.bytes k (by omega), hdata, hheap]
    exact hsent k hk
  obtain ⟨haccept, horig, hmem⟩ := rtpReceiverGetEncodedSize_accepts hr.audio (by omega)
    (by omega) (by rw [hr.size, henc]) hheld
  have hkept : (rtpReceiverGetEncodedSize r).2.heap.Holds
      (rtpReceiverGetEncodedSize r).2.frame.origData
      (encodeFrame (frameBytes p) p.ctx.frameCount) := by
    rw [Heap.Holds, hmem, horig]
    exact hheld
  obtain ⟨hok, hout, hsize', hframe⟩ := rtpReceiverTransform_restores (by omega) (by omega) hkept
  rw [← hout, holds_frameBytes, hp.heap, hp.origData, hp.origSize] at hframe
  refine ⟨haccept, hok, ?_, hframe⟩
  rw [← UInt32.toNat_inj, hsize', hlen, hp.origSize]

/-- An audio frame of a datagram that the sender's size callback accepts is sent as announced,
and every receiver that gets its encoded bytes restores it. -/
theorem rtp_round_trip [DecidableEq β] [DecidableEq γ] (s : TransformState β)
    (hlo : 12 ≤ s.frame.origSize) (hhi : s.frame.origSize ≤ 65535)
    (hok : (rtpSenderGetEncodedSize s).1 = .none)
    (hbuf : (rtpSenderGetEncodedSize s).2.inPlace = false →
      s.frame.encodedData ≠ s.frame.origData) :
    SendsExactly (rtpSenderGetEncodedSize s).2 ∧
      ∀ r : TransformState γ,
        Carries (rtpSenderTransform (rtpSenderGetEncodedSize s).2).2 r → Restores s r := by
  have hp := rtpSenderGetEncodedSize_ok hok
  have hlo' : 12 ≤ (rtpSenderGetEncodedSize s).2.frame.origSize.toNat := by
    rw [hp.origSize]
    exact UInt32.le_iff_toNat_le.mp hlo
  have hhi' : (rtpSenderGetEncodedSize s).2.frame.origSize.toNat ≤ 65535 := by
    rw [hp.origSize]
    exact UInt32.le_iff_toNat_le.mp hhi
  have hne := Ne.symm (hbuf hp.notInPlace)
  rw [← hp.origData, ← hp.encodedData] at hne
  exact ⟨sendsExactly_of_announced hp hlo' hhi',
    fun r hr ↦ restores_of_announced hp hlo' hhi' hne hr⟩

private def oneByteFrame : TransformState Bool where
  frame := ⟨false, 13, true, 0, 8⟩
  inPlace := true
  ctx := ⟨41, 0⟩
  heap := ⟨fun b i ↦ if b then 0 else UInt8.ofNat (i + 1), []⟩

private def oneByteSent : TransformState Bool :=
  (rtpSenderTransform (rtpSenderGetEncodedSize oneByteFrame).2).2

private def oneByteReceived : TransformState Bool where
  frame := ⟨true, 29, true, 0, 8⟩
  inPlace := false
  ctx := ⟨0, 0⟩
  heap := oneByteSent.heap

/-- A frame of one payload byte, sent with count 41 and received in place. -/
theorem rtp_round_trip_one_byte :
    SendsExactly (rtpSenderGetEncodedSize oneByteFrame).2 ∧
      Restores oneByteFrame oneByteReceived := by
  obtain ⟨hsent, hrestores⟩ :=
    @rtp_round_trip Bool Bool _ _ oneByteFrame (by decide) (by decide) rfl (fun _ ↦ by decide)
  exact ⟨hsent, hrestores oneByteReceived ⟨by decide, by decide, fun _ _ ↦ rfl⟩⟩

end Esp32Robot.Webrtc

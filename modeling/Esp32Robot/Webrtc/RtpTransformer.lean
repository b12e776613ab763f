import Esp32Robot.Base.CString
import Esp32Robot.Base.Memory

/-!
# RTP transformers

The sender and receiver callbacks of `IDF_esp32p4_webrtc/main/webrtc.c:448–555`.
The sender wraps the payload of an audio frame as
`header | size | payload | tail size | "TAIL_<count>\0"`, the receiver unwraps it.
Sizes and offsets are 32-bit words and every memory access is logged.
-/

namespace Esp32Robot.Webrtc

open Esp32Robot.Base

universe u

/-- Return codes of the callbacks; `none` is 0. -/
inductive EspPeerErr where
  | none
  | badData
  | notSupport
  deriving DecidableEq, Repr

/-- `esp_peer_rtp_frame_t`, `esp_peer_types.h:65–71`; a buffer pointer is its block. -/
structure EspPeerRtpFrame (β : Type u) where
  origData : β
  origSize : UInt32
  encodedData : β
  encodedSize : UInt32
  payloadType : UInt8
  deriving DecidableEq, Repr

/-- `rtp_transformer_ctx_t`. -/
structure RtpTransformerCtx where
  frameCount : UInt32
  errorCount : UInt32
  deriving DecidableEq, Repr

/-- What a callback reads and writes: the frame record, `*in_place`, its context and the
buffers. -/
structure TransformState (β : Type u) where
  frame : EspPeerRtpFrame β
  inPlace : Bool
  ctx : RtpTransformerCtx
  heap : Heap β

/-- `RTP_HEADER_SIZE`. -/
def rtpHeaderSize : UInt32 := 12

/-- `"TAIL_"`, the start of every tail string. -/
def tailMark : List UInt8 := ascii "TAIL_"

/-- The text `"TAIL_%" PRIu32` for a frame count. -/
def tailText (frameCount : UInt32) : List UInt8 := tailMark ++ decimal frameCount

namespace TransformState

variable {β : Type u}

/-- `t_ctx->error_count++`. -/
def countError (s : TransformState β) : TransformState β :=
  { s with ctx := { s.ctx with errorCount := s.ctx.errorCount + 1 } }

/-- `t_ctx->frame_count++`. -/
def countFrame (s : TransformState β) : TransformState β :=
  { s with ctx := { s.ctx with frameCount := s.ctx.frameCount + 1 } }

/-- `frame->encoded_size = size`. -/
def setEncodedSize (s : TransformState β) (size : UInt32) : TransformState β :=
  { s with frame := { s.frame with encodedSize := size } }

end TransformState

variable {β : Type u}

/-- `rtp_sender_get_encoded_size`, `webrtc.c:448–463`. -/
def rtpSenderGetEncodedSize (s : TransformState β) : EspPeerErr × TransformState β :=
  if s.frame.payloadType ≥ 96 then (.notSupport, s)
  else
    let tailSize := UInt32.ofNat (snprintf 0 (tailText s.ctx.frameCount)).2
    let s := s.setEncodedSize (s.frame.origSize + 4 * 2 + tailSize + 1)
    if s.frame.encodedSize > 1300 then (.notSupport, s)
    else (.none, { s with inPlace := false })

/-- `rtp_sender_transform`, `webrtc.c:465–500`. -/
def rtpSenderTransform [DecidableEq β] (s : TransformState β) : EspPeerErr × TransformState β :=
  if s.frame.payloadType ≥ 96 || s.frame.origSize < rtpHeaderSize then (.notSupport, s)
  else
    let (stored, written) := snprintf 64 (tailText s.ctx.frameCount)
    let tailString := stored ++ [0]
    let tailLen := UInt32.ofNat written + 1
    let newSize := s.frame.origSize + 4 * 2 + tailLen
    let newData := s.frame.encodedData
    let srcOfst := rtpHeaderSize
    let dstOfst := rtpHeaderSize
    let heap := s.heap.copy newData 0 s.frame.origData 0 rtpHeaderSize
    let payloadSize := s.frame.origSize - rtpHeaderSize
    let heap := heap.store32 newData dstOfst payloadSize
    let dstOfst := dstOfst + 4
    let heap := heap.copy newData dstOfst s.frame.origData srcOfst payloadSize
    let dstOfst := dstOfst + payloadSize
    let heap := heap.store32 newData dstOfst tailLen
    let dstOfst := dstOfst + 4
    let heap := heap.storeBytes newData dstOfst (tailString.take tailLen.toNat)
    (.none, ({ s with heap := heap }.setEncodedSize newSize).countFrame)

/-- `rtp_receiver_get_encoded_size`, `webrtc.c:502–524`. -/
def rtpReceiverGetEncodedSize (s : TransformState β) : EspPeerErr × TransformState β :=
  if s.frame.payloadType ≥ 96 then (.notSupport, s)
  else
    let (originalSize, heap) := s.heap.load32 s.frame.origData rtpHeaderSize
    let s := { s with heap := heap }
    if rtpHeaderSize + originalSize + 4 * 2 > s.frame.origSize then (.badData, s.countError)
    else
      let (tailSize, heap) := s.heap.load32 s.frame.origData (rtpHeaderSize + originalSize + 4)
      let s := { s with heap := heap }
      let encodedSize := rtpHeaderSize + originalSize + 4 * 2 + tailSize
      if encodedSize ≠ s.frame.origSize then (.badData, s.countError)
      else (.none, { s.setEncodedSize (rtpHeaderSize + originalSize) with inPlace := true })

/-- `rtp_receiver_transform`, `webrtc.c:526–555`. The comparison with the tail mark counts
as a read of its five bytes. -/
def rtpReceiverTransform [DecidableEq β] (s : TransformState β) :
    EspPeerErr × TransformState β :=
  let ofst := rtpHeaderSize
  let (originalSize, heap) := s.heap.load32 s.frame.origData ofst
  let originalData := ofst + 4
  let ofst := originalData + originalSize
  let (_, heap) := heap.load32 s.frame.origData ofst
  let ofst := ofst + 4
  let (tailStr, heap) := heap.loadBytes s.frame.origData ofst 5
  let s := { s with heap := heap }.countFrame
  if strncmp tailStr tailMark 5 ≠ 0 then (.badData, s.countError)
  else
    let heap :=
      if s.frame.encodedData ≠ s.frame.origData then
        (heap.copy s.frame.encodedData 0 s.frame.origData 0 rtpHeaderSize).copy
          s.frame.encodedData rtpHeaderSize s.frame.origData originalData originalSize
      else heap.copy s.frame.origData rtpHeaderSize s.frame.origData originalData originalSize
    (.none, { s with heap := heap }.setEncodedSize (rtpHeaderSize + originalSize))

/-- The frame that the stack hands to an in-place transform: both pointers are the
original buffer. -/
def TransformState.sharingBuffer (s : TransformState β) : TransformState β :=
  { s with frame := { s.frame with encodedData := s.frame.origData } }

/-- The length word of the payload, right after the header. -/
def TransformState.originalSize (s : TransformState β) : UInt32 :=
  (s.heap.load32 s.frame.origData rtpHeaderSize).1

/-- The length word of the tail, where the receiver looks for it. -/
def TransformState.tailSize (s : TransformState β) : UInt32 :=
  (s.heap.load32 s.frame.origData (rtpHeaderSize + s.originalSize + 4)).1

/-- What the size callback can do with an audio frame: reject it after one length word,
reject it after two, or accept it. -/
theorem rtpReceiverGetEncodedSize_cases (s : TransformState β)
    (hpt : s.frame.payloadType < 96) :
    (rtpHeaderSize + s.originalSize + 4 * 2 > s.frame.origSize ∧
      rtpReceiverGetEncodedSize s = (.badData, TransformState.countError
        { s with heap := (s.heap.load32 s.frame.origData rtpHeaderSize).2 })) ∨
    (¬ rtpHeaderSize + s.originalSize + 4 * 2 > s.frame.origSize ∧
      ∃ r, rtpReceiverGetEncodedSize s = r ∧
        r.2.heap = ((s.heap.load32 s.frame.origData rtpHeaderSize).2.load32 s.frame.origData
          (rtpHeaderSize + s.originalSize + 4)).2 ∧
        r.2.frame.origData = s.frame.origData ∧ r.2.frame.origSize = s.frame.origSize ∧
        ((r.1 = .badData ∧
            rtpHeaderSize + s.originalSize + 4 * 2 + s.tailSize ≠ s.frame.origSize) ∨
          (r.1 = .none ∧
            rtpHeaderSize + s.originalSize + 4 * 2 + s.tailSize = s.frame.origSize ∧
            r.2.frame.encodedSize = rtpHeaderSize + s.originalSize))) := by
  have hvideo : ¬ s.frame.payloadType ≥ 96 := UInt8.not_le.mpr hpt
  simp only [rtpReceiverGetEncodedSize, if_neg hvideo]
  split
  · next hshort => exact .inl ⟨hshort, rfl⟩
  · next hlong =>
    refine .inr ⟨hlong, _, rfl, ?_⟩
    split
    · next hne => exact ⟨rfl, rfl, rfl, .inl ⟨rfl, hne⟩⟩
    · next heq => exact ⟨rfl, rfl, rfl, .inr ⟨rfl, Decidable.not_not.mp heq, rfl⟩⟩

end Esp32Robot.Webrtc

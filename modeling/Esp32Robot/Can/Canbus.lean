import Esp32Robot.Base.Memory

/-!
# CAN messages

`submodules/robot_canbus/lib/robot_canbus.c`: the message that every node sends
and receives, the sender's idle heartbeat, and the receive task's dispatch to
the node's handler.
-/

namespace Esp32Robot.Can

open Esp32Robot.Base

/-- The part of `twai_message_t` that the nodes fill in or read. -/
structure TwaiMessage where
  identifier : UInt32
  dataLengthCode : UInt8
  data : Vector UInt8 8
  deriving DecidableEq, Repr

/-- `CANBUS_MESSAGE_ID`, `robot_canbus.h:7`; all three nodes use it. -/
def canbusMessageId : UInt32 := 0x1F

/-- The message that `AddMessageToSend` hands to `xQueueSend`, `robot_canbus.c:68–73`:
the type byte, then the value in the byte order of the target. -/
def addMessageToSend (messageType : UInt8) (value : UInt32) : TwaiMessage where
  identifier := canbusMessageId
  dataLengthCode := 5
  data := #v[messageType, UInt8.ofNat value.toNat, UInt8.ofNat (value.toNat / 256),
    UInt8.ofNat (value.toNat / 65536), UInt8.ofNat (value.toNat / 16777216), 0, 0, 0]

/-- `tx_msg_beats`, sent whenever the send queue stays empty for a second,
`robot_canbus.c:82–92`. -/
def txMsgBeats : TwaiMessage where
  identifier := canbusMessageId
  dataLengthCode := 2
  data := #v[0xAB, 0xCD, 0, 0, 0, 0, 0, 0]

/-- What `canbus_receive_task` passes to the node's handler, `robot_canbus.c:54–56`: the
length code and the data, for messages that carry the shared identifier. -/
def canbusReceive (m : TwaiMessage) : Option (Int × List UInt8) :=
  if m.identifier = canbusMessageId then some (m.dataLengthCode.toNat, m.data.toList) else none

/-- The value field of a received message: `memcpy(&v, value + 1, sizeof(v))`. -/
def messageValue (value : List UInt8) : UInt32 :=
  leWord (value.getD 1 0) (value.getD 2 0) (value.getD 3 0) (value.getD 4 0)

/-- A receiver's handler sees the type byte and the value that the sender queued. -/
theorem canbusReceive_addMessageToSend (messageType : UInt8) (value : UInt32) :
    ∃ data, canbusReceive (addMessageToSend messageType value) = some (5, data) ∧
      data.getD 0 0 = messageType ∧ messageValue data = value :=
  ⟨_, rfl, rfl, leWord_leBytes value⟩

/-- A queued message determines its type and its value. -/
theorem addMessageToSend_inj {a b : UInt8} {v w : UInt32}
    (h : addMessageToSend a v = addMessageToSend b w) : a = b ∧ v = w := by
  obtain ⟨x, hx, htype, hvalue⟩ := canbusReceive_addMessageToSend a v
  obtain ⟨y, hy, htype', hvalue'⟩ := canbusReceive_addMessageToSend b w
  rw [h, hy] at hx
  cases hx
  exact ⟨htype.symm.trans htype', hvalue.symm.trans hvalue'⟩

end Esp32Robot.Can

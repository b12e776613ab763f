import Esp32Robot.Webrtc.OwnClose

/-!
# Waiting for the own exit

`pc_close` waits for `PC_EXIT_BIT`, which only the peer connection task sets,
after it left its loop. When a failure is delivered on the task of the current
session, the event handler closes that session on the task itself.
-/

namespace Esp32Robot.Webrtc

open Esp32Robot.Base

/-! ### Waiting for a task -/

end Esp32Robot.Webrtc

import Esp32Robot.Can.Sender
import Esp32Robot.Http.EventStream
import Esp32Robot.Http.PostBody
import Esp32Robot.Http.Redirects
import Esp32Robot.Http.Signaling
import Esp32Robot.Media.DataQueueRuns
import Esp32Robot.Robot.DeadMan
import Esp32Robot.Robot.LinkLoss
import Esp32Robot.Robot.MotorSafety
import Esp32Robot.Robot.RampConvergence
import Esp32Robot.Robot.RemoteDrive
import Esp32Robot.Robot.WatchdogRace
import Esp32Robot.Robot.WheelDirections
import Esp32Robot.Servo.AngleDuty
import Esp32Robot.Servo.PowerSave
import Esp32Robot.Servo.RemoteStep
import Esp32Robot.Viewer.ClosedSession
import Esp32Robot.Viewer.ReadyStatus
import Esp32Robot.Viewer.SingleSubscriber
import Esp32Robot.Viewer.SpeedSlider
import Esp32Robot.Viewer.Stalls
import Esp32Robot.Viewer.Teardown
import Esp32Robot.Webrtc.AdtsWalk
import Esp32Robot.Webrtc.AutoRecovery
import Esp32Robot.Webrtc.CommandPaths
import Esp32Robot.Webrtc.Credentials
import Esp32Robot.Webrtc.HeartbeatRace
import Esp32Robot.Webrtc.HeartbeatSupervision
import Esp32Robot.Webrtc.JanusTeardown
import Esp32Robot.Webrtc.KeyMonitor
import Esp32Robot.Webrtc.MqttBridge
import Esp32Robot.Webrtc.MusicHandshake
import Esp32Robot.Webrtc.RetryCancel
import Esp32Robot.Webrtc.RtpReceiver
import Esp32Robot.Webrtc.RtpRoundTrip
import Esp32Robot.Webrtc.SelfJoin
import Esp32Robot.Webrtc.SingleHandle
import Esp32Robot.Webrtc.JanusRequests
import Esp32Robot.Webrtc.JanusRoom
import Esp32Robot.Webrtc.JanusMessages

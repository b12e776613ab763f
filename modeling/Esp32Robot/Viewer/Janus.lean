/-!
# Janus sessions and plugin handles

What `webrtc_public_gateway/web/vendor/janus.js` keeps for the viewer, over its
WebSocket: sessions, plugin handles, and the requests whose answers have not come. An
answer may come at any later time, or never. A session is silent once its connection is
lost or its WebSocket was closed, and so is a peer connection that was closed. A
WebSocket that closes before the session was created tells nobody.
-/

namespace Esp32Robot.Viewer

/-- How far a session has come. `sessionId` is null while it is created and when that failed, and
`connected` holds while it is live. A session is dropped when its WebSocket closes while it is
created: the `close` handler of `janus.js:1027–1030` returns then, as `connected` is not set. -/
inductive JanusPhase where
  | creating
  | refused
  | dropped
  | live
  | lost
  | ended
  deriving DecidableEq, Repr

/-- What `new Janus` returned; `destroying` when a destroy request was sent to the server. -/
structure JanusSession where
  phase : JanusPhase
  destroying : Bool
  deriving DecidableEq, Repr

/-- The session is live or being created, and was not asked to end. -/
def JanusSession.usable (s : JanusSession) : Bool :=
  (s.phase = .creating || s.phase = .live) && !s.destroying

/-- What the viewer attaches a handle for. -/
inductive HandleRole where
  | manager
  | subscriber
  deriving DecidableEq, Repr

/-- A plugin handle, until it is detached in `pluginHandles` of its session; `pc` when it has a
peer connection. -/
structure PluginHandle where
  session : Nat
  role : HandleRole
  attached : Bool
  pc : Bool
  deriving DecidableEq, Repr

/-- A request without an answer: to attach a handle, to list the participants, to create the
answer to an offer that one handle received on a handle, or to get the statistics. -/
inductive JanusRequest where
  | attach (session : Nat) (role : HandleRole)
  | listparticipants (session : Nat)
  | createAnswer (offered handle : Nat)
  | getStats
  deriving DecidableEq, Repr

/-- A peer connection of the handle works on the request. -/
def JanusRequest.runsOn (handle : Nat) : JanusRequest → Bool
  | .createAnswer _ h => h = handle
  | _ => false

/-- A participant in the answer of `listparticipants`; an `id` of 0 counts as none. -/
structure Participant where
  id : Nat
  streams : Nat
  publisher : Bool
  deriving DecidableEq, Repr

/-- The filter of `app.js:618–626`. -/
def Participant.publishes (p : Participant) : Bool :=
  p.id ≠ 0 && (0 < p.streams || p.publisher)

end Esp32Robot.Viewer

-- SUMMARY: The two kinds of media and the ports on which they come in.

/-!
# Media kinds

A bridge carries video and audio. Each has a loopback port of its own, to which
an external process sends its datagrams.
-/

namespace RtpBridge

inductive MediaKind where
  | video
  | audio
deriving Repr, DecidableEq

def MediaKind.name : MediaKind → String
  | .video => "video"
  | .audio => "audio"

def MediaKind.ofName? (name : List Char) : Option MediaKind :=
  [video, audio].find? fun kind => kind.name.toList = name

/-- The ports that a session reports. -/
structure Ports where
  video : Nat
  audio : Nat
deriving Repr, DecidableEq

/-- The ports as the log shows them. -/
def Ports.text (ports : Ports) : String :=
  s!"PortPair \x7b video: {ports.video}, audio: {ports.audio} \x7d"

end RtpBridge

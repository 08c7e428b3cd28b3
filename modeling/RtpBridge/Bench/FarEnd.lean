-- SUMMARY: The offer of a remote peer that takes everything a session has to send.

/-!
# The far end

A far end wants to receive audio and video, and opens a channel for its input.
-/

namespace RtpBridge.Bench.FarEnd

/-- The lines that each section of the offer begins with, after its media line. -/
def transportLines (mid : String) : List String := [
  "c=IN IP4 0.0.0.0", "a=ice-ufrag:farend", "a=ice-pwd:passwordofthefarend0123", "a=setup:actpass",
  "a=mid:" ++ mid]

/-- The lines of the session description. -/
def lines : List String :=
  ["v=0", "o=- 1 2 IN IP4 127.0.0.1", "s=-", "t=0 0", "a=group:BUNDLE 0 1 2",
    "a=fingerprint:sha-256 AB:CD"]
  ++ ["m=audio 9 UDP/TLS/RTP/SAVPF 111"] ++ transportLines "0"
  ++ ["a=recvonly", "a=rtpmap:111 opus/48000/2"]
  ++ ["m=video 9 UDP/TLS/RTP/SAVPF 96"] ++ transportLines "1"
  ++ ["a=recvonly", "a=rtpmap:96 VP8/90000"]
  ++ ["m=application 9 UDP/DTLS/SCTP webrtc-datachannel"] ++ transportLines "2"
  ++ ["a=sctp-port:5000"]

/-- The offer as the far end sends it. -/
def document : List UInt8 :=
  let text := String.join (lines.map (· ++ "\\r\\n"))
  ("\x7b\"type\":\"offer\",\"sdp\":\"" ++ text ++ "\"\x7d").toUTF8.toList

end RtpBridge.Bench.FarEnd

-- SUMMARY: The order of lines in a session description.

/-!
# Order of lines

A session description is a sequence of lines, each with a one-letter key. First
come the lines of the session, in a fixed order and mostly optional, then the
media sections, each opened by an `m` line.
-/

namespace RtpBridge.Sdp

/-- How far a description has come: the lines read so far end with one of this kind. -/
inductive Position where
  | start
  | version
  | origin
  | name
  | information
  | address
  | email
  | phone
  /-- After a `c` or `b` line of the session. -/
  | connection
  | timing
  | zones
  /-- After an `a` or `k` line of the session. -/
  | attributes
  /-- In a media section. -/
  | media
deriving Repr, DecidableEq

namespace Position

/-- What may follow once the contact lines of the session are due no more. -/
def afterContact? : Char → Option Position
  | 'c' | 'b' => some .connection
  | 't' => some .timing
  | _ => none

def afterEmail? : Char → Option Position
  | 'p' => some .phone
  | key => afterContact? key

def afterAddress? : Char → Option Position
  | 'e' => some .email
  | key => afterEmail? key

def afterInformation? : Char → Option Position
  | 'u' => some .address
  | key => afterAddress? key

def afterName? : Char → Option Position
  | 'i' => some .information
  | key => afterInformation? key

/-- The position after a line with this key, if the line is allowed here. -/
def next? : Position → Char → Option Position
  | .start, 'v' => some .version
  | .version, 'o' => some .origin
  | .origin, 's' => some .name
  | .name, key => afterName? key
  | .information, key => afterInformation? key
  | .address, key => afterAddress? key
  | .email, key => afterEmail? key
  | .phone, key => afterContact? key
  | .connection, 'b' => some .connection
  | .connection, 't' => some .timing
  | .timing, 'r' | .timing, 't' => some .timing
  | .timing, 'z' => some .zones
  | .timing, 'k' | .timing, 'a' => some .attributes
  | .zones, 'k' | .zones, 'a' => some .attributes
  | .attributes, 'a' => some .attributes
  | .timing, 'm' | .zones, 'm' | .attributes, 'm' | .media, 'm' => some .media
  | .media, key => if key ∈ ['a', 'k', 'b', 'c', 'i'] then some .media else none
  | _, _ => none

/-- Whether a description may end here: not before its `t` line. -/
def mayEnd : Position → Bool
  | .timing | .zones | .attributes | .media => true
  | _ => false

end Position

end RtpBridge.Sdp

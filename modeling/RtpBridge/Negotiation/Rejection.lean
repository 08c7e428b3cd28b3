-- SUMMARY: Which offers a session takes, and why it rejects the others.
import RtpBridge.Ice.Candidate
import RtpBridge.Negotiation.Agreement
import RtpBridge.Negotiation.HeaderExtension

/-!
# Acceptance of an offer

Beyond being a session description, an offer has to describe its codecs, and to say
how its sender can be reached and recognised: a user fragment and a password that do
not contradict each other, candidates that can be read, and one fingerprint.
-/

namespace RtpBridge

/-- How far the exchange of offer and answer has come. -/
inductive SignalingState where
  | created
  | remoteApplied
  | answerSet
  | gathering
  | complete
  | failed
deriving Repr, DecidableEq

def SignalingState.name : SignalingState → String
  | .created => "Created"
  | .remoteApplied => "RemoteApplied"
  | .answerSet => "AnswerSet"
  | .gathering => "Gathering"
  | .complete => "Complete"
  | .failed => "Failed"

namespace Negotiation

open Sdp

/-- Why an offer is rejected. -/
inductive Rejection where
  | alreadySignaled (state : SignalingState)
  | connectionClosed
  | codec (fault : Codec.Fault)
  | extension (fault : HeaderExtension.Fault)
  | sectionWithoutMid
  | conflictingUserFragments
  | conflictingPasswords
  | candidate (fault : Ice.Candidate.Fault)
  | noUserFragment
  | noPassword
  | noFingerprint
  | conflictingFingerprints
  | invalidFingerprint
deriving Repr, DecidableEq

def Rejection.cause : Rejection → String
  | .alreadySignaled state => s!"session already signaled (state {state.name})"
  | .connectionClosed => "connection closed"
  | .codec fault => fault.message
  | .extension fault => fault.message
  | .sectionWithoutMid => "remoteDescription contained media section without mid value"
  | .conflictingUserFragments =>
    "set_remote_description called with multiple conflicting ice-ufrag values"
  | .conflictingPasswords =>
    "set_remote_description called with multiple conflicting ice-pwd values"
  | .candidate fault => fault.message
  | .noUserFragment => "set_remote_description called with no ice-ufrag"
  | .noPassword => "set_remote_description called with no ice-pwd"
  | .noFingerprint => "set_remote_description called with no fingerprint"
  | .conflictingFingerprints =>
    "set_remote_description called with multiple conflicting fingerprint"
  | .invalidFingerprint => "set_remote_description called with an invalid fingerprint"

def Rejection.message (rejection : Rejection) : String :=
  "Remote description rejected: " ++ rejection.cause

-- ---------------------------------------------------------------------------
-- Codecs
-- ---------------------------------------------------------------------------

/-- The codecs that both sides have, for each kind of media that is offered. -/
abbrev Agreed := List (MediaKind × List Codec)

def Agreed.codecs (agreed : Agreed) (kind : MediaKind) : List Codec := (agreed.lookup kind).getD []

/-- Agrees on codecs. The first section of a kind speaks for all of them; where both sides have no
codec in common, its header extensions are not looked at. -/
def agree (agreed : Agreed) : List Section → Except Rejection Agreed
  | [] => .ok agreed
  | media :: rest =>
    match MediaKind.ofName? media.kind with
    | none => agree agreed rest
    | some kind =>
      if (agreed.lookup kind).isSome then agree agreed rest
      else do
        let codecs ← (Common.ofSection kind media).mapError .codec
        if !codecs.isEmpty then
          (HeaderExtension.checkAll media.attributes).mapError .extension
        agree (agreed ++ [(kind, codecs)]) rest

-- ---------------------------------------------------------------------------
-- Section names
-- ---------------------------------------------------------------------------

/-- The name by which a section is matched with that of the answer. -/
def mid? (media : Section) : Option (List Char) := attributeValue? "mid" media.attributes

def checkMids (description : Description) : Except Rejection Unit :=
  if description.sections.any fun media => mid? media = some [] then .error .sectionWithoutMid
  else .ok ()

-- ---------------------------------------------------------------------------
-- Reachability
-- ---------------------------------------------------------------------------

/-- What is known of a credential: its value, and one from an inactive section to fall back on. -/
structure Credential where
  value : Option (List Char)
  fallback : Option (List Char)
deriving Repr, DecidableEq

namespace Credential

def ofSession (key : String) (description : Description) : Credential :=
  ⟨attributeValue? key description.attributes, none⟩

/-- Takes a value as a fallback, unless there is one. -/
def fallBack (credential : Credential) (found : Option (List Char)) : Credential :=
  { credential with fallback := credential.fallback <|> found }

/-- Takes the value of a section; a value that differs from the one before is a conflict. -/
def agree (credential : Credential) (found : Option (List Char)) (conflict : Rejection) :
    Except Rejection Credential :=
  match credential.value, found with
  | none, found => .ok { credential with value := found }
  | some value, none => .ok { credential with value := some value }
  | some value, some other => if value = other then .ok credential else .error conflict

def get? (credential : Credential) : Option (List Char) := credential.value <|> credential.fallback

end Credential

/-- Checks the candidates of a section in their order. -/
def checkCandidates : List Attribute → Except Rejection Unit
  | [] => .ok ()
  | a :: rest =>
    match a.value with
    | some value =>
      if a.key = "candidate".toList then
        match Ice.Candidate.check value with
        | .error fault => .error (.candidate fault)
        | .ok () => checkCandidates rest
      else checkCandidates rest
    | none => checkCandidates rest

/-- Goes through the sections with what is known of the user fragment and the password. -/
def gatherCredentials (fragment password : Credential) :
    List Section → Except Rejection (Credential × Credential)
  | [] => .ok (fragment, password)
  | media :: rest => do
    let foundFragment := attributeValue? "ice-ufrag" media.attributes
    let foundPassword := attributeValue? "ice-pwd" media.attributes
    if (findAttribute? "inactive" media.attributes).isSome then
      gatherCredentials (fragment.fallBack foundFragment) (password.fallBack foundPassword) rest
    else
      let fragment ← fragment.agree foundFragment .conflictingUserFragments
      let password ← password.agree foundPassword .conflictingPasswords
      checkCandidates media.attributes
      gatherCredentials fragment password rest

def checkReachability (description : Description) : Except Rejection Unit := do
  let (fragment, password) ← gatherCredentials (.ofSession "ice-ufrag" description)
    (.ofSession "ice-pwd" description) description.sections
  if fragment.get?.isNone then throw .noUserFragment
  if password.get?.isNone then throw .noPassword

-- ---------------------------------------------------------------------------
-- Fingerprints
-- ---------------------------------------------------------------------------

def fingerprints (description : Description) : List (List Char) :=
  (attributeValue? "fingerprint" description.attributes).toList
    ++ description.sections.filterMap fun media => attributeValue? "fingerprint" media.attributes

/-- All fingerprints are one, of a hash function and a value with one space between. -/
def checkFingerprint (description : Description) : Except Rejection Unit :=
  match fingerprints description with
  | [] => .error .noFingerprint
  | first :: rest =>
    if rest.any (· ≠ first) then .error .conflictingFingerprints
    else if (first.splitOn ' ').length ≠ 2 then .error .invalidFingerprint
    else .ok ()

/-- Whether a connection takes an offer with this description. -/
def checkOffer (isConnectionOpen : Bool) (description : Description) : Except Rejection Unit := do
  if !isConnectionOpen then throw .connectionClosed
  let _ ← agree [] description.sections
  checkMids description
  checkReachability description
  checkFingerprint description

end Negotiation

end RtpBridge

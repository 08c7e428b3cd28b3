-- SUMMARY: The sockets on which media come in, and how a pair of them is had from the operating system.
import RtpBridge.Media

/-!
# Ingress sockets

A session needs a socket for video and one for audio, each on a loopback port that
the operating system chooses. A pair is had in four steps, each of which may fail:
the two binds and the two queries for the ports. When one fails, the sockets that
are open by then are closed again.
-/

namespace RtpBridge

/-- Why the operating system refuses a socket. -/
inductive SocketFault where
  | tooManyOpenFiles
  | other (text : String)
deriving Repr, DecidableEq

def SocketFault.message : SocketFault → String
  | .tooManyOpenFiles => "Too many open files (os error 24)"
  | .other text => text

structure BindFault where
  kind : MediaKind
  cause : SocketFault
deriving Repr, DecidableEq

def BindFault.message (fault : BindFault) : String :=
  s!"Couldn't bind {fault.kind.name} socket: {fault.cause.message}"

structure IngressSocket where
  kind : MediaKind
  port : Nat
deriving Repr, DecidableEq

/-- The sockets of a session. -/
structure IngressPair where
  video : IngressSocket
  audio : IngressSocket
deriving Repr, DecidableEq

def IngressPair.ports (pair : IngressPair) : Ports := ⟨pair.video.port, pair.audio.port⟩

namespace Ingress

/-- What the operating system answers in the steps of one allocation. -/
structure Answers where
  /-- The port on which the video socket is bound. -/
  videoBind : Except SocketFault Nat
  audioBind : Except SocketFault Nat
  videoQuery : Except SocketFault Unit
  audioQuery : Except SocketFault Unit

/-- Binds a socket; its port joins the open ones. -/
def bind (kind : MediaKind) (answer : Except SocketFault Nat) (inUse : List Nat) :
    Except BindFault IngressSocket × List Nat :=
  match answer with
  | .ok port => (.ok ⟨kind, port⟩, port :: inUse)
  | .error cause => (.error ⟨kind, cause⟩, inUse)

def close (socket : IngressSocket) (inUse : List Nat) : List Nat := inUse.erase socket.port

/-- Closes the sockets of a pair, the first one last. -/
def closePair (pair : IngressPair) (inUse : List Nat) : List Nat :=
  close pair.video (close pair.audio inUse)

/-- Asks a socket for its port. -/
def query (socket : IngressSocket) (answer : Except SocketFault Unit) : Except BindFault Unit :=
  match answer with
  | .ok () => .ok ()
  | .error cause => .error ⟨socket.kind, cause⟩

/-- Binds both sockets and asks for their ports; what fails leaves nothing open. -/
def allocate (answers : Answers) (inUse : List Nat) : Except BindFault IngressPair × List Nat :=
  match bind .video answers.videoBind inUse with
  | (.error fault, inUse) => (.error fault, inUse)
  | (.ok video, inUse) =>
    match bind .audio answers.audioBind inUse with
    | (.error fault, inUse) => (.error fault, close video inUse)
    | (.ok audio, inUse) =>
      let pair : IngressPair := ⟨video, audio⟩
      match query video answers.videoQuery, query audio answers.audioQuery with
      | .error fault, _ => (.error fault, closePair pair inUse)
      | .ok (), .error fault => (.error fault, closePair pair inUse)
      | .ok (), .ok () => (.ok pair, inUse)

-- ---------------------------------------------------------------------------
-- An operating system
-- ---------------------------------------------------------------------------

/-- That each socket that is bound is given a port which is not zero and not open. -/
def Answers.AreFresh (answers : Answers) (inUse : List Nat) : Prop :=
  ∀ video ∈ answers.videoBind.toOption, (video ≠ 0 ∧ video ∉ inUse) ∧
    ∀ audio ∈ answers.audioBind.toOption, audio ≠ 0 ∧ audio ∉ video :: inUse

instance (answers : Answers) (inUse : List Nat) : Decidable (answers.AreFresh inUse) :=
  inferInstanceAs (Decidable (∀ video ∈ answers.videoBind.toOption, _ ∧
    ∀ audio ∈ answers.audioBind.toOption, _))

/-- A port above all that are open, from the range for passing use. -/
def freshPort (inUse : List Nat) : Nat := inUse.foldl max 49151 + 1

theorem foldl_max_ge (inUse : List Nat) (start : Nat) : start ≤ inUse.foldl max start := by
  induction inUse generalizing start with
  | nil => exact Nat.le_refl _
  | cons p rest ih => exact Nat.le_trans (Nat.le_max_left start p) (ih _)

theorem le_foldl_max {inUse : List Nat} {p : Nat} (h : p ∈ inUse) (start : Nat) :
    p ≤ inUse.foldl max start := by
  induction inUse generalizing start with
  | nil => cases h
  | cons q rest ih =>
    cases h with
    | head => exact Nat.le_trans (Nat.le_max_right start p) (foldl_max_ge rest _)
    | tail _ h => exact ih h _

theorem freshPort_notMem (inUse : List Nat) : freshPort inUse ∉ inUse := fun h =>
  Nat.not_succ_le_self _ (le_foldl_max h 49151)

/-- What a system answers to a bind that comes after so many others, if its budget is the number of
sockets that it lets be opened; without a budget there is no such bound. -/
def bindAfter (budget : Option Nat) (bound : Nat) (inUse : List Nat) : Except SocketFault Nat :=
  if budget.all (bound < ·) then .ok (freshPort inUse) else .error .tooManyOpenFiles

theorem eq_freshPort_of_bindAfter {budget : Option Nat} {bound port : Nat} {inUse : List Nat}
    (h : port ∈ (bindAfter budget bound inUse).toOption) : port = freshPort inUse := by
  unfold bindAfter at h
  split at h
  · exact (Option.some.inj h).symm
  · cases h

/-- The answers of such a system in one allocation. -/
def answers (budget : Option Nat) (inUse : List Nat) : Answers :=
  ⟨bindAfter budget 0 inUse, bindAfter budget 1 (freshPort inUse :: inUse), .ok (), .ok ()⟩

/-- The ports that it gives out are fresh. -/
theorem areFresh_answers (budget : Option Nat) (inUse : List Nat) :
    (answers budget inUse).AreFresh inUse := by
  intro video hvideo
  obtain rfl := eq_freshPort_of_bindAfter hvideo
  refine ⟨⟨Nat.succ_ne_zero _, freshPort_notMem inUse⟩, fun audio haudio => ?_⟩
  obtain rfl := eq_freshPort_of_bindAfter haudio
  exact ⟨Nat.succ_ne_zero _, freshPort_notMem _⟩

end Ingress

end RtpBridge

-- SUMMARY: A pair of ingress sockets is allocated whole or not at all.
import RtpBridge.Proofs.Session.Inquest
import RtpBridge.Proofs.Session.Ports

/-!
# Allocating a pair of sockets: laws

An allocation asks for four things in turn, and the first that is refused is the fault that it
ends with (`Ingress.Answers.firstFault?`). Whatever was open by then is closed again; if nothing
is refused, two sockets are open that were not before (`Ingress.AllOrNothing`).
-/

namespace RtpBridge.Ingress

variable {answers : Answers} {inUse : List Nat}

/-! ## What is refused -/

def cause? {α : Type} : Except SocketFault α → Option SocketFault
  | .ok _ => none
  | .error cause => some cause

/-- The steps of an allocation in their order: the kind of socket that each is about, and why it
is refused, if it is. -/
def Answers.steps (answers : Answers) : List (MediaKind × Option SocketFault) :=
  [(.video, cause? answers.videoBind), (.audio, cause? answers.audioBind),
    (.video, cause? answers.videoQuery), (.audio, cause? answers.audioQuery)]

/-- The fault of the first step that is refused. -/
def Answers.firstFault? (answers : Answers) : Option BindFault :=
  answers.steps.findSome? fun (kind, cause?) => cause?.map fun cause => ⟨kind, cause⟩

theorem allocate_of_firstFault? {fault : BindFault} (h : answers.firstFault? = some fault)
    (inUse : List Nat) : (allocate answers inUse).1 = .error fault := by
  obtain ⟨videoBind, audioBind, videoQuery, audioQuery⟩ := answers
  cases videoBind with
  | error cause => exact congrArg Except.error (Option.some.inj h)
  | ok video =>
    cases audioBind with
    | error cause => exact congrArg Except.error (Option.some.inj h)
    | ok audio =>
      cases videoQuery with
      | error cause => exact congrArg Except.error (Option.some.inj h)
      | ok _ =>
        cases audioQuery with
        | error cause => exact congrArg Except.error (Option.some.inj h)
        | ok _ => cases h

/-- If nothing is refused, the sockets are those of the ports that were bound. -/
theorem allocate_of_firstFault?_eq_none (h : answers.firstFault? = none) (inUse : List Nat) :
    ∃ video audio, answers.videoBind = .ok video ∧ answers.audioBind = .ok audio ∧
      allocate answers inUse =
        (.ok ⟨⟨.video, video⟩, ⟨.audio, audio⟩⟩, audio :: video :: inUse) := by
  obtain ⟨videoBind, audioBind, videoQuery, audioQuery⟩ := answers
  cases videoBind with
  | error cause => cases h
  | ok video =>
    cases audioBind with
    | error cause => cases h
    | ok audio =>
      cases videoQuery with
      | error cause => cases h
      | ok _ =>
        cases audioQuery with
        | error cause => cases h
        | ok _ => exact ⟨video, audio, rfl, rfl, rfl⟩

/-- The pair that is had, or the fault, does not depend on what else is open. -/
theorem fst_allocate (answers : Answers) (inUse other : List Nat) :
    (allocate answers inUse).1 = (allocate answers other).1 := by
  cases h : answers.firstFault? with
  | some fault => rw [allocate_of_firstFault? h, allocate_of_firstFault? h]
  | none =>
    obtain ⟨video, audio, hvideo, haudio, hinUse⟩ := allocate_of_firstFault?_eq_none h inUse
    obtain ⟨video', audio', hvideo', haudio', hother⟩ := allocate_of_firstFault?_eq_none h other
    cases hvideo.symm.trans hvideo'
    cases haudio.symm.trans haudio'
    rw [hinUse, hother]

/-! ## All or nothing -/

/-- That two sockets are open beside those that were, and that the pair is these two. -/
structure Opens (answers : Answers) (inUse : List Nat) (pair : IngressPair) (after : List Nat) :
    Prop where
  opened : after = pair.audio.port :: pair.video.port :: inUse
  kinds : pair.IsProper
  /-- The reported ports are those that were bound for each kind. -/
  reports : answers.videoBind = .ok pair.ports.video ∧ answers.audioBind = .ok pair.ports.audio
  sockets : pair.ports = ⟨pair.video.port, pair.audio.port⟩
  nonzero : pair.video.port ≠ 0 ∧ pair.audio.port ≠ 0
  distinct : pair.video.port ≠ pair.audio.port
  fresh : pair.video.port ∉ inUse ∧ pair.audio.port ∉ inUse

/-- That an allocation leaves open what was open and names the step that was refused, or that
nothing was refused and it has opened a pair. -/
structure AllOrNothing (answers : Answers) (inUse : List Nat) : Prop where
  fails : ∀ fault after, allocate answers inUse = (.error fault, after) →
    after = inUse ∧ answers.firstFault? = some fault
  succeeds : ∀ pair after, allocate answers inUse = (.ok pair, after) →
    answers.firstFault? = none ∧ Opens answers inUse pair after

theorem allOrNothing (h : answers.AreFresh inUse) : AllOrNothing answers inUse := by
  cases hfault : answers.firstFault? with
  | some first =>
    have hall := allocate_of_error (allocate_of_firstFault? hfault inUse)
    refine ⟨fun fault after hfails => ?_, fun pair after hok => ?_⟩
    · cases hall.symm.trans hfails
      exact ⟨rfl, hfault⟩
    · cases hall.symm.trans hok
  | none =>
    obtain ⟨video, audio, hvideo, haudio, hall⟩ := allocate_of_firstFault?_eq_none hfault inUse
    obtain ⟨⟨hvideoZero, hvideoFresh⟩, hfresh⟩ := h video (by rw [hvideo]; rfl)
    obtain ⟨haudioZero, haudioFresh⟩ := hfresh audio (by rw [haudio]; rfl)
    rw [List.mem_cons, not_or] at haudioFresh
    refine ⟨fun fault after hfails => ?_, fun pair after hok => ?_⟩
    · cases hall.symm.trans hfails
    · cases hall.symm.trans hok
      exact ⟨hfault, rfl, ⟨rfl, rfl⟩, ⟨hvideo, haudio⟩, rfl, ⟨hvideoZero, haudioZero⟩,
        fun heq => haudioFresh.1 heq.symm, hvideoFresh, haudioFresh.2⟩

end RtpBridge.Ingress

-- SUMMARY: Whatever ends a run, when it returns nothing of the session is left alive.
import RtpBridge.Proofs.Session.Ports

/-!
# The end of a run

When a run has returned, all of the owner's work is done: nothing is bound, reads, writes or
is called back any more, and a run without ports has said so (`Session.returned_isOver`).
-/

namespace RtpBridge.Session

variable {s : Session}

/-! ## When a run has returned -/

/-- That nothing of a session is left alive. -/
structure IsOver (s : Session) : Prop where
  lifecycle : s.lifecycle = .terminated
  stop : s.stop.isTriggered
  input : s.input.callback = none
  sockets : s.openSockets = []
  connection : s.isConnectionOpen = false
  pumps : ∀ relay, s.relay = some relay → ∀ link ∈ relay.links, link.pump.ending?.isSome
  feedback : ∀ relay, s.relay = some relay → ∀ link ∈ relay.links,
    link.feedback.ending?.isSome ∨ link.feedback.phase = .aborted

/-- What is left behind by a teardown that has all of its work done. -/
theorem Orderly.isOver (h : s.Orderly) {result : Except Error Unit}
    (hcontrol : s.control = .returned result) : s.IsOver := by
  have hplace := h.place
  rw [hcontrol] at hplace
  obtain ⟨hlifecycle, hstop, hinput, hjoined, hclosed, hsinks⟩ := hplace
  have hpumps (relay) (hrelay : s.relay = some relay) (link) (hlink : link ∈ relay.links) :
      link.pump.ending?.isSome := by
    obtain ⟨i, hi⟩ := List.mem_iff_getElem?.1 hlink
    obtain ⟨ending, hending, -⟩ :=
      (h.accounts relay hrelay).ending? (hjoined relay hrelay) hi
    rw [hending]
    rfl
  refine ⟨hlifecycle, hstop, hinput, ?_, hclosed, hpumps, fun relay hrelay link hlink => ?_⟩
  · simp only [openSockets, hcontrol, Control.pair?]
    split
    · next heq => cases heq
    · next relay _ hrelay =>
      refine List.map_eq_nil_iff.2 (List.filter_eq_nil_iff.2 fun link hlink => ?_)
      obtain ⟨ending, hending⟩ := Option.isSome_iff_exists.1 (hpumps relay hrelay link hlink)
      rw [Link.isOpen, hending]
      exact Bool.false_ne_true
    · rfl
  · obtain ⟨i, hi⟩ := List.mem_iff_getElem?.1 hlink
    exact FeedbackSink.ended_or_aborted
      ((h.accounts relay hrelay).not_reading (hsinks relay hrelay) hi)

/-- Whatever happens on the way: when a run has returned, nothing of the session is left alive. If
it could not have its ports, it says so, what was open of them is closed again, and it never had
a relay or a port to tell. -/
theorem returned_isOver (id : String) (config : Config) (tracks : MediaKind → Sink)
    (schedule : List Action) {result : Except Error Unit}
    (h : (run { new id config with tracks } schedule).1.control = .returned result) :
    (run { new id config with tracks } schedule).1.IsOver ∧
    ∀ answers fault, AsksInVain { new id config with tracks } schedule answers fault →
      result = .error (.bind fault) ∧ Ingress.allocate answers [] = (.error fault, []) ∧
      (run { new id config with tracks } schedule).1.relay = none ∧
      (run { new id config with tracks } schedule).1.reported = none ∧
      .launched ∉ (run { new id config with tracks } schedule).2 ∧
      ∀ ports, .portsReported ports ∉ (run { new id config with tracks } schedule).2 := by
  have horderly := orderly_new id config tracks
  refine ⟨(horderly.run schedule).isOver h, fun answers fault hvain => ?_⟩
  have hnew : PortsSeen { new id config with tracks } [] :=
    ⟨fun _ => ⟨rfl, rfl, rfl⟩, nofun, nofun⟩
  have hseen := hnew.run horderly schedule
  rw [List.nil_append] at hseen
  have hfault := hseen.failed fault hvain.bindFailed_mem
  obtain ⟨hrelay, hreported, hports⟩ := hseen.without fault hfault
  have honly {event : Event} (hevent : event.isAboutPorts) (hne : event ≠ .bindFailed fault) :
      event ∉ (run { new id config with tracks } schedule).2 := fun hmem => by
    have hmem := List.mem_filter.2 ⟨hmem, hevent⟩
    rw [hports] at hmem
    exact hne (List.mem_singleton.1 hmem)
  refine ⟨?_, ?_, hrelay, hreported, honly rfl nofun, fun ports => honly rfl nofun⟩
  · rw [h] at hfault
    unfold Control.bindFault? at hfault
    split at hfault
    · next heq => cases heq
    · next heq => cases heq
    · next heq =>
      cases heq
      cases hfault
      rfl
    · cases hfault
  · obtain ⟨_, _, _, _, -, -, hallocate⟩ := hvain
    exact Ingress.allocate_of_error hallocate

/-- A system on which only one more socket can be opened. -/
def oneSocket : Ingress.Answers := ⟨.ok 5000, .error .tooManyOpenFiles, .ok (), .ok ()⟩

/-- A run without a port for audio, from its call to its return. -/
def denied : List Action := .run ⟨true, some 0⟩ :: List.replicate 5 (.advance oneSocket false)

theorem returned_isOver_denied :
    (run (new "s" .default) denied).1.control =
        .returned (.error (.bind ⟨.audio, .tooManyOpenFiles⟩)) ∧
      AsksInVain (new "s" .default) denied oneSocket ⟨.audio, .tooManyOpenFiles⟩ ∧
      (run (new "s" .default) denied).1.IsOver ∧
      (run (new "s" .default) denied).1.reported = none := by
  have hreturned : (run (new "s" .default) denied).1.control =
      .returned (.error (.bind ⟨.audio, .tooManyOpenFiles⟩)) := rfl
  have hvain : AsksInVain (new "s" .default) denied oneSocket ⟨.audio, .tooManyOpenFiles⟩ :=
    ⟨[.run ⟨true, some 0⟩], false, List.replicate 4 (.advance oneSocket false), ⟨true, some 0⟩,
      rfl, rfl, rfl⟩
  obtain ⟨hover, hunbound⟩ :=
    returned_isOver "s" .default (fun _ => unboundTrack) denied hreturned
  obtain ⟨-, -, -, hreported, -⟩ := hunbound oneSocket _ hvain
  exact ⟨hreturned, hvain, hover, hreported⟩

/-- A run that is stopped returns although its feedback sinks are stuck: they are aborted. -/
example :
    let next : Action := .advance ⟨.ok 5000, .ok 5001, .ok (), .ok ()⟩ true
    (run (new "s" .default) ([.run ⟨true, some 0⟩, next, next, next, next, .stop, next, next, next,
      .pump .video, .pump .video, .pump .audio, .pump .audio] ++ List.replicate 8 next)).1.control =
      .returned (.ok ()) := rfl

end RtpBridge.Session

-- SUMMARY: What is seen of the ports of a session, and what comes of a run that could not have them.
import RtpBridge.Proofs.Session.Order

/-!
# Ports of a session

The owner asks for its ports once. If it is left with a fault, the fault stays with it until
the run returns, and all that is ever seen of the ports is that they could not be bound
(`Session.PortsSeen`).
-/

namespace RtpBridge

/-- An allocation that fails leaves open what was open before. -/
theorem Ingress.allocate_of_error {answers : Answers} {inUse : List Nat} {fault : BindFault}
    (h : (allocate answers inUse).1 = .error fault) :
    allocate answers inUse = (.error fault, inUse) := by
  refine Prod.ext h ?_
  simp only [allocate] at h ⊢
  cases hvideo : answers.videoBind with
  | error cause => rfl
  | ok video =>
    cases haudio : answers.audioBind with
    | error cause => exact List.erase_cons_head ..
    | ok audio =>
      have hclosed : closePair ⟨⟨.video, video⟩, ⟨.audio, audio⟩⟩ (audio :: video :: inUse) =
          inUse := by
        simp only [closePair, close, List.erase_cons_head]
      simp only [bind, hvideo, haudio] at h ⊢
      split at h
      · exact hclosed
      · exact hclosed
      · cases h

namespace Session

variable {s after : Session} {seen events : List Event}

/-! ## What is seen of the ports -/

/-- What is seen of the ports and of what depends on them. -/
def Event.isAboutPorts : Event → Bool
  | .bindFailed _ | .portsReported _ | .launched => true
  | _ => false

/-- Whether the owner has asked for the ports. -/
def Control.hasAsked : Control → Bool
  | .unowned | .binding _ => false
  | _ => true

/-- The fault that keeps the owner from the ports. -/
def Control.bindFault? : Control → Option BindFault
  | .abandoning fault => some fault
  | .tearingDown _ fault => fault
  | .returned (.error (.bind fault)) => some fault
  | _ => none

/-- That what was seen of the ports, and what came of them, is as the owner's place says. -/
structure PortsSeen (s : Session) (seen : List Event) : Prop where
  before : s.control.hasAsked = false →
    s.relay = none ∧ s.reported = none ∧ seen.filter Event.isAboutPorts = []
  without : ∀ fault, s.control.bindFault? = some fault →
    s.relay = none ∧ s.reported = none ∧ seen.filter Event.isAboutPorts = [.bindFailed fault]
  failed : ∀ fault, .bindFailed fault ∈ seen → s.control.bindFault? = some fault

theorem bindFailed_notMem (h : events.filter Event.isAboutPorts = []) (fault : BindFault) :
    .bindFailed fault ∉ events := fun hmem =>
  List.filter_eq_nil_iff.1 h _ hmem rfl

theorem bindFault?_returned (s : Session) (fault : Option BindFault) :
    (Control.returned (s.result fault)).bindFault? = fault := by
  cases fault with
  | some fault => rfl
  | none =>
    simp only [result]
    split <;> rfl

/-- A step of which nothing about the ports is seen, and which brings no relay. -/
theorem PortsSeen.of_silent (h : s.PortsSeen seen)
    (hevents : events.filter Event.isAboutPorts = [])
    (hasked : s.control.hasAsked → after.control.hasAsked)
    (hfault : after.control.bindFault? = s.control.bindFault?)
    (hrelay : s.relay = none → after.relay = none) (hreported : after.reported = s.reported) :
    after.PortsSeen (seen ++ events) where
  before hafter := by
    have hbefore : s.control.hasAsked = false :=
      Bool.eq_false_iff.2 fun hs => Bool.eq_false_iff.1 hafter (hasked hs)
    obtain ⟨hnone, hunreported, hseen⟩ := h.before hbefore
    rw [List.filter_append, hseen, hevents, hreported]
    exact ⟨hrelay hnone, hunreported, rfl⟩
  without fault hafter := by
    obtain ⟨hnone, hunreported, hseen⟩ := h.without fault (hfault ▸ hafter)
    rw [List.filter_append, hseen, hevents, hreported]
    exact ⟨hrelay hnone, hunreported, rfl⟩
  failed fault hmem := by
    rw [hfault]
    rcases List.mem_append.1 hmem with hmem | hmem
    · exact h.failed fault hmem
    · exact absurd hmem (bindFailed_notMem hevents fault)

/-- A step of an owner that has its ports. -/
theorem PortsSeen.of_bound (h : s.PortsSeen seen) (hnone : s.control.bindFault? = none)
    (hevents : ∀ fault, .bindFailed fault ∉ events) (hasked : after.control.hasAsked)
    (hfault : after.control.bindFault? = none) : after.PortsSeen (seen ++ events) where
  before hafter := by
    rw [hasked] at hafter
    cases hafter
  without fault hafter := by
    rw [hfault] at hafter
    cases hafter
  failed fault hmem := by
    rcases List.mem_append.1 hmem with hmem | hmem
    · exact nomatch hnone.symm.trans (h.failed fault hmem)
    · exact absurd hmem (hevents fault)

theorem filter_isAboutPorts_map {α : Type} {f : α → Event} {items : List α}
    (h : ∀ item, (f item).isAboutPorts = false) :
    (items.map f).filter Event.isAboutPorts = [] := by
  refine List.filter_eq_nil_iff.2 fun event hevent => ?_
  obtain ⟨item, -, rfl⟩ := List.mem_map.1 hevent
  rw [h]
  exact Bool.false_ne_true

theorem filter_isAboutPorts_pumpEvents (kind : MediaKind) (before after : ForwardPump) :
    (pumpEvents kind before after).filter Event.isAboutPorts = [] := by
  unfold pumpEvents
  rw [List.filter_append, filter_isAboutPorts_map fun _ => rfl]
  split
  · exact filter_isAboutPorts_map fun _ => rfl
  · rfl

/-- Only the owner has to do with the ports. -/
theorem filter_isAboutPorts_step (s : Session) {action : Action}
    (h : ∀ answers isGraceOver, action ≠ .advance answers isGraceOver) :
    (s.step action).2.filter Event.isAboutPorts = [] := by
  cases action with
  | advance answers isGraceOver => exact absurd rfl (h answers isGraceOver)
  | run callbacks =>
    simp only [step, beginRun]
    split <;> rfl
  | closeIfIdle =>
    simp only [step, beginClose]
    split <;> rfl
  | stop | connectionFailed =>
    simp only [step, triggerStop]
    split <;> rfl
  | arrive | feedback => rfl
  | pump kind =>
    simp only [step, pump]
    split
    · rfl
    · next relay _ =>
      have hstop (stop : StopLatch) : (if s.stop = stop then []
          else [Event.stopTriggered (.pump kind)]).filter Event.isAboutPorts = [] := by
        split <;> rfl
      rw [List.filter_append, hstop]
      split
      · rw [filter_isAboutPorts_pumpEvents]
        rfl
      · rfl
  | message octets =>
    simp only [step, InputSink.snd_deliver]
    cases s.input.callback <;> rfl

/-- The ports are behind the owner when it tears down. -/
theorem PortsSeen.tearDown {stage : Teardown} {fault : Option BindFault} (h : s.PortsSeen seen)
    (hcontrol : s.control = .tearingDown stage fault) (isGraceOver : Bool) :
    (s.tearDown stage fault isGraceOver).1.PortsSeen
      (seen ++ (s.tearDown stage fault isGraceOver).2) := by
  have hfault : s.control.bindFault? = fault := by rw [hcontrol]; rfl
  have hsome {relay : Relay} (hrelay : s.relay = some relay) : s.relay ≠ none := by
    rw [hrelay]
    exact Option.some_ne_none relay
  unfold Session.tearDown
  split
  · exact h.of_silent rfl (fun _ => rfl) hfault.symm (fun h => h) rfl
  · next relay hrelay =>
    exact h.of_silent rfl (fun _ => rfl) hfault.symm (fun hnone => absurd hnone (hsome hrelay)) rfl
  · next relay hrelay =>
    split
    · exact h.of_silent rfl (fun _ => rfl) hfault.symm (fun h => h) rfl
    · split
      · exact h.of_silent (filter_isAboutPorts_map fun _ => rfl) (fun h => h) rfl
          (fun hnone => absurd hnone (hsome hrelay)) rfl
      · exact h.of_silent rfl (fun h => h) rfl (fun h => h) rfl
  · exact h.of_silent rfl (fun _ => rfl) hfault.symm (fun h => h) rfl
  · exact h.of_silent rfl (fun _ => rfl) hfault.symm (fun h => h) rfl
  · exact h.of_silent rfl (fun _ => rfl) hfault.symm (fun h => h) rfl
  · next relay hrelay =>
    split
    · exact h.of_silent rfl (fun _ => rfl) hfault.symm (fun h => h) rfl
    · split
      · exact h.of_silent (filter_isAboutPorts_map fun _ => rfl) (fun h => h) rfl
          (fun hnone => absurd hnone (hsome hrelay)) rfl
      · exact h.of_silent rfl (fun h => h) rfl (fun h => h) rfl
  · exact h.of_silent rfl (fun _ => rfl) hfault.symm (fun h => h) rfl
  · have hreturned : (Control.returned (s.result fault)).bindFault? = s.control.bindFault? :=
      (s.bindFault?_returned fault).trans hfault.symm
    exact h.of_silent rfl (fun _ => rfl) hreturned (fun h => h) rfl

theorem PortsSeen.advance (h : s.PortsSeen seen) (answers : Ingress.Answers) (isGraceOver : Bool) :
    (s.advance answers isGraceOver).1.PortsSeen (seen ++ (s.advance answers isGraceOver).2) := by
  cases hcontrol : s.control with
  | unowned | returned | closed =>
    simp only [Session.advance, hcontrol]
    exact h.of_silent rfl (fun h => h) rfl (fun h => h) rfl
  | binding callbacks =>
    have hfault : s.control.bindFault? = none := by rw [hcontrol]; rfl
    obtain ⟨hrelay, hreported, hseen⟩ := h.before (by rw [hcontrol]; rfl)
    simp only [Session.advance, hcontrol]
    split
    · exact h.of_bound hfault (fun fault => by simp) rfl rfl
    · next fault _ =>
      have hafter : (seen ++ [Event.bindFailed fault]).filter Event.isAboutPorts =
          [.bindFailed fault] := by
        rw [List.filter_append, hseen]
        rfl
      refine ⟨fun hasked => ?_, fun fault' h => ?_, fun fault' hmem => ?_⟩
      · cases hasked
      · cases h
        exact ⟨hrelay, hreported, hafter⟩
      · rcases List.mem_append.1 hmem with hmem | hmem
        · exact absurd hmem (bindFailed_notMem hseen fault')
        · cases List.mem_singleton.1 hmem
          rfl
  | abandoning fault =>
    have hfault : s.control.bindFault? = some fault := by rw [hcontrol]; rfl
    simp only [Session.advance, hcontrol, triggerStop]
    refine h.of_silent ?_ (fun _ => rfl) hfault.symm (fun h => h) rfl
    split <;> rfl
  | reporting pair callbacks =>
    have hfault : s.control.bindFault? = none := by rw [hcontrol]; rfl
    simp only [Session.advance, hcontrol, report]
    split <;> exact h.of_bound hfault (fun fault => by simp) rfl rfl
  | installing pair input =>
    have hfault : s.control.bindFault? = none := by rw [hcontrol]; rfl
    simp only [Session.advance, hcontrol, install]
    split <;> exact h.of_bound hfault (fun fault => by simp) rfl rfl
  | launching pair =>
    have hfault : s.control.bindFault? = none := by rw [hcontrol]; rfl
    simp only [Session.advance, hcontrol]
    exact h.of_bound hfault (fun fault => by simp [launch]) rfl rfl
  | parked =>
    have hfault : s.control.bindFault? = none := by rw [hcontrol]; rfl
    simp only [Session.advance, hcontrol]
    split
    · exact h.of_silent rfl (fun _ => rfl) hfault.symm (fun h => h) rfl
    · exact h.of_silent rfl (fun h => h) rfl (fun h => h) rfl
  | tearingDown stage fault =>
    simp only [Session.advance, hcontrol]
    exact h.tearDown hcontrol isGraceOver
  | closing stage =>
    have hfault : s.control.bindFault? = none := by rw [hcontrol]; rfl
    simp only [Session.advance, hcontrol]
    cases stage with
    | trigger =>
      simp only [stepClosing, triggerStop]
      refine h.of_silent ?_ (fun _ => rfl) hfault.symm (fun h => h) rfl
      split <;> rfl
    | clearInput | closeConnection => exact h.of_silent rfl (fun _ => rfl) hfault.symm (fun h => h) rfl

theorem PortsSeen.step (h : s.PortsSeen seen) (horderly : s.Orderly) (action : Action) :
    (s.step action).1.PortsSeen (seen ++ (s.step action).2) := by
  rcases s.step_cases action with ⟨callbacks, rfl, hidle⟩ | ⟨rfl, hidle⟩ |
    ⟨answers, isGraceOver, rfl⟩ | hleaves
  · have hcontrol := horderly.unowned_of_idle hidle
    simp only [Session.step, beginRun, hidle, if_true]
    have hasked : ¬s.control.hasAsked := by
      rw [hcontrol]
      exact Bool.false_ne_true
    exact h.of_silent rfl (fun hs => absurd hs hasked) (by rw [hcontrol]; rfl) (fun h => h) rfl
  · have hcontrol := horderly.unowned_of_idle hidle
    simp only [Session.step, beginClose, hidle, if_true]
    exact h.of_silent rfl (fun _ => rfl) (by rw [hcontrol]; rfl) (fun h => h) rfl
  · exact h.advance answers isGraceOver
  · by_cases hown : ∃ answers isGraceOver, action = .advance answers isGraceOver
    · obtain ⟨answers, isGraceOver, rfl⟩ := hown
      exact h.advance answers isGraceOver
    · have hevents := s.filter_isAboutPorts_step fun answers isGraceOver heq =>
        hown ⟨answers, isGraceOver, heq⟩
      exact h.of_silent hevents (fun hasked => by rw [hleaves.control, hasked]) (by rw [hleaves.control])
        hleaves.relay_eq_none hleaves.reported

theorem PortsSeen.run (h : s.PortsSeen seen) (horderly : s.Orderly) (schedule : List Action) :
    (s.run schedule).1.PortsSeen (seen ++ (s.run schedule).2) := by
  induction schedule generalizing s seen with
  | nil =>
    rw [run_nil, List.append_nil]
    exact h
  | cons action rest ih =>
    rw [fst_run_cons, snd_run_cons, ← List.append_assoc]
    exact ih (h.step horderly action) (horderly.step action)

/-- That the owner asks for its ports, gets these answers and is left with a fault. -/
def AsksInVain (s : Session) (schedule : List Action) (answers : Ingress.Answers)
    (fault : BindFault) : Prop :=
  ∃ before isGraceOver after callbacks,
    schedule = before ++ .advance answers isGraceOver :: after ∧
      (s.run before).1.control = .binding callbacks ∧
      (Ingress.allocate answers []).1 = .error fault

theorem AsksInVain.bindFailed_mem {schedule : List Action} {answers : Ingress.Answers}
    {fault : BindFault} (h : s.AsksInVain schedule answers fault) :
    .bindFailed fault ∈ (s.run schedule).2 := by
  obtain ⟨before, isGraceOver, after, callbacks, rfl, hcontrol, hfault⟩ := h
  have hstep : ((s.run before).1.step (.advance answers isGraceOver)).2 = [.bindFailed fault] := by
    simp only [Session.step, Session.advance, hcontrol, hfault]
  rw [run_append, snd_run_cons, hstep]
  exact List.mem_append_right _ List.mem_cons_self

end Session

end RtpBridge

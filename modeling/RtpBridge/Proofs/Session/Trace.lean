-- SUMMARY: The order in which things are seen in a run, whatever goes on side by side in it.
import RtpBridge.Proofs.Session.Chronicle

/-!
# The order of events

Five tasks work on a running session: its owner, two forward pumps and two feedback sinks. What
they do is seen in an order that does not depend on how they take turns: each event is due when
it is seen (`Session.InOrder`). What each step shows is due by the session's chronicle, and so is
all that a run shows (`Session.run_inOrder`).
-/

namespace RtpBridge.Session

variable {wantsPorts : Bool} {s : Session} {seen events first rest : List Event} {event : Event}

/-! ## Events in their turn -/

/-- Whether an event only tells a caller that the session is taken. -/
def Event.isRefusal : Event → Bool
  | .runIgnored | .closeRefused => true
  | _ => false

/-- What must have been seen by the time that an event is seen, and what must not. -/
def Event.Follows (wantsPorts : Bool) (seen : List Event) : Event → Prop
  | .portsReported _ => wantsPorts ∧ ∀ ports, .portsReported ports ∉ seen
  | .inputDelivered .. => PortsAreKnown wantsPorts seen
  | .sampleWritten .. => PortsAreKnown wantsPorts seen ∧
    seen.countP Event.isPumpJoined < 2 ∧ .connectionClosed ∉ seen
  | .closeFlagRaised => .inputCleared ∈ seen
  | .connectionClosed => .launched ∈ seen → ∀ kind, ∃ ending, .pumpEnded kind ending ∈ seen
  | .sinkJoined _ | .terminated => .connectionClosed ∈ seen
  | _ => True

/-- That an event comes in its turn. Nothing but refusals comes after the end. -/
def Event.IsDue (wantsPorts : Bool) (seen : List Event) (event : Event) : Prop :=
  (.terminated ∈ seen → event.isRefusal) ∧ event.Follows wantsPorts seen

/-- That events which follow on others are due one after the other. -/
def InOrder (wantsPorts : Bool) (seen : List Event) : List Event → Prop
  | [] => True
  | event :: rest => event.IsDue wantsPorts seen ∧ InOrder wantsPorts (seen ++ [event]) rest

theorem InOrder.append (hfirst : InOrder wantsPorts seen first)
    (hrest : InOrder wantsPorts (seen ++ first) rest) :
    InOrder wantsPorts seen (first ++ rest) := by
  induction first generalizing seen with
  | nil => exact List.append_nil seen ▸ hrest
  | cons event first ih =>
    refine ⟨hfirst.1, ih hfirst.2 ?_⟩
    rw [List.append_assoc]
    exact hrest

theorem inOrder_singleton (hrunning : .terminated ∉ seen) (h : event.Follows wantsPorts seen) :
    InOrder wantsPorts seen [event] :=
  ⟨⟨fun hmem => absurd hmem hrunning, h⟩, trivial⟩

/-- Events are in order if each is due no matter which of the others came before it. -/
theorem inOrder_of_forall (h : ∀ event ∈ events, ∀ before, (∀ e ∈ before, e ∈ events) →
    event.IsDue wantsPorts (seen ++ before)) : InOrder wantsPorts seen events := by
  induction events generalizing seen with
  | nil => trivial
  | cons event rest ih =>
    refine ⟨?_, ih fun later hlater before hbefore => ?_⟩
    · rw [← List.append_nil seen]
      exact h event List.mem_cons_self [] fun _ he => absurd he List.not_mem_nil
    · rw [List.append_assoc]
      refine h later (List.mem_cons_of_mem event hlater) _ fun e he => ?_
      rcases List.mem_cons.1 he with rfl | he
      · exact List.mem_cons_self
      · exact List.mem_cons_of_mem event (hbefore e he)

/-! ## What is due at each place -/

theorem Chronicle.inOrder_triggerStop (h : Chronicle wantsPorts s seen) (stopper : Stopper) :
    InOrder wantsPorts seen (s.triggerStop stopper).2 := by
  simp only [triggerStop, s.stop.fst_trigger]
  split
  · next harmed =>
    refine ⟨⟨fun hmem => ?_, trivial⟩, trivial⟩
    rw [(h.isTornDown hmem).1] at harmed
    cases harmed
  · trivial

theorem Chronicle.inOrder_tearDown {stage : Teardown} {fault : Option BindFault}
    (h : Chronicle wantsPorts s seen) (hcontrol : s.control = .tearingDown stage fault)
    (isGraceOver : Bool) : InOrder wantsPorts seen (s.tearDown stage fault isGraceOver).2 := by
  have hplaced := h.placed
  have hplace := h.orderly.place
  rw [hcontrol] at hplaced hplace
  have hrunning : .terminated ∉ seen := hplaced.terminated_notMem (by cases stage <;> simp)
  cases stage with
  | clearInput => exact inOrder_singleton hrunning trivial
  | raiseClose =>
    have hcleared : .inputCleared ∈ seen := hplaced.reached _ (by simp) 6 rfl (by simp)
    cases hrelay : s.relay with
    | none => simp only [tearDown, hrelay, InOrder]
    | some relay =>
      simp only [tearDown, hrelay]
      exact inOrder_singleton hrunning hcleared
  | joinPumps =>
    cases hrelay : s.relay with
    | none => simp only [tearDown, hrelay, InOrder]
    | some relay =>
      simp only [tearDown, hrelay]
      split
      · trivial
      · split
        · next hjoin =>
          obtain ⟨link, ending, -, -, rfl⟩ := Relay.joinPump?_eq_some.1 hjoin
          rw [Relay.newExits_append]
          exact inOrder_singleton hrunning trivial
        · trivial
  | closeConnection =>
    exact inOrder_singleton hrunning (h.pumpEnded_mem hplace.2.1.2.2)
  | joinSinks =>
    have hclosed : .connectionClosed ∈ seen := hplaced.reached _ (by simp) 9 rfl (by simp)
    cases hrelay : s.relay with
    | none => simp only [tearDown, hrelay, InOrder]
    | some relay =>
      simp only [tearDown, hrelay]
      split
      · trivial
      · split
        · next hjoin =>
          obtain ⟨_, exit, _, -, ⟨-, rfl⟩ | rfl⟩ := Relay.joinSink?_eq_some hjoin <;>
            rw [Relay.newExits_append] <;>
            exact inOrder_singleton hrunning hclosed
        · trivial
  | terminate =>
    have hclosed : .connectionClosed ∈ seen := hplaced.reached _ (by simp) 9 rfl (by simp)
    exact inOrder_singleton hrunning hclosed

theorem Chronicle.inOrder_advance (h : Chronicle wantsPorts s seen) (answers : Ingress.Answers)
    (isGraceOver : Bool) : InOrder wantsPorts seen (s.advance answers isGraceOver).2 := by
  have hplaced := h.placed
  cases hcontrol : s.control with
  | unowned | returned | closed =>
    simp only [Session.advance, hcontrol]
    trivial
  | binding callbacks =>
    rw [hcontrol] at hplaced
    have hrunning := hplaced.terminated_notMem (by simp)
    simp only [Session.advance, hcontrol]
    split <;> exact inOrder_singleton hrunning trivial
  | abandoning fault =>
    simp only [Session.advance, hcontrol]
    exact h.inOrder_triggerStop .owner
  | reporting pair callbacks =>
    have hwants := h.told.wants callbacks (by rw [hcontrol]; rfl)
    rw [hcontrol] at hplaced
    have hrunning := hplaced.terminated_notMem (by simp)
    have huntold (ports : Ports) : .portsReported ports ∉ seen := fun hmem =>
      absurd (hplaced.behind _ hmem 2 rfl) (Nat.lt_irrefl 2)
    simp only [Session.advance, hcontrol, report]
    split
    · next htakes =>
      exact inOrder_singleton hrunning ⟨hwants ▸ htakes, huntold⟩
    · trivial
  | installing pair input =>
    rw [hcontrol] at hplaced
    have hrunning := hplaced.terminated_notMem (by simp)
    simp only [Session.advance, hcontrol, install]
    split
    · exact inOrder_singleton hrunning trivial
    · trivial
  | launching pair =>
    rw [hcontrol] at hplaced
    have hrunning := hplaced.terminated_notMem (by simp)
    simp only [Session.advance, hcontrol]
    exact inOrder_singleton hrunning trivial
  | parked =>
    simp only [Session.advance, hcontrol]
    split <;> trivial
  | tearingDown stage fault =>
    simp only [Session.advance, hcontrol]
    exact h.inOrder_tearDown hcontrol isGraceOver
  | closing stage =>
    have hrelay := h.closing (by rw [hcontrol]; rfl)
    have hjoined : s.PumpsAreJoined := forall_relay_of_eq_none hrelay
    rw [hcontrol] at hplaced
    have hrunning := hplaced.terminated_notMem (by cases stage <;> simp)
    simp only [Session.advance, hcontrol]
    cases stage with
    | trigger => exact h.inOrder_triggerStop .owner
    | clearInput => exact inOrder_singleton hrunning trivial
    | closeConnection =>
      exact inOrder_singleton hrunning (h.pumpEnded_mem hjoined)

theorem Chronicle.inOrder_pumpEvents (h : Chronicle wantsPorts s seen) {relay : Relay}
    (hrelay : s.relay = some relay) {kind : MediaKind} {link : Link}
    (hlink : relay.links[kind.index]? = some link) : InOrder wantsPorts seen
      (pumpEvents kind link.pump (link.pumpStep relay.isClosing).pump) := by
  cases hopen : link.isOpen with
  | false =>
    obtain ⟨ending, hending⟩ := Link.not_isOpen_iff.1 hopen
    rw [Link.pumpStep_of_ended hopen, pumpEvents_of_ended hending]
    trivial
  | true =>
    obtain ⟨hrunning, hclosed, hcount⟩ := h.running_of_isOpen hrelay hlink hopen
    have hsome : s.relay ≠ none := by
      rw [hrelay]
      exact Option.some_ne_none relay
    have hknown := h.told.known (.inr (.inl hsome))
    refine inOrder_of_forall fun event hevent before hbefore => ?_
    have hplace (e : Event) (he : e ∈ before) := place?_of_mem_pumpEvents (hbefore e he)
    refine ⟨fun hmem => absurd (mem_of_place? rfl hplace hmem) hrunning, ?_⟩
    obtain ⟨sample, rfl⟩ | ⟨ending, rfl⟩ := mem_pumpEvents hevent
    · refine ⟨hknown.append before, ?_, fun hmem => hclosed (mem_of_place? rfl hplace hmem)⟩
      have hnone : before.countP Event.isPumpJoined = 0 := by
        refine List.countP_eq_zero.2 fun e he => ?_
        obtain ⟨_, rfl⟩ | ⟨_, rfl⟩ := mem_pumpEvents (hbefore e he) <;> exact Bool.false_ne_true
      rwa [List.countP_append, hnone]
    · trivial

theorem Chronicle.inOrder_pump (h : Chronicle wantsPorts s seen) (kind : MediaKind) :
    InOrder wantsPorts seen (s.pump kind).2 := by
  cases hrelay : s.relay with
  | none =>
    simp only [Session.pump, hrelay]
    trivial
  | some relay =>
    obtain ⟨link, hlink⟩ := (h.pumps.relay relay hrelay).getElem? kind
    rw [snd_pump hrelay hlink]
    refine (h.inOrder_pumpEvents hrelay hlink).append ?_
    split
    · trivial
    · next hstop =>
      refine ⟨⟨fun hmem => absurd ?_ hstop, trivial⟩, trivial⟩
      have hmem := mem_of_place? rfl (fun e he => place?_of_mem_pumpEvents he) hmem
      exact (Relay.snd_step_of_isTriggered relay (h.isTornDown hmem).1 _).symm

theorem Chronicle.inOrder_step (h : Chronicle wantsPorts s seen) (action : Action) :
    InOrder wantsPorts seen (s.step action).2 := by
  cases action with
  | advance answers isGraceOver => exact h.inOrder_advance answers isGraceOver
  | pump kind => exact h.inOrder_pump kind
  | stop | connectionFailed => exact h.inOrder_triggerStop _
  | arrive | feedback => trivial
  | run callbacks =>
    simp only [Session.step, beginRun]
    split
    · next hidle =>
      have hplaced := h.placed
      rw [h.orderly.unowned_of_idle hidle] at hplaced
      have hrunning := hplaced.terminated_notMem (by simp)
      exact inOrder_singleton hrunning trivial
    · exact ⟨⟨fun _ => rfl, trivial⟩, trivial⟩
  | closeIfIdle =>
    simp only [Session.step, beginClose]
    split
    · next hidle =>
      have hplaced := h.placed
      rw [h.orderly.unowned_of_idle hidle] at hplaced
      have hrunning := hplaced.terminated_notMem (by simp)
      exact inOrder_singleton hrunning trivial
    · exact ⟨⟨fun _ => rfl, trivial⟩, trivial⟩
  | message octets =>
    simp only [Session.step, InputSink.snd_deliver]
    cases hinput : s.input.callback with
    | none => trivial
    | some callback =>
      have hsome : s.input.callback ≠ none := by
        rw [hinput]
        exact Option.some_ne_none callback
      have hknown := h.told.known (.inr (.inr hsome))
      exact ⟨⟨fun hmem => absurd (h.isTornDown hmem).2.1 hsome, hknown⟩, trivial⟩

/-! ## Runs -/

/-- What the host gives to the run that takes the session under a schedule, if one does. -/
def takenBy? : List Action → Option Callbacks
  | [] => none
  | .run callbacks :: _ => some callbacks
  | .closeIfIdle :: _ => none
  | _ :: rest => takenBy? rest

/-- An idle session has not been taken, and whoever takes it is still to come. -/
theorem lifecycle_of_step {action : Action}
    (h : (s.step action).1.lifecycle = .idle) : s.lifecycle = .idle ∧
      ∀ rest, takenBy? (action :: rest) = takenBy? rest := by
  cases action with
  | run callbacks =>
    simp only [Session.step, beginRun] at h
    split at h
    · cases h
    · next htaken => exact absurd h htaken
  | closeIfIdle =>
    simp only [Session.step, beginClose] at h
    split at h
    · cases h
    · next htaken => exact absurd h htaken
  | advance answers isGraceOver =>
    refine ⟨?_, fun _ => rfl⟩
    rcases (lasting_advance answers isGraceOver s).1 with hkept | hended
    · exact hkept.symm.trans h
    · cases hended.symm.trans h
  | stop | message | connectionFailed => exact ⟨h, fun _ => rfl⟩
  | arrive kind arrival =>
    exact ⟨(leavesAlone_arrive kind arrival s).lifecycle.symm.trans h, fun _ => rfl⟩
  | feedback kind outcome =>
    exact ⟨(leavesAlone_feedback kind outcome s).lifecycle.symm.trans h, fun _ => rfl⟩
  | pump kind => exact ⟨(leavesAlone_pump kind s).lifecycle.symm.trans h, fun _ => rfl⟩

theorem Chronicle.run {schedule : List Action} (h : Chronicle wantsPorts s seen)
    (hwants : s.lifecycle = .idle → wantsPorts = (takenBy? schedule).any (·.takesPorts)) :
    Chronicle wantsPorts (s.run schedule).1 (seen ++ (s.run schedule).2) ∧
      InOrder wantsPorts seen (s.run schedule).2 := by
  induction schedule generalizing s seen with
  | nil =>
    rw [run_nil, List.append_nil]
    exact ⟨h, trivial⟩
  | cons action rest ih =>
    have hstep := h.step action fun callbacks haction hidle => by
      rw [haction] at hwants
      exact (hwants hidle).symm
    have hrest := ih hstep fun hidle => by
      obtain ⟨hbefore, hsame⟩ := lifecycle_of_step hidle
      rw [hwants hbefore, hsame]
    rw [fst_run_cons, snd_run_cons, ← List.append_assoc]
    exact ⟨hrest.1, (h.inOrder_step action).append hrest.2⟩

theorem chronicle_run (id : String) (config : Config) (tracks : MediaKind → Sink)
    (schedule : List Action) : Chronicle ((takenBy? schedule).any (·.takesPorts))
      (run { new id config with tracks } schedule).1
      (run { new id config with tracks } schedule).2 :=
  ((chronicle_new _ id config tracks).run fun _ => rfl).1

/-- However the tasks of a session take turns, whatever comes in and whatever fails: all that is
seen is due when it is seen. Samples are not left out of this: those that have gone to a track are
those that were seen. When the owner goes on to close the connection it has collected both pumps,
it waits for feedback only after that, and a session that ran is over just when this was seen. -/
theorem run_inOrder (id : String) (config : Config) (tracks : MediaKind → Sink)
    (schedule : List Action) :
    InOrder ((takenBy? schedule).any (·.takesPorts)) []
      (run { new id config with tracks } schedule).2 ∧
    (∀ kind, (run { new id config with tracks } schedule).1.written kind =
      samplesOf kind (run { new id config with tracks } schedule).2) ∧
    (∀ fault, (run { new id config with tracks } schedule).1.control =
        .tearingDown .closeConnection fault →
      .launched ∈ (run { new id config with tracks } schedule).2 →
      (run { new id config with tracks } schedule).2.countP Event.isPumpJoined = 2) ∧
    (∀ fault, (run { new id config with tracks } schedule).1.control =
        .tearingDown .joinSinks fault →
      .connectionClosed ∈ (run { new id config with tracks } schedule).2) ∧
    (.runBegan ∈ (run { new id config with tracks } schedule).2 →
      ((run { new id config with tracks } schedule).1.lifecycle = .terminated ↔
        .terminated ∈ (run { new id config with tracks } schedule).2)) := by
  obtain ⟨h, hinOrder⟩ := (chronicle_new _ id config tracks).run fun _ => rfl
  rw [List.nil_append] at h
  refine ⟨hinOrder, h.pumps.written, fun fault => h.countP_isPumpJoined, fun fault hcontrol => ?_,
    h.lifecycle_eq_terminated_iff⟩
  exact h.placed.reached _ (by simp) 9 rfl (by simp [hcontrol])

/-- What is queued when the sockets are told to close is written before the connection closes. -/
example :
    let next : Action := .advance ⟨.ok 5000, .ok 5001, .ok (), .ok ()⟩ true
    (run { new "s" .default with tracks := fun _ => .ofRules [] }
      ([.run ⟨true, some 0⟩, next, next, next, next, .arrive .video (.datagram [1]), .stop, next,
        next, next, .pump .video, .pump .video, .pump .video, .pump .audio, .pump .audio] ++
        List.replicate 8 next)).2 =
      [.runBegan, .bound ⟨⟨.video, 5000⟩, ⟨.audio, 5001⟩⟩, .portsReported ⟨5000, 5001⟩,
        .inputInstalled 0, .launched, .stopTriggered .host, .inputCleared, .closeFlagRaised,
        .sampleWritten .video [1], .pumpEnded .video (.returned .closed),
        .pumpEnded .audio (.returned .closed), .pumpJoined .closed, .pumpJoined .closed,
        .connectionClosed, .sinkJoined .closed, .sinkJoined .closed, .terminated] := rfl

end RtpBridge.Session

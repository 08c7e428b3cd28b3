-- SUMMARY: What is seen of the forward pumps of a session is all that they have done.
import RtpBridge.Proofs.Relay.Lane
import RtpBridge.Proofs.Session.Order

/-!
# What is seen of forward pumps

A session shows the samples that its pumps write, how they end, and which of them its owner has
waited for. Nothing of this is left out (`Session.PumpsSeen`): a step of a pump shows what it does,
collecting an exit shows the exit, and all other steps leave the pumps as they are.
-/

namespace RtpBridge

variable {kind : MediaKind} {link : Link} {p : ForwardPump} {relay next : Relay}
  {seen events : List Session.Event}

theorem MediaKind.index_lt (kind : MediaKind) : kind.index < 2 := by cases kind <;> decide

theorem MediaKind.index_inj {other : MediaKind} (h : kind.index = other.index) : kind = other := by
  cases kind <;> cases other <;> first | rfl | cases h

/-! ## Forward pumps -/

namespace Session

/-- The sample that was seen to go to the track of a kind, if any. -/
def Event.sample? (kind : MediaKind) : Event → Option (List UInt8)
  | .sampleWritten other sample => if other = kind then some sample else none
  | _ => none

/-- The samples that were seen to go to the track of a kind. -/
def samplesOf (kind : MediaKind) (seen : List Event) : List (List UInt8) :=
  seen.filterMap (·.sample? kind)

def Event.isPumpJoined : Event → Bool
  | .pumpJoined _ => true
  | _ => false

/-- Whether an event tells of forward pumps. -/
def Event.isOfPumps : Event → Bool
  | .launched | .sampleWritten .. | .pumpEnded .. | .pumpJoined _ => true
  | _ => false

theorem isOfPumps_of_mem_nil : ∀ event ∈ ([] : List Event), event.isOfPumps = false :=
  fun _ hevent => absurd hevent List.not_mem_nil

theorem isOfPumps_of_mem_singleton {event : Event} (h : event.isOfPumps = false) :
    ∀ e ∈ [event], e.isOfPumps = false := by
  intro e he
  rw [List.mem_singleton.1 he, h]

theorem isOfPumps_of_mem_map {α : Type} {f : α → Event} {items : List α}
    (h : ∀ item, (f item).isOfPumps = false) :
    ∀ event ∈ items.map f, event.isOfPumps = false := by
  intro event hevent
  obtain ⟨item, -, rfl⟩ := List.mem_map.1 hevent
  exact h item

theorem samplesOf_append (kind : MediaKind) (first rest : List Event) :
    samplesOf kind (first ++ rest) = samplesOf kind first ++ samplesOf kind rest :=
  List.filterMap_append

theorem samplesOf_eq_nil (h : ∀ event ∈ events, event.isOfPumps = false) (kind : MediaKind) :
    samplesOf kind events = [] := by
  refine List.filterMap_eq_nil_iff.2 fun event hevent => ?_
  have hnot := h event hevent
  cases event <;> first | rfl | cases hnot

theorem countP_isPumpJoined_eq_zero (h : ∀ event ∈ events, event.isOfPumps = false) :
    events.countP Event.isPumpJoined = 0 := by
  refine List.countP_eq_zero.2 fun event hevent => ?_
  have hnot := h event hevent
  cases event <;> first | exact Bool.false_ne_true | cases hnot

end Session

open Session (Event samplesOf pumpEvents newExits)

/-- That the samples of a pump, and its end, have been seen. -/
structure ForwardPump.IsToldBy (kind : MediaKind) (p : ForwardPump) (seen : List Event) :
    Prop where
  written : samplesOf kind seen = p.written
  ended : ∀ ending, p.ending? = some ending → .pumpEnded kind ending ∈ seen

theorem ForwardPump.IsToldBy.append (h : p.IsToldBy kind seen)
    (hevents : samplesOf kind events = []) : p.IsToldBy kind (seen ++ events) where
  written := by rw [Session.samplesOf_append, hevents, List.append_nil, h.written]
  ended ending hending := List.mem_append_left _ (h.ended ending hending)

theorem mem_pumpEvents {event : Event} {before after : ForwardPump}
    (h : event ∈ pumpEvents kind before after) :
    (∃ sample, event = .sampleWritten kind sample) ∨ ∃ ending, event = .pumpEnded kind ending := by
  rcases List.mem_append.1 h with h | h
  · obtain ⟨sample, -, rfl⟩ := List.mem_map.1 h
    exact .inl ⟨sample, rfl⟩
  · split at h
    · obtain ⟨ending, -, rfl⟩ := List.mem_map.1 h
      exact .inr ⟨ending, rfl⟩
    · cases h

/-- A pump that has ended shows nothing more. -/
theorem pumpEvents_of_ended {ending : TaskEnd} (h : p.ending? = some ending) :
    pumpEvents kind p p = [] := by
  simp only [pumpEvents, h, List.drop_length, Option.isNone_some, Bool.false_eq_true, if_false,
    List.map_nil, List.append_nil]

theorem samplesOf_pumpEvents (kind other : MediaKind) (before after : ForwardPump) :
    samplesOf kind (pumpEvents other before after) =
      if other = kind then after.written.drop before.written.length else [] := by
  have hended : samplesOf kind (if before.ending?.isNone then
      after.ending?.toList.map (Event.pumpEnded other) else []) = [] := by
    split
    · cases after.ending? <;> rfl
    · rfl
  rw [pumpEvents, Session.samplesOf_append, hended, List.append_nil, samplesOf,
    List.filterMap_map]
  split
  · next h =>
    subst h
    refine (List.filterMap_congr fun sample _ => ?_).trans List.filterMap_some
    simp [Event.sample?]
  · next h =>
    refine List.filterMap_eq_nil_iff.2 fun sample _ => ?_
    simp [Event.sample?, h]

/-- What a pump does in a step of its own is seen. -/
theorem ForwardPump.IsToldBy.pumpStep (h : link.pump.IsToldBy kind seen) (isClosing : Bool) :
    (link.pumpStep isClosing).pump.IsToldBy kind
      (seen ++ pumpEvents kind link.pump (link.pumpStep isClosing).pump) where
  written := by
    have hprefix : link.pump.written <+: (link.pumpStep isClosing).pump.written := by
      rcases link.pumpStep_cases isClosing with ⟨-, hsame⟩ | ⟨pump, queue, hmoves, hafter⟩
      · rw [hsame]
      · obtain ⟨read, -, hread⟩ := ForwardPump.reads_of_moves hmoves
        rw [hafter]
        exact hread ▸ List.prefix_append ..
    obtain ⟨later, hlater⟩ := hprefix
    rw [Session.samplesOf_append, h.written, samplesOf_pumpEvents, if_pos rfl, ← hlater,
      List.drop_left]
  ended ending hending := by
    cases hbefore : link.pump.ending? with
    | none =>
      refine List.mem_append_right _ (List.mem_append_right _ ?_)
      rw [hbefore, hending]
      exact List.mem_singleton_self _
    | some before =>
      have hended : link.isOpen = false := Link.not_isOpen_iff.2 ⟨before, hbefore⟩
      rw [Link.pumpStep_of_ended hended] at hending
      exact List.mem_append_left _ (h.ended ending hending)

namespace Relay

/-- That what the forward pumps of a session's relay have done, and which of them were waited for,
has been seen. -/
structure IsToldBy (relay : Relay) (seen : List Event) : Prop where
  length : relay.links.length = 2
  joined : seen.countP Event.isPumpJoined = relay.forwardExits.length
  pump : ∀ (kind : MediaKind) (link : Link), relay.links[kind.index]? = some link →
    link.pump.IsToldBy kind seen

theorem IsToldBy.getElem? (h : relay.IsToldBy seen) (kind : MediaKind) :
    ∃ link, relay.links[kind.index]? = some link :=
  ⟨_, List.getElem?_eq_getElem (h.length ▸ kind.index_lt)⟩

/-- Of what leaves the forward pumps as they are nothing has to be seen. -/
theorem IsToldBy.of_pumps_eq (h : relay.IsToldBy seen)
    (hlength : next.links.length = relay.links.length)
    (hexits : next.forwardExits = relay.forwardExits)
    (hpumps : ∀ (i : Nat) (after : Link), next.links[i]? = some after →
      ∃ link, relay.links[i]? = some link ∧ after.pump = link.pump)
    (hevents : ∀ event ∈ events, event.isOfPumps = false) : next.IsToldBy (seen ++ events) where
  length := hlength.trans h.length
  joined := by
    rw [List.countP_append, Session.countP_isPumpJoined_eq_zero hevents, hexits]
    exact h.joined
  pump kind after hafter := by
    obtain ⟨link, hlink, hpump⟩ := hpumps kind.index after hafter
    rw [hpump]
    exact (h.pump kind link hlink).append (Session.samplesOf_eq_nil hevents kind)

/-- A latch that is triggered stays as it is. -/
theorem snd_step_of_isTriggered (relay : Relay) {stop : StopLatch} (h : stop.isTriggered)
    (action : Action) : (relay.step stop action).2 = stop := by
  obtain rfl : stop = .triggered := by
    cases stop with
    | armed => cases h
    | triggered => rfl
  cases action with
  | pump i =>
    simp only [step]
    split <;> rfl
  | arrive | feedback | raiseClose | joinPump | joinSink | trigger => rfl

/-- Whether an action makes a forward pump go on, or waits for one. -/
def Action.isPumpWork : Action → Bool
  | .pump _ | .joinPump => true
  | _ => false

theorem IsToldBy.step (h : relay.IsToldBy seen) (stop : StopLatch) {action : Action}
    (haction : action.isPumpWork = false) (hevents : ∀ event ∈ events, event.isOfPumps = false) :
    (relay.step stop action).1.IsToldBy (seen ++ events) := by
  have hjoin : action ≠ .joinPump := fun heq => by
    subst heq
    cases haction
  refine h.of_pumps_eq (keepsLinks_step relay stop action).length
    (forwardExits_step hjoin relay stop) (fun i after hafter => ?_) hevents
  obtain ⟨link, hlink, -, hsame | ⟨rfl, -⟩⟩ := exists_of_step hafter
  · exact ⟨link, hlink, hsame⟩
  · cases haction

theorem IsToldBy.pumpStep (h : relay.IsToldBy seen)
    (hlink : relay.links[kind.index]? = some link) (stop : StopLatch)
    (hevents : ∀ event ∈ events, event.isOfPumps = false) :
    (relay.step stop (.pump kind.index)).1.IsToldBy
      (seen ++ (pumpEvents kind link.pump (link.pumpStep relay.isClosing).pump ++ events)) where
  length := (keepsLinks_step relay stop (.pump kind.index)).length.trans h.length
  joined := by
    have hnone : (pumpEvents kind link.pump (link.pumpStep relay.isClosing).pump).countP
        Event.isPumpJoined = 0 := by
      refine List.countP_eq_zero.2 fun event hevent => ?_
      obtain ⟨_, rfl⟩ | ⟨_, rfl⟩ := mem_pumpEvents hevent <;> exact Bool.false_ne_true
    rw [List.countP_append, List.countP_append, hnone,
      Session.countP_isPumpJoined_eq_zero hevents]
    exact h.joined
  pump other after hafter := by
    rw [← List.append_assoc]
    refine ForwardPump.IsToldBy.append ?_ (Session.samplesOf_eq_nil hevents other)
    simp only [Relay.step, getElem?_modifyLink] at hafter
    split at hafter
    · next heq =>
      obtain rfl := MediaKind.index_inj heq
      rw [hlink] at hafter
      cases hafter
      exact (h.pump kind link hlink).pumpStep relay.isClosing
    · next hne =>
      refine (h.pump other after hafter).append ?_
      rw [samplesOf_pumpEvents, if_neg fun heq => hne (congrArg MediaKind.index heq)]

theorem newExits_append (before added : List PumpExit) :
    newExits before (before ++ added) = added := List.drop_left

theorem IsToldBy.joinPump (h : relay.IsToldBy seen) (hjoin : relay.joinPump? = some next) :
    next.IsToldBy
      (seen ++ (newExits relay.forwardExits next.forwardExits).map .pumpJoined) := by
  obtain ⟨link, ending, hlink, hending, rfl⟩ := joinPump?_eq_some.1 hjoin
  rw [newExits_append]
  refine ⟨h.length, ?_, fun kind link hlink => (h.pump kind link hlink).append rfl⟩
  rw [List.countP_append, h.joined, List.length_append]
  rfl

/-- A relay that was just launched has nothing else to tell yet. -/
theorem isToldBy_launch (session : String) (video audio : IngressSocket × Sink)
    (hseen : ∀ event ∈ seen, event.isOfPumps = false) :
    (launch session [video, audio]).IsToldBy (seen ++ [.launched]) where
  length := rfl
  joined := by
    rw [List.countP_append, Session.countP_isPumpJoined_eq_zero hseen]
    rfl
  pump kind link hlink := by
    simp only [launch, List.getElem?_map, Option.map_eq_some_iff] at hlink
    obtain ⟨_, -, rfl⟩ := hlink
    refine ⟨?_, fun ending hending => by cases hending⟩
    rw [Session.samplesOf_append, Session.samplesOf_eq_nil hseen]
    rfl

theorem IsToldBy.deliverEarly (h : relay.IsToldBy seen) (early : List (MediaKind × Arrival)) :
    (early.foldl (fun relay (kind, arrival) => relay.modifyLink kind.index (·.arrive arrival))
      relay).IsToldBy seen := by
  induction early generalizing relay with
  | nil => exact h
  | cons first rest ih =>
    have hstep : (relay.step .armed (.arrive first.1.index first.2)).1.IsToldBy (seen ++ []) :=
      h.step .armed rfl Session.isOfPumps_of_mem_nil
    rw [List.append_nil] at hstep
    exact ih hstep

end Relay

/-! ## Sessions -/

namespace Session

variable {s after : Session}

/-- That all which the forward pumps of a session have done has been seen. -/
structure PumpsSeen (s : Session) (seen : List Event) : Prop where
  unlaunched : s.relay = none → ∀ event ∈ seen, event.isOfPumps = false
  relay : ∀ relay, s.relay = some relay → relay.IsToldBy seen

theorem PumpsSeen.of_relay_eq (h : s.PumpsSeen seen) (hrelay : after.relay = s.relay)
    (hevents : ∀ event ∈ events, event.isOfPumps = false) : after.PumpsSeen (seen ++ events) where
  unlaunched hnone event hevent := by
    rcases List.mem_append.1 hevent with hevent | hevent
    · exact h.unlaunched (hrelay ▸ hnone) event hevent
    · exact hevents event hevent
  relay relay hsome :=
    (h.relay relay (hrelay ▸ hsome)).of_pumps_eq rfl rfl (fun _ link hlink => ⟨link, hlink, rfl⟩)
      hevents

theorem PumpsSeen.of_silent (h : s.PumpsSeen seen) (hrelay : after.relay = s.relay) :
    after.PumpsSeen (seen ++ []) :=
  h.of_relay_eq hrelay isOfPumps_of_mem_nil

theorem PumpsSeen.of_isToldBy {relay : Relay} (hrelay : after.relay = some relay)
    (h : relay.IsToldBy seen) : after.PumpsSeen seen where
  unlaunched hnone := by
    rw [hrelay] at hnone
    cases hnone
  relay other hother := by
    rw [hrelay] at hother
    cases hother
    exact h

theorem isOfPumps_triggerStop (stopper : Stopper) (s : Session) :
    ∀ event ∈ (s.triggerStop stopper).2, event.isOfPumps = false := by
  simp only [triggerStop]
  split <;> simp [Event.isOfPumps]

/-! ### Steps of the owner -/

theorem PumpsSeen.tearDown (h : s.PumpsSeen seen) (stage : Teardown) (fault : Option BindFault)
    (isGraceOver : Bool) :
    (s.tearDown stage fault isGraceOver).1.PumpsSeen
      (seen ++ (s.tearDown stage fault isGraceOver).2) := by
  cases stage with
  | clearInput | closeConnection | terminate =>
    exact h.of_relay_eq rfl (isOfPumps_of_mem_singleton rfl)
  | raiseClose =>
    cases hrelay : s.relay with
    | none =>
      simp only [Session.tearDown, hrelay]
      exact h.of_silent rfl
    | some relay =>
      simp only [Session.tearDown, hrelay]
      have hstep : (relay.step s.stop .raiseClose).1 = relay.raiseClose := rfl
      refine .of_isToldBy rfl (hstep ▸ ?_)
      exact (h.relay relay hrelay).step s.stop rfl (isOfPumps_of_mem_singleton rfl)
  | joinPumps =>
    cases hrelay : s.relay with
    | none =>
      simp only [Session.tearDown, hrelay]
      exact h.of_silent rfl
    | some relay =>
      simp only [Session.tearDown, hrelay]
      split
      · exact h.of_silent rfl
      · split
        · next joined hjoin => exact .of_isToldBy rfl ((h.relay relay hrelay).joinPump hjoin)
        · exact h.of_silent rfl
  | joinSinks =>
    cases hrelay : s.relay with
    | none =>
      simp only [Session.tearDown, hrelay]
      exact h.of_silent rfl
    | some relay =>
      simp only [Session.tearDown, hrelay]
      split
      · exact h.of_silent rfl
      · split
        · next joined hjoin =>
          have hstep : (relay.step s.stop
              (.joinSink s.config.teardownGrace isGraceOver)).1 = joined := by
            simp only [Relay.step, hjoin, Option.getD_some]
          refine .of_isToldBy rfl (hstep ▸ ?_)
          exact (h.relay relay hrelay).step s.stop rfl (isOfPumps_of_mem_map fun _ => rfl)
        · exact h.of_silent rfl

/-- Before the launch there are no pumps to be seen. -/
theorem PumpsSeen.launch (h : s.PumpsSeen seen) (hrelay : s.relay = none) (pair : IngressPair) :
    (s.launch pair).1.PumpsSeen (seen ++ (s.launch pair).2) := by
  have hlaunched := Relay.isToldBy_launch s.id (pair.video, s.tracks .video)
    (pair.audio, s.tracks .audio) (h.unlaunched hrelay)
  exact .of_isToldBy rfl (hlaunched.deliverEarly s.early)

theorem PumpsSeen.advance (h : s.PumpsSeen seen) (horderly : s.Orderly)
    (answers : Ingress.Answers) (isGraceOver : Bool) :
    (s.advance answers isGraceOver).1.PumpsSeen (seen ++ (s.advance answers isGraceOver).2) := by
  cases hcontrol : s.control with
  | unowned | returned | closed =>
    simp only [Session.advance, hcontrol]
    exact h.of_silent rfl
  | binding callbacks =>
    simp only [Session.advance, hcontrol]
    split <;> exact h.of_relay_eq rfl (isOfPumps_of_mem_singleton rfl)
  | abandoning fault =>
    simp only [Session.advance, hcontrol]
    exact h.of_relay_eq rfl (isOfPumps_triggerStop .owner s)
  | reporting pair callbacks =>
    simp only [Session.advance, hcontrol, report]
    split
    · exact h.of_relay_eq rfl (isOfPumps_of_mem_singleton rfl)
    · exact h.of_silent rfl
  | installing pair input =>
    simp only [Session.advance, hcontrol, install]
    split
    · exact h.of_relay_eq rfl (isOfPumps_of_mem_singleton rfl)
    · exact h.of_silent rfl
  | launching pair =>
    have hplace := horderly.place
    rw [hcontrol] at hplace
    simp only [Session.advance, hcontrol]
    obtain ⟨hunlaunched, hrelay⟩ := h.launch hplace.2 pair
    exact ⟨hunlaunched, hrelay⟩
  | parked =>
    simp only [Session.advance, hcontrol]
    split <;> exact h.of_silent rfl
  | tearingDown stage fault =>
    simp only [Session.advance, hcontrol]
    exact h.tearDown stage fault isGraceOver
  | closing stage =>
    simp only [Session.advance, hcontrol]
    cases stage with
    | trigger => exact h.of_relay_eq rfl (isOfPumps_triggerStop .owner s)
    | clearInput | closeConnection =>
      exact h.of_relay_eq rfl (isOfPumps_of_mem_singleton rfl)

/-! ### Steps of others -/

/-- What a step of a pump shows, besides that it may have triggered the latch. -/
theorem snd_pump {relay : Relay} (hrelay : s.relay = some relay)
    (hlink : relay.links[kind.index]? = some link) :
    (s.pump kind).2 = pumpEvents kind link.pump (link.pumpStep relay.isClosing).pump ++
      if s.stop = (relay.step s.stop (.pump kind.index)).2 then []
        else [.stopTriggered (.pump kind)] := by
  have hafter : (relay.step s.stop (.pump kind.index)).1.links[kind.index]? =
      some (link.pumpStep relay.isClosing) := by
    simp only [Relay.step, Relay.getElem?_modifyLink, hlink, if_true, Option.map_some]
  simp only [Session.pump, hrelay, hlink, hafter]

theorem PumpsSeen.pump (h : s.PumpsSeen seen) (kind : MediaKind) :
    (s.pump kind).1.PumpsSeen (seen ++ (s.pump kind).2) := by
  cases hrelay : s.relay with
  | none =>
    simp only [Session.pump, hrelay]
    exact h.of_silent rfl
  | some relay =>
    have htold := h.relay relay hrelay
    obtain ⟨link, hlink⟩ := htold.getElem? kind
    rw [snd_pump hrelay hlink]
    refine .of_isToldBy ?_ (htold.pumpStep hlink s.stop ?_)
    · simp only [Session.pump, hrelay]
    · split <;> simp [Event.isOfPumps]

theorem PumpsSeen.step (h : s.PumpsSeen seen) (horderly : s.Orderly) (action : Action) :
    (s.step action).1.PumpsSeen (seen ++ (s.step action).2) := by
  cases action with
  | advance answers isGraceOver => exact h.advance horderly answers isGraceOver
  | pump kind => exact h.pump kind
  | run callbacks =>
    simp only [Session.step, beginRun]
    split <;> exact h.of_relay_eq rfl (isOfPumps_of_mem_singleton rfl)
  | closeIfIdle =>
    simp only [Session.step, beginClose]
    split <;> exact h.of_relay_eq rfl (isOfPumps_of_mem_singleton rfl)
  | stop | connectionFailed => exact h.of_relay_eq rfl (isOfPumps_triggerStop _ s)
  | message octets => exact h.of_relay_eq rfl (isOfPumps_of_mem_map fun _ => rfl)
  | arrive kind arrival =>
    simp only [Session.step, Session.arrive]
    split
    · next relay hrelay =>
      have htold : (relay.step s.stop (.arrive kind.index arrival)).1.IsToldBy (seen ++ []) :=
        (h.relay relay hrelay).step s.stop rfl isOfPumps_of_mem_nil
      exact .of_isToldBy rfl htold
    · split <;> exact h.of_silent rfl
  | feedback kind outcome =>
    simp only [Session.step, Session.feedback]
    cases hrelay : s.relay with
    | none => exact h.of_silent hrelay.symm
    | some relay =>
      have htold : (relay.step s.stop (.feedback kind.index outcome)).1.IsToldBy (seen ++ []) :=
        (h.relay relay hrelay).step s.stop rfl isOfPumps_of_mem_nil
      exact .of_isToldBy rfl htold

/-- The samples that have gone to a track are those that were seen. -/
theorem PumpsSeen.written (h : s.PumpsSeen seen) (kind : MediaKind) :
    s.written kind = samplesOf kind seen := by
  unfold Session.written
  cases hrelay : s.relay with
  | none => exact (samplesOf_eq_nil (h.unlaunched hrelay) kind).symm
  | some relay =>
    have htold := h.relay relay hrelay
    obtain ⟨link, hlink⟩ := htold.getElem? kind
    rw [Option.bind_some, hlink]
    exact (htold.pump kind link hlink).written.symm

end Session

end RtpBridge

-- SUMMARY: Who stops a session, and which of its pumps fail without having stopped it.
import RtpBridge.Proofs.Session.Pumps

/-!
# Who stops a session

The latch of a session is triggered once, by a forward pump that fails or by someone else. A pump
that fails without having triggered it does so when it is triggered already. All of this can be
seen, and so can how each pump ends (`Session.Inquest`).
-/

namespace RtpBridge

/-! ## Sockets of their kinds -/

/-- That the sockets of a pair are of the kinds for which they were bound. -/
def IngressPair.IsProper (pair : IngressPair) : Prop :=
  pair.video.kind = .video ∧ pair.audio.kind = .audio

theorem Ingress.isProper_allocate {answers : Answers} {inUse : List Nat} {pair : IngressPair}
    (h : (allocate answers inUse).1 = .ok pair) : pair.IsProper := by
  have hbind {kind : MediaKind} {answer : Except SocketFault Nat} {inUse left : List Nat}
      {socket : IngressSocket} (hsocket : bind kind answer inUse = (.ok socket, left)) :
      socket.kind = kind := by
    unfold bind at hsocket
    split at hsocket <;> cases hsocket
    rfl
  unfold allocate at h
  split at h
  · cases h
  · next hvideo =>
    split at h
    · cases h
    · next haudio =>
      dsimp only at h
      split at h <;> cases h
      exact ⟨hbind hvideo, hbind haudio⟩

/-! ## Failures that name their pump -/

/-- The kind of media whose forward pump has met with a failure. -/
def TransportFault.kind? : TransportFault → Option MediaKind
  | .socketRead kind _ | .trackWrite kind _ => some kind
  | .feedbackRead _ | .taskDied => none

namespace ForwardPump

variable {kind : MediaKind} {sink : Sink} {isClosing : Bool} {p q : ForwardPump}
  {queue rest : List Arrival}

/-- That a pump is of a kind, and that so is the failure with which it has ended. -/
structure IsOf (kind : MediaKind) (p : ForwardPump) : Prop where
  own : p.kind = kind
  names : ∀ fault, p.ending? = some (.returned (.failed fault)) → fault.kind? = some kind

theorem isOf_of_phase (hkind : p.kind = kind)
    (hphase : ∀ fault, p.phase ≠ .ended (.returned (.failed fault))) : p.IsOf kind :=
  ⟨hkind, fun fault hfault => absurd (ending?_eq_some.1 hfault) (hphase fault)⟩

theorem isOf_start (session : String) (kind : MediaKind) : (start session kind).IsOf kind :=
  isOf_of_phase rfl fun _ => nofun

theorem isOf_finish {exit : PumpExit} (hkind : p.kind = kind)
    (hfault : ∀ fault, exit = .failed fault → fault.kind? = some kind) :
    (p.finish exit).IsOf kind where
  own := hkind
  names fault hended := by
    rw [ending?_finish] at hended
    cases hended
    exact hfault fault rfl

theorem isOf_forward {next : Phase} (hkind : p.kind = kind)
    (hnext : ∀ ending, next ≠ .ended ending) (datagram : List UInt8) :
    (p.forward sink datagram next).IsOf kind := by
  simp only [forward]
  split
  · exact isOf_of_phase hkind fun _ => hnext _
  · exact isOf_finish hkind fun _ h => by cases h
  · refine isOf_finish hkind fun fault hfault => ?_
    cases hfault
    exact congrArg some hkind
  · exact isOf_of_phase hkind fun _ h => by cases h

theorem IsOf.moves (h : p.IsOf kind) (hmoves : Moves sink isClosing p queue q rest) :
    q.IsOf kind := by
  cases hmoves with
  | seeClose => exact isOf_of_phase h.own fun _ => nofun
  | forward | drain =>
    refine isOf_forward h.own ?_ _
    exact fun _ => nofun
  | fail =>
    refine isOf_finish h.own fun fault hfault => ?_
    cases hfault
    exact congrArg some h.own
  | reachBound | runDry => exact isOf_finish h.own fun _ => nofun
  | breakOff => exact isOf_finish (p := { p with log := _ }) h.own fun _ => nofun

theorem IsOf.pumpStep {link : Link} (h : link.pump.IsOf kind) (isClosing : Bool) :
    (link.pumpStep isClosing).pump.IsOf kind := by
  rcases link.pumpStep_cases isClosing with ⟨-, hsame⟩ | ⟨pump, queue, hmoves, hafter⟩
  · rwa [hsame]
  · rw [hafter]
    exact h.moves hmoves

end ForwardPump

namespace Session

variable {s after : Session} {seen events : List Event} {kind : MediaKind} {stopper : Stopper}
  {ending : TaskEnd} {wantsPorts : Bool}

/-! ## What is seen of it -/

def Event.stopper? : Event → Option Stopper
  | .stopTriggered stopper => some stopper
  | _ => none

/-- Those who were seen to trigger the latch for the first time. -/
def stoppers (seen : List Event) : List Stopper := seen.filterMap (·.stopper?)

def Event.ending? (kind : MediaKind) : Event → Option TaskEnd
  | .pumpEnded other ending => if other = kind then some ending else none
  | _ => none

/-- The ends that the pump of a kind was seen to come to. -/
def endings (kind : MediaKind) (seen : List Event) : List TaskEnd :=
  seen.filterMap (·.ending? kind)

/-- Whether an event tells of the latch or of the end of a pump. -/
def Event.isOfStop : Event → Bool
  | .stopTriggered _ | .pumpEnded .. => true
  | _ => false

theorem mem_endings : ending ∈ endings kind seen ↔ .pumpEnded kind ending ∈ seen := by
  rw [endings, List.mem_filterMap]
  constructor
  · rintro ⟨event, hevent, hending⟩
    cases event with
    | pumpEnded other end' =>
      simp only [Event.ending?, Option.ite_none_right_eq_some, Option.some.injEq] at hending
      obtain ⟨rfl, rfl⟩ := hending
      exact hevent
    | _ => cases hending
  · intro hmem
    exact ⟨_, hmem, if_pos rfl⟩

theorem stoppers_append (first rest : List Event) :
    stoppers (first ++ rest) = stoppers first ++ stoppers rest := List.filterMap_append

theorem endings_append (kind : MediaKind) (first rest : List Event) :
    endings kind (first ++ rest) = endings kind first ++ endings kind rest :=
  List.filterMap_append

theorem stoppers_eq_nil (h : ∀ event ∈ events, event.isOfStop = false) : stoppers events = [] := by
  refine List.filterMap_eq_nil_iff.2 fun event hevent => ?_
  have hnot := h event hevent
  cases event <;> first | rfl | cases hnot

theorem endings_eq_nil (h : ∀ event ∈ events, event.isOfStop = false) (kind : MediaKind) :
    endings kind events = [] := by
  refine List.filterMap_eq_nil_iff.2 fun event hevent => ?_
  have hnot := h event hevent
  cases event <;> first | rfl | cases hnot

theorem isOfStop_of_mem_nil : ∀ event ∈ ([] : List Event), event.isOfStop = false :=
  fun _ hevent => absurd hevent List.not_mem_nil

theorem isOfStop_of_mem_singleton {event : Event} (h : event.isOfStop = false) :
    ∀ e ∈ [event], e.isOfStop = false := by
  intro e he
  rw [List.mem_singleton.1 he, h]

theorem isOfStop_of_mem_map {α : Type} {f : α → Event} {items : List α}
    (h : ∀ item, (f item).isOfStop = false) : ∀ event ∈ items.map f, event.isOfStop = false := by
  intro event hevent
  obtain ⟨item, -, rfl⟩ := List.mem_map.1 hevent
  exact h item

/-- That a pump was seen to come to this end when the latch was triggered already. -/
def EndedLate (kind : MediaKind) (ending : TaskEnd) (seen : List Event) : Prop :=
  ∃ before after, seen = before ++ .pumpEnded kind ending :: after ∧ stoppers before ≠ []

theorem EndedLate.append (h : EndedLate kind ending seen) (events : List Event) :
    EndedLate kind ending (seen ++ events) := by
  obtain ⟨before, after, rfl, hbefore⟩ := h
  exact ⟨before, after ++ events, List.append_assoc .., hbefore⟩

/-- What is seen once the latch is triggered is late. -/
theorem endedLate_of_mem (hseen : stoppers seen ≠ []) (hmem : .pumpEnded kind ending ∈ events) :
    EndedLate kind ending (seen ++ events) := by
  obtain ⟨first, rest, rfl⟩ := List.append_of_mem hmem
  refine ⟨seen ++ first, rest, (List.append_assoc ..).symm, fun hnil => hseen ?_⟩
  rw [stoppers_append] at hnil
  exact (List.append_eq_nil_iff.1 hnil).1

/-! ## The pumps of a session -/

/-- The forward pump of a kind, once there is one. -/
def pumpOf? (s : Session) (kind : MediaKind) : Option ForwardPump :=
  s.relay.bind fun relay => relay.links[kind.index]?.map (·.pump)

theorem pumpOf?_eq {relay : Relay} (hrelay : s.relay = some relay) (kind : MediaKind) :
    s.pumpOf? kind = relay.links[kind.index]?.map (·.pump) := by
  rw [pumpOf?, hrelay, Option.bind_some]

theorem pumpOf?_eq_none (hrelay : s.relay = none) (kind : MediaKind) : s.pumpOf? kind = none := by
  rw [pumpOf?, hrelay, Option.bind_none]

/-- No action but its own step changes a pump. -/
theorem pumpOf?_relayStep {relay : Relay} {stop : StopLatch} {action : Relay.Action}
    (hrelay : s.relay = some relay) (hafter : after.relay = some (relay.step stop action).1)
    (hkind : action ≠ .pump kind.index) : after.pumpOf? kind = s.pumpOf? kind := by
  rw [pumpOf?_eq hrelay, pumpOf?_eq hafter]
  cases hnext : (relay.step stop action).1.links[kind.index]? with
  | some next =>
    obtain ⟨link, hlink, -, hsame | ⟨heq, -⟩⟩ := Relay.exists_of_step hnext
    · rw [hlink, Option.map_some, Option.map_some, hsame]
    · exact absurd heq hkind
  | none =>
    cases hlink : relay.links[kind.index]? with
    | none => rfl
    | some link =>
      obtain ⟨next, hsome, -⟩ := (Relay.keepsLinks_step relay stop action).link _ link hlink
      rw [hnext] at hsome
      cases hsome

theorem pumpOf?_deliverEarly (relay : Relay) (early : List (MediaKind × Arrival)) (i : Nat) :
    (early.foldl (fun relay (kind, arrival) => relay.modifyLink kind.index (·.arrive arrival))
      relay).links[i]?.map (·.pump) = relay.links[i]?.map (·.pump) := by
  induction early generalizing relay with
  | nil => rfl
  | cons first rest ih =>
    rw [List.foldl_cons, ih, Relay.getElem?_modifyLink]
    split
    · rw [Option.map_map]
      exact congrArg (Option.map · _) (funext fun link => link.pump_arrive _)
    · rfl

/-- The pumps that are launched are those of the kinds of their sockets. -/
theorem pumpOf?_launch {pair : IngressPair} (hpair : pair.IsProper) (s : Session)
    (kind : MediaKind) :
    (s.launch pair).1.pumpOf? kind = some (.start s.id kind) := by
  rw [pumpOf?_eq (s := (s.launch pair).1) rfl, pumpOf?_deliverEarly]
  cases kind with
  | video => exact congrArg (fun kind => some (ForwardPump.start s.id kind)) hpair.1
  | audio => exact congrArg (fun kind => some (ForwardPump.start s.id kind)) hpair.2

/-! ## Who stopped the session, and how its pumps ended -/

/-- That it was seen who triggered the latch, and how each pump has ended; that a pump triggers the
latch by failing; and that one which fails without triggering it does so late. -/
structure Inquest (s : Session) (seen : List Event) : Prop where
  latch : (stoppers seen).length = if s.stop.isTriggered then 1 else 0
  ended : ∀ kind, endings kind seen = ((s.pumpOf? kind).bind (·.ending?)).toList
  failed : ∀ kind, .pump kind ∈ stoppers seen →
    ∃ fault, .returned (.failed fault) ∈ endings kind seen
  late : ∀ kind fault, .returned (.failed fault) ∈ endings kind seen →
    .pump kind ∉ stoppers seen → EndedLate kind (.returned (.failed fault)) seen
  pumps : ∀ kind p, s.pumpOf? kind = some p → p.IsOf kind
  sockets : ∀ pair, s.control.pair? = some pair → pair.IsProper

theorem inquest_new (id : String) (config : Config) (tracks : MediaKind → Sink) :
    ({ new id config with tracks } : Session).Inquest [] where
  latch := rfl
  ended _ := rfl
  failed _ h := absurd h List.not_mem_nil
  late _ _ h := absurd h List.not_mem_nil
  pumps _ _ h := nomatch h
  sockets _ h := nomatch h

theorem Inquest.stoppers_eq_nil_iff (h : s.Inquest seen) :
    stoppers seen = [] ↔ s.stop = .armed := by
  rw [← List.length_eq_zero_iff, h.latch]
  cases s.stop <;> simp [StopLatch.isTriggered]

/-- A step that has nothing to do with the latch or with ends. It may launch the pumps. -/
theorem Inquest.goOn (h : s.Inquest seen) (hstop : after.stop = s.stop)
    (hpump : ∀ kind, after.pumpOf? kind = s.pumpOf? kind ∨
      s.pumpOf? kind = none ∧ after.pumpOf? kind = some (.start s.id kind))
    (hsockets : ∀ pair, after.control.pair? = some pair → pair.IsProper)
    (hevents : ∀ event ∈ events, event.isOfStop = false) : after.Inquest (seen ++ events) := by
  have hstoppers : stoppers (seen ++ events) = stoppers seen := by
    rw [stoppers_append, stoppers_eq_nil hevents, List.append_nil]
  have hendings (kind : MediaKind) : endings kind (seen ++ events) =
      endings kind seen := by
    rw [endings_append, endings_eq_nil hevents, List.append_nil]
  refine ⟨?_, fun kind => ?_, fun kind hmem => ?_, fun kind fault hmem hnot => ?_,
    fun kind p hp => ?_, hsockets⟩
  · rw [hstoppers, hstop]
    exact h.latch
  · rw [hendings, h.ended]
    rcases hpump kind with hsame | ⟨hnone, hstart⟩
    · rw [hsame]
    · rw [hnone, hstart]
      rfl
  · rw [hendings]
    exact h.failed kind (hstoppers ▸ hmem)
  · exact (h.late kind fault (hendings kind ▸ hmem) (hstoppers ▸ hnot)).append events
  · rcases hpump kind with hsame | ⟨-, hstart⟩
    · exact h.pumps kind p (hsame ▸ hp)
    · rw [hstart] at hp
      cases hp
      exact ForwardPump.isOf_start s.id kind

/-- As `Inquest.goOn`, for what leaves the relay and the sockets of the owner. -/
theorem Inquest.of_frame (h : s.Inquest seen) (hstop : after.stop = s.stop)
    (hrelay : after.relay = s.relay)
    (hcontrol : ∀ pair, after.control.pair? = some pair → s.control.pair? = some pair)
    (hevents : ∀ event ∈ events, event.isOfStop = false) : after.Inquest (seen ++ events) :=
  h.goOn hstop (fun kind => .inl (by rw [pumpOf?, pumpOf?, hrelay]))
    (fun pair hpair => h.sockets pair (hcontrol pair hpair)) hevents

/-- As `Inquest.goOn`, for an action of the relay. -/
theorem Inquest.relayStep (h : s.Inquest seen) {relay : Relay} (hrelay : s.relay = some relay)
    (action : Relay.Action) (haction : ∀ i, action ≠ .pump i)
    (hafter : after.relay = some (relay.step s.stop action).1) (hstop : after.stop = s.stop)
    (hcontrol : ∀ pair, after.control.pair? = some pair → s.control.pair? = some pair)
    (hevents : ∀ event ∈ events, event.isOfStop = false) : after.Inquest (seen ++ events) := by
  refine h.goOn hstop (fun kind => .inl ?_)
    (fun pair hpair => h.sockets pair (hcontrol pair hpair)) hevents
  exact pumpOf?_relayStep hrelay hafter (haction kind.index)

/-- Someone other than a pump triggers the latch. -/
theorem Inquest.trigger (h : s.Inquest seen) (hstop : after.stop = s.stop.trigger.2)
    (hrelay : after.relay = s.relay)
    (hcontrol : ∀ pair, after.control.pair? = some pair → s.control.pair? = some pair)
    (hstopper : ∀ kind, stopper ≠ .pump kind) :
    after.Inquest (seen ++ if s.stop.trigger.1 then [.stopTriggered stopper] else []) := by
  have hframe : { s with control := after.control, relay := after.relay }.Inquest (seen ++ []) :=
    h.of_frame rfl hrelay hcontrol isOfStop_of_mem_nil
  rw [List.append_nil] at hframe
  cases hlatch : s.stop with
  | triggered =>
    have hsame : after.stop = s.stop := by rw [hstop, hlatch]; rfl
    exact hframe.of_frame hsame rfl (fun _ hpair => hpair) isOfStop_of_mem_nil
  | armed =>
    have hnone : stoppers seen = [] := h.stoppers_eq_nil_iff.2 hlatch
    have hendings (kind : MediaKind) : endings kind (seen ++ [.stopTriggered stopper]) =
        endings kind seen := by
      rw [endings_append]
      exact List.append_nil _
    have hstoppers : stoppers (seen ++ [.stopTriggered stopper]) = [stopper] := by
      rw [stoppers_append, hnone]
      rfl
    refine ⟨?_, fun kind => ?_, fun kind hmem => ?_, fun kind fault hmem _ => ?_, hframe.pumps,
      hframe.sockets⟩
    · rw [hstop, hlatch]
      exact congrArg List.length hstoppers
    · exact (hendings kind).trans (hframe.ended kind)
    · have heq := List.mem_singleton.1 (hstoppers ▸ hmem)
      exact absurd heq.symm (hstopper kind)
    · refine (h.late kind fault (hendings kind ▸ hmem) ?_).append _
      rw [hnone]
      exact List.not_mem_nil

/-! ### Steps of a pump -/

theorem endings_pumpEvents (kind other : MediaKind) (before after : ForwardPump) :
    endings kind (pumpEvents other before after) =
      if other = kind ∧ before.ending?.isNone then after.ending?.toList else [] := by
  have hwritten : endings kind ((after.written.drop before.written.length).map
      (Event.sampleWritten other)) = [] := by
    refine List.filterMap_eq_nil_iff.2 fun event hevent => ?_
    obtain ⟨sample, -, rfl⟩ := List.mem_map.1 hevent
    rfl
  rw [pumpEvents, endings_append, hwritten, List.nil_append]
  by_cases hopen : before.ending?.isNone
  · rw [if_pos hopen]
    cases after.ending? with
    | none => simp [endings]
    | some ending =>
      by_cases hkind : other = kind
      · simp [endings, Event.ending?, hkind, hopen]
      · simp [endings, Event.ending?, hkind]
  · rw [if_neg hopen, if_neg fun h => hopen h.2]
    rfl

theorem stoppers_pumpEvents (kind : MediaKind) (before after : ForwardPump) :
    stoppers (pumpEvents kind before after) = [] := by
  refine List.filterMap_eq_nil_iff.2 fun event hevent => ?_
  obtain ⟨_, rfl⟩ | ⟨_, rfl⟩ := mem_pumpEvents hevent <;> rfl

/-- How a pump goes on: it takes a step of its own, unless it has ended, and triggers the latch if
it fails and no one has. -/
structure PumpGoesOn (kind : MediaKind) (s after : Session) (before next : ForwardPump) : Prop where
  was : s.pumpOf? kind = some before
  is : after.pumpOf? kind = some next
  others : ∀ other, other ≠ kind → after.pumpOf? other = s.pumpOf? other
  step : before.ending? = none ∨ next = before
  isOf : before.IsOf kind → next.IsOf kind
  stop : after.stop = if next.hasFailed then s.stop.trigger.2 else s.stop
  control : after.control = s.control

theorem pumpGoesOn_pump {relay : Relay} {link : Link} (hrelay : s.relay = some relay)
    (hlink : relay.links[kind.index]? = some link) :
    PumpGoesOn kind s (s.pump kind).1 link.pump (link.pumpStep relay.isClosing).pump := by
  have hafter : (s.pump kind).1.relay = some (relay.step s.stop (.pump kind.index)).1 := by
    simp only [Session.pump, hrelay]
  have hnext : (relay.step s.stop (.pump kind.index)).1.links[kind.index]? =
      some (link.pumpStep relay.isClosing) := by
    simp only [Relay.step, Relay.getElem?_modifyLink, hlink, if_true, Option.map_some]
  refine ⟨?_, ?_, fun other hne => ?_, ?_, fun h => h.pumpStep _, ?_,
    (leavesAlone_pump kind s).control⟩
  · rw [pumpOf?_eq hrelay, hlink, Option.map_some]
  · rw [pumpOf?_eq hafter, hnext, Option.map_some]
  · refine pumpOf?_relayStep hrelay hafter fun heq => hne ?_
    exact MediaKind.index_inj (Relay.Action.pump.inj heq).symm
  · cases hopen : link.isOpen with
    | true => exact .inl (Link.isOpen_iff.1 hopen)
    | false => exact .inr (by rw [Link.pumpStep_of_ended hopen])
  · have hfailed : (relay.step s.stop (.pump kind.index)).1.hasFailed kind.index =
        (link.pumpStep relay.isClosing).pump.hasFailed := by
      rw [Relay.hasFailed, hnext, Option.any_some]
    rw [← hfailed]
    simp only [Session.pump, hrelay]
    rfl

namespace PumpGoesOn

variable {before next : ForwardPump} {triggered : List Event}

/-- Either the latch is left as it was, or the pump triggers it by failing. -/
theorem latch (hgo : PumpGoesOn kind s after before next) :
    (after.stop = s.stop ∧ (next.hasFailed → s.stop ≠ .armed)) ∨
      s.stop = .armed ∧ after.stop = .triggered ∧ next.hasFailed := by
  have hstop := hgo.stop
  cases hfailed : next.hasFailed with
  | false =>
    rw [hfailed] at hstop
    exact .inl ⟨hstop, fun hfalse => nomatch hfalse⟩
  | true =>
    rw [hfailed] at hstop
    cases hbefore : s.stop with
    | armed => exact .inr ⟨rfl, by rw [hstop, hbefore]; rfl, rfl⟩
    | triggered => exact .inl ⟨by rw [hstop, hbefore]; rfl, fun _ => nofun⟩

theorem endings_eq (hgo : PumpGoesOn kind s after before next) (h : s.Inquest seen)
    (htriggered : ∀ kind, endings kind triggered = []) (other : MediaKind) :
    endings other (seen ++ (pumpEvents kind before next ++ triggered)) =
      ((after.pumpOf? other).bind (·.ending?)).toList := by
  rw [endings_append, endings_append, htriggered, List.append_nil, endings_pumpEvents, h.ended]
  by_cases hkind : kind = other
  · subst hkind
    rw [hgo.was, hgo.is, Option.bind_some, Option.bind_some]
    rcases hgo.step with hopen | hsame
    · simp [hopen]
    · rw [hsame]
      cases before.ending? <;> simp
  · rw [if_neg fun h => hkind h.1, List.append_nil, hgo.others other fun h => hkind h.symm]

theorem isOf_pump (hgo : PumpGoesOn kind s after before next) (h : s.Inquest seen)
    {other : MediaKind} {p : ForwardPump} (hp : after.pumpOf? other = some p) : p.IsOf other := by
  by_cases hkind : other = kind
  · subst hkind
    rw [hgo.is] at hp
    cases hp
    exact hgo.isOf (h.pumps other before hgo.was)
  · exact h.pumps other p (hgo.others other hkind ▸ hp)

/-- A failure is seen of a pump that has failed by now, and of no other that was not seen before. -/
theorem hasFailed_of_mem {other : MediaKind} {fault : TransportFault}
    (hmem : .returned (.failed fault) ∈ endings other (pumpEvents kind before next)) :
    kind = other ∧ next.hasFailed := by
  rw [endings_pumpEvents] at hmem
  split at hmem
  · next hcond =>
    exact ⟨hcond.1, ForwardPump.hasFailed_iff.2 ⟨fault, Option.mem_toList.1 hmem⟩⟩
  · cases hmem

end PumpGoesOn

/-- A pump that fails by now does so late. -/
theorem Inquest.pumpKeepsLatch {before next : ForwardPump} (h : s.Inquest seen)
    (hgo : PumpGoesOn kind s after before next) (hsame : after.stop = s.stop)
    (hlate : next.hasFailed → s.stop ≠ .armed) :
    after.Inquest (seen ++ (pumpEvents kind before next ++ [])) := by
  have hstoppers : stoppers (seen ++ (pumpEvents kind before next ++ [])) = stoppers seen := by
    rw [List.append_nil, stoppers_append, stoppers_pumpEvents, List.append_nil]
  refine ⟨?_, hgo.endings_eq h fun _ => rfl, fun other hmem => ?_, fun other fault hmem hnot => ?_,
    fun _ _ => hgo.isOf_pump h, fun pair hpair => h.sockets pair (hgo.control ▸ hpair)⟩
  · rw [hstoppers, hsame]
    exact h.latch
  · obtain ⟨fault, hfault⟩ := h.failed other (hstoppers ▸ hmem)
    refine ⟨fault, ?_⟩
    rw [endings_append]
    exact List.mem_append_left _ hfault
  · rw [hstoppers] at hnot
    rw [endings_append, List.append_nil, List.mem_append] at hmem
    rcases hmem with hold | hnew
    · exact (h.late other fault hold hnot).append _
    · have hseen : stoppers seen ≠ [] := fun hnil =>
        hlate (PumpGoesOn.hasFailed_of_mem hnew).2 (h.stoppers_eq_nil_iff.1 hnil)
      rw [List.append_nil]
      exact endedLate_of_mem hseen (mem_endings.1 hnew)

/-- A pump that fails first triggers the latch, and no other fails in the same step. -/
theorem Inquest.pumpTriggers {before next : ForwardPump} (h : s.Inquest seen)
    (hgo : PumpGoesOn kind s after before next) (harmed : s.stop = .armed)
    (htriggered : after.stop = .triggered) (hfailed : next.hasFailed) :
    after.Inquest (seen ++ (pumpEvents kind before next ++ [.stopTriggered (.pump kind)])) := by
  have hnone : stoppers seen = [] := h.stoppers_eq_nil_iff.2 harmed
  have hstoppers : stoppers (seen ++ (pumpEvents kind before next ++
      [.stopTriggered (.pump kind)])) = [.pump kind] := by
    rw [stoppers_append, stoppers_append, stoppers_pumpEvents, hnone]
    rfl
  have hendings (other : MediaKind) : endings other (seen ++ (pumpEvents kind before next ++
      [.stopTriggered (.pump kind)])) = ((after.pumpOf? other).bind (·.ending?)).toList :=
    hgo.endings_eq h (fun _ => rfl) other
  refine ⟨?_, hendings, fun other hmem => ?_, fun other fault hmem hnot => ?_,
    fun _ _ => hgo.isOf_pump h, fun pair hpair => h.sockets pair (hgo.control ▸ hpair)⟩
  · rw [hstoppers, htriggered]
    rfl
  · rw [hstoppers, List.mem_singleton] at hmem
    cases hmem
    obtain ⟨fault, hfault⟩ := ForwardPump.hasFailed_iff.1 hfailed
    refine ⟨fault, ?_⟩
    rw [hendings, hgo.is, Option.bind_some, hfault]
    exact List.mem_singleton_self _
  · rw [hstoppers, List.mem_singleton] at hnot
    have hold : .returned (.failed fault) ∈ endings other seen := by
      rw [hendings, hgo.others other fun hkind => hnot (hkind ▸ rfl), ← h.ended] at hmem
      exact hmem
    refine (h.late other fault hold ?_).append _
    rw [hnone]
    exact List.not_mem_nil

/-- What is seen of a pump's step is its end, and that it has triggered the latch. -/
theorem Inquest.pumpGoOn {before next : ForwardPump} (h : s.Inquest seen)
    (hgo : PumpGoesOn kind s after before next) :
    after.Inquest (seen ++ (pumpEvents kind before next ++
      if s.stop = after.stop then [] else [.stopTriggered (.pump kind)])) := by
  rcases hgo.latch with ⟨hsame, hlate⟩ | ⟨harmed, htriggered, hfailed⟩
  · rw [if_pos hsame.symm]
    exact h.pumpKeepsLatch hgo hsame hlate
  · rw [if_neg (by rw [harmed, htriggered]; nofun)]
    exact h.pumpTriggers hgo harmed htriggered hfailed

/-- A pump that fails triggers the latch, if no one has. -/
theorem Inquest.pump (h : s.Inquest seen) (hseen : s.PumpsSeen seen) (kind : MediaKind) :
    (s.pump kind).1.Inquest (seen ++ (s.pump kind).2) := by
  cases hrelay : s.relay with
  | none =>
    simp only [Session.pump, hrelay]
    exact h.of_frame rfl rfl (fun _ hpair => hpair) isOfStop_of_mem_nil
  | some relay =>
    obtain ⟨link, hlink⟩ := (hseen.relay relay hrelay).getElem? kind
    have hstop : (relay.step s.stop (.pump kind.index)).2 = (s.pump kind).1.stop := by
      simp only [Session.pump, hrelay]
    rw [snd_pump hrelay hlink, hstop]
    exact h.pumpGoOn (pumpGoesOn_pump hrelay hlink)

/-! ### Steps of the owner -/

theorem pair?_eq_none_of {control : Control} (h : control.pair? = none) :
    ∀ pair, control.pair? = some pair → s.control.pair? = some pair := by
  intro pair hpair
  rw [h] at hpair
  cases hpair

theorem Inquest.tearDown (h : s.Inquest seen) (stage : Teardown) (fault : Option BindFault)
    (isGraceOver : Bool) : (s.tearDown stage fault isGraceOver).1.Inquest
      (seen ++ (s.tearDown stage fault isGraceOver).2) := by
  cases stage with
  | clearInput | closeConnection | terminate =>
    exact h.of_frame rfl rfl (pair?_eq_none_of rfl) (isOfStop_of_mem_singleton rfl)
  | raiseClose =>
    cases hrelay : s.relay with
    | none =>
      simp only [Session.tearDown, hrelay]
      exact h.of_frame rfl rfl (pair?_eq_none_of rfl) isOfStop_of_mem_nil
    | some relay =>
      simp only [Session.tearDown, hrelay]
      exact h.relayStep hrelay .raiseClose (fun _ h => by cases h) rfl rfl (pair?_eq_none_of rfl)
        (isOfStop_of_mem_singleton rfl)
  | joinPumps =>
    cases hrelay : s.relay with
    | none =>
      simp only [Session.tearDown, hrelay]
      exact h.of_frame rfl rfl (pair?_eq_none_of rfl) isOfStop_of_mem_nil
    | some relay =>
      simp only [Session.tearDown, hrelay]
      split
      · exact h.of_frame rfl rfl (pair?_eq_none_of rfl) isOfStop_of_mem_nil
      · split
        · next joined hjoin =>
          have hstep : (relay.step s.stop .joinPump).1 = joined := by
            simp only [Relay.step, hjoin, Option.getD_some]
          exact h.relayStep hrelay .joinPump (fun _ h => by cases h) (congrArg some hstep.symm) rfl
            (fun _ hpair => hpair) (isOfStop_of_mem_map fun _ => rfl)
        · exact h.of_frame rfl rfl (fun _ hpair => hpair) isOfStop_of_mem_nil
  | joinSinks =>
    cases hrelay : s.relay with
    | none =>
      simp only [Session.tearDown, hrelay]
      exact h.of_frame rfl rfl (pair?_eq_none_of rfl) isOfStop_of_mem_nil
    | some relay =>
      simp only [Session.tearDown, hrelay]
      split
      · exact h.of_frame rfl rfl (pair?_eq_none_of rfl) isOfStop_of_mem_nil
      · split
        · next joined hjoin =>
          have hstep : (relay.step s.stop
              (.joinSink s.config.teardownGrace isGraceOver)).1 = joined := by
            simp only [Relay.step, hjoin, Option.getD_some]
          exact h.relayStep hrelay (.joinSink ..) (fun _ h => by cases h)
            (congrArg some hstep.symm) rfl (fun _ hpair => hpair)
            (isOfStop_of_mem_map fun _ => rfl)
        · exact h.of_frame rfl rfl (fun _ hpair => hpair) isOfStop_of_mem_nil

theorem Inquest.advance (h : s.Inquest seen) (horderly : s.Orderly) (answers : Ingress.Answers)
    (isGraceOver : Bool) :
    (s.advance answers isGraceOver).1.Inquest (seen ++ (s.advance answers isGraceOver).2) := by
  cases hcontrol : s.control with
  | unowned | returned | closed =>
    simp only [Session.advance, hcontrol]
    exact h.of_frame rfl rfl (fun _ hpair => hpair) isOfStop_of_mem_nil
  | binding callbacks =>
    simp only [Session.advance, hcontrol]
    split
    · next pair hpair =>
      refine h.goOn rfl (fun _ => .inl rfl) (fun other hother => ?_)
        (isOfStop_of_mem_singleton rfl)
      cases hother
      exact Ingress.isProper_allocate hpair
    · exact h.of_frame rfl rfl (pair?_eq_none_of rfl) (isOfStop_of_mem_singleton rfl)
  | abandoning fault =>
    simp only [Session.advance, hcontrol]
    exact h.trigger rfl rfl (pair?_eq_none_of rfl) fun _ h => by cases h
  | reporting pair callbacks =>
    have hsame : ∀ other, (Control.installing pair callbacks.input).pair? = some other →
        s.control.pair? = some other := by
      rw [hcontrol]
      exact fun _ hother => hother
    simp only [Session.advance, hcontrol, report]
    split
    · exact h.of_frame rfl rfl hsame (isOfStop_of_mem_singleton rfl)
    · exact h.of_frame rfl rfl hsame isOfStop_of_mem_nil
  | installing pair input =>
    have hsame : ∀ other, (Control.launching pair).pair? = some other →
        s.control.pair? = some other := by
      rw [hcontrol]
      exact fun _ hother => hother
    simp only [Session.advance, hcontrol, install]
    split
    · exact h.of_frame rfl rfl hsame (isOfStop_of_mem_singleton rfl)
    · exact h.of_frame rfl rfl hsame isOfStop_of_mem_nil
  | launching pair =>
    have hplace := horderly.place
    rw [hcontrol] at hplace
    have hpair := h.sockets pair (by rw [hcontrol]; rfl)
    simp only [Session.advance, hcontrol]
    exact h.goOn rfl
      (fun kind => .inr ⟨pumpOf?_eq_none hplace.2 kind, pumpOf?_launch hpair s kind⟩)
      (fun _ hother => by cases hother) (isOfStop_of_mem_singleton rfl)
  | parked =>
    simp only [Session.advance, hcontrol]
    split
    · exact h.of_frame rfl rfl (pair?_eq_none_of rfl) isOfStop_of_mem_nil
    · exact h.of_frame rfl rfl (fun _ hpair => hpair) isOfStop_of_mem_nil
  | tearingDown stage fault =>
    simp only [Session.advance, hcontrol]
    exact h.tearDown stage fault isGraceOver
  | closing stage =>
    simp only [Session.advance, hcontrol]
    cases stage with
    | trigger => exact h.trigger rfl rfl (pair?_eq_none_of rfl) fun _ h => by cases h
    | clearInput | closeConnection =>
      exact h.of_frame rfl rfl (pair?_eq_none_of rfl) (isOfStop_of_mem_singleton rfl)

theorem Inquest.step (h : s.Inquest seen) (horderly : s.Orderly) (hseen : s.PumpsSeen seen)
    (action : Action) : (s.step action).1.Inquest (seen ++ (s.step action).2) := by
  cases action with
  | advance answers isGraceOver => exact h.advance horderly answers isGraceOver
  | pump kind => exact h.pump hseen kind
  | stop | connectionFailed =>
    exact h.trigger rfl rfl (fun _ hpair => hpair) fun _ h => by cases h
  | run callbacks =>
    simp only [Session.step, beginRun]
    split
    · exact h.of_frame rfl rfl (pair?_eq_none_of rfl) (isOfStop_of_mem_singleton rfl)
    · exact h.of_frame rfl rfl (fun _ hpair => hpair) (isOfStop_of_mem_singleton rfl)
  | closeIfIdle =>
    simp only [Session.step, beginClose]
    split
    · exact h.of_frame rfl rfl (pair?_eq_none_of rfl) (isOfStop_of_mem_singleton rfl)
    · exact h.of_frame rfl rfl (fun _ hpair => hpair) (isOfStop_of_mem_singleton rfl)
  | message octets =>
    exact h.of_frame rfl rfl (fun _ hpair => hpair) (isOfStop_of_mem_map fun _ => rfl)
  | arrive kind arrival =>
    simp only [Session.step, Session.arrive]
    split
    · next relay hrelay =>
      exact h.relayStep hrelay (.arrive kind.index arrival) (fun _ h => by cases h) rfl rfl
        (fun _ hpair => hpair) isOfStop_of_mem_nil
    · split <;> exact h.of_frame rfl rfl (fun _ hpair => hpair) isOfStop_of_mem_nil
  | feedback kind outcome =>
    simp only [Session.step, Session.feedback]
    cases hrelay : s.relay with
    | none => exact h.of_frame rfl hrelay.symm (fun _ hpair => hpair) isOfStop_of_mem_nil
    | some relay =>
      exact h.relayStep hrelay (.feedback kind.index outcome) (fun _ h => by cases h) rfl rfl
        (fun _ hpair => hpair) isOfStop_of_mem_nil

end Session

end RtpBridge

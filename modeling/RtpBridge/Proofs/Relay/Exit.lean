-- SUMMARY: The first event that is out of order ends a forward pump and alone decides its exit.
import RtpBridge.Proofs.Relay.Lane

/-!
# Exits of forward pumps

Each step of a pump comes upon an event: it reads, sees the close flag, finds the queue empty or
reaches the bound of its draining. Most events let it go on. The first one that does not is its
last, and says how it ends (`ForwardPump.IsCourse`). The same failure counts differently before
and after the close flag was seen; `PumpEvent.ending?` is the whole table of it.
-/

namespace RtpBridge

open ForwardPump (maxDatagram maxDrained)

/-! ## Events -/

/-- What a step of a pump comes upon. -/
inductive PumpEvent where
  /-- A read, and whether the close flag had been seen by then. -/
  | read (arrival : Arrival) (isDraining : Bool)
  | seeClose
  | runDry
  | reachBound
deriving DecidableEq

namespace PumpEvent

variable {sink : Sink} {kind : MediaKind}

def arrival? : PumpEvent → Option Arrival
  | .read arrival _ => some arrival
  | _ => none

/-- Whether this is a read after the close flag was seen. -/
def isDrained : PumpEvent → Bool
  | .read _ isDraining => isDraining
  | _ => false

/-- How an event ends the pump, if it does, when `n` writes came before. -/
def ending? (sink : Sink) (kind : MediaKind) (n : Nat) : PumpEvent → Option TaskEnd
  | .read (.datagram octets) _ =>
    match sink n (octets.take maxDatagram) with
    | .accepted => none
    | .closed => some (.returned .closed)
    | .failed cause => some (.returned (.failed (.trackWrite kind cause)))
    | .panicked => some .died
  | .read (.fault cause) false => some (.returned (.failed (.socketRead kind cause)))
  | .read (.fault _) true => some (.returned .closed)
  | .seeClose => none
  | .runDry => some (.returned .closed)
  | .reachBound => some (.returned .closed)

theorem ending?_eq_failed {n : Nat} {event : PumpEvent} {fault : TransportFault} :
    event.ending? sink kind n = some (.returned (.failed fault)) ↔
      (∃ octets isDraining cause, event = .read (.datagram octets) isDraining ∧
        sink n (octets.take maxDatagram) = .failed cause ∧ fault = .trackWrite kind cause) ∨
      ∃ cause, event = .read (.fault cause) false ∧ fault = .socketRead kind cause := by
  constructor
  · intro h
    unfold ending? at h
    split at h
    · next octets isDraining =>
      split at h
      · cases h
      · cases h
      · next cause hcause =>
        cases h
        exact .inl ⟨octets, isDraining, cause, rfl, hcause, rfl⟩
      · cases h
    · next cause =>
      cases h
      exact .inr ⟨cause, rfl, rfl⟩
    all_goals cases h
  · rintro (⟨octets, isDraining, cause, rfl, hcause, rfl⟩ | ⟨cause, rfl, rfl⟩)
    · simp only [ending?, hcause]
    · rfl

end PumpEvent

namespace ForwardPump

variable {sink : Sink} {kind : MediaKind} {isClosing : Bool} {p q : ForwardPump}
  {queue rest : List Arrival} {ending : TaskEnd}

/-! ## Courses -/

/-- What the next step comes upon; nothing if the pump has ended or has to wait. -/
def event? (isClosing : Bool) (p : ForwardPump) (queue : List Arrival) : Option PumpEvent :=
  match p.phase with
  | .ended _ => none
  | .listening => if isClosing then some .seeClose else queue.head?.map (.read · false)
  | .draining 0 => some .reachBound
  | .draining (_ + 1) => some ((queue.head?.map (.read · true)).getD .runDry)

/-- What the events read from the socket, in order. -/
def readsOf (events : List PumpEvent) : List Arrival := events.filterMap (·.arrival?)

/-- How many reads there were after the close flag was seen. -/
def drainedIn (events : List PumpEvent) : Nat := events.countP (·.isDrained)

/-- How many of the samples, the first of which is the `n`-th write, the track accepts. -/
def accepted (sink : Sink) (n : Nat) (samples : List (List UInt8)) : Nat :=
  (samples.zipIdx n).countP fun (sample, i) => sink i sample = .accepted

/-- That every event lets the pump go on, but for the last one if the pump has ended. -/
inductive IsCourse (sink : Sink) (kind : MediaKind) : List PumpEvent → Option TaskEnd → Prop where
  | start : IsCourse sink kind [] none
  | snoc {events : List PumpEvent} {event : PumpEvent} {ending : Option TaskEnd}
      (h : IsCourse sink kind events none)
      (hevent : event.ending? sink kind (samples (readsOf events)).length = ending) :
      IsCourse sink kind (events ++ [event]) ending

/-- How far a pump has come through the events. -/
inductive HasReached (events : List PumpEvent) : Phase → Prop where
  | listening (hseen : .seeClose ∉ events) (hdrained : drainedIn events = 0)
      (hbound : .reachBound ∉ events) : HasReached events .listening
  | draining {left : Nat} (hseen : .seeClose ∈ events)
      (hdrained : drainedIn events + left = maxDrained)
      (hbound : .reachBound ∉ events) : HasReached events (.draining left)
  | ended {ending : TaskEnd} (hdrained : drainedIn events ≤ maxDrained)
      (hbound : .reachBound ∈ events → drainedIn events = maxDrained) :
      HasReached events (.ended ending)

theorem drainedIn_concat (events : List PumpEvent) (event : PumpEvent) :
    drainedIn (events ++ [event]) = drainedIn events + if event.isDrained then 1 else 0 := by
  rw [drainedIn, List.countP_append, List.countP_singleton]
  rfl

namespace HasReached

variable {events : List PumpEvent} {phase : Phase}

theorem start : HasReached [] .listening :=
  .listening List.not_mem_nil rfl List.not_mem_nil

/-- A pump may end wherever it is. -/
theorem finish (h : HasReached events phase) (ending : TaskEnd) :
    HasReached events (.ended ending) := by
  cases h with
  | listening _ hdrained hbound =>
    exact .ended (hdrained ▸ Nat.zero_le _) fun h => absurd h hbound
  | draining _ hdrained hbound =>
    exact .ended (hdrained ▸ Nat.le_add_right ..) fun h => absurd h hbound
  | ended hdrained hbound => exact .ended hdrained hbound

theorem seeClose (h : HasReached events .listening) :
    HasReached (events ++ [.seeClose]) (.draining maxDrained) := by
  cases h with
  | listening hseen hdrained hbound =>
    refine .draining (List.mem_concat_self ..) ?_ ?_
    · rw [drainedIn_concat, hdrained]
      exact Nat.zero_add _
    · simpa using hbound

theorem read (h : HasReached events .listening) (arrival : Arrival) :
    HasReached (events ++ [.read arrival false]) .listening := by
  cases h with
  | listening hseen hdrained hbound =>
    refine .listening ?_ ?_ ?_
    · simpa using hseen
    · rw [drainedIn_concat, hdrained]
      rfl
    · simpa using hbound

theorem drain {left : Nat} (h : HasReached events (.draining (left + 1))) (arrival : Arrival) :
    HasReached (events ++ [.read arrival true]) (.draining left) := by
  cases h with
  | draining hseen hdrained hbound =>
    refine .draining (List.mem_append_left _ hseen) ?_ ?_
    · rw [drainedIn_concat, ← hdrained]
      exact Nat.add_right_comm ..
    · simpa using hbound

theorem runDry {left : Nat} (h : HasReached events (.draining left)) :
    HasReached (events ++ [.runDry]) (.draining left) := by
  cases h with
  | draining hseen hdrained hbound =>
    refine .draining (List.mem_append_left _ hseen) ?_ ?_
    · rw [drainedIn_concat, ← hdrained]
      rfl
    · simpa using hbound

theorem reachBound (h : HasReached events (.draining 0)) (ending : TaskEnd) :
    HasReached (events ++ [.reachBound]) (.ended ending) := by
  cases h with
  | draining hseen hdrained hbound =>
    have hcount : drainedIn (events ++ [.reachBound]) = maxDrained := by
      rw [drainedIn_concat, ← hdrained]
      rfl
    exact .ended (Nat.le_of_eq hcount) fun _ => hcount

theorem stepsLeft_le (h : HasReached events phase) : phase.stepsLeft ≤ maxDrained + 2 := by
  cases h with
  | listening => exact Nat.le_refl _
  | draining _ hdrained =>
    rw [← hdrained, Phase.stepsLeft]
    omega
  | ended => exact Nat.zero_le _

theorem seen_of_listening (h : HasReached events .listening) :
    false = true ↔ .seeClose ∈ events := by
  cases h with
  | listening hseen => exact ⟨nofun, fun hmem => absurd hmem hseen⟩

theorem seen_of_draining {left : Nat} (h : HasReached events (.draining left)) :
    true = true ↔ .seeClose ∈ events := by
  cases h with
  | draining hseen => exact ⟨fun _ => hseen, fun _ => rfl⟩

end HasReached

/-! ## What a step tells -/

/-- What a step from `p` to `q` does on an event. -/
structure Tells (sink : Sink) (p q : ForwardPump) (queue rest : List Arrival) (event : PumpEvent) :
    Prop where
  kind : q.kind = p.kind
  queue : queue = event.arrival?.toList ++ rest
  written : q.written = p.written ++ samples event.arrival?.toList
  ending : q.ending? = event.ending? sink p.kind p.written.length
  forwarded : q.forwarded =
    p.forwarded + accepted sink p.written.length (samples event.arrival?.toList)
  logged : ∀ exit, q.ending? = some (.returned exit) → q.log.getLast? = some (q.exitEntry exit)
  seen : ∀ events, HasReached events p.phase → ∀ arrival isDraining,
    event = .read arrival isDraining → (isDraining = true ↔ .seeClose ∈ events)
  reached : ∀ events, HasReached events p.phase → HasReached (events ++ [event]) q.phase

theorem accepted_singleton (sink : Sink) (n : Nat) (sample : List UInt8) :
    accepted sink n [sample] = if sink n sample = .accepted then 1 else 0 := by
  simp [accepted, List.countP_cons]

theorem getLast?_log_finish (p : ForwardPump) (exit : PumpExit) :
    (p.finish exit).log.getLast? = some ((p.finish exit).exitEntry exit) := by
  rw [finish, List.getLast?_concat]
  cases exit <;> rfl

/-- A pump that ends without a write leaves everything else as it is. -/
theorem tells_finish {event : PumpEvent} {exit : PumpExit} (log : List Log.Entry)
    (hqueue : queue = event.arrival?.toList ++ rest) (hsamples : samples event.arrival?.toList = [])
    (hending : event.ending? sink p.kind p.written.length = some (.returned exit))
    (hseen : ∀ events, HasReached events p.phase → ∀ arrival isDraining,
      event = .read arrival isDraining → (isDraining = true ↔ .seeClose ∈ events))
    (hreached : ∀ events, HasReached events p.phase →
      HasReached (events ++ [event]) (.ended (.returned exit))) :
    Tells sink p (finish { p with log } exit) queue rest event where
  kind := rfl
  queue := hqueue
  written := by
    rw [hsamples, List.append_nil]
    rfl
  ending := hending.symm
  forwarded := by
    rw [hsamples]
    rfl
  logged := by
    rintro _ ⟨⟩
    exact getLast?_log_finish _ exit
  seen := hseen
  reached := hreached

section Forward

variable {octets : List UInt8} {isDraining : Bool} {next : Phase}

theorem seen_of_read {events : List PumpEvent} {arrival : Arrival}
    (h : isDraining = true ↔ .seeClose ∈ events) :
    ∀ arrival' isDraining', PumpEvent.read arrival isDraining = .read arrival' isDraining' →
      (isDraining' = true ↔ .seeClose ∈ events) := by
  rintro _ _ ⟨⟩
  exact h

/-- A pump that the track does not serve has written its last datagram. -/
theorem tells_refused (log : List Log.Entry)
    (hanswer : sink p.written.length (octets.take maxDatagram) ≠ .accepted)
    (hending : (PumpEvent.read (.datagram octets) isDraining).ending? sink p.kind p.written.length =
      some ending)
    (hlog : ∀ exit, ending = .returned exit → log.getLast? = some (p.exitEntry exit))
    (hseen : ∀ events, HasReached events p.phase → (isDraining = true ↔ .seeClose ∈ events))
    (hreached : ∀ events, HasReached events p.phase →
      HasReached (events ++ [.read (.datagram octets) isDraining]) next) :
    Tells sink p
      { p with written := p.written ++ [octets.take maxDatagram], phase := .ended ending, log }
      (.datagram octets :: rest) rest (.read (.datagram octets) isDraining) where
  kind := rfl
  queue := rfl
  written := rfl
  ending := hending.symm
  forwarded := by
    change p.forwarded = p.forwarded + accepted sink p.written.length [octets.take maxDatagram]
    rw [accepted_singleton, if_neg hanswer, Nat.add_zero]
  logged := by
    intro exit hexit
    rw [hlog exit (Option.some.inj hexit)]
    cases exit <;> rfl
  seen events h := seen_of_read (hseen events h)
  reached events h := (hreached events h).finish ending

/-- A pump that reads a datagram writes it, and goes on or ends as the track answers. -/
theorem tells_forward (hnext : ∀ ending, next ≠ .ended ending)
    (hseen : ∀ events, HasReached events p.phase → (isDraining = true ↔ .seeClose ∈ events))
    (hreached : ∀ events, HasReached events p.phase →
      HasReached (events ++ [.read (.datagram octets) isDraining]) next) :
    Tells sink p (p.forward sink octets next) (.datagram octets :: rest) rest
      (.read (.datagram octets) isDraining) := by
  cases hanswer : sink p.written.length (octets.take maxDatagram) with
  | accepted =>
    simp only [forward, hanswer]
    refine ⟨rfl, rfl, rfl, ?_, ?_, ?_, fun events h => seen_of_read (hseen events h), hreached⟩
    · simp only [PumpEvent.ending?, hanswer]
      exact ending?_eq_none.2 hnext
    · change p.forwarded + 1 =
        p.forwarded + accepted sink p.written.length [octets.take maxDatagram]
      rw [accepted_singleton, if_pos hanswer]
    · intro exit hexit
      exact absurd (ending?_eq_some.1 hexit) (hnext _)
  | closed =>
    simp only [forward, hanswer]
    refine tells_refused _ (by simp [hanswer]) (by simp only [PumpEvent.ending?, hanswer]) ?_ hseen
      hreached
    rintro _ ⟨⟩
    exact List.getLast?_concat
  | failed cause =>
    simp only [forward, hanswer]
    refine tells_refused _ (by simp [hanswer]) (by simp only [PumpEvent.ending?, hanswer]) ?_ hseen
      hreached
    rintro _ ⟨⟩
    exact List.getLast?_concat
  | panicked =>
    simp only [forward, hanswer]
    refine tells_refused p.log (by simp [hanswer]) (by simp only [PumpEvent.ending?, hanswer]) ?_
      hseen
      hreached
    rintro _ ⟨⟩

end Forward

/-- Every step comes upon an event, and does what the event says. -/
theorem event?_of_moves (h : Moves sink isClosing p queue q rest) :
    ∃ event, p.event? isClosing queue = some event ∧ Tells sink p q queue rest event := by
  cases h with
  | seeClose hp hclosing =>
    have hevent : p.event? isClosing queue = some .seeClose := by
      simp only [event?, hp, hclosing, if_true]
    refine ⟨.seeClose, hevent, rfl, rfl, (List.append_nil _).symm, ?_, rfl, nofun, nofun, ?_⟩
    · rfl
    · intro events h
      rw [hp] at h
      exact h.seeClose
  | @forward octets _ hp hclosing =>
    have hevent : p.event? isClosing (.datagram octets :: rest) =
        some (.read (.datagram octets) false) := by
      simp only [event?, hp, hclosing, Bool.false_eq_true, if_false]
      rfl
    refine ⟨_, hevent, tells_forward nofun ?_ ?_⟩
    all_goals
      intro events h
      rw [hp] at h
    · exact h.seen_of_listening
    · exact h.read _
  | @fail cause _ hp hclosing =>
    have hevent : p.event? isClosing (.fault cause :: rest) =
        some (.read (.fault cause) false) := by
      simp only [event?, hp, hclosing, Bool.false_eq_true, if_false]
      rfl
    refine ⟨_, hevent, tells_finish _ rfl rfl rfl ?_ ?_⟩
    all_goals
      intro events h
      rw [hp] at h
    · exact seen_of_read h.seen_of_listening
    · exact (h.read _).finish _
  | @drain left octets _ hp =>
    have hevent : p.event? isClosing (.datagram octets :: rest) =
        some (.read (.datagram octets) true) := by
      simp only [event?, hp]
      rfl
    refine ⟨_, hevent, tells_forward nofun ?_ ?_⟩
    all_goals
      intro events h
      rw [hp] at h
    · exact h.seen_of_draining
    · exact h.drain _
  | reachBound hp =>
    have hevent : p.event? isClosing queue = some .reachBound := by simp only [event?, hp]
    refine ⟨_, hevent, tells_finish _ rfl rfl rfl nofun ?_⟩
    intro events h
    rw [hp] at h
    exact h.reachBound _
  | runDry hp =>
    have hevent : p.event? isClosing [] = some .runDry := by
      simp only [event?, hp]
      rfl
    refine ⟨_, hevent, tells_finish _ rfl rfl rfl nofun ?_⟩
    intro events h
    rw [hp] at h
    exact h.runDry.finish _
  | @breakOff left cause _ hp =>
    have hevent : p.event? isClosing (.fault cause :: rest) = some (.read (.fault cause) true) := by
      simp only [event?, hp]
      rfl
    refine ⟨_, hevent, tells_finish _ rfl rfl rfl ?_ ?_⟩
    all_goals
      intro events h
      rw [hp] at h
    · exact seen_of_read h.seen_of_draining
    · exact (h.drain _).finish _

theorem event?_of_step?_eq_none (h : p.step? sink isClosing queue = none) :
    p.event? isClosing queue = none := by
  unfold step? at h
  split at h
  · next hp => simp only [event?, hp]
  · next hp =>
    split at h
    · cases h
    · next hclosing =>
      split at h
      · simp only [event?, hp, hclosing, Bool.false_eq_true, if_false, List.head?_nil,
          Option.map_none]
      · cases h
      · cases h
  · cases h
  · split at h <;> cases h

theorem readsOf_concat (events : List PumpEvent) (event : PumpEvent) :
    readsOf (events ++ [event]) = readsOf events ++ event.arrival?.toList := by
  rw [readsOf, List.filterMap_append]
  cases event <;> rfl

theorem accepted_append (sink : Sink) (n : Nat) (first rest : List (List UInt8)) :
    accepted sink n (first ++ rest) =
      accepted sink n first + accepted sink (n + first.length) rest := by
  rw [accepted, List.zipIdx_append, List.countP_append]
  rfl

/-- The last event, and only that one, says how a pump has ended. -/
theorem IsCourse.ending_iff {events : List PumpEvent} {now? : Option TaskEnd}
    (h : IsCourse sink kind events now?) :
    now? = some ending ↔ ∃ first event, events = first ++ [event] ∧
      event.ending? sink kind (samples (readsOf first)).length = some ending := by
  cases h with
  | start => exact ⟨nofun, fun ⟨first, event, heq, _⟩ => absurd heq (by simp)⟩
  | @snoc events event _ _ hevent =>
    constructor
    · intro hending
      exact ⟨events, event, rfl, hevent.trans hending⟩
    · rintro ⟨first, event', heq, hending⟩
      obtain ⟨rfl, hsingle⟩ := List.append_inj' heq rfl
      obtain rfl := List.singleton_inj.1 hsingle
      exact hevent.symm.trans hending

end ForwardPump

/-! ## Runs -/

namespace Lane

open ForwardPump (IsCourse HasReached readsOf accepted)

/-- What the pump comes upon in an action. -/
def event? (lane : Lane) : Action → Option PumpEvent
  | .pump => lane.link.pump.event? lane.flag.isUp lane.link.queue
  | _ => none

/-- What the pump comes upon under a schedule. -/
def events (lane : Lane) : List Action → List PumpEvent
  | [] => []
  | action :: rest => (lane.event? action).toList ++ (lane.step action).events rest

/-- What the events of a run say about the lane that it leads to. -/
structure ExitsBy (kind : MediaKind) (sink : Sink) (arrived : List Arrival)
    (events : List PumpEvent) (lane : Lane) : Prop where
  track : lane.link.sink = sink
  media : lane.link.pump.kind = kind
  /-- What has arrived was read in its order, or is queued, or came too late. -/
  arrived : ∃ missed, arrived = readsOf events ++ lane.link.queue ++ missed ∧
    (lane.link.isOpen → missed = [])
  /-- What was read was written, and nothing else. -/
  written : lane.link.pump.written = samples (readsOf events)
  /-- Every event was in order, but for the last one if the pump has ended. -/
  course : IsCourse sink kind events lane.link.pump.ending?
  /-- A read counts as draining if the close flag had been seen. -/
  seen : ∀ first arrival isDraining later, events = first ++ .read arrival isDraining :: later →
    (isDraining = true ↔ .seeClose ∈ first)
  reached : HasReached events lane.link.pump.phase
  forwarded : lane.link.pump.forwarded = accepted sink 0 lane.link.pump.written
  logged : ∀ exit, lane.link.pump.ending? = some (.returned exit) →
    lane.link.pump.log.getLast? = some (lane.link.pump.exitEntry exit)
  stop : lane.stop.isTriggered ↔
    ∃ fault, lane.link.pump.ending? = some (.returned (.failed fault))

variable {lane : Lane} {action : Action} {kind : MediaKind} {sink : Sink} {arrived : List Arrival}
  {told : List PumpEvent}

theorem exitsBy_start (session : String) (ingress : IngressSocket) (sink : Sink) :
    (start session ingress sink).ExitsBy ingress.kind sink [] [] where
  track := rfl
  media := rfl
  arrived := ⟨[], rfl, fun _ => rfl⟩
  written := rfl
  course := .start
  seen first _ _ _ heq := absurd heq (by simp)
  reached := .start
  forwarded := rfl
  logged := nofun
  stop := ⟨nofun, nofun⟩

theorem ExitsBy.arrive (h : lane.ExitsBy kind sink arrived told) (arrival : Arrival) :
    (lane.step (.arrive arrival)).ExitsBy kind sink (arrived ++ [arrival]) told := by
  have hpump : (lane.step (.arrive arrival)).link.pump = lane.link.pump :=
    lane.link.pump_arrive arrival
  obtain ⟨htrack, hmedia, ⟨missed, harrived, hmissed⟩, hwritten, hcourse, hseen, hreached,
    hforwarded, hlogged, hstop⟩ := h
  refine ⟨?_, by rwa [hpump], ?_, by rwa [hpump], by rwa [hpump], hseen, by rwa [hpump],
    by rwa [hpump], by rwa [hpump], by rwa [hpump]⟩
  · exact (lane.link.keeps_arrive arrival).sink.trans htrack
  · simp only [step, Link.arrive]
    split
    · next hopen =>
      obtain rfl := hmissed hopen
      refine ⟨[], ?_, fun _ => rfl⟩
      rw [harrived, List.append_nil, List.append_nil, List.append_assoc]
    · next hopen =>
      refine ⟨missed ++ [arrival], ?_, fun h => absurd h hopen⟩
      rw [harrived, List.append_assoc _ missed]

/-- A pump that takes no step comes upon nothing. -/
theorem ExitsBy.wait (h : lane.ExitsBy kind sink arrived told)
    (hsame : lane.link.pumpStep lane.flag.isUp = lane.link) :
    (lane.step .pump).ExitsBy kind sink arrived told := by
  have hlink : (lane.step .pump).link = lane.link := hsame
  obtain ⟨htrack, hmedia, harrived, hwritten, hcourse, hseen, hreached, hforwarded, hlogged,
    hstop⟩ := h
  refine ⟨by rwa [hlink], by rwa [hlink], by rwa [hlink], by rwa [hlink], by rwa [hlink], hseen,
    by rwa [hlink], by rwa [hlink], by rwa [hlink], ?_⟩
  rw [hlink, ← hstop]
  simp only [step, hsame]
  split
  · next hfailed =>
    rw [hstop, ← ForwardPump.hasFailed_iff]
    exact ⟨fun _ => hfailed, fun _ => StopLatch.isTriggered_trigger _⟩
  · rfl

theorem seen_concat {event : PumpEvent}
    (h : ∀ first arrival isDraining later, told = first ++ .read arrival isDraining :: later →
      (isDraining = true ↔ .seeClose ∈ first))
    (hevent : ∀ arrival isDraining, event = .read arrival isDraining →
      (isDraining = true ↔ .seeClose ∈ told)) (first : List PumpEvent) (arrival : Arrival)
    (isDraining : Bool) (later : List PumpEvent)
    (heq : told ++ [event] = first ++ .read arrival isDraining :: later) :
    isDraining = true ↔ .seeClose ∈ first := by
  rcases List.eq_nil_or_concat later with rfl | ⟨later, last, rfl⟩
  · obtain ⟨rfl, hlast⟩ := List.append_inj' heq rfl
    exact hevent arrival isDraining (List.singleton_inj.1 hlast)
  · rw [List.concat_eq_append, ← List.cons_append, ← List.append_assoc] at heq
    obtain ⟨rfl, -⟩ := List.append_inj' heq rfl
    exact h first arrival isDraining later rfl

theorem ExitsBy.pump (h : lane.ExitsBy kind sink arrived told) :
    (lane.step .pump).ExitsBy kind sink arrived (told ++ (lane.event? .pump).toList) := by
  rcases lane.link.pumpStep_cases lane.flag.isUp with ⟨hnone, hsame⟩ | ⟨pump, queue, hmoves, hafter⟩
  · have hevent : lane.event? .pump = none := ForwardPump.event?_of_step?_eq_none hnone
    rw [hevent, Option.toList_none, List.append_nil]
    exact h.wait hsame
  obtain ⟨event, hevent, htells⟩ := ForwardPump.event?_of_moves hmoves
  have hlane : lane.event? .pump = some event := hevent
  have hopen : lane.link.pump.ending? = none := ForwardPump.ending?_of_moves hmoves
  have harmed : ¬lane.stop.isTriggered := by
    rw [h.stop, hopen]
    exact nofun
  obtain ⟨missed, harrived, hmissed⟩ := h.arrived
  obtain rfl := hmissed (Link.isOpen_iff.2 hopen)
  have hcourse := h.course
  have htrack := h.track
  have hmedia := h.media
  subst htrack hmedia
  rw [hopen] at hcourse
  rw [hlane, Option.toList_some]
  simp only [step, hafter]
  exact {
    track := rfl
    media := htells.kind
    arrived := by
      refine ⟨[], ?_, fun _ => rfl⟩
      rw [harrived, htells.queue, ForwardPump.readsOf_concat]
      simp only [List.append_assoc]
    written := by
      rw [ForwardPump.readsOf_concat, samples_append, ← h.written]
      exact htells.written
    course := .snoc hcourse (h.written ▸ htells.ending.symm)
    seen := seen_concat h.seen (htells.seen _ h.reached)
    reached := htells.reached _ h.reached
    forwarded := by
      rw [htells.written, ForwardPump.accepted_append, Nat.zero_add, ← h.forwarded]
      exact htells.forwarded
    logged := htells.logged
    stop := by
      rw [← ForwardPump.hasFailed_iff]
      split
      · next hfailed => exact ⟨fun _ => hfailed, fun _ => StopLatch.isTriggered_trigger _⟩
      · next hfine => exact ⟨fun h => absurd h harmed, fun h => absurd h hfine⟩ }

theorem ExitsBy.step (h : lane.ExitsBy kind sink arrived told) (action : Action) :
    (lane.step action).ExitsBy kind sink (arrived ++ action.arrival?.toList)
      (told ++ (lane.event? action).toList) := by
  cases action with
  | arrive arrival =>
    rw [show lane.event? (.arrive arrival) = none from rfl, Option.toList_none, List.append_nil]
    exact h.arrive arrival
  | pump =>
    rw [show Action.pump.arrival? = none from rfl, Option.toList_none, List.append_nil]
    exact h.pump
  | raiseClose | dropCloser =>
    simp only [Action.arrival?, event?, Option.toList_none, List.append_nil]
    exact ⟨h.track, h.media, h.arrived, h.written, h.course, h.seen, h.reached, h.forwarded,
      h.logged, h.stop⟩

theorem ExitsBy.run (h : lane.ExitsBy kind sink arrived told) (schedule : List Action) :
    (lane.run schedule).ExitsBy kind sink (arrived ++ arrivals schedule)
      (told ++ lane.events schedule) := by
  induction schedule generalizing lane arrived told with
  | nil =>
    rw [events, List.append_nil, show arrivals [] = [] from rfl, List.append_nil]
    exact h
  | cons action rest ih =>
    rw [arrivals_cons, events, ← List.append_assoc, ← List.append_assoc]
    exact ih (h.step action)

/-- Whatever comes in, however the track answers and whenever the close flag is seen: a pump writes
what it reads, and stops at the first event that is out of order. That event alone says how it
ends. It has failed just if a write failed, or a read before the close flag was seen, and only then
it stops the session. Once the flag is up, a bounded number of its own steps ends it. -/
theorem exits_by_first_failure (session : String) (ingress : IngressSocket) (sink : Sink)
    (schedule : List Action) :
    ((start session ingress sink).run schedule).ExitsBy ingress.kind sink (arrivals schedule)
      ((start session ingress sink).events schedule) ∧
    (∀ fault, ((start session ingress sink).run schedule).link.pump.ending? =
        some (.returned (.failed fault)) ↔
      ∃ first last, (start session ingress sink).events schedule = first ++ [last] ∧
        ((∃ octets isDraining cause, last = .read (.datagram octets) isDraining ∧
            sink (samples (readsOf first)).length (octets.take maxDatagram) = .failed cause ∧
            fault = .trackWrite ingress.kind cause) ∨
          ∃ cause, last = .read (.fault cause) false ∧
            fault = .socketRead ingress.kind cause)) ∧
    ∀ before after, schedule = before ++ after →
      ((start session ingress sink).run before).flag.isUp → maxDrained + 2 ≤ after.count .pump →
      ∃ ending, ((start session ingress sink).run schedule).link.pump.ending? = some ending := by
  have hexits := (exitsBy_start session ingress sink).run schedule
  rw [List.nil_append, List.nil_append] at hexits
  refine ⟨hexits, fun fault => ?_, ?_⟩
  · simp only [hexits.course.ending_iff, PumpEvent.ending?_eq_failed]
  · rintro before after rfl hup hcount
    have hbefore := (exitsBy_start session ingress sink).run before
    have hleft := stepsLeft_run hup after
    rw [← run_append] at hleft
    apply ForwardPump.ending?_of_stepsLeft
    have hbound := hbefore.reached.stepsLeft_le
    omega

/-- Two datagrams are queued when the flag goes up. -/
def queuedAtClose : List Action :=
  [.arrive (.datagram [1]), .arrive (.datagram [2]), .raiseClose]

/-- The track takes the first of them and fails at the second, while the pump drains. -/
theorem exits_by_first_failure_draining :
    ((start "s" ⟨.video, 5000⟩ (.ofRules [.accepted, .failed "gone"])).run
      queuedAtClose).flag.isUp ∧
    maxDrained + 2 ≤ (List.replicate 258 Action.pump).count .pump ∧
    ((start "s" ⟨.video, 5000⟩ (.ofRules [.accepted, .failed "gone"])).run
      (queuedAtClose ++ List.replicate 258 .pump)).link.pump.ending? =
        some (.returned (.failed (.trackWrite .video "gone"))) := by
  obtain ⟨-, hfailed, -⟩ := exits_by_first_failure "s" ⟨.video, 5000⟩
    (.ofRules [.accepted, .failed "gone"]) (queuedAtClose ++ List.replicate 258 .pump)
  have hcount : maxDrained + 2 ≤ (List.replicate 258 Action.pump).count .pump := by
    rw [List.count_replicate_self]
    exact Nat.le_refl _
  have hevents : (start "s" ⟨.video, 5000⟩ (.ofRules [.accepted, .failed "gone"])).events
      (queuedAtClose ++ List.replicate 258 .pump) =
        [.seeClose, .read (.datagram [1]) true] ++ [.read (.datagram [2]) true] := by
    decide +kernel
  exact ⟨rfl, hcount, (hfailed _).2 ⟨_, _, hevents, .inl ⟨[2], true, "gone", rfl, rfl, rfl⟩⟩⟩

end Lane

end RtpBridge

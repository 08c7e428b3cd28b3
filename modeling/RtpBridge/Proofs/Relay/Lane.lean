-- SUMMARY: A lane whose track accepts everything passes on what comes in, up to the bound of its draining.
import Mathlib.Data.List.Infix
import RtpBridge.Proofs.Relay.Links
import RtpBridge.Relay.Lane

/-!
# Lanes: laws

What a pump has read it has written, in order, and what it has not read is queued
(`Link.InOrder`). Once the close flag is up a pump whose track accepts everything writes what is
queued first and no more than its bound (`Link.Drains`), and any pump ends within a fixed number
of steps of its own, however much still comes in. Together: `Lane.passes_datagrams_on`.
-/

namespace RtpBridge

open ForwardPump (maxDatagram maxDrained)

variable {link : Link} {lane : Lane} {isClosing : Bool} {arrived : List Arrival}
  {came base queued : List (List UInt8)}

/-! ## Steps of a pump -/

namespace Link

theorem isOpen_iff : link.isOpen ↔ link.pump.ending? = none := Option.isNone_iff_eq_none

theorem not_isOpen_iff : link.isOpen = false ↔ ∃ ending, link.pump.ending? = some ending := by
  rw [isOpen, Option.isNone_eq_false_iff, Option.isSome_iff_exists]

/-- A pump takes the one step that it can take, or has to wait. -/
theorem pumpStep_cases (link : Link) (isClosing : Bool) :
    (link.pump.step? link.sink isClosing link.queue = none ∧ link.pumpStep isClosing = link) ∨
    ∃ pump queue, ForwardPump.Moves link.sink isClosing link.pump link.queue pump queue ∧
      link.pumpStep isClosing = { link with pump, queue } := by
  unfold pumpStep
  cases hstep : link.pump.step? link.sink isClosing link.queue with
  | none => exact .inl ⟨rfl, rfl⟩
  | some next => exact .inr ⟨next.1, next.2, ForwardPump.moves_of_step? hstep, rfl⟩

theorem pumpStep_of_ended (h : link.isOpen = false) : link.pumpStep isClosing = link := by
  obtain ⟨ending, hending⟩ := not_isOpen_iff.1 h
  simp only [pumpStep, ForwardPump.step?_of_ended hending]

theorem stepsLeft_pumpStep (link : Link) :
    (link.pumpStep true).pump.phase.stepsLeft ≤ link.pump.phase.stepsLeft - 1 := by
  rcases link.pumpStep_cases true with ⟨hnone, hsame⟩ | ⟨pump, queue, hmoves, hafter⟩
  · rw [hsame, ForwardPump.stepsLeft_of_step?_eq_none hnone]
  · rw [hafter]
    exact ForwardPump.stepsLeft_of_moves hmoves

/-! ## What is read is written -/

/-- That what has arrived was read and written in its order, or is queued. Only what comes to a
closed socket is missed. -/
def InOrder (arrived : List Arrival) (link : Link) : Prop :=
  ∃ read missed, arrived = read ++ link.queue ++ missed ∧ link.pump.written = samples read ∧
    (link.isOpen → missed = [])

theorem inOrder_start (session : String) (ingress : IngressSocket) (sink : Sink) :
    (start session ingress sink).InOrder [] :=
  ⟨[], [], rfl, rfl, fun _ => rfl⟩

theorem InOrder.arrive (h : link.InOrder arrived) (arrival : Arrival) :
    (link.arrive arrival).InOrder (arrived ++ [arrival]) := by
  obtain ⟨read, missed, harrived, hwritten, hmissed⟩ := h
  unfold Link.arrive
  split
  · next hopen =>
    obtain rfl := hmissed hopen
    refine ⟨read, [], ?_, hwritten, fun _ => rfl⟩
    rw [harrived, List.append_nil, List.append_nil, List.append_assoc]
  · next hopen =>
    refine ⟨read, missed ++ [arrival], ?_, hwritten, fun h => absurd h hopen⟩
    rw [harrived, List.append_assoc _ missed]

theorem InOrder.pumpStep (h : link.InOrder arrived) (isClosing : Bool) :
    (link.pumpStep isClosing).InOrder arrived := by
  rcases link.pumpStep_cases isClosing with ⟨-, hsame⟩ | ⟨pump, rest, hmoves, hafter⟩
  · rwa [hsame]
  · rw [hafter]
    obtain ⟨read, missed, harrived, hwritten, hmissed⟩ := h
    obtain rfl := hmissed (isOpen_iff.2 (ForwardPump.ending?_of_moves hmoves))
    obtain ⟨more, hqueue, hmore⟩ := ForwardPump.reads_of_moves hmoves
    refine ⟨read ++ more, [], ?_, ?_, fun _ => rfl⟩
    · rw [harrived, hqueue, List.append_assoc read more]
    · rw [samples_append, ← hwritten]
      exact hmore

/-- What is written are the first samples of what has arrived. -/
theorem InOrder.isPrefix (h : link.InOrder arrived) : link.pump.written <+: samples arrived := by
  obtain ⟨read, missed, rfl, hwritten, -⟩ := h
  rw [hwritten, samples_append, samples_append, List.append_assoc]
  exact List.prefix_append ..

theorem InOrder.of_mem_queue {arrival : Arrival} (h : link.InOrder arrived)
    (hmem : arrival ∈ link.queue) : arrival ∈ arrived := by
  obtain ⟨read, missed, rfl, -, -⟩ := h
  exact List.mem_append_left _ (List.mem_append_right _ hmem)

/-! ## While nothing fails -/

/-- That datagrams were passed on in order: what was read is written, what was not is queued,
and only what comes to a closed socket is missed. The pump counts what it writes, and closes, if
it does, without a complaint. -/
structure PassesOn (came : List (List UInt8)) (link : Link) : Prop where
  inOrder : ∃ read queued missed, came = read ++ queued ++ missed ∧
    link.pump.written = read.map (·.take maxDatagram) ∧ link.queue = queued.map .datagram ∧
    (link.isOpen → missed = [])
  forwarded : link.pump.forwarded = link.pump.written.length
  closed : ∀ ending, link.pump.ending? = some ending →
    ending = .returned .closed ∧ link.pump.log = [link.pump.exitEntry .closed]

theorem InOrder.datagrams (h : link.InOrder (came.map .datagram)) :
    ∃ read queued missed, came = read ++ queued ++ missed ∧
      link.pump.written = read.map (·.take maxDatagram) ∧ link.queue = queued.map .datagram ∧
      (link.isOpen → missed = []) := by
  obtain ⟨_, missed, harrived, hwritten, hmissed⟩ := h
  obtain ⟨front, missed, rfl, hfront, rfl⟩ := List.map_eq_append_iff.1 harrived
  obtain ⟨read, queued, rfl, rfl, hqueue⟩ := List.map_eq_append_iff.1 hfront
  refine ⟨read, queued, missed, rfl, ?_, hqueue.symm, fun hopen => ?_⟩
  · rw [hwritten, samples_map_datagram]
  · exact List.map_eq_nil_iff.1 (hmissed hopen)

/-- That a pump has counted what it wrote, and has nothing to say but that it closed. -/
structure IsUntroubled (link : Link) : Prop where
  forwarded : link.pump.forwarded = link.pump.written.length
  closed : ∀ ending, link.pump.ending? = some ending →
    ending = .returned .closed ∧ link.pump.log = [link.pump.exitEntry .closed]
  silent : link.isOpen → link.pump.log = []

theorem IsUntroubled.not_hasFailed (h : link.IsUntroubled) : link.pump.hasFailed = false := by
  refine Bool.eq_false_iff.2 fun hfailed => ?_
  obtain ⟨fault, hfault⟩ := ForwardPump.hasFailed_iff.1 hfailed
  cases (h.closed _ hfault).1

theorem IsUntroubled.arrive (h : link.IsUntroubled) (arrival : Arrival) :
    (link.arrive arrival).IsUntroubled := by
  unfold Link.arrive
  split
  · exact ⟨h.forwarded, h.closed, h.silent⟩
  · exact h

theorem IsUntroubled.forward (h : link.IsUntroubled) (hopen : link.isOpen)
    (haccepts : ∀ n sample, link.sink n sample = .accepted) (octets : List UInt8)
    {next : ForwardPump.Phase} (hnext : ∀ ending, next ≠ .ended ending) (queue : List Arrival) :
    IsUntroubled { link with pump := link.pump.forward link.sink octets next, queue } := by
  rw [ForwardPump.forward_of_accepted haccepts]
  refine ⟨?_, fun ending hending => ?_, fun _ => h.silent hopen⟩
  · simp only [h.forwarded, List.length_append, List.length_singleton]
  · exact absurd (ForwardPump.ending?_eq_some.1 hending) (hnext ending)

theorem IsUntroubled.finish (h : link.IsUntroubled) (hopen : link.isOpen) (queue : List Arrival) :
    IsUntroubled { link with pump := link.pump.finish .closed, queue } := by
  refine ⟨h.forwarded, ?_, nofun⟩
  rintro ending ⟨⟩
  refine ⟨rfl, ?_⟩
  simp only [ForwardPump.finish, h.silent hopen, List.nil_append]
  rfl

theorem IsUntroubled.pumpStep (h : link.IsUntroubled)
    (haccepts : ∀ n sample, link.sink n sample = .accepted)
    (hqueue : ∀ cause, .fault cause ∉ link.queue) (isClosing : Bool) :
    (link.pumpStep isClosing).IsUntroubled := by
  rcases link.pumpStep_cases isClosing with ⟨-, hsame⟩ | ⟨pump, rest, hmoves, hafter⟩
  · rwa [hsame]
  rw [hafter]
  have hopen := isOpen_iff.2 (ForwardPump.ending?_of_moves hmoves)
  generalize link.queue = queue at hmoves hqueue
  cases hmoves with
  | seeClose => exact ⟨h.forwarded, nofun, fun _ => h.silent hopen⟩
  | forward => exact h.forward hopen haccepts _ (fun _ => by simp) _
  | drain => exact h.forward hopen haccepts _ (fun _ => by simp) _
  | reachBound | runDry => exact h.finish hopen _
  | fail | breakOff => exact absurd List.mem_cons_self (hqueue _)

/-- Before the close flag is up, a pump that nothing has troubled goes on listening. -/
theorem listening_pumpStep (h : link.pump.phase = .listening)
    (haccepts : ∀ n sample, link.sink n sample = .accepted)
    (hqueue : ∀ cause, .fault cause ∉ link.queue) :
    (link.pumpStep false).pump.phase = .listening := by
  rcases link.pumpStep_cases false with ⟨-, hsame⟩ | ⟨pump, rest, hmoves, hafter⟩
  · rwa [hsame]
  rw [hafter]
  generalize link.queue = queue at hmoves hqueue
  cases hmoves with
  | seeClose _ hclosing => cases hclosing
  | forward =>
    rw [ForwardPump.forward_of_accepted haccepts]
  | fail => exact absurd List.mem_cons_self (hqueue _)
  | drain hp | reachBound hp | runDry hp | breakOff hp =>
    rw [h] at hp
    cases hp

/-! ## Once the close flag is up -/

/-- What a pump makes of what is queued when its close flag is up. All that it writes from then on
is drained from the queue, from its front, up to the bound. -/
inductive Drains (base queued : List (List UInt8)) (link : Link) : Prop where
  | underWay (drained rest later : List (List UInt8)) (hopen : link.isOpen)
      (hwritten : link.pump.written = base ++ drained.map (·.take maxDatagram))
      (hqueue : link.queue = rest.map .datagram) (hrest : drained ++ rest = queued ++ later)
      (hleft : drained.length + link.pump.phase.left = maxDrained)
  | done (drained : List (List UInt8)) (hended : link.isOpen = false)
      (hwritten : link.pump.written = base ++ drained.map (·.take maxDatagram))
      (hlength : drained.length ≤ maxDrained) (hfirst : queued.take maxDrained <+: drained)

/-- The draining begins with what is queued when the flag is up and the pump has not looked. -/
theorem drains_of_listening (hp : link.pump.phase = .listening)
    (hqueue : link.queue = queued.map .datagram) : link.Drains link.pump.written queued := by
  refine .underWay [] queued [] ?_ ?_ hqueue ?_ ?_
  · exact isOpen_iff.2 (ForwardPump.ending?_eq_none.2 (by simp [hp]))
  · rw [List.map_nil, List.append_nil]
  · rw [List.nil_append, List.append_nil]
  · simp only [hp, ForwardPump.Phase.left, List.length_nil, Nat.zero_add]

theorem Drains.arrive (h : link.Drains base queued) (octets : List UInt8) :
    (link.arrive (.datagram octets)).Drains base queued := by
  cases h with
  | underWay drained rest later hopen hwritten hqueue hrest hleft =>
    rw [Link.arrive, if_pos hopen]
    refine .underWay drained (rest ++ [octets]) (later ++ [octets]) hopen hwritten ?_ ?_ hleft
    · rw [hqueue, List.map_append, List.map_singleton]
    · rw [← List.append_assoc, hrest, List.append_assoc]
  | done drained hended hwritten hlength hfirst =>
    rw [Link.arrive, if_neg (Bool.eq_false_iff.1 hended)]
    exact .done drained hended hwritten hlength hfirst

theorem Drains.pumpStep (h : link.Drains base queued)
    (haccepts : ∀ n sample, link.sink n sample = .accepted) :
    (link.pumpStep true).Drains base queued := by
  cases h with
  | done drained hended hwritten hlength hfirst =>
    rw [pumpStep_of_ended hended]
    exact .done drained hended hwritten hlength hfirst
  | underWay drained rest later hopen hwritten hqueue hrest hleft =>
    rcases link.pumpStep_cases true with ⟨-, hsame⟩ | ⟨pump, queue, hmoves, hafter⟩
    · rw [hsame]
      exact .underWay drained rest later hopen hwritten hqueue hrest hleft
    rw [hafter]
    rw [hqueue] at hmoves
    generalize hmap : rest.map Arrival.datagram = arrivals at hmoves
    cases hmoves with
    | seeClose hp hclosing =>
      rw [hp] at hleft
      exact .underWay drained rest later rfl hwritten hmap.symm hrest hleft
    | forward hp hclosing => cases hclosing
    | fail hp hclosing => cases hclosing
    | @drain left octets _ hp =>
      obtain ⟨first, rest, rfl, hfirst, rfl⟩ := List.map_eq_cons_iff.1 hmap
      cases hfirst
      rw [hp, ForwardPump.Phase.left] at hleft
      rw [ForwardPump.forward_of_accepted haccepts]
      refine .underWay (drained ++ [octets]) rest later rfl ?_ rfl ?_ ?_
      · rw [hwritten, List.map_append, List.map_singleton, List.append_assoc]
      · rw [List.append_assoc, List.singleton_append, hrest]
      · simp only [List.length_append, List.length_singleton, ForwardPump.Phase.left]
        omega
    | reachBound hp =>
      rw [hp, ForwardPump.Phase.left, Nat.add_zero] at hleft
      have hdrained : drained = (queued ++ later).take maxDrained := by
        rw [← hrest, ← hleft, List.take_left]
      refine .done drained rfl hwritten (Nat.le_of_eq hleft) ?_
      rw [hdrained]
      exact (List.prefix_append queued later).take maxDrained
    | runDry hp =>
      obtain rfl := List.map_eq_nil_iff.1 hmap
      rw [List.append_nil] at hrest
      refine .done drained rfl hwritten (hleft ▸ Nat.le_add_right ..) ?_
      rw [hrest]
      exact (List.take_prefix ..).trans (List.prefix_append queued later)
    | breakOff hp =>
      obtain ⟨_, _, -, hfault, -⟩ := List.map_eq_cons_iff.1 hmap
      cases hfault

/-- What has become of a link since it was seen with its flag up: no more was written than the
bound, and if the pump has ended, what was queued comes first. -/
def HasDrained (seen link : Link) : Prop :=
  ∃ queued later : List (List UInt8), seen.queue = queued.map .datagram ∧
    link.pump.written = seen.pump.written ++ later ∧ later.length ≤ maxDrained ∧
    (link.isOpen = false → (queued.take maxDrained).map (·.take maxDatagram) <+: later)

theorem Drains.hasDrained {seen : Link} (h : link.Drains seen.pump.written queued)
    (hqueue : seen.queue = queued.map .datagram) : HasDrained seen link := by
  cases h with
  | underWay drained rest later hopen hwritten _ _ hleft =>
    refine ⟨queued, drained.map (·.take maxDatagram), hqueue, hwritten, ?_, fun hended => ?_⟩
    · rw [List.length_map]
      omega
    · rw [hopen] at hended
      cases hended
  | done drained _ hwritten hlength hfirst =>
    refine ⟨queued, drained.map (·.take maxDatagram), hqueue, hwritten, ?_, fun _ => hfirst.map _⟩
    rwa [List.length_map]

end Link

/-! ## Runs -/

namespace Lane

variable {schedule : List Action} {datagrams : List (List UInt8)} {action : Action}

theorem run_append (lane : Lane) (first rest : List Action) :
    lane.run (first ++ rest) = (lane.run first).run rest := List.foldl_append

theorem arrivals_cons (action : Action) (rest : List Action) :
    arrivals (action :: rest) = action.arrival?.toList ++ arrivals rest := by
  cases action <;> rfl

theorem sink_step (lane : Lane) (action : Action) :
    (lane.step action).link.sink = lane.link.sink := by
  cases action with
  | arrive arrival => exact (lane.link.keeps_arrive arrival).sink
  | pump => exact (lane.link.keeps_pumpStep lane.flag.isUp).sink
  | raiseClose | dropCloser => rfl

theorem isUp_step (h : lane.flag.isUp) (action : Action) : (lane.step action).flag.isUp := by
  cases action with
  | arrive | pump => exact h
  | raiseClose => exact Bool.true_or _
  | dropCloser => exact Bool.or_true _

theorem inOrder_step (h : lane.link.InOrder arrived) (action : Action) :
    (lane.step action).link.InOrder (arrived ++ action.arrival?.toList) := by
  cases action with
  | arrive arrival => exact h.arrive arrival
  | pump =>
    rw [show Action.pump.arrival?.toList = [] from rfl, List.append_nil]
    exact h.pumpStep _
  | raiseClose | dropCloser =>
    exact (List.append_nil arrived).symm ▸ h

/-- Whatever the track answers, what is read is written. -/
theorem inOrder_run (h : lane.link.InOrder arrived) (schedule : List Action) :
    (lane.run schedule).link.InOrder (arrived ++ arrivals schedule) := by
  induction schedule generalizing lane arrived with
  | nil =>
    rw [show arrivals [] = [] from rfl, List.append_nil]
    exact h
  | cons action rest ih =>
    rw [arrivals_cons, ← List.append_assoc]
    exact ih (inOrder_step h action)

/-- What a step keeps of a lane whose track accepts everything, with the datagrams that have come to
it, a run keeps. -/
theorem run_induction {P : List (List UInt8) → Lane → Prop}
    (hstep : ∀ came lane action datagrams, (∀ n sample, lane.link.sink n sample = .accepted) →
      action.arrival?.toList = datagrams.map .datagram → P came lane →
        P (came ++ datagrams) (lane.step action))
    (haccepts : ∀ n sample, lane.link.sink n sample = .accepted)
    (harrivals : arrivals schedule = datagrams.map .datagram) (came : List (List UInt8))
    (h : P came lane) : P (came ++ datagrams) (lane.run schedule) := by
  induction schedule generalizing lane came datagrams with
  | nil =>
    obtain rfl := List.map_eq_nil_iff.1 harrivals.symm
    rwa [List.append_nil]
  | cons action rest ih =>
    rw [arrivals_cons] at harrivals
    obtain ⟨first, later, rfl, hfirst, hlater⟩ := List.map_eq_append_iff.1 harrivals.symm
    rw [← List.append_assoc]
    refine ih (fun n sample => ?_) hlater.symm _ (hstep _ _ _ _ haccepts hfirst.symm h)
    rw [sink_step]
    exact haccepts n sample

/-- What holds of a lane to which these datagrams have come, while its track accepts everything. -/
structure GoesWell (came : List (List UInt8)) (lane : Lane) : Prop where
  inOrder : lane.link.InOrder (came.map .datagram)
  untroubled : lane.link.IsUntroubled
  stop : lane.stop = .armed
  listening : lane.flag.isUp = false → lane.link.pump.phase = .listening

theorem goesWell_start (session : String) (ingress : IngressSocket) (sink : Sink) :
    (start session ingress sink).GoesWell [] :=
  ⟨Link.inOrder_start session ingress sink, ⟨rfl, nofun, fun _ => rfl⟩, rfl, fun _ => rfl⟩

theorem GoesWell.fault_notMem (h : lane.GoesWell came) (cause : String) :
    .fault cause ∉ lane.link.queue := fun hmem => by
  obtain ⟨octets, -, hfault⟩ := List.mem_map.1 (h.inOrder.of_mem_queue hmem)
  cases hfault

theorem GoesWell.step (h : lane.GoesWell came)
    (haccepts : ∀ n sample, lane.link.sink n sample = .accepted)
    (harrival : action.arrival?.toList = datagrams.map .datagram) :
    (lane.step action).GoesWell (came ++ datagrams) := by
  have hinOrder : (lane.step action).link.InOrder ((came ++ datagrams).map .datagram) := by
    rw [List.map_append, ← harrival]
    exact inOrder_step h.inOrder action
  cases action with
  | arrive arrival =>
    refine ⟨hinOrder, h.untroubled.arrive arrival, h.stop, fun hdown => ?_⟩
    simp only [Lane.step, Link.pump_arrive]
    exact h.listening hdown
  | pump =>
    have hafter := h.untroubled.pumpStep haccepts h.fault_notMem lane.flag.isUp
    refine ⟨hinOrder, hafter, ?_, fun hdown => ?_⟩
    · simp only [Lane.step, hafter.not_hasFailed, Bool.false_eq_true, if_false, h.stop]
    · have hflag : lane.flag.isUp = false := hdown
      simp only [Lane.step, hflag]
      exact Link.listening_pumpStep (h.listening hflag) haccepts h.fault_notMem
  | raiseClose => exact ⟨hinOrder, h.untroubled, h.stop, nofun⟩
  | dropCloser =>
    refine ⟨hinOrder, h.untroubled, h.stop, fun hdown => ?_⟩
    cases (Bool.or_true _).symm.trans hdown

theorem drains_step (haccepts : ∀ n sample, lane.link.sink n sample = .accepted)
    (harrival : action.arrival?.toList = datagrams.map .datagram)
    (h : lane.flag.isUp ∧ lane.link.Drains base queued) :
    (lane.step action).flag.isUp ∧ (lane.step action).link.Drains base queued := by
  obtain ⟨hup, hlink⟩ := h
  refine ⟨isUp_step hup action, ?_⟩
  cases action with
  | arrive arrival =>
    obtain ⟨octets, rfl, rfl⟩ := List.map_eq_singleton_iff.1 harrival.symm
    exact hlink.arrive octets
  | pump =>
    simp only [step, hup]
    exact hlink.pumpStep haccepts
  | raiseClose | dropCloser => exact hlink

theorem goesWell_run (session : String) (ingress : IngressSocket) {sink : Sink}
    (haccepts : ∀ n sample, sink n sample = .accepted)
    (harrivals : arrivals schedule = datagrams.map .datagram) :
    ((start session ingress sink).run schedule).GoesWell datagrams :=
  run_induction (fun _ _ _ _ haccepts harrival h => GoesWell.step h haccepts harrival) haccepts
    harrivals [] (goesWell_start session ingress sink)

theorem sink_run (lane : Lane) (schedule : List Action) :
    (lane.run schedule).link.sink = lane.link.sink := by
  induction schedule generalizing lane with
  | nil => rfl
  | cons action rest ih => exact (ih (lane.step action)).trans (lane.sink_step action)

/-- From a moment on at which the flag is up and the pump has not looked, a lane drains. -/
theorem hasDrained_append {session : String} {ingress : IngressSocket} {sink : Sink}
    (haccepts : ∀ n sample, sink n sample = .accepted) {before after : List Action}
    (harrivals : arrivals (before ++ after) = datagrams.map .datagram)
    (hup : ((start session ingress sink).run before).flag.isUp)
    (hlistening : ((start session ingress sink).run before).link.pump.phase = .listening) :
    ((start session ingress sink).run before).link.HasDrained
      ((start session ingress sink).run (before ++ after)).link := by
  rw [arrivals, List.filterMap_append] at harrivals
  obtain ⟨first, later, rfl, hfirst, hlater⟩ := List.map_eq_append_iff.1 harrivals.symm
  have hbefore := goesWell_run session ingress haccepts hfirst.symm
  obtain ⟨_, queued, _, -, -, hqueue, -⟩ := hbefore.inOrder.datagrams
  have hdrains := run_induction
    (P := fun _ lane => lane.flag.isUp ∧
      lane.link.Drains ((start session ingress sink).run before).link.pump.written queued)
    (fun _ _ _ _ haccepts harrival h => drains_step haccepts harrival h)
    (fun n sample => by
      rw [sink_run]
      exact haccepts n sample)
    hlater.symm [] ⟨hup, Link.drains_of_listening hlistening hqueue⟩
  rw [run_append]
  exact hdrains.2.hasDrained hqueue

/-- Once the flag is up, every step of the pump counts. -/
theorem stepsLeft_run (h : lane.flag.isUp) (schedule : List Action) :
    (lane.run schedule).link.pump.phase.stepsLeft ≤
      lane.link.pump.phase.stepsLeft - schedule.count .pump := by
  induction schedule generalizing lane with
  | nil => exact Nat.le_refl _
  | cons action rest ih =>
    refine (ih (isUp_step h action)).trans ?_
    cases action with
    | arrive arrival =>
      have hcount : (Action.arrive arrival :: rest).count .pump = rest.count .pump := by simp
      simp only [hcount, step, Link.pump_arrive, Nat.le_refl]
    | pump =>
      have hstep := lane.link.stepsLeft_pumpStep
      simp only [List.count_cons_self, step, h]
      omega
    | raiseClose | dropCloser =>
      simp [step]

/-- A pump whose track accepts everything passes on the datagrams that come in, in order and each
cut to the size of its buffer, and never stops the session. From the moment on at which its close
flag is up it writes no more than the bound, whatever still comes in, and what is queued then comes
first; a bounded number of its own steps ends it. -/
theorem passes_datagrams_on (session : String) (ingress : IngressSocket) {sink : Sink}
    (haccepts : ∀ n sample, sink n sample = .accepted) {schedule : List Action}
    {datagrams : List (List UInt8)} (harrivals : arrivals schedule = datagrams.map .datagram) :
    ((start session ingress sink).run schedule).link.PassesOn datagrams ∧
    ((start session ingress sink).run schedule).stop = .armed ∧
    ∀ before after, schedule = before ++ after →
      ((start session ingress sink).run before).flag.isUp →
      ((start session ingress sink).run before).link.pump.phase = .listening →
      Link.HasDrained ((start session ingress sink).run before).link
        ((start session ingress sink).run schedule).link ∧
      (maxDrained + 2 ≤ after.count .pump →
        ((start session ingress sink).run schedule).link.pump.ending? =
          some (.returned .closed)) := by
  have hwell := goesWell_run session ingress haccepts harrivals
  refine ⟨⟨hwell.inOrder.datagrams, hwell.untroubled.forwarded, hwell.untroubled.closed⟩,
    hwell.stop, ?_⟩
  rintro before after rfl hup hlistening
  refine ⟨hasDrained_append haccepts harrivals hup hlistening, fun hcount => ?_⟩
  have hleft := stepsLeft_run hup after
  rw [hlistening, ForwardPump.Phase.stepsLeft, Nat.sub_eq_zero_of_le hcount, ← run_append] at hleft
  obtain ⟨ending, hending⟩ := ForwardPump.ending?_of_stepsLeft (Nat.le_zero.1 hleft)
  rw [hending, (hwell.untroubled.closed ending hending).1]

/-- Of two datagrams one is read when the sender of the flag goes. -/
def beforeClose : List Action :=
  [.arrive (.datagram [1]), .arrive (.datagram [2]), .pump, .dropCloser]

/-- A third one, too long for the buffer, comes in before the pump has looked at the flag. -/
def afterClose : List Action :=
  .arrive (.datagram (List.replicate 1601 3)) :: List.replicate 258 .pump

theorem passes_datagrams_on_midway :
    (∀ n sample, Sink.ofRules [] n sample = .accepted) ∧
    arrivals (beforeClose ++ afterClose) =
      [[1], [2], List.replicate 1601 3].map .datagram ∧
    ((start "s" ⟨.video, 5000⟩ (.ofRules [])).run (beforeClose ++ afterClose)).link.PassesOn
      [[1], [2], List.replicate 1601 3] ∧
    Link.HasDrained ((start "s" ⟨.video, 5000⟩ (.ofRules [])).run beforeClose).link
      ((start "s" ⟨.video, 5000⟩ (.ofRules [])).run (beforeClose ++ afterClose)).link ∧
    ((start "s" ⟨.video, 5000⟩ (.ofRules [])).run (beforeClose ++ afterClose)).link.pump.ending? =
      some (.returned .closed) := by
  have haccepts : ∀ n sample, Sink.ofRules [] n sample = .accepted := fun _ _ => rfl
  have harrivals : arrivals (beforeClose ++ afterClose) =
      [[1], [2], List.replicate 1601 3].map .datagram := by
    have hpumps : arrivals (List.replicate 258 .pump) = [] := List.filterMap_replicate_of_none rfl
    simp only [beforeClose, afterClose, List.cons_append, List.nil_append, arrivals_cons, hpumps]
    rfl
  have hcount : maxDrained + 2 ≤ afterClose.count .pump := by
    rw [afterClose, List.count_cons, List.count_replicate_self]
    exact Nat.le_add_right _ _
  obtain ⟨hpasses, -, hcloses⟩ := passes_datagrams_on "s" ⟨.video, 5000⟩ haccepts harrivals
  obtain ⟨hdrained, hends⟩ := hcloses beforeClose afterClose rfl rfl rfl
  exact ⟨haccepts, harrivals, hpasses, hdrained, hends hcount⟩

end Lane

end RtpBridge

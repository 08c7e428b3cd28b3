-- SUMMARY: The pumps and sinks of a relay are collected completely, in their order and once.
import RtpBridge.Proofs.Relay.Draining
import RtpBridge.Proofs.Relay.Stop

/-!
# Collecting

Whoever holds a relay makes two calls to collect its tasks. Between them the tasks go on as they
like. What is known of the relay then depends on which call has been made (`Relay.Standing`): the
first call of each kind collects everything, and there is nothing left for a later one.
-/

namespace RtpBridge

namespace Relay

variable {relay after : Relay} {stop : StopLatch} {links : List (IngressSocket × Sink)}
  {hasClosed hasDrained : Bool} {grace : UInt64} {finishes : Nat → Option Draining.Finish}

/-! ## Uses of a relay -/

/-- Whether an action takes the exit of a pump or a sink. -/
def Action.collects : Action → Bool
  | .joinPump | .joinSink .. => true
  | _ => false

/-- What is done to a relay: an action of its tasks or from outside, or a call of its holder, who
alone collects. -/
inductive Use where
  | act (action : Action) (h : action.collects = false)
  | closeSockets
  | drainFeedback (grace : UInt64) (finishes : Nat → Option Draining.Finish)

def Use.closes : Use → Bool
  | .closeSockets => true
  | _ => false

def Use.drains : Use → Bool
  | .drainFeedback .. => true
  | _ => false

def use (relay : Relay) (stop : StopLatch) : Use → Relay × StopLatch
  | .act action _ => relay.step stop action
  | .closeSockets => (relay.closeSockets stop).2
  | .drainFeedback grace finishes => ((relay.drainFeedback grace finishes).2, stop)

def useAll (relay : Relay) (stop : StopLatch) : List Use → Relay × StopLatch
  | [] => (relay, stop)
  | first :: rest => (relay.use stop first).1.useAll (relay.use stop first).2 rest

/-- What is known of a relay that was launched with these links, after either call has been made or
not. -/
structure Standing (links : List (IngressSocket × Sink)) (hasClosed hasDrained : Bool)
    (relay : Relay) (stop : StopLatch) : Prop where
  ingresses : relay.links.map (·.ingress) = links.map (·.1)
  accounts : relay.Accounts
  latched : ∀ i, relay.hasFailed i → stop.isTriggered
  unclosed : hasClosed = false → relay.forwardExits = []
  closed : hasClosed → relay.isClosing ∧ relay.pumpsJoined
  undrained : hasDrained = false →
    relay.feedbackExits = [] ∧ ∀ link ∈ relay.links, link.feedback.phase ≠ .aborted
  drained : hasDrained → relay.sinksJoined

theorem length_of_ingresses (h : relay.links.map (·.ingress) = links.map (·.1)) :
    relay.links.length = links.length := by
  rw [← List.length_map (·.ingress), h, List.length_map]

theorem Standing.length (h : relay.Standing links hasClosed hasDrained stop) :
    relay.links.length = links.length := length_of_ingresses h.ingresses

theorem standing_launch (session : String) (links : List (IngressSocket × Sink))
    (stop : StopLatch) : (launch session links).Standing links false false stop := by
  have hlinks : (launch session links).links =
      links.map fun link => .start session link.1 link.2 := rfl
  refine ⟨?_, accounts_launch session links, fun i hi => ?_, fun _ => rfl,
    (fun h => by cases h), fun _ => ⟨rfl, fun link hlink => ?_⟩, fun h => by cases h⟩
  · rw [hlinks, List.map_map]
    rfl
  · exact absurd ((latched_launch session links).2 ⟨i, hi⟩) Bool.false_ne_true
  · rw [hlinks] at hlink
    obtain ⟨_, -, rfl⟩ := List.mem_map.1 hlink
    exact fun h => by cases h

theorem KeepsLinks.ingresses (h : relay.KeepsLinks after) :
    after.links.map (·.ingress) = relay.links.map (·.ingress) := by
  apply List.ext_getElem?
  intro i
  rw [List.getElem?_map, List.getElem?_map]
  cases hlink : relay.links[i]? with
  | none =>
    have hnone : after.links[i]? = none :=
      List.getElem?_eq_none (h.length ▸ List.getElem?_eq_none_iff.1 hlink)
    rw [hnone]
  | some link =>
    obtain ⟨next, hnext, hkeeps⟩ := h.link i link hlink
    rw [hnext]
    exact congrArg some hkeeps.ingress

/-! ## Actions -/

theorem isClosing_step (h : relay.isClosing) (stop : StopLatch) (action : Action) :
    (relay.step stop action).1.isClosing := by
  cases action with
  | raiseClose => rfl
  | arrive | pump | feedback | trigger => exact h
  | joinPump =>
    simp only [step]
    cases hjoin : relay.joinPump? with
    | none => exact h
    | some after =>
      obtain ⟨_, _, -, -, rfl⟩ := joinPump?_eq_some.1 hjoin
      exact h
  | joinSink grace isGraceOver =>
    simp only [step]
    cases hjoin : relay.joinSink? grace isGraceOver with
    | none => exact h
    | some after => obtain ⟨_, _, _, -, ⟨-, rfl⟩ | rfl⟩ := joinSink?_eq_some hjoin <;> exact h

/-- Whoever fails triggers the latch, and no one takes that back. -/
theorem isTriggered_of_hasFailed_step (h : ∀ i, relay.hasFailed i → stop.isTriggered)
    (action : Action) (i : Nat) (hfailed : (relay.step stop action).1.hasFailed i) :
    (relay.step stop action).2.isTriggered := by
  have hlasts (htriggered : stop.isTriggered) : (relay.step stop action).2.isTriggered := by
    cases action with
    | pump j =>
      simp only [step]
      split
      · exact stop.isTriggered_trigger
      · exact htriggered
    | trigger => exact stop.isTriggered_trigger
    | arrive | feedback | raiseClose | joinPump | joinSink => exact htriggered
  rcases hasFailed_of_step hfailed with hbefore | rfl
  · exact hlasts (h i hbefore)
  · have hstop : (relay.step stop (.pump i)).2 = stop.trigger.2 := if_pos hfailed
    rw [hstop]
    exact stop.isTriggered_trigger

theorem forall_mem_modifyLink {P : Link → Prop} {f : Link → Link} (i : Nat)
    (hf : ∀ link, P link → P (f link)) (h : ∀ link ∈ relay.links, P link) :
    ∀ link ∈ (relay.modifyLink i f).links, P link := by
  intro next hnext
  obtain ⟨j, hj⟩ := List.mem_iff_getElem?.1 hnext
  obtain ⟨link, hlink, rfl | ⟨-, rfl⟩⟩ := exists_of_modifyLink hj
  · exact h next (List.mem_of_getElem? hlink)
  · exact hf link (h link (List.mem_of_getElem? hlink))

/-- Only who collects aborts a sink. -/
theorem phase_ne_aborted_step {action : Action} (haction : action.collects = false)
    (h : ∀ link ∈ relay.links, link.feedback.phase ≠ .aborted) :
    ∀ link ∈ (relay.step stop action).1.links, link.feedback.phase ≠ .aborted := by
  cases action with
  | joinPump | joinSink => cases haction
  | raiseClose | trigger => exact h
  | arrive i arrival =>
    refine forall_mem_modifyLink i (fun link hlink => ?_) h
    unfold Link.arrive
    split <;> exact hlink
  | pump i =>
    refine forall_mem_modifyLink i (fun link hlink => ?_) h
    unfold Link.pumpStep
    split <;> exact hlink
  | feedback i outcome =>
    refine forall_mem_modifyLink i (fun link hlink => ?_) h
    simp only [Link.feedbackStep, FeedbackSink.step]
    split
    · next hreading =>
      cases outcome with
      | packet => exact hlink
      | closed | failed | panicked => exact fun h => by cases h
    · exact hlink

theorem Standing.act (h : relay.Standing links hasClosed hasDrained stop) {action : Action}
    (haction : action.collects = false) :
    (relay.step stop action).1.Standing links hasClosed hasDrained (relay.step stop action).2 := by
  have hexits : (relay.step stop action).1.forwardExits = relay.forwardExits ∧
      (relay.step stop action).1.feedbackExits = relay.feedbackExits := by
    cases action with
    | joinPump | joinSink => cases haction
    | arrive | pump | feedback | raiseClose | trigger => exact ⟨rfl, rfl⟩
  refine ⟨(keepsLinks_step relay stop action).ingresses.trans h.ingresses,
    h.accounts.step stop action, isTriggered_of_hasFailed_step h.latched action, fun hno => ?_,
    fun hyes => ?_, fun hno => ?_, fun hyes => sinksJoined_step (h.drained hyes) stop action⟩
  · rw [hexits.1, h.unclosed hno]
  · obtain ⟨hclosing, hjoined⟩ := h.closed hyes
    exact ⟨isClosing_step hclosing stop action, pumpsJoined_step hjoined stop action⟩
  · obtain ⟨hnone, hphase⟩ := h.undrained hno
    exact ⟨hexits.2.trans hnone, phase_ne_aborted_step haction hphase⟩

/-! ## Closing the sockets -/

/-- Joining pumps changes nothing but the exits that are collected and the log. -/
theorem exists_joinPumps (count : Nat) (relay : Relay) : ∃ forwardExits log,
    joinPumps count relay = { relay with forwardExits, log } := by
  induction count generalizing relay with
  | zero => exact ⟨_, _, rfl⟩
  | succ count ih =>
    rw [joinPumps]
    split
    · next after hjoin =>
      obtain ⟨_, _, -, -, rfl⟩ := joinPump?_eq_some.1 hjoin
      obtain ⟨forwardExits, log, heq⟩ := ih { relay with forwardExits := _, log := _ }
      exact ⟨forwardExits, log, heq⟩
    · exact ⟨_, _, rfl⟩

theorem Accounts.joinPumps (h : relay.Accounts) (count : Nat) :
    (Relay.joinPumps count relay).Accounts := by
  induction count generalizing relay with
  | zero => exact h
  | succ count ih =>
    rw [Relay.joinPumps]
    split
    · next hjoin => exact ih (h.joinPump hjoin)
    · exact h

theorem Accounts.closeSockets (h : relay.Accounts) (stop : StopLatch) :
    (relay.closeSockets stop).2.1.Accounts := by
  have hraised : relay.raiseClose.Accounts := ⟨h.pumps, h.sinks⟩
  have hsettled : (relay.raiseClose.settlePumps stop).1.Accounts :=
    hraised.of_keepsLinks (keepsLinks_settlePumps relay.raiseClose stop) rfl rfl
  exact hsettled.joinPumps _

/-- Closing the sockets leaves behind settled pumps, and changes nothing else but the exits. -/
theorem exists_closeSockets (relay : Relay) (stop : StopLatch) : ∃ forwardExits log,
    (relay.closeSockets stop).2.1 = { relay with
      links := relay.links.map (·.pumpSettle true), isClosing := true, forwardExits, log } := by
  obtain ⟨forwardExits, log, heq⟩ := exists_joinPumps
    (relay.raiseClose.settlePumps stop).1.links.length (relay.raiseClose.settlePumps stop).1
  exact ⟨forwardExits, log, heq⟩

theorem keepsLinks_closeSockets (relay : Relay) (stop : StopLatch) :
    relay.KeepsLinks (relay.closeSockets stop).2.1 := by
  obtain ⟨forwardExits, log, heq⟩ := exists_closeSockets relay stop
  have hkeeps := keepsLinks_settlePumps relay.raiseClose stop
  rw [heq]
  exact ⟨hkeeps.length, hkeeps.link⟩

theorem isTriggered_closeSockets {i : Nat} (h : (relay.closeSockets stop).2.1.hasFailed i) :
    (relay.closeSockets stop).2.2.isTriggered := by
  obtain ⟨forwardExits, log, heq⟩ := exists_closeSockets relay stop
  obtain ⟨link, fault, hlink, hfault⟩ := hasFailed_iff.1 h
  have hany : (relay.links.map (·.pumpSettle true)).any (·.pump.hasFailed) := by
    rw [heq] at hlink
    exact List.any_eq_true.2 ⟨link, List.mem_of_getElem? hlink,
      ForwardPump.hasFailed_iff.2 ⟨fault, hfault⟩⟩
  have hstop : (relay.closeSockets stop).2.2 = stop.trigger.2 := if_pos hany
  rw [hstop]
  exact stop.isTriggered_trigger

theorem Standing.closeSockets (h : relay.Standing links hasClosed hasDrained stop) :
    (relay.closeSockets stop).2.1.Standing links true hasDrained (relay.closeSockets stop).2.2 := by
  obtain ⟨forwardExits, log, heq⟩ := exists_closeSockets relay stop
  refine ⟨(keepsLinks_closeSockets relay stop).ingresses.trans h.ingresses,
    h.accounts.closeSockets stop, fun i => isTriggered_closeSockets, nofun,
    fun _ => ⟨by rw [heq], pumpsJoined_closeSockets h.accounts stop⟩, fun hno => ?_, fun hyes => ?_⟩
  · obtain ⟨hnone, hphase⟩ := h.undrained hno
    rw [heq]
    refine ⟨hnone, fun next hnext => ?_⟩
    obtain ⟨link, hlink, rfl⟩ := List.mem_map.1 hnext
    exact hphase link hlink
  · have hlength := beq_iff_eq.1 (h.drained hyes)
    rw [heq]
    exact beq_iff_eq.2 (hlength.trans (List.length_map ..).symm)

/-- Settling has no effect on pumps that have ended. -/
theorem settlePumps_of_ended (hended : ∀ link ∈ relay.links, link.pump.ending?.isSome)
    (hlatched : ∀ i, relay.hasFailed i → stop.isTriggered) :
    relay.settlePumps stop = (relay, stop) := by
  have hlinks : relay.links.map (·.pumpSettle relay.isClosing) = relay.links := by
    refine (List.map_congr_left fun link hlink => ?_).trans (List.map_id' _)
    obtain ⟨ending, hending⟩ := Option.isSome_iff_exists.1 (hended link hlink)
    rw [Link.pumpSettle, ForwardPump.settle_of_ended hending]
  simp only [settlePumps, hlinks]
  split
  · next hany =>
    obtain ⟨link, hlink, hfailed⟩ := List.any_eq_true.1 hany
    obtain ⟨i, hi⟩ := List.mem_iff_getElem?.1 hlink
    have htriggered : stop.isTriggered := hlatched i (by rw [hasFailed, hi]; exact hfailed)
    cases stop with
    | armed => cases htriggered
    | triggered => rfl
  · rfl

theorem joinPumps_of_joined (h : relay.pumpsJoined) (count : Nat) :
    joinPumps count relay = relay := by
  cases count with
  | zero => rfl
  | succ count => rw [joinPumps, joinPump?_of_joined h]

/-- Once the sockets are closed there is nothing left to close or to collect. -/
theorem Standing.closeSockets_again (h : relay.Standing links true hasDrained stop) :
    relay.closeSockets stop = ([], relay, stop) := by
  obtain ⟨hclosing, hjoined⟩ := h.closed rfl
  have hraised : relay.raiseClose = relay := by rw [raiseClose, ← hclosing]
  have hended : ∀ link ∈ relay.links, link.pump.ending?.isSome := by
    intro link hlink
    obtain ⟨i, hi⟩ := List.mem_iff_getElem?.1 hlink
    obtain ⟨ending, hending, -⟩ := h.accounts.ending? hjoined hi
    rw [hending]
    rfl
  simp only [Relay.closeSockets, hraised, settlePumps_of_ended hended h.latched,
    joinPumps_of_joined hjoined, List.drop_length]

/-! ## Draining the feedback -/

/-- Once the feedback is drained there is nothing left to drain. -/
theorem Standing.drainFeedback_again (h : relay.Standing links hasClosed true stop)
    (grace : UInt64) (finishes : Nat → Option Draining.Finish) :
    relay.drainFeedback grace finishes = ([], relay) := by
  have hlength : relay.feedbackExits.length = relay.links.length := beq_iff_eq.1 (h.drained rfl)
  simp only [Relay.drainFeedback, hlength, List.take_length, List.drop_length, List.length_nil,
    List.range_zero, List.map_nil, Draining.turns, List.zipWith_nil_left, List.append_nil,
    List.flatten_nil]

/-- What the turn of the `i`-th sink brings, if all sinks are waited for from the first one on. -/
def turnOf (grace : UInt64) (finishes : Nat → Option Draining.Finish) (i : Nat) : Draining.Turn :=
  (Draining.turn grace.toNat (Draining.begins grace.toNat 0 finishes i) (finishes i)).1

theorem turns_eq_map_turnOf (h : relay.feedbackExits = []) : Draining.turns grace.toNat 0
    ((List.range (relay.links.drop relay.feedbackExits.length).length).map fun i =>
      finishes (relay.feedbackExits.length + i)) =
        (List.range relay.links.length).map (turnOf grace finishes) := by
  have hfinishes : (fun i => finishes (relay.feedbackExits.length + i)) = finishes := by
    rw [h]
    exact funext fun i => congrArg finishes (Nat.zero_add i)
  rw [hfinishes, Draining.turns_range, h]
  rfl

theorem fst_drainFeedback (h : relay.feedbackExits = []) :
    (relay.drainFeedback grace finishes).1 =
      (List.range relay.links.length).map fun i => (turnOf grace finishes i).exit := by
  rw [drainFeedback, turns_eq_map_turnOf h, List.map_map]
  rfl

/-- The turn of each sink ends it. -/
theorem getElem?_drainFeedback (h : relay.feedbackExits = []) (i : Nat) :
    (relay.drainFeedback grace finishes).2.links[i]? =
      relay.links[i]?.map fun link => link.conclude (turnOf grace finishes i) := by
  simp only [drainFeedback, turns_eq_map_turnOf h]
  rw [h, List.length_nil, List.take_zero, List.nil_append, List.drop_zero, List.getElem?_zipWith]
  cases hlink : relay.links[i]? with
  | none => rfl
  | some link =>
    have hlt := (List.getElem?_eq_some_iff.1 hlink).1
    rw [List.getElem?_map, List.getElem?_range hlt]
    rfl

theorem feedbackExits_drainFeedback (h : relay.feedbackExits = []) :
    (relay.drainFeedback grace finishes).2.feedbackExits =
      (relay.drainFeedback grace finishes).1 := by
  simp only [drainFeedback, h, List.nil_append]

theorem keepsLinks_drainFeedback (h : relay.feedbackExits = []) :
    relay.KeepsLinks (relay.drainFeedback grace finishes).2 where
  length := by
    simp only [drainFeedback, turns_eq_map_turnOf h]
    rw [h, List.length_nil, List.take_zero, List.nil_append, List.drop_zero, List.length_zipWith,
      List.length_map, List.length_range, Nat.min_self]
  link i link hlink := by
    refine ⟨link.conclude (turnOf grace finishes i), ?_, link.keeps_conclude _⟩
    rw [getElem?_drainFeedback h, hlink, Option.map_some]

theorem length_drainFeedback (h : relay.feedbackExits = []) :
    (relay.drainFeedback grace finishes).1.length = relay.links.length := by
  rw [fst_drainFeedback h, List.length_map, List.length_range]

theorem Standing.drainFeedback (h : relay.Standing links hasClosed hasDrained stop)
    (grace : UInt64) (finishes : Nat → Option Draining.Finish) :
    (relay.drainFeedback grace finishes).2.Standing links hasClosed true stop := by
  cases hasDrained with
  | true =>
    rw [h.drainFeedback_again grace finishes]
    exact h
  | false =>
    obtain ⟨hnone, -⟩ := h.undrained rfl
    have hkeeps : relay.KeepsLinks (relay.drainFeedback grace finishes).2 :=
      keepsLinks_drainFeedback hnone
    have hpumps : Accounts { (relay.drainFeedback grace finishes).2 with
        feedbackExits := relay.feedbackExits } :=
      h.accounts.of_keepsLinks ⟨hkeeps.length, hkeeps.link⟩ rfl rfl
    have hexits : (relay.drainFeedback grace finishes).2.feedbackExits.length =
        relay.links.length := by
      rw [feedbackExits_drainFeedback hnone, length_drainFeedback hnone]
    refine ⟨hkeeps.ingresses.trans h.ingresses, ⟨hpumps.pumps, fun i hi => ?_⟩, fun i hi => ?_,
      h.unclosed, fun hyes => ?_, nofun, fun _ => beq_iff_eq.2 (hexits.trans hkeeps.length.symm)⟩
    · rw [hexits] at hi
      refine ⟨_, ?_, Link.isReading_conclude relay.links[i] (turnOf grace finishes i)⟩
      rw [getElem?_drainFeedback hnone, List.getElem?_eq_getElem hi, Option.map_some]
    · obtain ⟨next, fault, hnext, hfault⟩ := hasFailed_iff.1 hi
      rw [getElem?_drainFeedback hnone, Option.map_eq_some_iff] at hnext
      obtain ⟨link, hlink, rfl⟩ := hnext
      have hpump : (link.conclude (turnOf grace finishes i)).pump = link.pump := by
        cases turnOf grace finishes i <;> rfl
      rw [hpump] at hfault
      exact h.latched i (hasFailed_iff.2 ⟨link, fault, hlink, hfault⟩)
    · obtain ⟨hclosing, hjoined⟩ := h.closed hyes
      exact ⟨hclosing, beq_iff_eq.2 ((beq_iff_eq.1 hjoined).trans hkeeps.length.symm)⟩

/-- That these times are right about the sinks that have ended already. -/
def Foresees (finishes : Nat → Option Draining.Finish) (relay : Relay) : Prop :=
  ∀ i link ending, relay.links[i]? = some link → link.feedback.ending? = some ending →
    finishes i = some ⟨0, ending⟩

/-! ## Uses -/

theorem Standing.use (h : relay.Standing links hasClosed hasDrained stop) (use : Use) :
    (relay.use stop use).1.Standing links (hasClosed || use.closes) (hasDrained || use.drains)
      (relay.use stop use).2 := by
  cases use with
  | act action haction =>
    simp only [Use.closes, Use.drains, Bool.or_false]
    exact h.act haction
  | closeSockets =>
    simp only [Use.closes, Use.drains, Bool.or_false, Bool.or_true]
    exact h.closeSockets
  | drainFeedback grace finishes =>
    simp only [Use.closes, Use.drains, Bool.or_false, Bool.or_true]
    exact h.drainFeedback grace finishes

theorem Standing.useAll (h : relay.Standing links hasClosed hasDrained stop) (uses : List Use) :
    (relay.useAll stop uses).1.Standing links (hasClosed || uses.any Use.closes)
      (hasDrained || uses.any Use.drains) (relay.useAll stop uses).2 := by
  induction uses generalizing relay stop hasClosed hasDrained with
  | nil =>
    simp only [List.any_nil, Bool.or_false]
    exact h
  | cons use rest ih =>
    rw [List.any_cons, List.any_cons, ← Bool.or_assoc, ← Bool.or_assoc]
    exact ih (h.use use)

/-! ## The calls -/

/-- That these are the exits of the forward pumps, one for each link in the order of launch. -/
structure AreExits (links : List (IngressSocket × Sink)) (relay : Relay) (exits : List PumpExit) :
    Prop where
  length : exits.length = links.length
  exit : ∀ (i : Nat) (ingress : IngressSocket) (sink : Sink), links[i]? = some (ingress, sink) →
    ∃ (link : Link) (ending : TaskEnd), relay.links[i]? = some link ∧ link.ingress = ingress ∧
      link.pump.ending? = some ending ∧ exits[i]? = some ending.exit

theorem Accounts.areExits (h : relay.Accounts) (hjoined : relay.pumpsJoined)
    (hingresses : relay.links.map (·.ingress) = links.map (·.1)) :
    relay.AreExits links relay.forwardExits := by
  refine ⟨(beq_iff_eq.1 hjoined).trans (length_of_ingresses hingresses),
    fun i ingress sink hi => ?_⟩
  have hingress : relay.links[i]?.map (·.ingress) = some ingress := by
    rw [← List.getElem?_map, hingresses, List.getElem?_map, hi]
    rfl
  obtain ⟨link, hlink, heq⟩ := Option.map_eq_some_iff.1 hingress
  obtain ⟨ending, hending, hexit⟩ := h.ending? hjoined hlink
  exact ⟨link, ending, hlink, heq, hending, hexit⟩

/-- That draining the feedback brings one exit for each of so many links, in the order of their
launch and as their turns say. -/
structure DrainsInTurn (n : Nat) (grace : UInt64) (finishes : Nat → Option Draining.Finish)
    (relay : Relay) : Prop where
  length : (relay.drainFeedback grace finishes).1.length = n
  /-- A sink that ends before its deadline gives its own result. -/
  own : ∀ i < n, ∀ finish, finishes i = some finish →
    finish.time < Draining.begins grace.toNat 0 finishes i + grace.toNat →
      (relay.drainFeedback grace finishes).1[i]? = some finish.ending.exit ∧
      (relay.drainFeedback grace finishes).2.links[i]? =
        relay.links[i]?.map (·.conclude (.ended finish.ending)) ∧
      Draining.begins grace.toNat 0 finishes (i + 1) =
        max (Draining.begins grace.toNat 0 finishes i) finish.time
  /-- A sink that runs on beyond its deadline is aborted and counts as closed. -/
  aborted : ∀ i < n, (∀ finish, finishes i = some finish →
    Draining.begins grace.toNat 0 finishes i + grace.toNat < finish.time) →
      (relay.drainFeedback grace finishes).1[i]? = some .closed ∧
      (relay.drainFeedback grace finishes).2.links[i]? =
        relay.links[i]?.map (·.conclude .aborted) ∧
      Draining.begins grace.toNat 0 finishes (i + 1) =
        Draining.begins grace.toNat 0 finishes i + grace.toNat
  /-- Whatever the others do, a sink that ends within the first grace is not aborted. -/
  spared : ∀ i < n, ∀ finish, finishes i = some finish → finish.time < grace.toNat →
    (relay.drainFeedback grace finishes).1[i]? = some finish.ending.exit
  duration : Draining.begins grace.toNat 0 finishes n ≤ n * grace.toNat
  /-- Sinks and waiter that go on as their clock says come to the same end at this time, in whatever
  order they take their steps, and they can come to it. -/
  clocked : Clock.NoTies grace finishes n → relay.Foresees finishes →
    (∀ c, Relation.ReflTransGen (Clock.Goes grace finishes) ⟨relay, 0, 0⟩ c →
      c.relay.sinksJoined → c.relay = (relay.drainFeedback grace finishes).2 ∧
        c.relay.feedbackExits = (relay.drainFeedback grace finishes).1 ∧
        c.since = Draining.begins grace.toNat 0 finishes n) ∧
    ∃ c, Relation.ReflTransGen (Clock.Goes grace finishes) ⟨relay, 0, 0⟩ c ∧ c.relay.sinksJoined

/-- Closing the sockets for the first time brings the exits of all forward pumps. -/
theorem Standing.areExits (h : relay.Standing links false hasDrained stop) :
    (relay.closeSockets stop).2.1.AreExits links (relay.closeSockets stop).1 := by
  have hafter := h.closeSockets
  obtain ⟨-, hjoined⟩ := hafter.closed rfl
  have hexits : (relay.closeSockets stop).1 = (relay.closeSockets stop).2.1.forwardExits := by
    simp only [Relay.closeSockets, h.unclosed rfl, List.length_nil, List.drop_zero]
  rw [hexits]
  exact hafter.accounts.areExits hjoined hafter.ingresses

theorem Standing.isOnTime (h : relay.Standing links hasClosed false stop) (grace : UInt64)
    (hforesees : relay.Foresees finishes) : Clock.IsOnTime grace finishes links.length
      (relay.drainFeedback grace finishes).2 ⟨relay, 0, 0⟩ := by
  obtain ⟨hnone, hphase⟩ := h.undrained rfl
  have hsince : 0 = Draining.begins grace.toNat 0 finishes relay.feedbackExits.length := by
    rw [hnone]
    rfl
  refine ⟨h.accounts, h.length, (snd_drainFeedback relay).symm, hsince, Nat.le_refl 0,
    fun _ => Nat.zero_le _, fun i link _ hlink => ?_⟩
  by_cases hreading : link.feedback.isReading
  · exact .inl ⟨hreading, fun ends _ => Nat.zero_le ends.time⟩
  · rcases FeedbackSink.ended_or_aborted (Bool.eq_false_iff.2 hreading) with hended | habort
    · obtain ⟨ending, hending⟩ := Option.isSome_iff_exists.1 hended
      exact .inr ⟨_, hforesees i link ending hlink hending, Nat.le_refl 0, hending⟩
    · exact absurd habort (hphase link (List.mem_of_getElem? hlink))

theorem Standing.drainsInTurn (h : relay.Standing links hasClosed false stop) (grace : UInt64)
    (finishes : Nat → Option Draining.Finish) :
    relay.DrainsInTurn links.length grace finishes := by
  obtain ⟨hnone, -⟩ := h.undrained rfl
  have hexit {i : Nat} (hi : i < links.length) :
      (relay.drainFeedback grace finishes).1[i]? = some (turnOf grace finishes i).exit := by
    rw [fst_drainFeedback hnone, List.getElem?_map, List.getElem?_range (h.length ▸ hi)]
    rfl
  have hown {i : Nat} {finish : Draining.Finish} (hfinish : finishes i = some finish)
      (hlt : finish.time < Draining.begins grace.toNat 0 finishes i + grace.toNat) :
      Draining.turn grace.toNat (Draining.begins grace.toNat 0 finishes i) (finishes i) =
        (.ended finish.ending, max (Draining.begins grace.toNat 0 finishes i) finish.time) := by
    rw [hfinish, Draining.turn_of_lt hlt]
  refine ⟨(length_drainFeedback hnone).trans h.length, ?_, ?_, ?_, ?_, ?_⟩
  · intro i hi finish hfinish hlt
    have hturn := hown hfinish hlt
    rw [hexit hi, getElem?_drainFeedback hnone, turnOf, Draining.begins, hturn]
    exact ⟨rfl, rfl, rfl⟩
  · intro i hi hlate
    have hturn := Draining.turn_of_late hlate
    rw [hexit hi, getElem?_drainFeedback hnone, turnOf, Draining.begins, hturn]
    exact ⟨rfl, rfl, rfl⟩
  · intro i hi finish hfinish hlt
    have hturn := hown hfinish (Nat.lt_of_lt_of_le hlt (Nat.le_add_left ..))
    rw [hexit hi, turnOf, hturn]
    rfl
  · exact Nat.le_trans (Draining.begins_le _) (Nat.le_of_eq (Nat.zero_add _))
  · intro hties hforesees
    have hstart := h.isOnTime grace hforesees
    refine ⟨fun c hrun hjoined => ?_, ?_⟩
    · obtain ⟨hrelay, hsince⟩ := (hstart.run hties hrun).eq_last hjoined
      exact ⟨hrelay, hrelay ▸ feedbackExits_drainFeedback hnone, hsince⟩
    · exact hstart.exists_drained hties

theorem forwardExits_run_of_joined (h : relay.pumpsJoined) (stop : StopLatch)
    (schedule : List Action) : (relay.run stop schedule).1.forwardExits = relay.forwardExits := by
  induction schedule generalizing relay stop with
  | nil => rfl
  | cons action rest ih =>
    rw [run_cons, ih (pumpsJoined_step h stop action), forwardExits_step_of_joined h]

theorem ingresses_run (session : String) (links : List (IngressSocket × Sink)) (stop : StopLatch)
    (schedule : List Action) :
    ((launch session links).run stop schedule).1.links.map (·.ingress) = links.map (·.1) :=
  run_induction (P := fun relay => relay.links.map (·.ingress) = links.map (·.1))
    (fun relay stop action h => (keepsLinks_step relay stop action).ingresses.trans h)
    (standing_launch session links stop).ingresses stop schedule

/-- However a relay has been used since its launch: the first time that its sockets are closed or
its feedback is drained brings one exit for each link, in the order of launch, and every further
time brings none and changes nothing. The forward pumps have the same exits if they go on while they
are waited for. -/
theorem collects_once (session : String) (links : List (IngressSocket × Sink)) (stop : StopLatch)
    (uses : List Use) :
    let used := (launch session links).useAll stop uses
    (uses.any Use.closes = false →
      (used.1.closeSockets used.2).2.1.AreExits links (used.1.closeSockets used.2).1) ∧
    (uses.any Use.closes → used.1.closeSockets used.2 = ([], used)) ∧
    (uses.any Use.drains = false → ∀ grace finishes,
      used.1.DrainsInTurn links.length grace finishes) ∧
    (uses.any Use.drains → ∀ grace finishes,
      used.1.drainFeedback grace finishes = ([], used.1)) ∧
    ∀ schedule, let run := ((launch session links).run stop schedule).1
      run.pumpsJoined → run.AreExits links run.forwardExits ∧
        ∀ stop later, (run.run stop later).1.forwardExits = run.forwardExits := by
  intro used
  have hused := (standing_launch session links stop).useAll uses
  simp only [Bool.false_or] at hused
  refine ⟨fun hno => ?_, fun hyes => ?_, fun hno grace finishes => ?_,
    fun hyes grace finishes => ?_, fun schedule => ?_⟩
  · rw [hno] at hused
    exact hused.areExits
  · rw [hyes] at hused
    exact hused.closeSockets_again
  · rw [hno] at hused
    exact hused.drainsInTurn grace finishes
  · rw [hyes] at hused
    exact hused.drainFeedback_again grace finishes
  · intro run hjoined
    have hingresses := ingresses_run session links stop schedule
    exact ⟨(accounts_run stop schedule).areExits hjoined hingresses,
      forwardExits_run_of_joined hjoined⟩

/-- The sink for video never ends, the one for audio fails after its deadline at the start but
before the one of its turn. -/
def lateFailure : Nat → Option Draining.Finish
  | 1 => some ⟨15, .returned (.failed (.feedbackRead "reset"))⟩
  | _ => none

/-- A link for each kind, to tracks that accept everything. -/
def bothLinks : List (IngressSocket × Sink) :=
  [(⟨.video, 40000⟩, .ofRules []), (⟨.audio, 40001⟩, .ofRules [])]

theorem collects_once_late :
    let used := (launch "s" bothLinks).useAll .armed [.closeSockets]
    used.1.closeSockets used.2 = ([], used) ∧
      (used.1.drainFeedback 10 lateFailure).1[0]? = some .closed ∧
      (used.1.drainFeedback 10 lateFailure).1[1]? = some (.failed (.feedbackRead "reset")) ∧
      ∃ c, Relation.ReflTransGen (Clock.Goes 10 lateFailure) ⟨used.1, 0, 0⟩ c ∧
        c.relay.sinksJoined := by
  intro used
  obtain ⟨-, hclosed, hdrains, -⟩ := collects_once "s" bothLinks .armed [.closeSockets]
  have hturns := hdrains rfl 10 lateFailure
  have hties : Clock.NoTies 10 lateFailure 2 := by
    intro i hi finish hfinish
    match i, hi with
    | 0, _ => cases hfinish
    | 1, _ =>
      cases hfinish
      decide
  have hreading : ∀ link ∈ used.1.links, link.feedback.ending? = none := by decide +kernel
  have hforesees : used.1.Foresees lateFailure := by
    intro i link ending hlink hending
    rw [hreading link (List.mem_of_getElem? hlink)] at hending
    cases hending
  obtain ⟨hfirst, -⟩ := hturns.aborted 0 Nat.two_pos nofun
  obtain ⟨hsecond, -⟩ := hturns.own 1 Nat.one_lt_two _ rfl (by decide)
  exact ⟨hclosed rfl, hfirst, hsecond, (hturns.clocked hties hforesees).2⟩

end Relay

end RtpBridge

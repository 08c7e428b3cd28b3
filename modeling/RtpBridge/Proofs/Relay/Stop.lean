-- SUMMARY: Which ends of forward pumps trigger the stop latch, and the one that does not.
import RtpBridge.Proofs.Relay.Links
import RtpBridge.Relay.ClosedPipe

/-!
# Failed pumps and the stop latch

A forward pump that fails triggers the latch in the same step, and nothing else in a relay
does (`Relay.Latched`). The exits tell the same, but for one: the exit of a pump whose task
died is made up by whoever waits for it, and by then no one triggers the latch. So the latch
is triggered just when some exit is a failure other than that
(`Relay.stop_triggered_iff_failed`).
-/

namespace RtpBridge

namespace Relay

variable {relay after : Relay} {stop : StopLatch} {action : Action} {link : Link} {i : Nat}
  {session : String} {links : List (IngressSocket × Sink)} {schedule : List Action}

/-! ## The latch -/

theorem hasFailed_iff : relay.hasFailed i ↔ ∃ link fault, relay.links[i]? = some link ∧
    link.pump.ending? = some (.returned (.failed fault)) := by
  rw [hasFailed, Option.any_eq_true]
  constructor
  · rintro ⟨link, hlink, hfailed⟩
    obtain ⟨fault, hfault⟩ := ForwardPump.hasFailed_iff.1 hfailed
    exact ⟨link, fault, hlink, hfault⟩
  · rintro ⟨link, fault, hlink, hfault⟩
    exact ⟨link, hlink, ForwardPump.hasFailed_iff.2 ⟨fault, hfault⟩⟩

/-- That the latch is triggered if and only if a forward pump has failed. -/
def Latched (relay : Relay) (stop : StopLatch) : Prop :=
  stop.isTriggered ↔ ∃ i, relay.hasFailed i

theorem KeepsLinks.hasFailed (h : relay.KeepsLinks after) (hfailed : relay.hasFailed i) :
    after.hasFailed i := by
  obtain ⟨link, fault, hlink, hfault⟩ := hasFailed_iff.1 hfailed
  obtain ⟨next, hnext, hkeeps⟩ := h.link i link hlink
  exact hasFailed_iff.2 ⟨next, fault, hnext, hkeeps.pump _ hfault ▸ hfault⟩

/-- A pump fails in no step but its own. -/
theorem hasFailed_of_step (h : (relay.step stop action).1.hasFailed i) :
    relay.hasFailed i ∨ action = .pump i := by
  obtain ⟨next, fault, hnext, hfault⟩ := hasFailed_iff.1 h
  obtain ⟨link, hlink, -, hpump | ⟨hpump, -⟩⟩ := exists_of_step hnext
  · rw [hpump] at hfault
    exact .inl (hasFailed_iff.2 ⟨link, fault, hlink, hfault⟩)
  · exact .inr hpump

theorem latched_launch (session : String) (links : List (IngressSocket × Sink)) :
    (launch session links).Latched .armed := by
  refine ⟨nofun, fun ⟨i, hi⟩ => ?_⟩
  obtain ⟨link, fault, hlink, hfault⟩ := hasFailed_iff.1 hi
  simp only [launch, List.getElem?_map, Option.map_eq_some_iff] at hlink
  obtain ⟨⟨ingress, sink⟩, -, rfl⟩ := hlink
  cases hfault

theorem Latched.step (h : relay.Latched stop) (haction : action ≠ .trigger) :
    (relay.step stop action).1.Latched (relay.step stop action).2 := by
  have hkept {i : Nat} (hi : relay.hasFailed i) : (relay.step stop action).1.hasFailed i :=
    (keepsLinks_step relay stop action).hasFailed hi
  by_cases hpump : ∃ i, action = .pump i ∧ (relay.step stop action).1.hasFailed i
  · obtain ⟨i, rfl, hi⟩ := hpump
    refine iff_of_true ?_ ⟨i, hi⟩
    have hstop : (relay.step stop (.pump i)).2 = stop.trigger.2 := if_pos hi
    rw [hstop]
    exact stop.isTriggered_trigger
  · have hstop : (relay.step stop action).2 = stop := by
      cases action with
      | pump i => exact if_neg fun hi => hpump ⟨i, rfl, hi⟩
      | trigger => exact absurd rfl haction
      | arrive | feedback | raiseClose | joinPump | joinSink => rfl
    rw [hstop]
    refine h.trans ⟨fun ⟨i, hi⟩ => ⟨i, hkept hi⟩, fun ⟨i, hi⟩ => ⟨i, ?_⟩⟩
    exact (hasFailed_of_step hi).resolve_right fun heq => hpump ⟨i, heq, hi⟩

/-! ## The ends -/

/-- That the tracks of the links are those of the launch, and that each pump that has ended did so
as its track answered. -/
def Truthful (links : List (IngressSocket × Sink)) (relay : Relay) : Prop :=
  ∀ (i : Nat) (link : Link), relay.links[i]? = some link → link.sink ∈ links.map (·.2) ∧
    ∀ ending, link.pump.ending? = some ending → ForwardPump.Truthful link.sink ending

theorem truthful_launch : Truthful links (launch session links) := by
  intro i link hlink
  simp only [launch, List.getElem?_map, Option.map_eq_some_iff] at hlink
  obtain ⟨⟨ingress, sink⟩, hmem, rfl⟩ := hlink
  refine ⟨List.mem_map.2 ⟨_, List.mem_of_getElem? hmem, rfl⟩, fun ending hending => ?_⟩
  cases hending

theorem truthful_pumpStep {isClosing : Bool}
    (h : ∀ ending, link.pump.ending? = some ending → ForwardPump.Truthful link.sink ending) :
    ∀ ending, (link.pumpStep isClosing).pump.ending? = some ending →
      ForwardPump.Truthful link.sink ending := by
  intro ending hending
  unfold Link.pumpStep at hending
  split at hending
  · next hstep => exact ForwardPump.truthful_of_moves (ForwardPump.moves_of_step? hstep) hending
  · exact h ending hending

theorem Truthful.step (h : Truthful links relay) (stop : StopLatch) (action : Action) :
    Truthful links (relay.step stop action).1 := by
  intro i next hnext
  obtain ⟨link, hlink, hsink, hpump⟩ := exists_of_step hnext
  obtain ⟨hmem, htrue⟩ := h i link hlink
  rw [hsink]
  refine ⟨hmem, ?_⟩
  rcases hpump with hpump | ⟨-, rfl⟩
  · rw [hpump]
    exact htrue
  · exact truthful_pumpStep htrue

/-! ## Runs -/

theorem run_cons (relay : Relay) (stop : StopLatch) (action : Action) (rest : List Action) :
    relay.run stop (action :: rest) =
      (relay.step stop action).1.run (relay.step stop action).2 rest := rfl

theorem Latched.run (h : relay.Latched stop) (hschedule : .trigger ∉ schedule) :
    (relay.run stop schedule).1.Latched (relay.run stop schedule).2 := by
  induction schedule generalizing relay stop with
  | nil => exact h
  | cons action rest ih =>
    have hne : action ≠ .trigger := fun heq => hschedule (heq ▸ List.mem_cons_self)
    rw [run_cons]
    exact ih (h.step hne) fun hrest => hschedule (List.mem_cons_of_mem action hrest)

/-- What every action keeps holds at the end of a run. -/
theorem run_induction {P : Relay → Prop}
    (hstep : ∀ relay stop action, P relay → P (Relay.step relay stop action).1) (h : P relay)
    (stop : StopLatch) (schedule : List Action) : P (relay.run stop schedule).1 := by
  induction schedule generalizing relay stop with
  | nil => exact h
  | cons action rest ih => exact ih (hstep relay stop action h) _

theorem accounts_run (stop : StopLatch) (schedule : List Action) :
    ((launch session links).run stop schedule).1.Accounts :=
  run_induction (fun _ stop action h => h.step stop action) (accounts_launch session links) _ _

theorem truthful_run (stop : StopLatch) (schedule : List Action) :
    Truthful links ((launch session links).run stop schedule).1 :=
  run_induction (fun _ stop action h => h.step stop action) truthful_launch _ _

/-- The exits that count as failures tell of failed pumps or of dead tasks. -/
theorem exists_hasFailed_iff (haccounts : relay.Accounts) (htrue : Truthful links relay)
    (hjoined : relay.pumpsJoined) : (∃ i, relay.hasFailed i) ↔
      ∃ fault, fault ≠ .taskDied ∧ .failed fault ∈ relay.forwardExits := by
  constructor
  · rintro ⟨i, hi⟩
    obtain ⟨link, fault, hlink, hfault⟩ := hasFailed_iff.1 hi
    obtain ⟨ending, hending, hexit⟩ := haccounts.ending? hjoined hlink
    rw [hfault] at hending
    cases hending
    have hne : PumpExit.failed fault ≠ .failed .taskDied := (htrue i link hlink).2 _ hfault
    exact ⟨fault, fun heq => hne (heq ▸ rfl), List.mem_of_getElem? hexit⟩
  · rintro ⟨fault, hne, hmem⟩
    obtain ⟨i, hexit⟩ := List.mem_iff_getElem?.1 hmem
    obtain ⟨link, ending, hlink, hending, heq⟩ := haccounts.pumps i _ hexit
    refine ⟨i, hasFailed_iff.2 ⟨link, fault, hlink, ?_⟩⟩
    cases ending with
    | returned exit => rw [hending, ← heq]; rfl
    | died => exact absurd (PumpExit.failed.inj heq).symm hne

/-- Once all forward pumps have been waited for, the latch is triggered just when one of their
exits is a failure that the pump itself met with. The task of a pump dies only of a write that
panics, and then the exit is a failure without the latch being triggered. -/
theorem stop_triggered_iff_failed (session : String) (links : List (IngressSocket × Sink))
    (schedule : List Action) (hschedule : .trigger ∉ schedule)
    (hjoined : ((launch session links).run .armed schedule).1.pumpsJoined) :
    (((launch session links).run .armed schedule).2.isTriggered ↔ ∃ fault, fault ≠ .taskDied ∧
      .failed fault ∈ ((launch session links).run .armed schedule).1.forwardExits) ∧
    (.failed .taskDied ∈ ((launch session links).run .armed schedule).1.forwardExits →
      ∃ link ∈ links, ∃ n sample, link.2 n sample = .panicked) := by
  have haccounts : ((launch session links).run .armed schedule).1.Accounts := accounts_run _ _
  have htrue : Truthful links ((launch session links).run .armed schedule).1 := truthful_run _ _
  have hlatched := (latched_launch session links).run hschedule
  refine ⟨hlatched.trans (exists_hasFailed_iff haccounts htrue hjoined), fun hmem => ?_⟩
  obtain ⟨i, hexit⟩ := List.mem_iff_getElem?.1 hmem
  obtain ⟨link, ending, hlink, hending, heq⟩ := haccounts.pumps i _ hexit
  obtain ⟨hsink, hends⟩ := htrue i link hlink
  obtain ⟨launched, hlaunched, hsame⟩ := List.mem_map.1 hsink
  refine ⟨launched, hlaunched, ?_⟩
  rw [hsame]
  cases ending with
  | returned exit => exact absurd heq (hends _ hending)
  | died => exact hends _ hending

/-- A packet of which an element of the extension reaches beyond the end. -/
def overrunning : List UInt8 :=
  [0x90, 0x60, 0, 1, 0, 0, 0, 1, 0, 0, 0, 2, 0xBE, 0xDE, 0, 1, 0x1F, 0, 0, 0]

/-- A link to a track that swallows packets. -/
def soleLink : List (IngressSocket × Sink) :=
  [(⟨.video, 40000⟩, fun _ sample => Rtp.writeTrack (.ok ()) sample)]

/-- A datagram is forwarded, and then the socket is closed and the pump waited for. -/
def forwardAndClose (octets : List UInt8) : List Action :=
  [.arrive 0 (.datagram octets), .pump 0, .raiseClose, .joinPump]

/-- A datagram that is no packet makes the pump fail, and that triggers the latch. -/
theorem stop_triggered_iff_failed_tooShort :
    .trigger ∉ forwardAndClose [0x80] ∧
      ((launch "s" soleLink).run .armed (forwardAndClose [0x80])).1.pumpsJoined ∧
      ((launch "s" soleLink).run .armed (forwardAndClose [0x80])).2.isTriggered := by
  have hschedule : .trigger ∉ forwardAndClose [0x80] := by decide
  have hjoined : ((launch "s" soleLink).run .armed (forwardAndClose [0x80])).1.pumpsJoined := by
    decide +kernel
  have hexit : .failed (.trackWrite .video "RTP header size insufficient") ∈
      ((launch "s" soleLink).run .armed (forwardAndClose [0x80])).1.forwardExits := by
    decide +kernel
  exact ⟨hschedule, hjoined,
    (stop_triggered_iff_failed "s" soleLink _ hschedule hjoined).1.2 ⟨_, by decide, hexit⟩⟩

/-- A packet that takes the task of the pump down leaves a failure among the exits, but does not
trigger the latch. -/
theorem dead_pump_leaves_latch_armed :
    .trigger ∉ forwardAndClose overrunning ∧
      ((launch "s" soleLink).run .armed (forwardAndClose overrunning)).1.pumpsJoined ∧
      ((launch "s" soleLink).run .armed (forwardAndClose overrunning)).1.forwardExits =
        [.failed .taskDied] ∧
      ((launch "s" soleLink).run .armed (forwardAndClose overrunning)).2.isTriggered = false := by
  decide +kernel

/-! ## Closing the sockets -/

theorem keepsLinks_settlePumps (relay : Relay) (stop : StopLatch) :
    relay.KeepsLinks (relay.settlePumps stop).1 where
  length := List.length_map ..
  link i link hlink := by
    refine ⟨link.pumpSettle relay.isClosing, ?_, link.keeps_pumpSettle _⟩
    simp only [settlePumps, List.getElem?_map, hlink, Option.map_some]

/-- Pumps that have all ended are all joined, if there are joins enough. -/
theorem pumpsJoined_joinPumps {count : Nat} (haccounts : relay.Accounts)
    (hended : ∀ link ∈ relay.links, link.pump.ending?.isSome)
    (hcount : relay.links.length ≤ relay.forwardExits.length + count) :
    (joinPumps count relay).pumpsJoined := by
  induction count generalizing relay with
  | zero => exact beq_iff_eq.2 (Nat.le_antisymm haccounts.length_le hcount)
  | succ count ih =>
    rw [joinPumps]
    split
    · next after hjoin =>
      obtain ⟨link, ending, hlink, hending, rfl⟩ := joinPump?_eq_some.1 hjoin
      refine ih (haccounts.joinPump hjoin) hended ?_
      simp only [List.length_append, List.length_singleton]
      omega
    · next hjoin =>
      refine beq_iff_eq.2 (Nat.le_antisymm haccounts.length_le (Nat.not_lt.1 fun hlt => ?_))
      have hlink := List.getElem?_eq_getElem hlt
      obtain ⟨ending, hending⟩ :=
        Option.isSome_iff_exists.1 (hended _ (List.getElem_mem hlt))
      rw [joinPump?_eq_some.2 ⟨_, ending, hlink, hending, rfl⟩] at hjoin
      cases hjoin

/-- However far a relay has come, closing its sockets ends all forward pumps and collects them. -/
theorem pumpsJoined_closeSockets (haccounts : relay.Accounts) (stop : StopLatch) :
    (relay.closeSockets stop).2.1.pumpsJoined := by
  have hraised : relay.raiseClose.Accounts := ⟨haccounts.pumps, haccounts.sinks⟩
  have hsettled : (relay.raiseClose.settlePumps stop).1.Accounts :=
    hraised.of_keepsLinks (keepsLinks_settlePumps relay.raiseClose stop) rfl rfl
  refine pumpsJoined_joinPumps hsettled (fun link hlink => ?_) (Nat.le_add_left _ _)
  obtain ⟨before, -, rfl⟩ := List.mem_map.1 hlink
  exact ForwardPump.ending?_settle before.pump before.sink before.queue

end Relay

end RtpBridge

-- SUMMARY: What an action of a relay does to a link, and that what is collected has ended.
import RtpBridge.Proofs.Relay.ForwardPump
import RtpBridge.Relay.Basic

/-!
# Links of a relay: laws

Whatever the action, a link keeps its socket and its track, and a pump or sink that is done
stays as it is (`Link.Keeps`). Hence the exits that a relay has collected are those of pumps
that have ended and stay so (`Relay.Accounts`).
-/

namespace RtpBridge

/-! ## Feedback sinks -/

namespace FeedbackSink

theorem step_of_not_reading {p : FeedbackSink} (h : p.isReading = false) (outcome : ReadOutcome) :
    p.step outcome = p := by
  simp only [step, h, Bool.false_eq_true, if_false]

theorem abort_of_not_reading {p : FeedbackSink} (h : p.isReading = false) : p.abort = p := by
  simp only [abort, h, Bool.false_eq_true, if_false]

theorem isReading_abort (p : FeedbackSink) : p.abort.isReading = false := by
  unfold abort
  split
  · rfl
  · next h => exact Bool.eq_false_iff.2 h

theorem isReading_of_ending? {p : FeedbackSink} {ending : TaskEnd} (h : p.ending? = some ending) :
    p.isReading = false := by
  unfold ending? at h
  split at h
  · next hp => rw [isReading, hp]; rfl
  · cases h

theorem ended_or_aborted {p : FeedbackSink} (h : p.isReading = false) :
    p.ending?.isSome ∨ p.phase = .aborted := by
  unfold isReading at h
  unfold ending?
  cases hphase : p.phase with
  | reading =>
    rw [hphase] at h
    cases h
  | ended => exact .inl rfl
  | aborted => exact .inr rfl

end FeedbackSink

/-! ## Links -/

namespace Link

/-- What lasts: the socket, the track, and a pump or sink that is done. -/
structure Keeps (before after : Link) : Prop where
  ingress : after.ingress = before.ingress
  sink : after.sink = before.sink
  pump : ∀ ending, before.pump.ending? = some ending → after.pump = before.pump
  feedback : before.feedback.isReading = false → after.feedback = before.feedback

theorem Keeps.refl (link : Link) : link.Keeps link := ⟨rfl, rfl, fun _ _ => rfl, fun _ => rfl⟩

theorem keeps_arrive (link : Link) (arrival : Arrival) : link.Keeps (link.arrive arrival) := by
  unfold arrive
  split
  · exact ⟨rfl, rfl, fun _ _ => rfl, fun _ => rfl⟩
  · exact .refl link

theorem keeps_pumpStep (link : Link) (isClosing : Bool) : link.Keeps (link.pumpStep isClosing) := by
  unfold pumpStep
  split
  · next hstep =>
    refine ⟨rfl, rfl, fun ending hending => ?_, fun _ => rfl⟩
    rw [ForwardPump.step?_of_ended hending] at hstep
    cases hstep
  · exact .refl link

theorem keeps_pumpSettle (link : Link) (isClosing : Bool) :
    link.Keeps (link.pumpSettle isClosing) where
  ingress := rfl
  sink := rfl
  pump ending hending := by
    simp only [pumpSettle, ForwardPump.settle_of_ended hending]
  feedback _ := rfl

theorem keeps_feedbackStep (link : Link) (outcome : ReadOutcome) :
    link.Keeps (link.feedbackStep outcome) :=
  ⟨rfl, rfl, fun _ _ => rfl, fun h => FeedbackSink.step_of_not_reading h outcome⟩

theorem keeps_abort (link : Link) :
    link.Keeps { link with feedback := link.feedback.abort } :=
  ⟨rfl, rfl, fun _ _ => rfl, fun h => FeedbackSink.abort_of_not_reading h⟩

theorem pump_arrive (link : Link) (arrival : Arrival) : (link.arrive arrival).pump = link.pump := by
  unfold arrive
  split <;> rfl

end Link

namespace Relay

variable {relay after : Relay} {stop : StopLatch} {action : Action} {link : Link} {i : Nat}

theorem getElem?_modifyLink (relay : Relay) (i : Nat) (f : Link → Link) (j : Nat) :
    (relay.modifyLink i f).links[j]? =
      if i = j then relay.links[j]?.map f else relay.links[j]? := by
  rw [modifyLink, List.getElem?_modify]
  split
  · rfl
  · exact Option.map_id'

theorem exists_of_modifyLink {f : Link → Link} {next : Link} {j : Nat}
    (h : (relay.modifyLink i f).links[j]? = some next) : ∃ link, relay.links[j]? = some link ∧
      (next = link ∨ i = j ∧ next = f link) := by
  rw [getElem?_modifyLink] at h
  split at h
  · next hi =>
    obtain ⟨link, hlink, rfl⟩ := Option.map_eq_some_iff.1 h
    exact ⟨link, hlink, .inr ⟨hi, rfl⟩⟩
  · exact ⟨next, h, .inl rfl⟩

/-! ## Collected exits -/

theorem joinPump?_eq_some : relay.joinPump? = some after ↔
    ∃ link ending, relay.links[relay.forwardExits.length]? = some link ∧
      link.pump.ending? = some ending ∧
      after = { relay with
        forwardExits := relay.forwardExits ++ [ending.exit]
        log := relay.log ++ relay.deathEntry link.ingress.kind ending } := by
  unfold joinPump?
  split
  · next h =>
    rw [h]
    exact ⟨nofun, fun ⟨_, _, hlink, _⟩ => nomatch hlink⟩
  · next link h =>
    rw [h, Option.map_eq_some_iff]
    constructor
    · rintro ⟨ending, hending, rfl⟩
      exact ⟨link, ending, rfl, hending, rfl⟩
    · rintro ⟨_, ending, hlink, hending, rfl⟩
      cases hlink
      exact ⟨ending, hending, rfl⟩

/-- Taking the exit of a sink takes the sink as it ended, or aborts it. -/
theorem joinSink?_eq_some {grace : UInt64} {isGraceOver : Bool}
    (h : relay.joinSink? grace isGraceOver = some after) :
    ∃ link exit log, relay.links[relay.feedbackExits.length]? = some link ∧
      (link.feedback.isReading = false ∧ after = { relay with
          feedbackExits := relay.feedbackExits ++ [exit], log } ∨
        after = { relay.modifyLink relay.feedbackExits.length
            (fun link => { link with feedback := link.feedback.abort }) with
          feedbackExits := relay.feedbackExits ++ [exit], log }) := by
  simp only [joinSink?] at h
  split at h
  · cases h
  · next link hlink =>
    split at h
    · next hending =>
      cases h
      exact ⟨link, _, _, hlink, .inl ⟨FeedbackSink.isReading_of_ending? hending, rfl⟩⟩
    · split at h
      · cases h
        exact ⟨link, _, _, hlink, .inr rfl⟩
      · cases h

/-- That the links of a relay are those of another one, each with what lasts of it. -/
structure KeepsLinks (relay after : Relay) : Prop where
  length : after.links.length = relay.links.length
  link : ∀ (i : Nat) (link : Link), relay.links[i]? = some link →
    ∃ next, after.links[i]? = some next ∧ link.Keeps next

theorem keepsLinks_of_links_eq (h : after.links = relay.links) : relay.KeepsLinks after :=
  ⟨by rw [h], fun _ link hlink => ⟨link, by rw [h, hlink], .refl link⟩⟩

theorem keepsLinks_modifyLink (relay : Relay) (i : Nat) {f : Link → Link}
    (hf : ∀ link : Link, link.Keeps (f link)) : relay.KeepsLinks (relay.modifyLink i f) := by
  refine ⟨List.length_modify .., fun j link h => ?_⟩
  rw [getElem?_modifyLink, h]
  split
  · exact ⟨f link, rfl, hf link⟩
  · exact ⟨link, rfl, .refl link⟩

theorem keepsLinks_joinPump (h : relay.joinPump? = some after) : relay.KeepsLinks after := by
  obtain ⟨link, ending, -, -, rfl⟩ := joinPump?_eq_some.1 h
  exact keepsLinks_of_links_eq rfl

theorem keepsLinks_joinSink {grace : UInt64} {isGraceOver : Bool}
    (h : relay.joinSink? grace isGraceOver = some after) : relay.KeepsLinks after := by
  obtain ⟨link, exit, log, -, ⟨-, rfl⟩ | rfl⟩ := joinSink?_eq_some h
  · exact keepsLinks_of_links_eq rfl
  · have habort := keepsLinks_modifyLink relay relay.feedbackExits.length Link.keeps_abort
    exact ⟨habort.length, habort.link⟩

theorem keepsLinks_step (relay : Relay) (stop : StopLatch) (action : Action) :
    relay.KeepsLinks (relay.step stop action).1 := by
  cases action with
  | arrive i arrival => exact keepsLinks_modifyLink relay i fun link => link.keeps_arrive arrival
  | pump i => exact keepsLinks_modifyLink relay i fun link => link.keeps_pumpStep relay.isClosing
  | feedback i outcome =>
    exact keepsLinks_modifyLink relay i fun link => link.keeps_feedbackStep outcome
  | raiseClose => exact keepsLinks_of_links_eq rfl
  | trigger => exact keepsLinks_of_links_eq rfl
  | joinPump =>
    simp only [step]
    cases h : relay.joinPump? with
    | none => exact keepsLinks_of_links_eq rfl
    | some after => exact keepsLinks_joinPump h
  | joinSink grace isGraceOver =>
    simp only [step]
    cases h : relay.joinSink? grace isGraceOver with
    | none => exact keepsLinks_of_links_eq rfl
    | some after => exact keepsLinks_joinSink h

/-- Only its own step changes a pump. -/
theorem exists_of_step {next : Link} (h : (relay.step stop action).1.links[i]? = some next) :
    ∃ link, relay.links[i]? = some link ∧ next.sink = link.sink ∧
      (next.pump = link.pump ∨ action = .pump i ∧ next = link.pumpStep relay.isClosing) := by
  cases action with
  | raiseClose | trigger => exact ⟨next, h, rfl, .inl rfl⟩
  | arrive j arrival =>
    obtain ⟨link, hlink, rfl | ⟨-, rfl⟩⟩ := exists_of_modifyLink h
    · exact ⟨next, hlink, rfl, .inl rfl⟩
    · exact ⟨link, hlink, (link.keeps_arrive arrival).sink, .inl (link.pump_arrive arrival)⟩
  | pump j =>
    obtain ⟨link, hlink, rfl | ⟨rfl, rfl⟩⟩ := exists_of_modifyLink h
    · exact ⟨next, hlink, rfl, .inl rfl⟩
    · exact ⟨link, hlink, (link.keeps_pumpStep _).sink, .inr ⟨rfl, rfl⟩⟩
  | feedback j outcome =>
    obtain ⟨link, hlink, rfl | ⟨-, rfl⟩⟩ := exists_of_modifyLink h <;>
      exact ⟨_, hlink, rfl, .inl rfl⟩
  | joinPump =>
    simp only [step] at h
    cases hjoin : relay.joinPump? with
    | none =>
      rw [hjoin] at h
      exact ⟨next, h, rfl, .inl rfl⟩
    | some after =>
      rw [hjoin] at h
      obtain ⟨_, _, -, -, rfl⟩ := joinPump?_eq_some.1 hjoin
      exact ⟨next, h, rfl, .inl rfl⟩
  | joinSink grace isGraceOver =>
    simp only [step] at h
    cases hjoin : relay.joinSink? grace isGraceOver with
    | none =>
      rw [hjoin] at h
      exact ⟨next, h, rfl, .inl rfl⟩
    | some after =>
      rw [hjoin] at h
      obtain ⟨_, _, _, -, ⟨-, rfl⟩ | rfl⟩ := joinSink?_eq_some hjoin
      · exact ⟨next, h, rfl, .inl rfl⟩
      · obtain ⟨link, hlink, rfl | ⟨-, rfl⟩⟩ := exists_of_modifyLink h <;>
          exact ⟨_, hlink, rfl, .inl rfl⟩

/-- That the exits collected so far are the ends of the first pumps, and that the sinks whose
exits are collected are done. -/
structure Accounts (relay : Relay) : Prop where
  pumps : ∀ (i : Nat) (exit : PumpExit), relay.forwardExits[i]? = some exit →
    ∃ (link : Link) (ending : TaskEnd),
      relay.links[i]? = some link ∧ link.pump.ending? = some ending ∧ ending.exit = exit
  sinks : ∀ i : Nat, i < relay.feedbackExits.length → ∃ link : Link,
    relay.links[i]? = some link ∧ link.feedback.isReading = false

theorem accounts_launch (session : String) (links : List (IngressSocket × Sink)) :
    (launch session links).Accounts where
  pumps _ _ h := nomatch h
  sinks _ h := absurd h (Nat.not_lt_zero _)

theorem Accounts.of_keepsLinks (h : relay.Accounts) (hlinks : relay.KeepsLinks after)
    (hforward : after.forwardExits = relay.forwardExits)
    (hfeedback : after.feedbackExits = relay.feedbackExits) : after.Accounts where
  pumps i exit hexit := by
    rw [hforward] at hexit
    obtain ⟨link, ending, hlink, hending, hexit⟩ := h.pumps i exit hexit
    obtain ⟨next, hnext, hkeeps⟩ := hlinks.link i link hlink
    exact ⟨next, ending, hnext, hkeeps.pump ending hending ▸ hending, hexit⟩
  sinks i hi := by
    rw [hfeedback] at hi
    obtain ⟨link, hlink, hdone⟩ := h.sinks i hi
    obtain ⟨next, hnext, hkeeps⟩ := hlinks.link i link hlink
    exact ⟨next, hnext, hkeeps.feedback hdone ▸ hdone⟩

theorem Accounts.length_le (h : relay.Accounts) :
    relay.forwardExits.length ≤ relay.links.length := by
  refine Nat.not_lt.1 fun hlt => ?_
  obtain ⟨link, _, hlink, -⟩ := h.pumps _ _ (List.getElem?_eq_getElem hlt)
  exact absurd (List.getElem?_eq_some_iff.1 hlink).1 (Nat.lt_irrefl _)

theorem Accounts.joinPump (h : relay.Accounts) (hjoin : relay.joinPump? = some after) :
    after.Accounts := by
  obtain ⟨link, ending, hlink, hending, rfl⟩ := joinPump?_eq_some.1 hjoin
  refine ⟨fun i exit hexit => ?_, h.sinks⟩
  rw [List.getElem?_append] at hexit
  split at hexit
  · exact h.pumps i exit hexit
  · next hi =>
    rw [List.getElem?_singleton] at hexit
    split at hexit
    · next hzero =>
      cases hexit
      obtain rfl : i = relay.forwardExits.length := by omega
      exact ⟨link, ending, hlink, hending, rfl⟩
    · cases hexit

theorem Accounts.joinSink (h : relay.Accounts) {grace : UInt64} {isGraceOver : Bool}
    (hjoin : relay.joinSink? grace isGraceOver = some after) : after.Accounts := by
  obtain ⟨link, exit, log, hlink, ⟨hdone, rfl⟩ | rfl⟩ := joinSink?_eq_some hjoin
  · refine ⟨h.pumps, fun i hi => ?_⟩
    rw [List.length_append, List.length_singleton] at hi
    rcases Nat.lt_succ_iff_lt_or_eq.1 hi with hi | rfl
    · exact h.sinks i hi
    · exact ⟨link, hlink, hdone⟩
  · have habort : (relay.modifyLink relay.feedbackExits.length
        fun link => { link with feedback := link.feedback.abort }).Accounts :=
      h.of_keepsLinks (keepsLinks_modifyLink relay _ Link.keeps_abort) rfl rfl
    refine ⟨habort.pumps, fun i hi => ?_⟩
    rw [List.length_append, List.length_singleton] at hi
    rcases Nat.lt_succ_iff_lt_or_eq.1 hi with hi | rfl
    · exact habort.sinks i hi
    · refine ⟨{ link with feedback := link.feedback.abort }, ?_, link.feedback.isReading_abort⟩
      rw [getElem?_modifyLink, if_pos rfl, hlink]
      rfl

theorem Accounts.step (h : relay.Accounts) (stop : StopLatch) (action : Action) :
    (relay.step stop action).1.Accounts := by
  have hlinks := keepsLinks_step relay stop action
  cases action with
  | arrive | pump | feedback | raiseClose | trigger => exact h.of_keepsLinks hlinks rfl rfl
  | joinPump =>
    simp only [Relay.step]
    cases hjoin : relay.joinPump? with
    | none => exact h
    | some after => exact h.joinPump hjoin
  | joinSink grace isGraceOver =>
    simp only [Relay.step]
    cases hjoin : relay.joinSink? grace isGraceOver with
    | none => exact h
    | some after => exact h.joinSink hjoin

/-- When all exits are collected, every pump has ended. -/
theorem Accounts.ending? (h : relay.Accounts) (hjoined : relay.pumpsJoined)
    (hlink : relay.links[i]? = some link) : ∃ ending, link.pump.ending? = some ending ∧
      relay.forwardExits[i]? = some ending.exit := by
  have hlength : relay.forwardExits.length = relay.links.length := beq_iff_eq.1 hjoined
  have hi : i < relay.forwardExits.length := by
    rw [hlength]
    exact (List.getElem?_eq_some_iff.1 hlink).1
  have hexit : relay.forwardExits[i]? = some relay.forwardExits[i] := List.getElem?_eq_getElem hi
  obtain ⟨link', ending, hlink', hending, heq⟩ := h.pumps i _ hexit
  rw [hlink] at hlink'
  cases hlink'
  exact ⟨ending, hending, heq ▸ hexit⟩

theorem Accounts.not_reading (h : relay.Accounts) (hjoined : relay.sinksJoined)
    (hlink : relay.links[i]? = some link) : link.feedback.isReading = false := by
  have hlength : relay.feedbackExits.length = relay.links.length := beq_iff_eq.1 hjoined
  have hi : i < relay.feedbackExits.length := by
    rw [hlength]
    exact (List.getElem?_eq_some_iff.1 hlink).1
  obtain ⟨link', hlink', hdone⟩ := h.sinks i hi
  rw [hlink] at hlink'
  cases hlink'
  exact hdone

/-! ## Joined pumps and sinks -/

/-- Only as many sinks have been waited for as there are. -/
theorem Accounts.exits_lt (h : relay.Accounts) (hjoined : ¬relay.sinksJoined) :
    relay.feedbackExits.length < relay.links.length := by
  have hne : relay.feedbackExits.length ≠ relay.links.length := fun heq =>
    hjoined (beq_iff_eq.2 heq)
  refine Nat.lt_of_le_of_ne (Nat.not_lt.1 fun hlt => ?_) hne
  obtain ⟨link, hlink, -⟩ := h.sinks _ hlt
  exact absurd (List.getElem?_eq_some_iff.1 hlink).1 (Nat.lt_irrefl _)

/-- Once its grace is over, the next sink is waited for no longer. -/
theorem Accounts.exists_joinSink (h : relay.Accounts) (grace : UInt64)
    (hjoined : ¬relay.sinksJoined) : ∃ joined, relay.joinSink? grace true = some joined ∧
      joined.links.length = relay.links.length ∧
      joined.feedbackExits.length = relay.feedbackExits.length + 1 := by
  have hlink := List.getElem?_eq_getElem (h.exits_lt hjoined)
  simp only [joinSink?, hlink]
  split
  · exact ⟨_, rfl, rfl, List.length_append⟩
  · refine ⟨_, rfl, ?_, List.length_append⟩
    exact List.length_modify ..

/-- When all pumps are joined there is no further one to join. -/
theorem joinPump?_of_joined (h : relay.pumpsJoined) : relay.joinPump? = none := by
  have hbeyond : relay.links[relay.forwardExits.length]? = none :=
    List.getElem?_eq_none (Nat.le_of_eq (beq_iff_eq.1 h).symm)
  simp only [joinPump?, hbeyond]

theorem joinSink?_of_joined (h : relay.sinksJoined) (grace : UInt64) (isGraceOver : Bool) :
    relay.joinSink? grace isGraceOver = none := by
  have hbeyond : relay.links[relay.feedbackExits.length]? = none :=
    List.getElem?_eq_none (Nat.le_of_eq (beq_iff_eq.1 h).symm)
  simp only [joinSink?, hbeyond]

theorem forwardExits_step (h : action ≠ .joinPump) (relay : Relay) (stop : StopLatch) :
    (relay.step stop action).1.forwardExits = relay.forwardExits := by
  cases action with
  | joinPump => exact absurd rfl h
  | joinSink grace isGraceOver =>
    simp only [step]
    cases hjoin : relay.joinSink? grace isGraceOver with
    | none => rfl
    | some after =>
      obtain ⟨_, _, _, -, ⟨-, rfl⟩ | rfl⟩ := joinSink?_eq_some hjoin <;> rfl
  | arrive | pump | feedback | raiseClose | trigger => rfl

/-- Once all forward pumps have been waited for, no exit is added. -/
theorem forwardExits_step_of_joined (h : relay.pumpsJoined) (stop : StopLatch) (action : Action) :
    (relay.step stop action).1.forwardExits = relay.forwardExits := by
  by_cases hjoin : action = .joinPump
  · subst hjoin
    rw [step, joinPump?_of_joined h]
    rfl
  · exact forwardExits_step hjoin relay stop

theorem feedbackExits_step_of_joined (h : relay.sinksJoined) (stop : StopLatch) (action : Action) :
    (relay.step stop action).1.feedbackExits = relay.feedbackExits := by
  cases action with
  | joinPump =>
    simp only [step]
    cases hjoin : relay.joinPump? with
    | none => rfl
    | some after =>
      obtain ⟨_, _, -, -, rfl⟩ := joinPump?_eq_some.1 hjoin
      rfl
  | joinSink grace isGraceOver =>
    rw [step, joinSink?_of_joined h]
    rfl
  | arrive | pump | feedback | raiseClose | trigger => rfl

theorem pumpsJoined_step (h : relay.pumpsJoined) (stop : StopLatch) (action : Action) :
    (relay.step stop action).1.pumpsJoined := by
  have hlength : relay.forwardExits.length = relay.links.length := beq_iff_eq.1 h
  refine beq_iff_eq.2 ?_
  rw [forwardExits_step_of_joined h, hlength, (keepsLinks_step relay stop action).length]

theorem sinksJoined_step (h : relay.sinksJoined) (stop : StopLatch) (action : Action) :
    (relay.step stop action).1.sinksJoined := by
  have hlength : relay.feedbackExits.length = relay.links.length := beq_iff_eq.1 h
  refine beq_iff_eq.2 ?_
  rw [feedbackExits_step_of_joined h, hlength, (keepsLinks_step relay stop action).length]

end Relay

end RtpBridge

-- SUMMARY: What a feedback sink reads, and that a relay's media do not depend on its feedback.
import RtpBridge.Proofs.Relay.Stop

/-!
# Feedback: laws

A feedback sink reads packets up to the first read that brings none, which it takes as well and
which says how it ends (`FeedbackSink.settle_source`). What it reads stays with it: a relay of
which the feedback is muted does the same to its media (`Relay.mute_run`).
-/

namespace RtpBridge

/-! ## Feedback sinks -/

/-- How a read ends the sink, if it does. -/
def ReadOutcome.ending? : ReadOutcome → Option TaskEnd
  | .packet => none
  | .closed => some (.returned .closed)
  | .failed cause => some (.returned (.failed (.feedbackRead cause)))
  | .panicked => some .died

theorem ReadOutcome.ending?_eq_none {outcome : ReadOutcome} :
    outcome.ending? = none ↔ outcome = .packet := by
  cases outcome <;> simp [ending?]

namespace FeedbackSource

/-- How many packets a source brings before anything else. -/
def packets (source : FeedbackSource) : Nat := source.rules.findIdx (· != .packet)

variable (source : FeedbackSource)

theorem packets_le : source.packets ≤ source.rules.length := List.findIdx_le_length

variable {source}

theorem answer?_of_lt_packets {i : Nat} (h : i < source.packets) :
    source.answer? i = some .packet := by
  have hlt := Nat.lt_of_lt_of_le h source.packets_le
  have hpacket : source.rules[i] = .packet := bne_eq_false_iff_eq.1 (List.not_of_lt_findIdx h)
  rw [answer?, List.getElem?_eq_getElem hlt, hpacket]

/-- What comes after the packets is none. -/
theorem ne_packet_of_answer? {outcome : ReadOutcome}
    (h : source.answer? source.packets = some outcome) : outcome ≠ .packet := by
  by_cases hlt : source.packets < source.rules.length
  · rw [answer?, List.getElem?_eq_getElem hlt] at h
    cases h
    exact bne_iff_ne.1 (List.findIdx_getElem (w := hlt))
  · rw [answer?, List.getElem?_eq_none (Nat.not_lt.1 hlt), Option.ite_none_right_eq_some] at h
    cases h.2
    exact nofun

end FeedbackSource

namespace FeedbackSink

variable {p : FeedbackSink} {source : FeedbackSource} {outcome : ReadOutcome}

theorem isReading_iff : p.isReading ↔ p.phase = .reading := by
  rw [isReading, beq_iff_eq]

theorem step_packet (h : p.isReading) : p.step .packet = { p with reads := p.reads + 1 } := by
  simp only [step, h, if_true, receive]

/-- A read that brings no packet is counted, and it is the last one. -/
theorem step_of_ne_packet (h : p.isReading) (hne : outcome ≠ .packet) :
    (p.step outcome).reads = p.reads + 1 ∧ (p.step outcome).ending? = outcome.ending? ∧
      (p.step outcome).isReading = false := by
  simp only [step, h, if_true]
  cases outcome with
  | packet => exact absurd rfl hne
  | closed | failed | panicked => exact ⟨rfl, rfl, rfl⟩

theorem readUpTo_of_not_reading (h : p.isReading = false) (count : Nat) :
    p.readUpTo source count = p := by
  cases count with
  | zero => rfl
  | succ count =>
    rw [readUpTo]
    split
    · rw [if_neg (Bool.eq_false_iff.1 h)]
    · rfl

theorem room_step (p : FeedbackSink) (outcome : ReadOutcome) : (p.step outcome).room = p.room := by
  unfold step
  split
  · cases outcome <;> rfl
  · rfl

/-- All reads are given the same buffer. -/
theorem room_readUpTo (source : FeedbackSource) (count : Nat) (p : FeedbackSink) :
    (p.readUpTo source count).room = p.room := by
  induction count generalizing p with
  | zero => rfl
  | succ count ih =>
    rw [readUpTo]
    split
    · split
      · rw [ih, room_step]
      · rfl
    · rfl

/-- A sink reads on while packets come. -/
theorem readUpTo_packets (h : p.isReading) (n count : Nat)
    (hpackets : ∀ i < n, source.answer? (p.reads + i) = some .packet) :
    p.readUpTo source (n + count) = readUpTo source count { p with reads := p.reads + n } := by
  induction n generalizing p with
  | zero => rw [Nat.zero_add]; rfl
  | succ n ih =>
    have hfirst : source.answer? p.reads = some .packet := hpackets 0 (Nat.succ_pos n)
    have hrest : ∀ i < n, source.answer? (p.reads + 1 + i) = some .packet := by
      intro i hi
      rw [Nat.add_assoc, Nat.add_comm 1 i]
      exact hpackets (i + 1) (Nat.succ_lt_succ hi)
    rw [Nat.succ_add, readUpTo, hfirst]
    simp only [h, if_true, step_packet h]
    rw [ih (p := { p with reads := p.reads + 1 }) h hrest, Nat.add_assoc, Nat.add_comm 1 n]

/-- Up to the first read that brings no packet nothing happens but reads. -/
theorem settle_packets (source : FeedbackSource) (session : String) (kind : MediaKind) :
    ∃ (p : FeedbackSink) (count : Nat), p.isReading ∧ p.reads = source.packets ∧
      (start session kind).settle source = p.readUpTo source (count + 1) := by
  obtain ⟨count, hcount⟩ := Nat.exists_eq_add_of_le source.packets_le
  have hpackets : ∀ i < source.packets, source.answer? (0 + i) = some .packet := by
    intro i hi
    rw [Nat.zero_add]
    exact FeedbackSource.answer?_of_lt_packets hi
  have hreading : (start session kind).isReading := rfl
  have hfront : (start session kind).readUpTo source (source.packets + (count + 1)) = _ :=
    readUpTo_packets hreading source.packets (count + 1) hpackets
  rw [settle, hcount, Nat.add_assoc, hfront]
  exact ⟨_, count, rfl, Nat.zero_add source.packets, rfl⟩

/-- A sink takes all packets up to the first read that brings none, and that read too, if it ever
comes back. It says how the sink ends, and what the source would bring after it is not asked for.
All reads are given the buffer that the sink has started with. -/
theorem settle_source (source : FeedbackSource) (session : String) (kind : MediaKind) :
    let p := (start session kind).settle source
    p.room = bufferSize ∧
      p.reads = source.packets + (source.answer? source.packets).toList.length ∧
      p.calls = source.packets + 1 ∧
      p.ending? = (source.answer? source.packets).bind (·.ending?) := by
  refine ⟨room_readUpTo source _ _, ?_⟩
  obtain ⟨p, count, hreading, hreads, hsettle⟩ := settle_packets source session kind
  rw [hsettle, readUpTo, hreads]
  cases hanswer : source.answer? source.packets with
  | none =>
    have hending : p.ending? = none := by rw [ending?, isReading_iff.1 hreading]
    exact ⟨hreads, by rw [calls, hending, hreads]; rfl, hending⟩
  | some outcome =>
    have hne : outcome ≠ .packet := FeedbackSource.ne_packet_of_answer? hanswer
    obtain ⟨hcount, hending, hended⟩ := step_of_ne_packet hreading hne
    have hsome : (p.step outcome).ending?.isSome := by
      rw [hending, Option.isSome_iff_ne_none, ne_eq, ReadOutcome.ending?_eq_none]
      exact hne
    simp only [hreading, if_true, readUpTo_of_not_reading hended]
    rw [← hreads]
    exact ⟨hcount, by rw [calls, if_pos hsome, hcount], hending⟩

end FeedbackSink

/-! ## Links and relays with their feedback muted -/

namespace Link

/-- The link as if its feedback sink had not read yet. -/
def mute (link : Link) : Link :=
  { link with feedback := .start link.feedback.session link.feedback.kind }

theorem mute_of_feedback {link : Link} {feedback : FeedbackSink}
    (hsession : feedback.session = link.feedback.session)
    (hkind : feedback.kind = link.feedback.kind) : mute { link with feedback } = link.mute := by
  simp only [mute, hsession, hkind]

theorem mute_arrive (link : Link) (arrival : Arrival) :
    (link.arrive arrival).mute = link.mute.arrive arrival := by
  unfold arrive
  rw [show link.mute.isOpen = link.isOpen from rfl]
  split <;> rfl

theorem mute_pumpStep (link : Link) (isClosing : Bool) :
    (link.pumpStep isClosing).mute = link.mute.pumpStep isClosing := by
  unfold pumpStep
  rw [show link.mute.pump = link.pump from rfl, show link.mute.sink = link.sink from rfl,
    show link.mute.queue = link.queue from rfl]
  split <;> rfl

theorem mute_feedbackStep (link : Link) (outcome : ReadOutcome) :
    (link.feedbackStep outcome).mute = link.mute := by
  apply mute_of_feedback
  all_goals
    unfold FeedbackSink.step
    split
    · cases outcome <;> rfl
    · rfl

theorem mute_abort (link : Link) :
    mute { link with feedback := link.feedback.abort } = link.mute := by
  apply mute_of_feedback
  all_goals
    unfold FeedbackSink.abort
    split <;> rfl

end Link

namespace Relay

variable {relay other : Relay} {stop : StopLatch} {action : Action}

/-- The relay as if its feedback sinks had not read yet, without its log. -/
def mute (relay : Relay) : Relay :=
  { relay with links := relay.links.map (·.mute), feedbackExits := [], log := [] }

theorem mute_mute (relay : Relay) : relay.mute.mute = relay.mute := by
  simp only [mute, List.map_map]
  rfl

theorem mute_modifyLink {f g : Link → Link} (hfg : ∀ link : Link, (f link).mute = g link.mute)
    (relay : Relay) (i : Nat) : (relay.modifyLink i f).mute = relay.mute.modifyLink i g := by
  have hlinks : (relay.links.modify i f).map (·.mute) = (relay.links.map (·.mute)).modify i g := by
    apply List.ext_getElem?
    intro j
    rw [List.getElem?_map, List.getElem?_modify, List.getElem?_modify, List.getElem?_map]
    cases relay.links[j]? with
    | none => rfl
    | some link =>
      by_cases hij : i = j
      · simp only [hij, if_true]
        exact congrArg some (hfg link)
      · simp only [hij, if_false]
        rfl
  simp only [mute, modifyLink, hlinks]

/-- What is done to the feedback of a link is not seen. -/
theorem mute_modifyLink_of_hidden {f : Link → Link} (hf : ∀ link : Link, (f link).mute = link.mute)
    (relay : Relay) (i : Nat) : (relay.modifyLink i f).mute = relay.mute := by
  have hid := mute_modifyLink (g := id) hf relay i
  rwa [show relay.mute.modifyLink i id = relay.mute from ?_] at hid
  simp only [modifyLink, List.modify_id]

/-- Whether an action is the media's, not the feedback's. -/
def Action.isMedia : Action → Bool
  | .feedback .. | .joinSink .. => false
  | _ => true

theorem getElem?_links_mute (relay : Relay) (i : Nat) :
    relay.mute.links[i]? = relay.links[i]?.map (·.mute) := List.getElem?_map

theorem mute_joinPump? (relay : Relay) :
    relay.joinPump?.map mute = relay.mute.joinPump?.map mute := by
  unfold joinPump?
  rw [getElem?_links_mute, show relay.mute.forwardExits = relay.forwardExits from rfl]
  cases relay.links[relay.forwardExits.length]? with
  | none => rfl
  | some link =>
    simp only [Option.map_some, Option.map_map]
    rw [show link.mute.pump = link.pump from rfl]
    cases link.pump.ending? with
    | none => rfl
    | some ending =>
      have hmute := relay.mute_mute
      simp only [Option.map_some, Function.comp, mute, List.map_map]
      rfl

theorem mute_joinSink? {grace : UInt64} {isGraceOver : Bool} {after : Relay}
    (h : relay.joinSink? grace isGraceOver = some after) : after.mute = relay.mute := by
  obtain ⟨_, _, _, -, ⟨-, rfl⟩ | rfl⟩ := joinSink?_eq_some h
  · rfl
  · exact mute_modifyLink_of_hidden Link.mute_abort relay relay.feedbackExits.length

theorem hasFailed_mute (relay : Relay) (i : Nat) : relay.mute.hasFailed i = relay.hasFailed i := by
  rw [hasFailed, getElem?_links_mute, hasFailed]
  cases relay.links[i]? <;> rfl

/-- A relay of which the feedback is muted does the same to its media. -/
theorem mute_step (haction : action.isMedia) (relay : Relay) (stop : StopLatch) :
    (relay.step stop action).1.mute = (relay.mute.step stop action).1.mute ∧
      (relay.step stop action).2 = (relay.mute.step stop action).2 := by
  cases action with
  | feedback | joinSink => cases haction
  | arrive i arrival =>
    have hlink := mute_modifyLink (f := (·.arrive arrival)) (g := (·.arrive arrival))
      (fun link => link.mute_arrive arrival) relay i
    simp only [step, ← hlink, mute_mute, and_self]
  | pump i =>
    have hlink := mute_modifyLink (f := (·.pumpStep relay.isClosing))
      (g := (·.pumpStep relay.isClosing)) (fun link => link.mute_pumpStep relay.isClosing) relay i
    simp only [step, show relay.mute.isClosing = relay.isClosing from rfl, ← hlink, mute_mute,
      hasFailed_mute, and_self]
  | raiseClose =>
    have hraise : relay.mute.raiseClose = relay.raiseClose.mute := rfl
    simp only [step, hraise, mute_mute, and_self]
  | trigger => simp only [step, mute_mute, and_self]
  | joinPump =>
    have hjoin := relay.mute_joinPump?
    refine ⟨?_, rfl⟩
    simp only [step]
    cases hfirst : relay.joinPump? with
    | none =>
      rw [hfirst] at hjoin
      rw [Option.map_eq_none_iff.1 hjoin.symm]
      exact relay.mute_mute.symm
    | some after =>
      rw [hfirst] at hjoin
      obtain ⟨later, hlater, heq⟩ := Option.map_eq_some_iff.1 hjoin.symm
      rw [hlater]
      exact heq.symm

theorem mute_step_of_hidden (haction : ¬action.isMedia) (relay : Relay) (stop : StopLatch) :
    (relay.step stop action).1.mute = relay.mute ∧ (relay.step stop action).2 = stop := by
  cases action with
  | arrive | pump | raiseClose | trigger | joinPump => exact absurd rfl haction
  | feedback i outcome =>
    exact ⟨mute_modifyLink_of_hidden (fun link => link.mute_feedbackStep outcome) relay i, rfl⟩
  | joinSink grace isGraceOver =>
    refine ⟨?_, rfl⟩
    simp only [step]
    cases hjoin : relay.joinSink? grace isGraceOver with
    | none => rfl
    | some after => exact mute_joinSink? hjoin

/-- What a run makes of the media is what is left of it without the feedback. -/
theorem mute_run (h : relay.mute = other.mute) (stop : StopLatch) (schedule : List Action) :
    (relay.run stop schedule).1.mute = (other.run stop (schedule.filter (·.isMedia))).1.mute ∧
      (relay.run stop schedule).2 = (other.run stop (schedule.filter (·.isMedia))).2 := by
  induction schedule generalizing relay other stop with
  | nil => exact ⟨h, rfl⟩
  | cons action rest ih =>
    by_cases haction : action.isMedia
    · obtain ⟨hmute, hstop⟩ := mute_step haction relay stop
      obtain ⟨hmute', hstop'⟩ := mute_step haction other stop
      rw [h] at hmute hstop
      rw [List.filter_cons_of_pos haction, run_cons, run_cons, hstop.trans hstop'.symm]
      exact ih (hmute.trans hmute'.symm) _
    · obtain ⟨hmute, hstop⟩ := mute_step_of_hidden haction relay stop
      rw [List.filter_cons_of_neg haction, run_cons, hstop]
      exact ih (hmute.trans h) stop

theorem pumps_of_mute_eq (h : relay.mute = other.mute) :
    relay.links.map (·.pump) = other.links.map (·.pump) := by
  have hpumps (relay : Relay) : relay.mute.links.map (·.pump) = relay.links.map (·.pump) := by
    rw [mute, List.map_map]
    rfl
  rw [← hpumps, h, hpumps]

theorem forwardExits_of_mute_eq (h : relay.mute = other.mute) :
    relay.forwardExits = other.forwardExits := congrArg (·.forwardExits) h

end Relay

end RtpBridge

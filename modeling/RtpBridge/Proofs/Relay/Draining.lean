-- SUMMARY: When the turns of a draining begin, and that a clock brings about just these turns.
import Mathlib.Logic.Relation
import RtpBridge.Proofs.Relay.Links

/-!
# Draining: laws

The turn of a sink begins when the one before it is over (`Draining.begins`). Sinks that end at
their times beside a waiter that takes their exits as soon as it can are a process of small steps
in any order (`Clock.Goes`). A step of it leaves the outcome of what is left to drain as it is, and
so the process ends as the turns say.
-/

namespace RtpBridge

namespace Draining

variable {grace now : Nat} {finish : Finish} {finishes : Nat → Option Finish}

/-! ## Turns -/

/-- When the turn of the `i`-th task begins, if the first one begins at this time. -/
def begins (grace now : Nat) (finishes : Nat → Option Finish) : Nat → Nat
  | 0 => now
  | i + 1 => (turn grace (begins grace now finishes i) (finishes i)).2

theorem turn_of_lt (h : finish.time < now + grace) :
    turn grace now (some finish) = (.ended finish.ending, max now finish.time) :=
  if_pos (.inr h)

/-- A task that runs on beyond its deadline, or for good. -/
theorem turn_of_late {finish : Option Finish}
    (h : ∀ ends, finish = some ends → now + grace < ends.time) :
    turn grace now finish = (.aborted, now + grace) := by
  cases finish with
  | none => rfl
  | some ends =>
    have hlate := h ends rfl
    refine if_neg fun hended => ?_
    omega

/-- Without a tie, a task ends before its deadline or runs on beyond it. -/
theorem turn_cases {finish : Option Finish} (h : ∀ ends, finish = some ends →
    ends.time ≠ now + grace) :
    (∃ ends, finish = some ends ∧ ends.time < now + grace ∧
      turn grace now finish = (.ended ends.ending, max now ends.time)) ∨
    ((∀ ends, finish = some ends → now + grace < ends.time) ∧
      turn grace now finish = (.aborted, now + grace)) := by
  by_cases hlate : ∀ ends, finish = some ends → now + grace < ends.time
  · exact .inr ⟨hlate, turn_of_late hlate⟩
  · simp only [Classical.not_forall] at hlate
    obtain ⟨ends, rfl, hnot⟩ := hlate
    have hlt := Nat.lt_of_le_of_ne (Nat.not_lt.1 hnot) (h ends rfl)
    exact .inl ⟨ends, rfl, hlt, turn_of_lt hlt⟩

theorem le_turn (grace now : Nat) (finish : Option Finish) : now ≤ (turn grace now finish).2 := by
  unfold turn
  split
  · exact Nat.le_add_right now grace
  · split
    · exact Nat.le_max_left ..
    · exact Nat.le_add_right now grace

theorem begins_mono {i j : Nat} (h : i ≤ j) :
    begins grace now finishes i ≤ begins grace now finishes j := by
  induction h with
  | refl => exact Nat.le_refl _
  | step _ ih => exact Nat.le_trans ih (le_turn ..)

/-- The turns after some of them begin anew with what is left. -/
theorem begins_add (i j : Nat) :
    begins grace (begins grace now finishes i) (fun k => finishes (i + k)) j =
      begins grace now finishes (i + j) := by
  induction j with
  | zero => rfl
  | succ j ih => rw [begins, ih, ← Nat.add_assoc, begins]

theorem turns_append (first rest : List (Option Finish)) :
    turns grace now (first ++ rest) =
      turns grace now first ++ turns grace (endTime grace now first) rest := by
  induction first generalizing now with
  | nil => rfl
  | cons finish first ih => rw [List.cons_append, turns, ih, turns, List.cons_append, endTime]

theorem endTime_append (first rest : List (Option Finish)) :
    endTime grace now (first ++ rest) = endTime grace (endTime grace now first) rest := by
  induction first generalizing now with
  | nil => rfl
  | cons finish first ih => rw [List.cons_append, endTime, ih, endTime]

theorem endTime_range (n : Nat) :
    endTime grace now ((List.range n).map finishes) = begins grace now finishes n := by
  induction n with
  | zero => rfl
  | succ n ih =>
    rw [List.range_succ, List.map_append, endTime_append, ih]
    rfl

theorem begins_le (n : Nat) : begins grace now finishes n ≤ now + n * grace := by
  have hlast := endTime_le grace now ((List.range n).map finishes)
  rw [endTime_range, List.length_map, List.length_range] at hlast
  exact hlast

/-- The turn of each task is the one that begins when it is the task's turn. -/
theorem turns_range (n : Nat) : turns grace now ((List.range n).map finishes) =
    (List.range n).map fun i => (turn grace (begins grace now finishes i) (finishes i)).1 := by
  induction n with
  | zero => rfl
  | succ n ih =>
    rw [List.range_succ, List.map_append, turns_append, ih, endTime_range, List.map_append]
    rfl

end Draining

/-! ## The end of a sink -/

namespace FeedbackSink

theorem conclude_of_not_reading {p : FeedbackSink} (h : p.isReading = false) (ending : TaskEnd) :
    p.conclude ending = p := by
  simp only [conclude, h, Bool.false_eq_true, if_false]

theorem conclude_of_reading {p : FeedbackSink} (h : p.isReading) (ending : TaskEnd) :
    p.conclude ending = { p with phase := .ended ending } := if_pos h

theorem isReading_conclude (p : FeedbackSink) (ending : TaskEnd) :
    (p.conclude ending).isReading = false := by
  unfold conclude
  split
  · rfl
  · next h => exact Bool.eq_false_iff.2 h

end FeedbackSink

namespace Link

theorem keeps_conclude (link : Link) (turn : Draining.Turn) : link.Keeps (link.conclude turn) := by
  cases turn with
  | ended ending =>
    exact ⟨rfl, rfl, fun _ _ => rfl, fun h => FeedbackSink.conclude_of_not_reading h ending⟩
  | aborted => exact link.keeps_abort

/-- A sink has ended for good when its turn is over. -/
theorem isReading_conclude (link : Link) (turn : Draining.Turn) :
    (link.conclude turn).feedback.isReading = false := by
  cases turn with
  | ended ending => exact link.feedback.isReading_conclude ending
  | aborted => exact link.feedback.isReading_abort

theorem conclude_of_ended {link : Link} (h : link.feedback.isReading = false) (ending : TaskEnd) :
    link.conclude (.ended ending) = link := by
  rw [conclude, FeedbackSink.conclude_of_not_reading h]

end Link

namespace Relay

variable {relay after : Relay} {link : Link} {grace : UInt64}
  {finishes : Nat → Option Draining.Finish} {now : Nat} {turn : Draining.Turn}

/-! ## What is left to drain -/

/-- The relay once all sinks that are left have been waited for, from this time on. -/
def drainFrom (grace : UInt64) (finishes : Nat → Option Draining.Finish) (now : Nat)
    (relay : Relay) : Relay :=
  let collected := relay.feedbackExits.length
  let due := relay.links.drop collected
  let turns := Draining.turns grace.toNat now
    ((List.range due.length).map fun i => finishes (collected + i))
  { relay with
    links := relay.links.take collected ++ List.zipWith Link.conclude due turns
    feedbackExits := relay.feedbackExits ++ turns.map (·.exit)
    log := relay.log ++ (List.zipWith (relay.turnEntry grace) due turns).flatten }

theorem snd_drainFeedback (relay : Relay) :
    (relay.drainFeedback grace finishes).2 = relay.drainFrom grace finishes 0 := rfl

/-- The relay once the next sink has had its turn. -/
def takeTurn (grace : UInt64) (link : Link) (turn : Draining.Turn) (relay : Relay) : Relay :=
  { relay.modifyLink relay.feedbackExits.length (·.conclude turn) with
    feedbackExits := relay.feedbackExits ++ [turn.exit]
    log := relay.log ++ relay.turnEntry grace link turn }

theorem modifyLink_eq_self {f : Link → Link} {i : Nat} (hlink : relay.links[i]? = some link)
    (hf : f link = link) : relay.modifyLink i f = relay := by
  have hlinks : (relay.modifyLink i f).links = relay.links := by
    apply List.ext_getElem?
    intro j
    rw [getElem?_modifyLink]
    split
    · next hij =>
      rw [← hij, hlink]
      exact congrArg some hf
    · rfl
  calc relay.modifyLink i f = { relay with links := (relay.modifyLink i f).links } := rfl
    _ = relay := by rw [hlinks]

/-- A sink that has ended gives its exit, whether its grace is over or not. -/
theorem joinSink?_of_ended {ending : TaskEnd} (isGraceOver : Bool)
    (hlink : relay.links[relay.feedbackExits.length]? = some link)
    (hending : link.feedback.ending? = some ending) :
    relay.joinSink? grace isGraceOver = some (relay.takeTurn grace link (.ended ending)) := by
  have hdone := FeedbackSink.isReading_of_ending? hending
  rw [takeTurn, modifyLink_eq_self hlink (Link.conclude_of_ended hdone ending)]
  simp only [joinSink?, hlink, hending]
  rfl

theorem joinSink?_of_running (isGraceOver : Bool)
    (hlink : relay.links[relay.feedbackExits.length]? = some link)
    (hending : link.feedback.ending? = none) : relay.joinSink? grace isGraceOver =
      if isGraceOver then some (relay.takeTurn grace link .aborted) else none := by
  simp only [joinSink?, hlink, hending]
  rfl

theorem map_range_succ {α : Type} (f : Nat → α) (k n : Nat) :
    ((List.range (n + 1)).map fun i => f (k + i)) =
      f k :: (List.range n).map fun i => f (k + 1 + i) := by
  rw [List.range_succ_eq_map, List.map_cons, List.map_map]
  refine congrArg (_ :: ·) (List.map_congr_left fun i _ => ?_)
  rw [Function.comp, Nat.succ_eq_add_one, Nat.add_assoc, Nat.add_comm 1 i]

theorem links_takeTurn (hlink : relay.links[relay.feedbackExits.length]? = some link)
    (turn : Draining.Turn) : (relay.takeTurn grace link turn).links =
      (relay.links.take relay.feedbackExits.length ++ [link.conclude turn]) ++
        relay.links.drop (relay.feedbackExits.length + 1) := by
  obtain ⟨hlt, hget⟩ := List.getElem?_eq_some_iff.1 hlink
  rw [takeTurn, modifyLink, List.append_assoc, ← hget]
  exact List.modify_eq_take_cons_drop hlt

/-- What is left to drain is the next turn and what is left then. -/
theorem drainFrom_takeTurn {next : Nat}
    (hlink : relay.links[relay.feedbackExits.length]? = some link)
    (hturn : Draining.turn grace.toNat now (finishes relay.feedbackExits.length) = (turn, next)) :
    relay.drainFrom grace finishes now =
      (relay.takeTurn grace link turn).drainFrom grace finishes next := by
  obtain ⟨hlt, hget⟩ := List.getElem?_eq_some_iff.1 hlink
  have hdue : relay.links.drop relay.feedbackExits.length =
      link :: relay.links.drop (relay.feedbackExits.length + 1) := by
    rw [List.drop_eq_getElem_cons hlt, hget]
  have hexits : (relay.takeTurn grace link turn).feedbackExits.length =
      relay.feedbackExits.length + 1 := List.length_append
  have hfront : (relay.links.take relay.feedbackExits.length ++ [link.conclude turn]).length =
      relay.feedbackExits.length + 1 := by
    rw [List.length_append, List.length_take_of_le (Nat.le_of_lt hlt), List.length_singleton]
  simp only [drainFrom, hexits, links_takeTurn hlink, List.take_left' hfront,
    List.drop_left' hfront, hdue, List.length_cons, map_range_succ, Draining.turns, hturn,
    List.zipWith_cons_cons, List.map_cons, List.flatten_cons]
  simp only [takeTurn, List.append_assoc, List.singleton_append]
  rfl

theorem zipWith_modify_left {α β γ : Type} {g : α → β → γ} {f : α → α} {m : Nat} {as : List α}
    {bs : List β} (h : ∀ a b, as[m]? = some a → bs[m]? = some b → g (f a) b = g a b) :
    List.zipWith g (as.modify m f) bs = List.zipWith g as bs := by
  induction as generalizing m bs with
  | nil => rw [List.modify_nil]
  | cons a as ih =>
    cases bs with
    | nil => rw [List.zipWith_nil_right, List.zipWith_nil_right]
    | cons b bs =>
      cases m with
      | zero => rw [List.modify_zero_cons, List.zipWith_cons_cons, h a b rfl rfl,
          List.zipWith_cons_cons]
      | succ m => rw [List.modify_succ_cons, List.zipWith_cons_cons, ih h, List.zipWith_cons_cons]

/-- A sink that ends before its turn, in the way that its turn will tell, leaves what is left to
drain as it is. -/
theorem drainFrom_conclude {i : Nat} {ending : TaskEnd} (hdue : relay.feedbackExits.length ≤ i)
    (hnow : now = Draining.begins grace.toNat 0 finishes relay.feedbackExits.length)
    (hturn : (Draining.turn grace.toNat (Draining.begins grace.toNat 0 finishes i)
      (finishes i)).1 = .ended ending) :
    (relay.modifyLink i (·.conclude (.ended ending))).drainFrom grace finishes now =
      relay.drainFrom grace finishes now := by
  have htake : (relay.links.modify i (·.conclude (.ended ending))).take
      relay.feedbackExits.length = relay.links.take relay.feedbackExits.length := by
    rw [List.take_modify]
    exact List.modify_eq_self (Nat.le_trans (List.length_take_le ..) hdue)
  have hdrop := List.drop_modify_of_ge (·.conclude (.ended ending)) i relay.feedbackExits.length
    relay.links hdue
  have hturns {turn : Draining.Turn} (h : (Draining.turns grace.toNat now
      ((List.range (relay.links.drop relay.feedbackExits.length).length).map fun i =>
        finishes (relay.feedbackExits.length + i)))[i - relay.feedbackExits.length]? =
          some turn) : turn = .ended ending := by
    rw [Draining.turns_range, List.getElem?_map, Option.map_eq_some_iff] at h
    obtain ⟨j, hj, rfl⟩ := h
    obtain ⟨hlt, rfl⟩ := List.getElem?_eq_some_iff.1 hj
    rw [List.getElem_range, hnow, Draining.begins_add, Nat.add_sub_cancel' hdue, hturn]
  simp only [drainFrom, modifyLink, htake, hdrop, List.length_modify]
  rw [zipWith_modify_left (fun link turn _ h => ?_), zipWith_modify_left (fun link turn _ h => ?_)]
  · rfl
  · rw [hturns h]
    rfl
  · rw [hturns h]
    exact Link.conclude_of_ended (link.isReading_conclude _) ending

end Relay

/-! ## The clock -/

/-- A relay of which the feedback is drained, at a time. -/
structure Clock where
  relay : Relay
  now : Nat
  /-- When the turn of the sink that is waited for began. -/
  since : Nat

namespace Clock

def isGraceOver (grace : UInt64) (c : Clock) : Bool := decide (c.since + grace.toNat ≤ c.now)

/-- A step of the draining. The sinks end at their times, in any order; the exit of the sink that is
waited for is taken as soon as there is one or the grace is over; and the time goes on if there is
nothing else left to do. -/
inductive Goes (grace : UInt64) (finishes : Nat → Option Draining.Finish) : Clock → Clock → Prop
  | finish {c : Clock} {i : Nat} {link : Link} {finish : Draining.Finish}
      (hlink : c.relay.links[i]? = some link) (hreading : link.feedback.isReading)
      (hfinish : finishes i = some finish) (hnow : finish.time = c.now) :
      Goes grace finishes c
        { c with relay := c.relay.modifyLink i (·.conclude (.ended finish.ending)) }
  | join {c : Clock} {after : Relay}
      (hjoin : c.relay.joinSink? grace (c.isGraceOver grace) = some after) :
      Goes grace finishes c ⟨after, c.now, c.now⟩
  | tick {c : Clock} (hleft : ¬c.relay.sinksJoined)
      (hwait : c.relay.joinSink? grace (c.isGraceOver grace) = none)
      (hdone : ∀ i link finish, c.relay.links[i]? = some link → finishes i = some finish →
        finish.time = c.now → link.feedback.isReading = false) :
      Goes grace finishes c { c with now := c.now + 1 }

/-- That none of so many sinks ends at its very deadline. -/
def NoTies (grace : UInt64) (finishes : Nat → Option Draining.Finish) (n : Nat) : Prop :=
  ∀ i < n, ∀ finish, finishes i = some finish →
    finish.time ≠ Draining.begins grace.toNat 0 finishes i + grace.toNat

/-- That a sink still reads and has its time before it, or has ended at its time. -/
def IsDue (now : Nat) (link : Link) (finish : Option Draining.Finish) : Prop :=
  (link.feedback.isReading ∧ ∀ ends, finish = some ends → now ≤ ends.time) ∨
    ∃ ends, finish = some ends ∧ ends.time ≤ now ∧ link.feedback.ending? = some ends.ending

/-- What holds at any time of a draining of so many sinks that is to leave a relay behind. -/
structure IsOnTime (grace : UInt64) (finishes : Nat → Option Draining.Finish) (n : Nat)
    (last : Relay) (c : Clock) : Prop where
  accounts : c.relay.Accounts
  length : c.relay.links.length = n
  /-- Draining what is left leaves the same relay behind all along. -/
  left : c.relay.drainFrom grace finishes c.since = last
  since : c.since = Draining.begins grace.toNat 0 finishes c.relay.feedbackExits.length
  from_since : c.since ≤ c.now
  /-- The turn of the sink that is waited for is not over yet. -/
  in_turn : ¬c.relay.sinksJoined →
    c.now ≤ Draining.begins grace.toNat 0 finishes (c.relay.feedbackExits.length + 1)
  due : ∀ i link, c.relay.feedbackExits.length ≤ i → c.relay.links[i]? = some link →
    IsDue c.now link (finishes i)

variable {grace : UInt64} {finishes : Nat → Option Draining.Finish} {n : Nat} {last : Relay}
  {c next : Clock}

/-- The turn of the sink that is waited for, which began at `since`. -/
theorem IsOnTime.turn_cases (h : c.IsOnTime grace finishes n last) (hties : NoTies grace finishes n)
    (hleft : ¬c.relay.sinksJoined) :
    (∃ ends, finishes c.relay.feedbackExits.length = some ends ∧
      ends.time < c.since + grace.toNat ∧ c.now ≤ max c.since ends.time ∧
      Draining.turn grace.toNat c.since (finishes c.relay.feedbackExits.length) =
        (.ended ends.ending, max c.since ends.time)) ∨
    ((∀ ends, finishes c.relay.feedbackExits.length = some ends →
        c.since + grace.toNat < ends.time) ∧ c.now ≤ c.since + grace.toNat ∧
      Draining.turn grace.toNat c.since (finishes c.relay.feedbackExits.length) =
        (.aborted, c.since + grace.toNat)) := by
  have hnow := h.in_turn hleft
  rw [Draining.begins, ← h.since] at hnow
  have htie := hties _ (h.length ▸ h.accounts.exits_lt hleft)
  rw [← h.since] at htie
  rcases Draining.turn_cases htie with ⟨ends, hends, hlt, hturn⟩ | ⟨hlate, hturn⟩
  · rw [hturn] at hnow
    exact .inl ⟨ends, hends, hlt, hnow, hturn⟩
  · rw [hturn] at hnow
    exact .inr ⟨hlate, hnow, hturn⟩

theorem IsOnTime.exists_link (h : c.IsOnTime grace finishes n last)
    (hleft : ¬c.relay.sinksJoined) :
    ∃ link, c.relay.links[c.relay.feedbackExits.length]? = some link :=
  ⟨_, List.getElem?_eq_getElem (h.accounts.exits_lt hleft)⟩

theorem IsOnTime.tick (h : c.IsOnTime grace finishes n last) (hties : NoTies grace finishes n)
    (hleft : ¬c.relay.sinksJoined)
    (hwait : c.relay.joinSink? grace (c.isGraceOver grace) = none)
    (hdone : ∀ i link finish, c.relay.links[i]? = some link → finishes i = some finish →
      finish.time = c.now → link.feedback.isReading = false) :
    IsOnTime grace finishes n last { c with now := c.now + 1 } := by
  have hdue : ∀ i link, c.relay.feedbackExits.length ≤ i → c.relay.links[i]? = some link →
      IsDue (c.now + 1) link (finishes i) := by
    intro i link hi hlink
    rcases h.due i link hi hlink with ⟨hreading, hbefore⟩ | ⟨ends, hfinish, htime, hending⟩
    · refine .inl ⟨hreading, fun ends hfinish => ?_⟩
      have hne : ends.time ≠ c.now := fun heq => by
        rw [hdone i link ends hlink hfinish heq] at hreading
        cases hreading
      exact Nat.lt_of_le_of_ne (hbefore ends hfinish) hne.symm
    · exact .inr ⟨ends, hfinish, Nat.le_succ_of_le htime, hending⟩
  refine ⟨h.accounts, h.length, h.left, h.since, Nat.le_succ_of_le h.from_since, fun _ => ?_, hdue⟩
  obtain ⟨link, hlink⟩ := h.exists_link hleft
  cases hending : link.feedback.ending? with
  | some ending =>
    rw [Relay.joinSink?_of_ended _ hlink hending] at hwait
    cases hwait
  | none =>
    rw [Relay.joinSink?_of_running _ hlink hending] at hwait
    have hgrace : c.now < c.since + grace.toNat := by
      refine Nat.not_le.1 fun hover => ?_
      rw [isGraceOver, decide_eq_true hover, if_pos rfl] at hwait
      cases hwait
    rw [Draining.begins, ← h.since]
    rcases h.turn_cases hties hleft with ⟨ends, hends, -, -, hturn⟩ | ⟨-, -, hturn⟩
    · rw [hturn]
      rcases hdue _ link (Nat.le_refl _) hlink with ⟨-, hbefore⟩ | ⟨_, -, -, hended⟩
      · exact Nat.le_trans (hbefore ends hends) (Nat.le_max_right ..)
      · rw [hending] at hended
        cases hended
    · rw [hturn]
      exact hgrace

/-- An exit is taken just when the turn is over, and it is the turn's. -/
theorem IsOnTime.exists_turn (h : c.IsOnTime grace finishes n last)
    (hties : NoTies grace finishes n) {after : Relay}
    (hjoin : c.relay.joinSink? grace (c.isGraceOver grace) = some after)
    {link : Link} (hlink : c.relay.links[c.relay.feedbackExits.length]? = some link) :
    ∃ turn, after = c.relay.takeTurn grace link turn ∧ Draining.turn grace.toNat c.since
      (finishes c.relay.feedbackExits.length) = (turn, c.now) := by
  have hleft : ¬c.relay.sinksJoined := fun hjoined => by
    have hlt := (List.getElem?_eq_some_iff.1 hlink).1
    exact absurd (beq_iff_eq.1 hjoined) (Nat.ne_of_lt hlt)
  have hsince := h.from_since
  have hdue := h.due _ link (Nat.le_refl _) hlink
  cases hending : link.feedback.ending? with
  | some ending =>
    rw [Relay.joinSink?_of_ended _ hlink hending] at hjoin
    cases hjoin
    refine ⟨.ended ending, rfl, ?_⟩
    rcases hdue with ⟨hreading, -⟩ | ⟨ends, hends, htime, hended⟩
    · rw [FeedbackSink.isReading_of_ending? hending] at hreading
      cases hreading
    · rw [hending] at hended
      cases hended
      rcases h.turn_cases hties hleft with ⟨_, hsame, -, hnow, hturn⟩ | ⟨hlate, hnow, -⟩
      · rw [hends] at hsame
        cases hsame
        rw [hturn, Nat.le_antisymm hnow (Nat.max_le.2 ⟨hsince, htime⟩)]
      · exact absurd (Nat.lt_of_lt_of_le (hlate ends hends) htime) (Nat.not_lt.2 hnow)
  | none =>
    rw [Relay.joinSink?_of_running _ hlink hending, Option.ite_none_right_eq_some] at hjoin
    obtain ⟨hover, heq⟩ := hjoin
    cases heq
    have hgrace : c.since + grace.toNat ≤ c.now := of_decide_eq_true hover
    refine ⟨.aborted, rfl, ?_⟩
    rcases hdue with ⟨-, hbefore⟩ | ⟨_, -, -, hended⟩
    · rcases h.turn_cases hties hleft with ⟨ends, hends, hlt, -, -⟩ | ⟨-, hnow, hturn⟩
      · have hlate := hbefore ends hends
        exact absurd (Nat.le_trans hgrace hlate) (Nat.not_le.2 hlt)
      · rw [hturn, Nat.le_antisymm hnow hgrace]
    · rw [hending] at hended
      cases hended

theorem IsOnTime.join (h : c.IsOnTime grace finishes n last) (hties : NoTies grace finishes n)
    {after : Relay} (hjoin : c.relay.joinSink? grace (c.isGraceOver grace) = some after) :
    IsOnTime grace finishes n last ⟨after, c.now, c.now⟩ := by
  have haccounts := h.accounts.joinSink hjoin
  obtain ⟨link, -, -, hlink, -⟩ := Relay.joinSink?_eq_some hjoin
  obtain ⟨turn, rfl, hturn⟩ := h.exists_turn hties hjoin hlink
  have hexits : (c.relay.takeTurn grace link turn).feedbackExits.length =
      c.relay.feedbackExits.length + 1 := List.length_append
  have hnow : c.now =
      Draining.begins grace.toNat 0 finishes (c.relay.feedbackExits.length + 1) := by
    rw [Draining.begins, ← h.since, hturn]
  refine ⟨haccounts, (List.length_modify ..).trans h.length, ?_, ?_, Nat.le_refl _, fun _ => ?_,
    fun i other hi hother => ?_⟩
  · rw [← Relay.drainFrom_takeTurn hlink hturn]
    exact h.left
  · rw [hexits, ← hnow]
  · rw [hexits]
    exact Nat.le_trans (Nat.le_of_eq hnow) (Draining.begins_mono (Nat.le_succ _))
  · rw [hexits] at hi
    have hne : c.relay.feedbackExits.length ≠ i := Nat.ne_of_lt hi
    have hsame : c.relay.links[i]? = some other := by
      rw [← hother, Relay.takeTurn, Relay.getElem?_modifyLink, if_neg hne]
    exact h.due i other (Nat.le_of_succ_le hi) hsame

theorem IsOnTime.finish (h : c.IsOnTime grace finishes n last) (hties : NoTies grace finishes n)
    {i : Nat} {link : Link} {finish : Draining.Finish} (hlink : c.relay.links[i]? = some link)
    (hreading : link.feedback.isReading) (hfinish : finishes i = some finish)
    (hnow : finish.time = c.now) : IsOnTime grace finishes n last
      { c with relay := c.relay.modifyLink i (·.conclude (.ended finish.ending)) } := by
  have hlt : i < c.relay.links.length := (List.getElem?_eq_some_iff.1 hlink).1
  have hdue : c.relay.feedbackExits.length ≤ i := by
    refine Nat.not_lt.1 fun hi => ?_
    obtain ⟨_, hsame, hdone⟩ := h.accounts.sinks i hi
    rw [hlink] at hsame
    cases hsame
    rw [hdone] at hreading
    cases hreading
  have hleft : ¬c.relay.sinksJoined := fun hjoined => by
    rw [beq_iff_eq.1 hjoined] at hdue
    exact absurd hlt (Nat.not_lt.2 hdue)
  -- The turn of the sink is not over yet, so it is not aborted.
  have hbefore : c.now ≤ Draining.begins grace.toNat 0 finishes (i + 1) :=
    Nat.le_trans (h.in_turn hleft) (Draining.begins_mono (Nat.succ_le_succ hdue))
  have hturn : (Draining.turn grace.toNat (Draining.begins grace.toNat 0 finishes i)
      (finishes i)).1 = .ended finish.ending := by
    rcases Draining.turn_cases (hties i (h.length ▸ hlt)) with ⟨ends, hends, -, hturn⟩ |
      ⟨hlate, hturn⟩
    · rw [hfinish] at hends
      cases hends
      rw [hturn]
    · rw [Draining.begins, hturn] at hbefore
      have hlate := hlate finish hfinish
      rw [hnow] at hlate
      exact absurd hlate (Nat.not_lt.2 hbefore)
  have hended : (link.conclude (.ended finish.ending)).feedback.ending? = some finish.ending := by
    rw [Link.conclude, FeedbackSink.conclude_of_reading hreading]
    rfl
  refine ⟨?_, (List.length_modify ..).trans h.length, ?_, h.since, h.from_since,
    fun _ => h.in_turn hleft, fun j other hj hother => ?_⟩
  · exact h.accounts.of_keepsLinks (Relay.keepsLinks_modifyLink _ i fun link =>
      link.keeps_conclude (.ended finish.ending)) rfl rfl
  · rw [Relay.drainFrom_conclude hdue h.since hturn]
    exact h.left
  · rw [Relay.getElem?_modifyLink] at hother
    split at hother
    · next hij =>
      subst hij
      rw [hlink] at hother
      cases hother
      exact .inr ⟨finish, hfinish, Nat.le_of_eq hnow, hended⟩
    · exact h.due j other hj hother

theorem IsOnTime.goes (h : c.IsOnTime grace finishes n last) (hties : NoTies grace finishes n)
    (hgoes : Goes grace finishes c next) : next.IsOnTime grace finishes n last := by
  cases hgoes with
  | finish hlink hreading hfinish hnow => exact h.finish hties hlink hreading hfinish hnow
  | join hjoin => exact h.join hties hjoin
  | tick hleft hwait hdone => exact h.tick hties hleft hwait hdone

theorem IsOnTime.run (h : c.IsOnTime grace finishes n last) (hties : NoTies grace finishes n)
    (hgoes : Relation.ReflTransGen (Goes grace finishes) c next) :
    next.IsOnTime grace finishes n last := by
  induction hgoes with
  | refl => exact h
  | tail _ hstep ih => exact ih.goes hties hstep

/-! ## The end -/

/-- Once all sinks have been waited for, nothing is left to drain. -/
theorem IsOnTime.eq_last (h : c.IsOnTime grace finishes n last) (hjoined : c.relay.sinksJoined) :
    c.relay = last ∧ c.since = Draining.begins grace.toNat 0 finishes n := by
  have hlength : c.relay.feedbackExits.length = c.relay.links.length := beq_iff_eq.1 hjoined
  refine ⟨?_, by rw [h.since, hlength, h.length]⟩
  rw [← h.left]
  simp only [Relay.drainFrom, hlength, List.take_length, List.drop_length, List.length_nil,
    List.range_zero, List.map_nil, Draining.turns, List.zipWith_nil_left, List.append_nil,
    List.flatten_nil]

/-- As long as there is a sink to wait for, there is something to do. -/
theorem exists_goes (grace : UInt64) (finishes : Nat → Option Draining.Finish)
    (hleft : ¬c.relay.sinksJoined) : ∃ next, Goes grace finishes c next := by
  by_cases hdone : ∀ i link finish, c.relay.links[i]? = some link → finishes i = some finish →
      finish.time = c.now → link.feedback.isReading = false
  · cases hjoin : c.relay.joinSink? grace (c.isGraceOver grace) with
    | none => exact ⟨_, .tick hleft hjoin hdone⟩
    | some after => exact ⟨_, .join hjoin⟩
  · simp only [Classical.not_forall, Bool.not_eq_false] at hdone
    obtain ⟨i, link, finish, hlink, hfinish, hnow, hreading⟩ := hdone
    exact ⟨_, .finish hlink hreading hfinish hnow⟩

/-- What is left to do of a draining: time, sinks to wait for and sinks that may still end. -/
def toDo (grace : UInt64) (finishes : Nat → Option Draining.Finish) (n : Nat) (c : Clock) : Nat :=
  (Draining.begins grace.toNat 0 finishes n - c.now) + (n - c.relay.feedbackExits.length) +
    c.relay.links.countP (·.feedback.isReading)

theorem countP_modify {α : Type} {p : α → Bool} {f : α → α} {a : α} {as : List α} {i : Nat}
    (h : as[i]? = some a) : (as.modify i f).countP p + (if p a then 1 else 0) =
      as.countP p + (if p (f a) then 1 else 0) := by
  induction as generalizing i with
  | nil => cases h
  | cons b as ih =>
    cases i with
    | zero =>
      cases h
      rw [List.modify_zero_cons, List.countP_cons, List.countP_cons]
      omega
    | succ i =>
      have hrest := ih h
      rw [List.modify_succ_cons, List.countP_cons, List.countP_cons]
      omega

/-- A sink of which the turn is over is one less that may still end. -/
theorem countP_isReading_modify (turn : Draining.Turn) {links : List Link} {link : Link} {i : Nat}
    (hlink : links[i]? = some link) :
    (links.modify i (·.conclude turn)).countP (·.feedback.isReading) +
      (if link.feedback.isReading then 1 else 0) = links.countP (·.feedback.isReading) := by
  have hcount := countP_modify (p := (·.feedback.isReading)) (f := (·.conclude turn)) hlink
  rw [link.isReading_conclude turn] at hcount
  exact hcount

theorem IsOnTime.toDo_lt (h : c.IsOnTime grace finishes n last) (hties : NoTies grace finishes n)
    (hgoes : Goes grace finishes c next) :
    next.toDo grace finishes n < c.toDo grace finishes n := by
  have hnext := h.goes hties hgoes
  cases hgoes with
  | @finish _ _ finish hlink hreading hfinish hnow =>
    have hcount := countP_isReading_modify (.ended finish.ending) hlink
    rw [if_pos hreading] at hcount
    simp only [toDo, Relay.modifyLink]
    omega
  | join hjoin =>
    obtain ⟨link, -, -, hlink, -⟩ := Relay.joinSink?_eq_some hjoin
    obtain ⟨turn, rfl, -⟩ := h.exists_turn hties hjoin hlink
    have hcount := countP_isReading_modify turn hlink
    have hlt := (List.getElem?_eq_some_iff.1 hlink).1
    rw [h.length] at hlt
    simp only [toDo, Relay.takeTurn, Relay.modifyLink, List.length_append, List.length_singleton]
    omega
  | tick hleft hwait hdone =>
    have hlt : c.relay.feedbackExits.length + 1 ≤ n := h.length ▸ h.accounts.exits_lt hleft
    have hnow : c.now + 1 ≤ Draining.begins grace.toNat 0 finishes n :=
      Nat.le_trans (hnext.in_turn hleft) (Draining.begins_mono hlt)
    simp only [toDo]
    omega

/-- However far it has come, a draining can be brought to its end. -/
theorem IsOnTime.exists_drained (h : c.IsOnTime grace finishes n last)
    (hties : NoTies grace finishes n) :
    ∃ drained, Relation.ReflTransGen (Goes grace finishes) c drained ∧
      drained.relay.sinksJoined := by
  -- By induction on what is left to do, which becomes less with every step.
  induction hsize : c.toDo grace finishes n using Nat.strongRecOn generalizing c with
  | ind size ih =>
    by_cases hjoined : c.relay.sinksJoined
    · exact ⟨c, .refl, hjoined⟩
    · obtain ⟨next, hgoes⟩ := exists_goes grace finishes hjoined
      obtain ⟨drained, hrun, hdrained⟩ :=
        ih _ (hsize ▸ h.toDo_lt hties hgoes) (h.goes hties hgoes) rfl
      exact ⟨drained, .head hgoes hrun, hdrained⟩

end Clock

end RtpBridge

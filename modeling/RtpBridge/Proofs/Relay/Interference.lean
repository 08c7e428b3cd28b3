-- SUMMARY: What a link passes on depends on nothing that happens to the other links of its relay.
import RtpBridge.Proofs.Relay.Lane
import RtpBridge.Proofs.Relay.Stop

/-!
# Links do not interfere

Of a schedule of a relay, a link's forward pump is touched by what comes to the link, by the
pump's own steps and by the close flag (`Relay.ownActions`). A lane that takes just these does the
same work as the link, whatever else the schedule holds (`Relay.Shows`). What a lane makes of them
depends on what comes in and on the step at which the flag goes up, and on nothing else
(`Lane.link_run_eq`). So two runs that agree on these pass on the same
(`Relay.forward_unaffected`).
-/

namespace RtpBridge

/-! ## Actions that count -/

namespace ForwardPump

/-- Unless it ends, a step goes the same way if more is queued behind what it finds. -/
theorem step?_append {sink : Sink} {isClosing : Bool} {p q : ForwardPump}
    {queue rest : List Arrival} (h : p.step? sink isClosing queue = some (q, rest))
    (hopen : q.ending? = none) (later : List Arrival) :
    p.step? sink isClosing (queue ++ later) = some (q, rest ++ later) := by
  cases moves_of_step? h with
  | seeClose hp hclosing => simp only [step?, hp, hclosing, if_true]
  | forward hp hclosing =>
    simp only [step?, hp, hclosing, Bool.false_eq_true, if_false, List.cons_append]
  | drain hp => simp only [step?, hp, List.cons_append]
  | fail | reachBound | runDry | breakOff => cases hopen

end ForwardPump

namespace Link

/-- A link to which something has come ahead of its time. -/
def ahead (link : Link) (later : List Arrival) : Link :=
  { link with queue := link.queue ++ later }

theorem ahead_nil (link : Link) : link.ahead [] = link := by
  rw [ahead, List.append_nil]

/-- What comes ahead makes no difference to a step, but if the pump ends with it. -/
theorem pumpStep_ahead {link : Link} {isClosing : Bool}
    (hstep : (link.pump.step? link.sink isClosing link.queue).isSome) {later : List Arrival}
    (hlater : (link.pumpStep isClosing).isOpen = false → later = []) :
    (link.ahead later).pumpStep isClosing = (link.pumpStep isClosing).ahead later := by
  obtain ⟨⟨pump, queue⟩, hstep⟩ := Option.isSome_iff_exists.1 hstep
  have hafter : link.pumpStep isClosing = { link with pump, queue } := by
    simp only [pumpStep, hstep]
  cases hopen : (link.pumpStep isClosing).isOpen with
  | false => rw [hlater hopen, ahead_nil, ahead_nil]
  | true =>
    rw [hafter] at hopen ⊢
    have hahead := ForwardPump.step?_append hstep (isOpen_iff.1 hopen) later
    simp only [pumpStep, ahead, hahead]

end Link

namespace Lane

variable {lane other : Lane} {action : Action} {schedule : List Action}

/-- Whether an action changes nothing: what comes to a closed socket, a pump that has to wait or
has ended, a flag that is up already. -/
def isIdle (lane : Lane) : Action → Bool
  | .arrive _ => !lane.link.isOpen
  | .pump => (lane.link.pump.step? lane.link.sink lane.flag.isUp lane.link.queue).isNone
  | .raiseClose => lane.flag.isRaised
  | .dropCloser => lane.flag.isSenderGone

/-- The actions of a schedule that change something. -/
def effects (lane : Lane) : List Action → List Action
  | [] => []
  | action :: rest =>
    if lane.isIdle action then (lane.step action).effects rest
    else action :: (lane.step action).effects rest

/-- What comes in under a schedule while the socket is open. -/
def takenIn (lane : Lane) (schedule : List Action) : List Arrival :=
  arrivals (lane.effects schedule)

/-- The steps of the pump under a schedule, with the close among them. -/
def work (lane : Lane) (schedule : List Action) : List Action :=
  (lane.effects schedule).filter (·.arrival?.isNone)

def ahead (lane : Lane) (later : List Arrival) : Lane :=
  { lane with link := lane.link.ahead later }

theorem effects_of_isIdle (h : lane.isIdle action) (rest : List Action) :
    lane.effects (action :: rest) = (lane.step action).effects rest := if_pos h

theorem effects_of_not_isIdle (h : ¬ lane.isIdle action) (rest : List Action) :
    lane.effects (action :: rest) = action :: (lane.step action).effects rest := if_neg h

theorem takenIn_of_isIdle (h : lane.isIdle action) (rest : List Action) :
    lane.takenIn (action :: rest) = (lane.step action).takenIn rest := by
  rw [takenIn, effects_of_isIdle h, takenIn]

theorem takenIn_of_not_isIdle (h : ¬ lane.isIdle action) (rest : List Action) :
    lane.takenIn (action :: rest) = action.arrival?.toList ++ (lane.step action).takenIn rest := by
  rw [takenIn, effects_of_not_isIdle h, arrivals_cons, takenIn]

theorem work_of_isIdle (h : lane.isIdle action) (rest : List Action) :
    lane.work (action :: rest) = (lane.step action).work rest := by
  rw [work, effects_of_isIdle h, work]

theorem work_of_not_isIdle (h : ¬ lane.isIdle action) (rest : List Action) :
    lane.work (action :: rest) =
      [action].filter (·.arrival?.isNone) ++ (lane.step action).work rest := by
  rw [work, effects_of_not_isIdle h, ← List.singleton_append, List.filter_append, work]

theorem step_of_isIdle (h : lane.isIdle action) :
    (lane.step action).link = lane.link ∧ (lane.step action).flag = lane.flag := by
  cases action with
  | arrive arrival =>
    have hclosed : ¬ lane.link.isOpen := by simpa [isIdle] using h
    exact ⟨if_neg hclosed, rfl⟩
  | pump =>
    have hnone := Option.isNone_iff_eq_none.1 h
    refine ⟨?_, rfl⟩
    simp only [step, Link.pumpStep, hnone]
  | raiseClose =>
    have hraised : true = lane.flag.isRaised := h.symm
    refine ⟨rfl, ?_⟩
    simp only [step, hraised]
  | dropCloser =>
    have hgone : true = lane.flag.isSenderGone := h.symm
    refine ⟨rfl, ?_⟩
    simp only [step, hgone]

theorem link_run_congr (hlink : lane.link = other.link) (hflag : lane.flag = other.flag)
    (schedule : List Action) : (lane.run schedule).link = (other.run schedule).link := by
  induction schedule generalizing lane other with
  | nil => exact hlink
  | cons action rest ih =>
    refine ih ?_ ?_
    · cases action <;> simp only [step, hlink, hflag]
    · cases action <;> simp only [step, hflag]

/-! ## Once the socket is closed -/

theorem link_step_of_closed (h : lane.link.isOpen = false) (action : Action) :
    (lane.step action).link = lane.link := by
  cases action with
  | arrive arrival => exact if_neg (Bool.eq_false_iff.1 h)
  | pump => exact Link.pumpStep_of_ended h
  | raiseClose | dropCloser => rfl

theorem link_run_of_closed (h : lane.link.isOpen = false) (schedule : List Action) :
    (lane.run schedule).link = lane.link := by
  induction schedule generalizing lane with
  | nil => rfl
  | cons action rest ih =>
    have hsame := link_step_of_closed h action
    exact (ih (hsame ▸ h)).trans hsame

theorem takenIn_of_closed (h : lane.link.isOpen = false) (schedule : List Action) :
    lane.takenIn schedule = [] := by
  induction schedule generalizing lane with
  | nil => rfl
  | cons action rest ih =>
    have hrest : (lane.step action).takenIn rest = [] := ih (link_step_of_closed h action ▸ h)
    by_cases hidle : lane.isIdle action
    · rw [takenIn_of_isIdle hidle, hrest]
    · rw [takenIn_of_not_isIdle hidle, hrest, List.append_nil]
      cases action with
      | arrive arrival => exact absurd (by simp [isIdle, h]) hidle
      | pump | raiseClose | dropCloser => rfl

/-! ## What matters -/

/-- All that comes in while the socket is open may as well have come ahead: it does not matter when,
as long as the pump takes the same steps. -/
theorem link_run_eq_run_work (lane : Lane) (schedule : List Action) :
    (lane.run schedule).link =
      ((lane.ahead (lane.takenIn schedule)).run (lane.work schedule)).link := by
  induction schedule generalizing lane with
  | nil => exact lane.link.ahead_nil.symm
  | cons action rest ih =>
    refine (ih (lane.step action)).trans ?_
    generalize hlater : (lane.step action).takenIn rest = later
    by_cases hidle : lane.isIdle action
    · obtain ⟨hlink, hflag⟩ := step_of_isIdle hidle
      rw [takenIn_of_isIdle hidle, work_of_isIdle hidle, hlater]
      have hahead : ((lane.step action).ahead later).link = (lane.ahead later).link :=
        congrArg (·.ahead later) hlink
      exact link_run_congr hahead hflag _
    · rw [takenIn_of_not_isIdle hidle, work_of_not_isIdle hidle, hlater]
      cases action with
      | arrive arrival =>
        have hopen : lane.link.isOpen := by simpa [isIdle] using hidle
        have hahead : ((lane.step (.arrive arrival)).ahead later).link =
            (lane.ahead (arrival :: later)).link := by
          simp only [ahead, Link.ahead, step, Link.arrive, hopen, if_true, List.append_assoc,
            List.singleton_append]
        exact link_run_congr hahead rfl _
      | pump =>
        have hstep := Option.isSome_iff_ne_none.2 fun hnone =>
          hidle (Option.isNone_iff_eq_none.2 hnone)
        have hahead : ((lane.step .pump).ahead later).link = ((lane.ahead later).step .pump).link :=
          (Link.pumpStep_ahead hstep fun hclosed =>
            hlater.symm.trans (takenIn_of_closed hclosed rest)).symm
        exact link_run_congr hahead rfl _
      | raiseClose | dropCloser => rfl

theorem work_of_isRaised (h : lane.flag.isRaised) (hstays : .dropCloser ∉ schedule) :
    ∃ n, lane.work schedule = List.replicate n .pump := by
  induction schedule generalizing lane with
  | nil => exact ⟨0, rfl⟩
  | cons action rest ih =>
    obtain ⟨hkept, hrest⟩ := List.ne_and_not_mem_of_not_mem_cons hstays
    have hraised : (lane.step action).flag.isRaised := by
      cases action with
      | arrive | pump | dropCloser => exact h
      | raiseClose => rfl
    obtain ⟨n, hn⟩ := ih hraised hrest
    by_cases hidle : lane.isIdle action
    · exact ⟨n, (work_of_isIdle hidle rest).trans hn⟩
    · rw [work_of_not_isIdle hidle, hn]
      cases action with
      | arrive arrival => exact ⟨n, rfl⟩
      | pump => exact ⟨n + 1, rfl⟩
      | raiseClose => exact absurd h hidle
      | dropCloser => exact absurd rfl hkept

/-- The work of a pump is to read for a while, and once the flag goes up, to drain. -/
theorem work_eq_append (h : lane.flag.isRaised = false) (hstays : .dropCloser ∉ schedule) :
    ∃ rest, lane.work schedule =
        List.replicate ((lane.work schedule).idxOf .raiseClose) .pump ++ rest ∧
      (rest = [] ∨ ∃ n, rest = .raiseClose :: List.replicate n .pump) := by
  induction schedule generalizing lane with
  | nil => exact ⟨[], rfl, .inl rfl⟩
  | cons action later ih =>
    obtain ⟨hkept, hlater⟩ := List.ne_and_not_mem_of_not_mem_cons hstays
    by_cases hidle : lane.isIdle action
    · rw [work_of_isIdle hidle]
      exact ih ((step_of_isIdle hidle).2 ▸ h) hlater
    · rw [work_of_not_isIdle hidle]
      cases action with
      | arrive arrival => exact ih h hlater
      | pump =>
        have hdown : (lane.step .pump).flag.isRaised = false := h
        obtain ⟨rest, hwork, hrest⟩ := ih hdown hlater
        generalize (lane.step .pump).work later = work at hwork
        have hindex : (Action.pump :: work).idxOf .raiseClose = work.idxOf .raiseClose + 1 :=
          List.idxOf_cons_ne work Action.noConfusion
        refine ⟨rest, ?_, hrest⟩
        rw [show [Action.pump].filter (·.arrival?.isNone) = [.pump] from rfl, List.singleton_append,
          hindex, List.replicate_succ, List.cons_append, ← hwork]
      | raiseClose =>
        have hraised : (lane.step .raiseClose).flag.isRaised := rfl
        obtain ⟨n, hn⟩ := work_of_isRaised hraised hlater
        rw [hn]
        exact ⟨_, rfl, .inr ⟨n, rfl⟩⟩
      | dropCloser => exact absurd rfl hkept

/-- Of two pumps whose flag goes up at the same step, one has done the first part of the other's
work. -/
theorem isPrefix_or_isPrefix {first second : List Action} (h : lane.flag.isRaised = false)
    (hfirst : .dropCloser ∉ first) (hsecond : .dropCloser ∉ second)
    (hclose : (lane.work first).idxOf .raiseClose = (lane.work second).idxOf .raiseClose) :
    lane.work first <+: lane.work second ∨ lane.work second <+: lane.work first := by
  obtain ⟨rest₁, hwork₁, hrest₁⟩ := work_eq_append h hfirst
  obtain ⟨rest₂, hwork₂, hrest₂⟩ := work_eq_append h hsecond
  rw [hwork₁, hwork₂, hclose, List.prefix_append_right_inj, List.prefix_append_right_inj]
  rcases hrest₁ with rfl | ⟨n₁, rfl⟩
  · exact .inl (List.nil_prefix ..)
  · rcases hrest₂ with rfl | ⟨n₂, rfl⟩
    · exact .inr (List.nil_prefix ..)
    · rw [List.cons_prefix_cons, List.cons_prefix_cons, List.prefix_replicate_iff,
        List.prefix_replicate_iff]
      simpa using Nat.le_total n₁ n₂

/-- A pump that ended with the first part of the work does no more of it. -/
theorem link_run_eq_of_isPrefix {first second : List Action}
    (hin : lane.takenIn first = lane.takenIn second)
    (hpart : lane.work first <+: lane.work second)
    (hfar : (lane.work first).length = (lane.work second).length ∨
      (lane.run first).link.isOpen = false) :
    (lane.run first).link = (lane.run second).link := by
  rw [link_run_eq_run_work, hin] at hfar
  rw [link_run_eq_run_work lane first, link_run_eq_run_work lane second, hin]
  rcases hfar with hlength | hclosed
  · rw [hpart.eq_of_length hlength]
  · obtain ⟨rest, hrest⟩ := hpart
    rw [← hrest, run_append, link_run_of_closed hclosed]

/-- What is taken in, and at which step the flag goes up, tells what becomes of a link: the same
after as many steps, and the same in the end. -/
theorem link_run_eq {first second : List Action} (h : lane.flag.isRaised = false)
    (hfirst : .dropCloser ∉ first) (hsecond : .dropCloser ∉ second)
    (hin : lane.takenIn first = lane.takenIn second)
    (hclose : (lane.work first).idxOf .raiseClose = (lane.work second).idxOf .raiseClose)
    (hfar : (lane.work first).length = (lane.work second).length ∨
      ((lane.run first).link.isOpen = false ∧ (lane.run second).link.isOpen = false)) :
    (lane.run first).link = (lane.run second).link := by
  rcases isPrefix_or_isPrefix h hfirst hsecond hclose with hpart | hpart
  · exact link_run_eq_of_isPrefix hin hpart (hfar.imp_right And.left)
  · exact (link_run_eq_of_isPrefix hin.symm hpart (hfar.imp Eq.symm And.right)).symm

/-- When the flag goes up a lane begins to drain. -/
theorem hasDrained_raiseClose {session : String} {ingress : IngressSocket} {sink : Sink}
    (haccepts : ∀ n sample, sink n sample = .accepted) {before after : List Action}
    {datagrams : List (List UInt8)}
    (harrivals : arrivals (before ++ .raiseClose :: after) = datagrams.map .datagram)
    (hdown : ((start session ingress sink).run before).flag.isUp = false) :
    ((start session ingress sink).run before).link.HasDrained
      ((start session ingress sink).run (before ++ .raiseClose :: after)).link := by
  rw [List.append_cons] at harrivals ⊢
  have hraised : (start session ingress sink).run (before ++ [.raiseClose]) =
      ((start session ingress sink).run before).step .raiseClose := run_append ..
  obtain ⟨first, hfirst⟩ : ∃ first : List (List UInt8), arrivals before = first.map .datagram := by
    rw [arrivals, List.filterMap_append, List.filterMap_append, List.append_assoc] at harrivals
    obtain ⟨first, _, -, hfirst, -⟩ := List.map_eq_append_iff.1 harrivals.symm
    exact ⟨first, hfirst.symm⟩
  have hlistening := (goesWell_run session ingress haccepts hfirst).listening hdown
  have hdrained := hasDrained_append haccepts harrivals (by rw [hraised]; rfl)
    (by rw [hraised]; exact hlistening)
  rwa [hraised] at hdrained

end Lane

/-! ## Links as lanes -/

namespace Link

variable {link other : Link}

/-- That two links agree on all that the forward pump reads and writes. -/
structure SameForward (link other : Link) : Prop where
  sink : link.sink = other.sink
  queue : link.queue = other.queue
  pump : link.pump = other.pump

theorem SameForward.isOpen (h : link.SameForward other) : link.isOpen = other.isOpen := by
  rw [Link.isOpen, Link.isOpen, h.pump]

theorem SameForward.arrive (h : link.SameForward other) (arrival : Arrival) :
    (link.arrive arrival).SameForward (other.arrive arrival) := by
  unfold Link.arrive
  rw [h.isOpen, h.queue]
  split
  · exact ⟨h.sink, rfl, h.pump⟩
  · exact h

theorem SameForward.pumpStep (h : link.SameForward other) (isClosing : Bool) :
    (link.pumpStep isClosing).SameForward (other.pumpStep isClosing) := by
  unfold Link.pumpStep
  rw [h.sink, h.queue, h.pump]
  split
  · exact ⟨rfl, rfl, rfl⟩
  · exact h

theorem SameForward.feedback (h : link.SameForward other) (feedback : FeedbackSink) :
    SameForward { link with feedback } other := ⟨h.sink, h.queue, h.pump⟩

theorem SameForward.hasDrained {seen seenOther : Link} (hseen : seen.SameForward seenOther)
    (h : link.SameForward other) (hdrained : seenOther.HasDrained other) :
    seen.HasDrained link := by
  unfold HasDrained at *
  rwa [hseen.queue, hseen.pump, h.pump, h.isOpen]

end Link

namespace Relay

variable {relay : Relay} {lane : Lane} {session : String} {ingress : IngressSocket} {sink : Sink}
  {links : List (IngressSocket × Sink)} {i : Nat}

/-- What an action of a relay is to the forward pump of a link, if anything. -/
def Action.onLane? (i : Nat) : Action → Option Lane.Action
  | .arrive j arrival => if j = i then some (.arrive arrival) else none
  | .pump j => if j = i then some .pump else none
  | .raiseClose => some .raiseClose
  | .feedback .. | .joinPump | .joinSink .. | .trigger => none

/-- What a schedule is to the forward pump of a link. -/
def ownActions (i : Nat) (schedule : List Action) : List Lane.Action :=
  schedule.filterMap (·.onLane? i)

/-- That the `i`-th link of a relay does the forward work of a lane. -/
def Shows (relay : Relay) (i : Nat) (lane : Lane) : Prop :=
  ∃ link, relay.links[i]? = some link ∧ link.SameForward lane.link ∧
    lane.flag.isUp = relay.isClosing

theorem ownActions_cons (i : Nat) (action : Action) (rest : List Action) :
    ownActions i (action :: rest) = (action.onLane? i).toList ++ ownActions i rest := by
  rw [ownActions, List.filterMap_cons]
  cases action.onLane? i <;> rfl

theorem ownActions_append_raiseClose (i : Nat) (before after : List Action) :
    ownActions i (before ++ .raiseClose :: after) =
      ownActions i before ++ .raiseClose :: ownActions i after := List.filterMap_append

theorem shows_launch (hlink : links[i]? = some (ingress, sink)) :
    (launch session links).Shows i (.start session ingress sink) := by
  refine ⟨.start session ingress sink, ?_, ⟨rfl, rfl, rfl⟩, rfl⟩
  simp only [launch, List.getElem?_map, hlink, Option.map_some]

/-- What is done to another link, or to what no forward pump reads, is not seen. -/
theorem Shows.modifyLink (h : relay.Shows i lane) (j : Nat) {f : Link → Link}
    (hf : j = i → ∀ link : Link, link.SameForward lane.link → (f link).SameForward lane.link) :
    (relay.modifyLink j f).Shows i lane := by
  obtain ⟨link, hlink, hsame, hflag⟩ := h
  rw [Shows, getElem?_modifyLink, hlink]
  split
  · next hji => exact ⟨f link, rfl, hf hji link hsame, hflag⟩
  · exact ⟨link, rfl, hsame, hflag⟩

theorem Shows.step (h : relay.Shows i lane) (stop : StopLatch) (action : Action) :
    (relay.step stop action).1.Shows i (lane.run (action.onLane? i).toList) := by
  cases action with
  | arrive j arrival =>
    by_cases hji : j = i
    · obtain ⟨link, hlink, hsame, hflag⟩ := h
      refine ⟨link.arrive arrival, ?_, ?_, ?_⟩
      · rw [Relay.step, getElem?_modifyLink, if_pos hji, hlink, Option.map_some]
      · rw [Action.onLane?, if_pos hji]
        exact hsame.arrive arrival
      · rw [Action.onLane?, if_pos hji]
        exact hflag
    · rw [Action.onLane?, if_neg hji]
      exact h.modifyLink j fun heq => absurd heq hji
  | pump j =>
    by_cases hji : j = i
    · obtain ⟨link, hlink, hsame, hflag⟩ := h
      refine ⟨link.pumpStep relay.isClosing, ?_, ?_, ?_⟩
      · rw [Relay.step, getElem?_modifyLink, if_pos hji, hlink, Option.map_some]
      · rw [Action.onLane?, if_pos hji, ← hflag]
        exact hsame.pumpStep _
      · rw [Action.onLane?, if_pos hji]
        exact hflag
    · rw [Action.onLane?, if_neg hji]
      exact h.modifyLink j fun heq => absurd heq hji
  | feedback j outcome => exact h.modifyLink j fun _ link hsame => hsame.feedback _
  | raiseClose =>
    obtain ⟨link, hlink, hsame, -⟩ := h
    exact ⟨link, hlink, hsame, rfl⟩
  | trigger => exact h
  | joinPump =>
    rw [Relay.step]
    cases hjoin : relay.joinPump? with
    | none => exact h
    | some after =>
      obtain ⟨_, _, -, -, rfl⟩ := joinPump?_eq_some.1 hjoin
      exact h
  | joinSink grace isGraceOver =>
    rw [Relay.step]
    cases hjoin : relay.joinSink? grace isGraceOver with
    | none => exact h
    | some after =>
      obtain ⟨_, _, _, -, ⟨-, rfl⟩ | rfl⟩ := joinSink?_eq_some hjoin
      · exact h
      · exact h.modifyLink relay.feedbackExits.length fun _ link hsame => hsame.feedback _

theorem Shows.run (h : relay.Shows i lane) (stop : StopLatch) (schedule : List Action) :
    (relay.run stop schedule).1.Shows i (lane.run (ownActions i schedule)) := by
  induction schedule generalizing relay stop lane with
  | nil => exact h
  | cons action rest ih =>
    rw [run_cons, ownActions_cons, Lane.run_append]
    exact ih (h.step stop action) _

theorem dropCloser_notMem_ownActions (i : Nat) (schedule : List Action) :
    .dropCloser ∉ ownActions i schedule := fun hmem => by
  obtain ⟨action, -, haction⟩ := List.mem_filterMap.1 hmem
  cases action with
  | arrive j _ | pump j =>
    rw [Action.onLane?] at haction
    split at haction <;> cases haction
  | feedback | raiseClose | joinPump | joinSink | trigger => cases haction

/-- What a link passes on, and how its pump ends, is told by its track, by what comes in while its
socket is open, and by the step of its pump at which the flag goes up. Whatever else differs between
two runs, how the tasks take turns, the other links and all that happens to them: once both pumps
have ended this is the same, and it is the same before, after as many steps. All that goes to the
track has come to the link itself; and if the track accepts everything, then whatever other pumps
have failed, what is queued when the flag goes up is passed on, up to the bound. -/
theorem forward_unaffected (session : String) {ingress : IngressSocket} {sink : Sink}
    {links₁ links₂ : List (IngressSocket × Sink)} {i j : Nat}
    (hlink₁ : links₁[i]? = some (ingress, sink)) (hlink₂ : links₂[j]? = some (ingress, sink))
    {schedule₁ schedule₂ : List Action}
    (hin : (Lane.start session ingress sink).takenIn (ownActions i schedule₁) =
      (Lane.start session ingress sink).takenIn (ownActions j schedule₂))
    (hclose :
      ((Lane.start session ingress sink).work (ownActions i schedule₁)).idxOf .raiseClose =
        ((Lane.start session ingress sink).work (ownActions j schedule₂)).idxOf .raiseClose)
    (stop₁ stop₂ : StopLatch) :
    ∃ link₁ link₂ : Link,
      ((launch session links₁).run stop₁ schedule₁).1.links[i]? = some link₁ ∧
      ((launch session links₂).run stop₂ schedule₂).1.links[j]? = some link₂ ∧
      (((Lane.start session ingress sink).work (ownActions i schedule₁)).length =
          ((Lane.start session ingress sink).work (ownActions j schedule₂)).length ∨
        (link₁.isOpen = false ∧ link₂.isOpen = false) → link₁.pump = link₂.pump) ∧
      (∀ exit₁ exit₂,
        ((launch session links₁).run stop₁ schedule₁).1.forwardExits[i]? = some exit₁ →
        ((launch session links₂).run stop₂ schedule₂).1.forwardExits[j]? = some exit₂ →
        exit₁ = exit₂) ∧
      link₁.pump.written <+: samples (Lane.arrivals (ownActions i schedule₁)) ∧
      ((∀ n sample, sink n sample = .accepted) →
        ∀ datagrams : List (List UInt8),
          Lane.arrivals (ownActions i schedule₁) = datagrams.map .datagram →
        ∀ before after, schedule₁ = before ++ .raiseClose :: after →
          ((launch session links₁).run stop₁ before).1.isClosing = false →
          ∃ seen : Link, ((launch session links₁).run stop₁ before).1.links[i]? = some seen ∧
            seen.HasDrained link₁) := by
  obtain ⟨link₁, hfound₁, hshown₁, -⟩ :=
    (shows_launch hlink₁ : (launch session links₁).Shows i _).run stop₁ schedule₁
  obtain ⟨link₂, hfound₂, hshown₂, -⟩ :=
    (shows_launch hlink₂ : (launch session links₂).Shows j _).run stop₂ schedule₂
  have hsame := Lane.link_run_eq rfl (dropCloser_notMem_ownActions i schedule₁)
    (dropCloser_notMem_ownActions j schedule₂) hin hclose
  rw [← hshown₁.isOpen, ← hshown₂.isOpen] at hsame
  have hpump (hfar : _ ∨ link₁.isOpen = false ∧ link₂.isOpen = false) : link₁.pump = link₂.pump :=
    hshown₁.pump.trans ((congrArg Link.pump (hsame hfar)).trans hshown₂.pump.symm)
  refine ⟨link₁, link₂, hfound₁, hfound₂, hpump, ?_, ?_, ?_⟩
  · intro exit₁ exit₂ hexit₁ hexit₂
    obtain ⟨_, ending₁, hsame₁, hending₁, rfl⟩ := (accounts_run stop₁ schedule₁).pumps i _ hexit₁
    obtain ⟨_, ending₂, hsame₂, hending₂, rfl⟩ := (accounts_run stop₂ schedule₂).pumps j _ hexit₂
    cases hfound₁.symm.trans hsame₁
    cases hfound₂.symm.trans hsame₂
    have hclosed₁ := Link.not_isOpen_iff.2 ⟨_, hending₁⟩
    have hclosed₂ := Link.not_isOpen_iff.2 ⟨_, hending₂⟩
    rw [hpump (.inr ⟨hclosed₁, hclosed₂⟩), hending₂] at hending₁
    cases hending₁
    rfl
  · rw [hshown₁.pump]
    have hstart : (Lane.start session ingress sink).link.InOrder [] := Link.inOrder_start ..
    exact (Lane.inOrder_run hstart _).isPrefix
  · rintro haccepts datagrams harrivals before after rfl hdown
    obtain ⟨seen, hseen, hshown, hflag⟩ := (shows_launch hlink₁).run stop₁ before
    refine ⟨seen, hseen, hshown.hasDrained hshown₁ ?_⟩
    rw [ownActions_append_raiseClose] at harrivals ⊢
    exact Lane.hasDrained_raiseClose haccepts harrivals (hflag.trans hdown)

/-- Video to a track that answers by rules, and audio to one that accepts everything. -/
def videoAndAudio (rules : List WriteOutcome) : List (IngressSocket × Sink) :=
  [(⟨.video, 5000⟩, .ofRules rules), (⟨.audio, 5002⟩, .ofRules [])]

/-- Video comes in and is written; one datagram of audio is queued when the sockets are closed. -/
def beforeClose : List Action :=
  [.arrive 0 (.datagram [9]), .pump 0, .arrive 1 (.datagram [1]), .arrive 1 (.datagram [2]),
    .pump 1]

def afterClose : List Action := [.joinPump, .pump 1, .pump 1, .pump 1, .joinPump]

/-- No video comes in, other tasks run in between, and the first datagram is read sooner. -/
def undisturbed : List Action :=
  [.arrive 1 (.datagram [1]), .pump 0, .pump 1, .arrive 1 (.datagram [2]), .feedback 0 .closed,
    .raiseClose, .pump 1, .raiseClose, .pump 0, .pump 1, .pump 1, .pump 1]

theorem forward_unaffected_byFailedPump :
    ((launch "s" (videoAndAudio [.failed "gone"])).run .armed
      (beforeClose ++ .raiseClose :: afterClose)).1.hasFailed 0 ∧
    (Lane.start "s" ⟨.audio, 5002⟩ (.ofRules [])).takenIn
        (ownActions 1 (beforeClose ++ .raiseClose :: afterClose)) =
      (Lane.start "s" ⟨.audio, 5002⟩ (.ofRules [])).takenIn (ownActions 1 undisturbed) ∧
    ((Lane.start "s" ⟨.audio, 5002⟩ (.ofRules [])).work
        (ownActions 1 (beforeClose ++ .raiseClose :: afterClose))).idxOf .raiseClose =
      ((Lane.start "s" ⟨.audio, 5002⟩ (.ofRules [])).work (ownActions 1 undisturbed)).idxOf
        .raiseClose ∧
    ∃ link₁ link₂ seen : Link,
      ((launch "s" (videoAndAudio [.failed "gone"])).run .armed
        (beforeClose ++ .raiseClose :: afterClose)).1.links[1]? = some link₁ ∧
      ((launch "s" (videoAndAudio [])).run .armed undisturbed).1.links[1]? = some link₂ ∧
      link₁.pump = link₂.pump ∧ seen.queue = [.datagram [2]] ∧ seen.HasDrained link₁ := by
  have hin : (Lane.start "s" ⟨.audio, 5002⟩ (.ofRules [])).takenIn
        (ownActions 1 (beforeClose ++ .raiseClose :: afterClose)) =
      (Lane.start "s" ⟨.audio, 5002⟩ (.ofRules [])).takenIn (ownActions 1 undisturbed) := by
    decide +kernel
  have hclose : ((Lane.start "s" ⟨.audio, 5002⟩ (.ofRules [])).work
        (ownActions 1 (beforeClose ++ .raiseClose :: afterClose))).idxOf .raiseClose =
      ((Lane.start "s" ⟨.audio, 5002⟩ (.ofRules [])).work (ownActions 1 undisturbed)).idxOf
        .raiseClose := by
    decide +kernel
  obtain ⟨link₁, link₂, hfound₁, hfound₂, hpump, -, -, hdrains⟩ :=
    forward_unaffected "s" (show (videoAndAudio [.failed "gone"])[1]? = some _ from rfl)
      (show (videoAndAudio [])[1]? = some _ from rfl) hin hclose .armed .armed
  obtain ⟨seen, hseen, hdrained⟩ :=
    hdrains (fun _ _ => rfl) [[1], [2]] rfl beforeClose afterClose rfl rfl
  cases hseen
  exact ⟨by decide +kernel, hin, hclose, link₁, link₂, _, hfound₁, hfound₂,
    hpump (.inl (by decide +kernel)), rfl, hdrained⟩

end Relay

end RtpBridge

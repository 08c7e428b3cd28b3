-- SUMMARY: Which sockets a session has open: it opens its pair at once and then only closes.
import Mathlib.Data.List.Forall2
import RtpBridge.Machine
import RtpBridge.Proofs.Ingress
import RtpBridge.Proofs.Session.Order

/-!
# Sockets of a session

The one step that opens sockets is the one in which the owner asks for them, and it finds none of
the session's open (`Session.openSockets_binding`). In every other step those that are open stay
so or are closed (`Session.sublist_openSockets_step`).
-/

namespace RtpBridge

/-! ## Sockets of a relay -/

theorem Link.Keeps.isOpen {link next : Link} (h : link.Keeps next) (hopen : next.isOpen) :
    link.isOpen := by
  cases hended : link.pump.ending? with
  | none => exact Option.isNone_iff_eq_none.2 hended
  | some ending =>
    rw [Link.isOpen, h.pump ending hended, hended] at hopen
    cases hopen

namespace Relay

variable {relay after : Relay}

/-- The sockets whose pumps have not ended. -/
def sockets (relay : Relay) : List IngressSocket :=
  (relay.links.filter (·.isOpen)).map (·.ingress)

/-- A link keeps its socket, and one that is closed stays so. -/
theorem KeepsLinks.sublist_sockets (h : relay.KeepsLinks after) :
    after.sockets.Sublist relay.sockets := by
  have hlinks : List.Forall₂ Link.Keeps relay.links after.links := by
    refine List.forall₂_iff_get.2 ⟨h.length.symm, fun i hi hafter => ?_⟩
    obtain ⟨next, hnext, hkeeps⟩ := h.link i _ (List.getElem?_eq_getElem hi)
    rw [List.getElem?_eq_getElem hafter] at hnext
    cases hnext
    exact hkeeps
  unfold sockets
  generalize relay.links = links, after.links = nexts at hlinks ⊢
  induction hlinks with
  | nil => exact .slnil
  | @cons link next links rest hkeeps _ ih =>
    cases hnext : next.isOpen with
    | true =>
      rw [List.filter_cons_of_pos (hkeeps.isOpen hnext), List.filter_cons_of_pos hnext,
        List.map_cons, List.map_cons, hkeeps.ingress]
      exact ih.cons_cons _
    | false =>
      rw [List.filter_cons_of_neg (Bool.eq_false_iff.1 hnext)]
      exact ih.trans (((List.sublist_cons_self link links).filter _).map _)

theorem sublist_sockets_deliverEarly (relay : Relay) (early : List (MediaKind × Arrival)) :
    (early.foldl (fun relay (kind, arrival) => relay.modifyLink kind.index (·.arrive arrival))
      relay).sockets.Sublist relay.sockets := by
  induction early generalizing relay with
  | nil => exact .refl _
  | cons first rest ih =>
    refine (ih _).trans (KeepsLinks.sublist_sockets ?_)
    exact keepsLinks_modifyLink relay first.1.index fun link => link.keeps_arrive first.2

end Relay

namespace Session

variable {s after : Session} {pair : IngressPair} {answers : Ingress.Answers} {isGraceOver : Bool}

/-! ## Sockets of a session -/

theorem pair?_of_control (s : Session) {control : Control} (h : s.control = control)
    {held : Option IngressPair} (hheld : control.pair? = held) : s.control.pair? = held := by
  rw [h, hheld]

theorem openSockets_of_pair? (h : s.control.pair? = some pair) :
    s.openSockets = [pair.video, pair.audio] := by
  simp only [openSockets, h]

theorem openSockets_of_pair?_eq_none (h : s.control.pair? = none) :
    s.openSockets = s.relay.elim [] (·.sockets) := by
  cases hrelay : s.relay with
  | none => simp only [openSockets, h, hrelay, Option.elim_none]
  | some relay =>
    simp only [openSockets, h, hrelay, Option.elim_some]
    rfl

/-- Once the sockets are with the relay, its actions at most close some. -/
theorem sublist_openSockets_of_relay (hs : s.control.pair? = none)
    (hafter : after.control.pair? = none)
    (hrelay : after.relay = s.relay ∨ ∃ relay stop action,
      s.relay = some relay ∧ after.relay = some (Relay.step relay stop action).1) :
    after.openSockets.Sublist s.openSockets := by
  rw [openSockets_of_pair?_eq_none hs, openSockets_of_pair?_eq_none hafter]
  rcases hrelay with hsame | ⟨relay, stop, action, hsome, hnext⟩
  · rw [hsame]
  · rw [hsome, hnext]
    exact (Relay.keepsLinks_step relay stop action).sublist_sockets

theorem LeavesAlone.sublist_openSockets (h : s.LeavesAlone after) :
    after.openSockets.Sublist s.openSockets := by
  cases hpair : s.control.pair? with
  | none => exact sublist_openSockets_of_relay hpair (by rw [h.control, hpair]) h.relay
  | some pair =>
    rw [openSockets_of_pair? hpair, openSockets_of_pair? (by rw [h.control, hpair])]

/-! ## Steps of the owner -/

/-- A stage of the teardown leaves the relay, or takes one action of it. -/
theorem relay_tearDown (stage : Teardown) (fault : Option BindFault) (isGraceOver : Bool)
    (s : Session) : (s.tearDown stage fault isGraceOver).1.relay = s.relay ∨
      ∃ relay stop action, s.relay = some relay ∧
        (s.tearDown stage fault isGraceOver).1.relay = some (Relay.step relay stop action).1 := by
  unfold tearDown
  split
  · exact .inl rfl
  · next relay hrelay => exact .inr ⟨relay, s.stop, .raiseClose, hrelay, rfl⟩
  · next relay hrelay =>
    split
    · exact .inl rfl
    · split
      · next joined hjoin =>
        refine .inr ⟨relay, s.stop, .joinPump, hrelay, ?_⟩
        simp only [Relay.step, hjoin, Option.getD_some]
      · exact .inl rfl
  · exact .inl rfl
  · exact .inl rfl
  · exact .inl rfl
  · next relay hrelay =>
    split
    · exact .inl rfl
    · split
      · next joined hjoin =>
        refine .inr ⟨relay, s.stop, .joinSink s.config.teardownGrace isGraceOver, hrelay, ?_⟩
        simp only [Relay.step, hjoin, Option.getD_some]
      · exact .inl rfl
  · exact .inl rfl
  · exact .inl rfl

theorem pair?_tearDown {stage : Teardown} {fault : Option BindFault}
    (h : s.control = .tearingDown stage fault) :
    (s.tearDown stage fault isGraceOver).1.control.pair? = none := by
  have hs : s.control.pair? = none := by rw [h]; rfl
  unfold tearDown
  repeat' split
  all_goals first | rfl | exact hs

/-- The pumps take the sockets over from the owner. -/
theorem sublist_openSockets_launch (pair : IngressPair) (s : Session) :
    ((s.launch pair).1.goTo .parked).openSockets.Sublist [pair.video, pair.audio] := by
  rw [openSockets_of_pair?_eq_none rfl]
  exact Relay.sublist_sockets_deliverEarly _ s.early

theorem sublist_openSockets_advance (h : s.isBinding = false) :
    (s.advance answers isGraceOver).1.openSockets.Sublist s.openSockets := by
  cases hcontrol : s.control with
  | unowned | returned | closed =>
    simp only [advance, hcontrol]
    exact .refl _
  | binding =>
    rw [isBinding, hcontrol] at h
    cases h
  | abandoning fault =>
    simp only [advance, hcontrol]
    exact sublist_openSockets_of_relay (by rw [hcontrol]; rfl) rfl (.inl rfl)
  | closing stage =>
    simp only [advance, hcontrol]
    cases stage <;> exact sublist_openSockets_of_relay (by rw [hcontrol]; rfl) rfl (.inl rfl)
  | reporting pair callbacks =>
    rw [openSockets_of_pair? (s.pair?_of_control hcontrol rfl)]
    simp only [advance, hcontrol, report]
    split <;> exact .refl [pair.video, pair.audio]
  | installing pair input =>
    rw [openSockets_of_pair? (s.pair?_of_control hcontrol rfl)]
    simp only [advance, hcontrol, install]
    split <;> exact .refl [pair.video, pair.audio]
  | launching pair =>
    rw [openSockets_of_pair? (s.pair?_of_control hcontrol rfl)]
    simp only [advance, hcontrol]
    exact sublist_openSockets_launch pair s
  | parked =>
    simp only [advance, hcontrol]
    split
    · exact sublist_openSockets_of_relay (by rw [hcontrol]; rfl) rfl (.inl rfl)
    · exact .refl _
  | tearingDown stage fault =>
    simp only [advance, hcontrol]
    exact sublist_openSockets_of_relay (by rw [hcontrol]; rfl) (pair?_tearDown hcontrol)
      (relay_tearDown stage fault isGraceOver s)

/-! ## All steps -/

/-- To ask for its sockets is for a session without any to allocate a pair, whatever else is open
on the machine. -/
theorem openSockets_binding (h : s.Orderly) (hbinding : s.isBinding) (answers : Ingress.Answers)
    (isGraceOver : Bool) (inUse : List Nat) :
    s.openSockets = [] ∧
      ((s.advance answers isGraceOver).1.openSockets.map (·.port) ++ inUse).Perm
        (Ingress.allocate answers inUse).2 := by
  cases hcontrol : s.control with
  | binding callbacks =>
    have hplace := h.place
    rw [hcontrol] at hplace
    have hpair : s.control.pair? = none := by rw [hcontrol]; rfl
    refine ⟨by rw [openSockets_of_pair?_eq_none hpair, hplace.2]; rfl, ?_⟩
    simp only [advance, hcontrol, Ingress.fst_allocate answers [] inUse]
    cases hfault : answers.firstFault? with
    | some fault =>
      have hfails := Ingress.allocate_of_firstFault? hfault inUse
      rw [Ingress.allocate_of_error hfails]
      simp only
      rw [openSockets_of_pair?_eq_none rfl]
      simp only [goTo, note, hplace.2]
      exact .refl _
    | none =>
      obtain ⟨video, audio, -, -, hall⟩ :=
        Ingress.allocate_of_firstFault?_eq_none hfault inUse
      simp only [hall]
      rw [openSockets_of_pair? rfl]
      exact .swap _ _ _
  | _ =>
    rw [isBinding, hcontrol] at hbinding
    cases hbinding

/-- In no other step does a session open a socket. -/
theorem sublist_openSockets_step (h : s.Orderly) (action : Action)
    (hbinding : ∀ answers isGraceOver, action = .advance answers isGraceOver →
      s.isBinding = false) : (s.step action).1.openSockets.Sublist s.openSockets := by
  rcases s.step_cases action with ⟨callbacks, rfl, hidle⟩ | ⟨rfl, hidle⟩ |
    ⟨answers, isGraceOver, rfl⟩ | hleaves
  · have hpair : s.control.pair? = none := by rw [h.unowned_of_idle hidle]; rfl
    simp only [step, beginRun, hidle, if_true]
    exact sublist_openSockets_of_relay hpair rfl (.inl rfl)
  · have hpair : s.control.pair? = none := by rw [h.unowned_of_idle hidle]; rfl
    simp only [step, beginClose, hidle, if_true]
    exact sublist_openSockets_of_relay hpair rfl (.inl rfl)
  · exact sublist_openSockets_advance (hbinding answers isGraceOver rfl)
  · exact hleaves.sublist_openSockets

end Session

end RtpBridge

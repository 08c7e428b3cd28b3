-- SUMMARY: A call that no other disturbs does in its steps what it does in one go.
import Mathlib.Logic.Function.Iterate
import RtpBridge.Host.Traffic
import RtpBridge.Proofs.Negotiation.Exchange

/-!
# Calls alone

The calls of a host are modelled twice: as one operation each, and as steps between which others
may come. Where no other comes, the steps amount to the operation (`Traffic.run_alone`).
-/

namespace RtpBridge.Host

variable {host : Host} {place : Nat} {s : Session}

/-! ## Changes of a session -/

theorem modifySession_congr (hs : host.sessions[place]? = some s) {f g : Session → Session}
    (h : f s = g s) : host.modifySession place f = host.modifySession place g := by
  have hsessions : host.sessions.modify place f = host.sessions.modify place g := by
    apply List.ext_getElem?
    intro i
    rw [List.getElem?_modify, List.getElem?_modify]
    by_cases hi : place = i
    · rw [← hi, hs]
      simp only [if_true]
      exact congrArg some h
    · simp only [hi, if_false]
  simp only [modifySession, hsessions]

theorem modifySession_self (hs : host.sessions[place]? = some s) {f : Session → Session}
    (h : f s = s) : host.modifySession place f = host := by
  have hid : host.modifySession place f = host.modifySession place id := modifySession_congr hs h
  rw [hid]
  simp only [modifySession, List.modify_id]

theorem modifySession_modifySession (host : Host) (place : Nat) (f g : Session → Session) :
    (host.modifySession place f).modifySession place g = host.modifySession place (g ∘ f) := by
  simp only [modifySession, List.modify_modify_eq]

theorem getElem?_modifySession (hs : host.sessions[place]? = some s) (f : Session → Session) :
    (host.modifySession place f).sessions[place]? = some (f s) := by
  simp only [modifySession, List.getElem?_modify_eq, hs]
  rfl

/-- What is seen of a call that stands. -/
def Standing.seen : Standing → Answer
  | .returned answer => answer
  | .creating _ _ | .taking _ _ | .presenting _ _ | .exchanging _ _ => .signaled .pending

namespace Traffic

variable {transport : Session → Offer → Negotiation.Transport} {offer : Offer}

/-! ## The steps of one call -/

/-- A step of a call while no other call and no session takes one. -/
def stepAlone (transport : Session → Offer → Negotiation.Transport) (p : Host × Standing) :
    Host × Standing :=
  stepOn transport p.1 p.2

theorem run_replicate_proceed (transport : Session → Offer → Negotiation.Transport) (b : Busy)
    (earlier : List Standing) (standing : Standing) (count : Nat) :
    (run ⟨b, earlier ++ [standing]⟩
      (List.replicate count (.proceed earlier.length transport))).1 =
      ⟨{ b with host := ((stepAlone transport)^[count] (b.host, standing)).1 },
        earlier ++ [((stepAlone transport)^[count] (b.host, standing)).2]⟩ := by
  induction count generalizing b standing with
  | zero => rfl
  | succ count ih =>
    have hstep : (step ⟨b, earlier ++ [standing]⟩ (.proceed earlier.length transport)).1 =
        ⟨{ b with host := (stepAlone transport (b.host, standing)).1 },
          earlier ++ [(stepAlone transport (b.host, standing)).2]⟩ := by
      simp only [step, proceed, List.getElem?_concat_length]
      rw [List.set_append_right _ _ (Nat.le_refl _), Nat.sub_self]
      rfl
    rw [List.replicate_succ, fst_run_cons, hstep, ih, Function.iterate_succ_apply]

theorem iterate_returned (host : Host) (answer : Answer) (count : Nat) :
    (stepAlone transport)^[count] (host, .returned answer) = (host, .returned answer) :=
  Function.iterate_fixed rfl count

/-- That a transport does not depend on how far an exchange has come. -/
def IsSteady (transport : Session → Offer → Negotiation.Transport) : Prop :=
  ∀ (s : Session) exchange offer, transport { s with exchange } offer = transport s offer

theorem isSteady_transport (network : Network) : IsSteady (·.transport network) :=
  fun _ _ _ => rfl

/-- Where a call stands that has brought an exchange so far. -/
def standingAt (place : Nat) (offer : Offer) (e : Negotiation.Exchange) : Standing :=
  match e.result? with
  | some result => .returned (.signaled (signaled (some result)).1)
  | none => .exchanging place offer

theorem seen_standingAt (place : Nat) (offer : Offer) (e : Negotiation.Exchange) :
    (standingAt place offer e).seen = .signaled (signaled e.result?).1 := by
  unfold standingAt
  cases e.result? <;> rfl

theorem stepAlone_exchanging (hs : host.sessions[place]? = some s) :
    stepAlone transport (host, .exchanging place offer) =
      (host.modifySession place fun _ => { s with
          exchange := s.exchange.advance (transport s offer) s.config.gatheringTimeout },
        standingAt place offer
          (s.exchange.advance (transport s offer) s.config.gatheringTimeout)) := by
  simp only [stepAlone, stepOn, hs]
  exact Prod.ext (modifySession_congr hs rfl) rfl

/-- The steps of a call that goes through an exchange are those of the exchange. -/
theorem iterate_standingAt (hsteady : IsSteady transport)
    (hs : host.sessions[place]? = some s) {answers : Negotiation.Transport}
    (hanswers : transport s offer = answers) (count : Nat) :
    (stepAlone transport)^[count] (host, standingAt place offer s.exchange) =
      (host.modifySession place fun _ => { s with
          exchange := s.exchange.run answers s.config.gatheringTimeout
            (List.replicate count .advance) },
        standingAt place offer (s.exchange.run answers s.config.gatheringTimeout
          (List.replicate count .advance))) := by
  induction count generalizing host s with
  | zero => exact Prod.ext (modifySession_self hs rfl).symm rfl
  | succ count ih =>
    cases hresult : s.exchange.result? with
    | some result =>
      have hstanding : standingAt place offer s.exchange =
          .returned (.signaled (signaled (some result)).1) := by
        simp only [standingAt, hresult]
      rw [Negotiation.Exchange.run_of_result? hresult, hstanding, iterate_returned]
      exact Prod.ext (modifySession_self hs rfl).symm rfl
    | none =>
      have hstanding : standingAt place offer s.exchange = .exchanging place offer := by
        simp only [standingAt, hresult]
      have hnext := getElem?_modifySession hs fun _ => { s with
        exchange := s.exchange.advance answers s.config.gatheringTimeout }
      rw [hstanding, Function.iterate_succ_apply, stepAlone_exchanging hs, hanswers,
        ih hnext ((hsteady s _ offer).trans hanswers), modifySession_modifySession]
      rfl

/-- Nine steps take a signaling call that has found its session through the exchange. -/
theorem iterate_taking (hsteady : IsSteady transport) {session offer : UInt64}
    (hresolve : host.resolve session = .ok place) :
    ((stepAlone transport)^[9] (host, .taking place offer)).1 =
        (host.signal transport session offer).2.2 ∧
      ((stepAlone transport)^[9] (host, .taking place offer)).2.seen =
        .signaled (host.signal transport session offer).1 := by
  rw [Function.iterate_succ_apply]
  rcases htake : host.takeOffer offer with ⟨error | taken, after⟩
  · have hstep : stepAlone transport (host, .taking place offer) =
        (after, .returned (.signaled .null)) := by
      simp only [stepAlone, stepOn, htake]
    rw [hstep, iterate_returned]
    simp only [signal, hresolve, htake]
    exact ⟨trivial, rfl⟩
  · have hstep : stepAlone transport (host, .taking place offer) =
        (after, .presenting place taken) := by
      simp only [stepAlone, stepOn, htake]
    rw [hstep, Function.iterate_succ_apply]
    simp only [signal, hresolve, htake]
    cases hs : after.sessions[place]? with
    | none =>
      have hstep : stepAlone transport (after, .presenting place taken) =
          (after, .returned (.signaled .null)) := by
        simp only [stepAlone, stepOn, hs]
      rw [hstep, iterate_returned]
      exact ⟨rfl, rfl⟩
    | some s =>
      simp only [Session.signalOver]
      cases hbegin : s.exchange.begin? with
      | error rejection =>
        have hstep : stepAlone transport (after, .presenting place taken) =
            (after, .returned (.signaled .null)) := by
          simp only [stepAlone, stepOn, hs, hbegin]
        rw [hstep, iterate_returned]
        exact ⟨(modifySession_self hs rfl).symm, rfl⟩
      | ok begun =>
        have hstep : stepAlone transport (after, .presenting place taken) =
            (after.modifySession place fun _ => { s with exchange := begun },
              standingAt place taken begun) := by
          simp only [stepAlone, stepOn, hs, hbegin, standingAt,
            Negotiation.Exchange.result?_of_begin? hbegin]
          exact Prod.ext (modifySession_congr hs rfl) rfl
        have hnext := getElem?_modifySession hs fun _ => { s with exchange := begun }
        rw [hstep, iterate_standingAt hsteady hnext (hsteady s begun taken),
          modifySession_modifySession, seen_standingAt]
        exact ⟨rfl, rfl⟩

/-- The actions of a call that no other disturbs, where it is not one on the life of a session. -/
def script (transport : Session → Offer → Negotiation.Transport) (place : Nat) :
    Call → Option (List Action)
  | .configure document => some [.configure document]
  | .create id => some [.create id, .proceed place transport]
  | .buildOffer octets => some [.buildOffer octets]
  | .signal session offer => some (.signal session offer :: .replicate 9 (.proceed place transport))
  | .freeOffer offer => some [.freeOffer offer]
  | .start _ _ _ | .stop _ | .free _ => none

/-- Where no other call comes in between, the steps of a call amount to the call. -/
theorem run_alone (network : Network) (t : Traffic) {c : Call} {actions : List Action}
    (hscript : script (·.transport network) t.calls.length c = some actions) :
    ∃ standing, (t.run actions).1 =
        ⟨{ t.busy with host := (t.host.call (·.transport network) c).2 },
          t.calls ++ [standing]⟩ ∧
      standing.seen = (t.host.call (·.transport network) c).1.answer := by
  cases c with
  | configure document =>
    cases hscript
    exact ⟨_, rfl, rfl⟩
  | create id =>
    cases hscript
    rw [fst_run_cons]
    exact ⟨_, run_replicate_proceed (·.transport network) t.busy t.calls (.creating id t.host.config) 1, rfl⟩
  | buildOffer octets =>
    cases hscript
    exact ⟨_, rfl, rfl⟩
  | signal session offer =>
    cases hscript
    have hrun := run_replicate_proceed (·.transport network) t.busy t.calls
    rw [fst_run_cons]
    cases hresolve : t.host.resolve session with
    | error error =>
      have hentered : (t.step (.signal session offer)).1 =
          ⟨t.busy, t.calls ++ [.returned (.signaled .null)]⟩ := by
        simp only [step, enterSignal, hresolve]
        rfl
      refine ⟨.returned (.signaled .null), ?_, ?_⟩
      · rw [hentered, hrun, iterate_returned]
        simp only [call, signal, hresolve]
        rfl
      · simp only [call, signal, hresolve]
        rfl
    | ok place =>
      have hentered : (t.step (.signal session offer)).1 =
          ⟨t.busy, t.calls ++ [.taking place offer]⟩ := by
        simp only [step, enterSignal, hresolve]
        rfl
      obtain ⟨hhost, hseen⟩ := iterate_taking (isSteady_transport network) hresolve
      refine ⟨_, ?_, hseen⟩
      rw [hentered, hrun]
      exact congrArg (fun host => (⟨{ t.busy with host }, _⟩ : Traffic)) hhost
  | freeOffer offer =>
    cases hscript
    exact ⟨_, rfl, rfl⟩
  | start | stop | free => cases hscript

end Traffic

end RtpBridge.Host

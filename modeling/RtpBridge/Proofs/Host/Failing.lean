-- SUMMARY: A call of a host that fails leaves behind what it found, but for an offer that was presented.
import RtpBridge.Proofs.Host.Offers
import RtpBridge.Proofs.Negotiation.Exchange

/-!
# Calls that fail

Each call resolves its words before it changes anything, so a word that names nothing leaves the
host as it was, and so does a call that has nothing to enter. Only a signaling call whose words are
both good may change something and fail: then the offer is gone, and the session's exchange has
failed if it was this call that began it (`FailsCleanly`). That such a call finds the session of
its handle holds in every host that is reached (`Housed`).
-/

namespace RtpBridge.Host

variable {host after : Host} {raw : UInt64} {place : Nat} {handle : Handle}

/-! ## Sessions with a handle -/

/-- A word names the session whose handle it is. -/
theorem resolve_eq_ok : host.resolve raw = .ok place ↔
    ∃ handle : Handle, handle.raw = raw ∧ host.live.resolve? handle = some place := by
  have hresolve (handle : Handle) :
      host.resolve handle.raw = .ok place ↔ host.live.resolve? handle = some place := by
    simp only [resolve, handle.ofRaw?_raw, HandleTable.resolve]
    cases host.live.resolve? handle <;> simp
  constructor
  · intro h
    have hne : raw ≠ 0 := by
      rintro rfl
      cases h
    exact ⟨⟨raw, hne⟩, rfl, (hresolve ⟨raw, hne⟩).1 h⟩
  · rintro ⟨handle, rfl, h⟩
    exact (hresolve handle).2 h

/-- That every session that has a handle is there. -/
structure Housed (host : Host) : Prop where
  wellFormed : host.live.WellFormed
  placed : ∀ (i : Nat) (slot : Slot Nat) (place : Nat), host.live.slots[i]? = some slot →
    slot.value = some place → place < host.sessions.length

theorem housed_new : Housed Host.new where
  wellFormed := HandleTable.wellFormed_empty
  placed i slot place hslot := by simp [Host.new, HandleTable.empty] at hslot

theorem Housed.session (h : host.Housed) (hresolve : host.resolve raw = .ok place) :
    ∃ s, host.sessions[place]? = some s := by
  obtain ⟨handle, -, hlive⟩ := resolve_eq_ok.1 hresolve
  obtain ⟨slot, hslot, -, hvalue⟩ := HandleTable.resolve?_eq_some.1 hlive
  exact ⟨_, List.getElem?_eq_getElem (h.placed _ slot place hslot hvalue)⟩

/-- Sessions are never removed. -/
theorem Housed.of_live (h : host.Housed) (hlive : after.live = host.live)
    (hlength : host.sessions.length ≤ after.sessions.length) : after.Housed where
  wellFormed := hlive ▸ h.wellFormed
  placed i slot place hslot hvalue := by
    rw [hlive] at hslot
    exact Nat.lt_of_lt_of_le (h.placed i slot place hslot hvalue) hlength

theorem length_modifySession (host : Host) (place : Nat) (f : Session → Session) :
    (host.modifySession place f).sessions.length = host.sessions.length :=
  List.length_modify ..

theorem Housed.modifySession (h : host.Housed) (place : Nat) (f : Session → Session) :
    (host.modifySession place f).Housed :=
  h.of_live rfl (Nat.le_of_eq (host.length_modifySession place f).symm)

theorem Housed.release (h : host.Housed) (handle : Handle) :
    Housed { host with live := (host.live.release handle).2 } where
  wellFormed := h.wellFormed.release handle
  placed i slot place hslot hvalue := by
    cases hfound : host.live.resolve? handle with
    | none =>
      rw [HandleTable.release_of_resolve?_eq_none hfound] at hslot
      exact h.placed i slot place hslot hvalue
    | some found =>
      simp only [HandleTable.slots_release hfound] at hslot
      split at hslot
      · obtain ⟨old, -, rfl⟩ := Option.map_eq_some_iff.1 hslot
        cases hvalue
      · exact h.placed i slot place hslot hvalue

theorem Housed.createWith (h : host.Housed) (config : Config) (id : String) :
    (host.createWith config id).2.2.Housed := by
  unfold Host.createWith
  split
  · exact h
  · next s _ =>
    refine ⟨h.wellFormed.register host.sessions.length, ?_⟩
    intro i slot place hslot hvalue
    simp only [HandleTable.slots_register h.wellFormed] at hslot
    rw [List.length_append, List.length_singleton]
    split at hslot
    · cases hslot
      cases hvalue
      exact Nat.lt_succ_self _
    · exact Nat.lt_succ_of_lt (h.placed i slot place hslot hvalue)

theorem Housed.freeOffer (h : host.Housed) (raw : UInt64) : (host.freeOffer raw).Housed := by
  unfold Host.freeOffer
  split
  · exact h.of_live rfl (Nat.le_refl _)
  · exact h

theorem Housed.effect {b : Busy} {action : Busy.Action} (h : b.host.Housed)
    (heffect : b.Effect action after) : after.Housed := by
  cases heffect with
  | none => exact h
  | free handle => exact h.release handle
  | session place | proceed _ _ place => exact h.modifySession place _

theorem Housed.stepOn (h : host.Housed)
    (transport : Session → Offer → Negotiation.Transport) (standing : Standing) :
    (Traffic.stepOn transport host standing).1.Housed := by
  cases standing with
  | creating id config => exact h.createWith config id
  | taking place offer =>
    have hfreed := h.freeOffer offer
    rw [← snd_takeOffer] at hfreed
    simp only [Traffic.stepOn]
    split <;> next htake => rwa [htake] at hfreed
  | presenting place offer =>
    simp only [Traffic.stepOn]
    split
    · exact h
    · split
      · exact h.modifySession place _
      · exact h
  | exchanging place offer =>
    simp only [Traffic.stepOn]
    split
    · exact h
    · exact h.modifySession place _
  | returned answer => exact h

theorem Housed.step {t : Traffic} (h : t.host.Housed) (action : Traffic.Action) :
    (t.step action).1.host.Housed := by
  cases action with
  | busy action => exact h.effect (t.busy.effect_step action)
  | configure document =>
    have hafter : (t.host.configure document).2.2.Housed := by
      unfold configure
      split
      · exact h
      · split
        · exact h.of_live rfl (Nat.le_refl _)
        · exact h
    exact hafter
  | create id => exact h
  | buildOffer octets =>
    have hafter : (t.host.buildOffer octets).2.2.Housed := by
      rcases t.host.buildOffer_cases octets with ⟨-, hsame⟩ | ⟨offer, -, hafter⟩
      · rw [hsame]
        exact h
      · rw [hafter]
        exact h.of_live rfl (Nat.le_refl _)
    exact hafter
  | signal session offer =>
    simp only [Traffic.step, Traffic.enterSignal]
    split <;> exact h
  | freeOffer offer => exact h.freeOffer offer
  | proceed call transport =>
    simp only [Traffic.step, Traffic.proceed]
    split
    · exact h
    · exact h.stepOn transport _

theorem Housed.run {t : Traffic} (h : t.host.Housed) (schedule : List Traffic.Action) :
    (t.run schedule).1.host.Housed := by
  induction schedule generalizing t with
  | nil => exact h
  | cons action rest ih => exact ih (h.step action)

/-! ## Calls in vain -/

/-- The word for a session that a call needs. -/
def Call.session? : Call → Option UInt64
  | .signal session _ | .start session _ _ | .stop session | .free session => some session
  | .configure _ | .create _ | .buildOffer _ | .freeOffer _ => none

/-- The word for an offer that a call needs. -/
def Call.offer? : Call → Option UInt64
  | .signal _ offer | .freeOffer offer => some offer
  | .configure _ | .create _ | .buildOffer _ | .start _ _ _ | .stop _ | .free _ => none

/-- That a call needs a word which names nothing, be it zero, stale or made up. -/
def Call.IsVain (host : Host) (c : Call) : Prop :=
  (∃ raw error, c.session? = some raw ∧ host.resolve raw = .error error) ∨
    ∃ raw, c.offer? = some raw ∧ host.offerHandle? raw = none

/-- Whether an answer says that settings were not taken, or that there is no new handle. -/
def Answer.isRefusal : Answer → Bool
  | .accepted isAccepted => !isAccepted
  | .handle raw => raw == 0
  | .signaled _ | .started _ | .done => false

theorem resolve_eq_error {error : Error} (h : host.resolve raw = .error error)
    (hraw : Handle.ofRaw? raw = some handle) : host.live.resolve? handle = none := by
  simp only [resolve, hraw, HandleTable.resolve] at h
  cases hlive : host.live.resolve? handle with
  | none => rfl
  | some place =>
    rw [hlive] at h
    cases h

theorem free_of_error {error : Error} (h : host.resolve raw = .error error) :
    (host.free raw).2 = host := by
  unfold free
  cases hraw : Handle.ofRaw? raw with
  | none => rfl
  | some handle =>
    have hgone := resolve_eq_error h hraw
    simp only [Option.map_some, HandleTable.release_of_resolve?_eq_none hgone]

variable (transport : Session → Offer → Negotiation.Transport)

theorem call_of_isVain {c : Call} (h : c.IsVain host) : (host.call transport c).2 = host := by
  rcases h with ⟨raw, error, hsession, hdead⟩ | ⟨raw, hoffer, hgone⟩
  · cases c with
    | signal session offer =>
      cases hsession
      simp only [call, signal, hdead]
    | start session callbacks answers =>
      cases hsession
      simp only [call, start, hdead]
    | stop session =>
      cases hsession
      simp only [call, stop, hdead]
    | free session =>
      cases hsession
      exact free_of_error hdead
    | configure | create | buildOffer | freeOffer => cases hsession
  · cases c with
    | signal session offer =>
      cases hoffer
      obtain ⟨error, htake⟩ := takeOffer_of_eq_none hgone
      simp only [call, signal]
      cases host.resolve session with
      | error dead => rfl
      | ok place => simp only [htake]
    | freeOffer offer =>
      cases hoffer
      exact freeOffer_of_eq_none hgone
    | configure | create | buildOffer | start | stop | free => cases hoffer

/-- A call that has nothing to enter enters nothing. -/
theorem call_of_isRefusal {c : Call} (h : (host.call transport c).1.answer.isRefusal) :
    (host.call transport c).2 = host := by
  cases c with
  | configure document =>
    simp only [call, configure] at h ⊢
    split at h
    · rfl
    · split at h
      · cases h
      · rfl
  | create id =>
    simp only [call, create, createWith] at h ⊢
    split at h
    · rfl
    · exact absurd (eq_of_beq h) (Handle.raw_ne_zero _)
  | buildOffer octets =>
    rcases host.buildOffer_cases octets with ⟨-, hsame⟩ | ⟨offer, hraw, -⟩
    · exact hsame
    · simp only [call, hraw] at h
      exact absurd (eq_of_beq h) (Handle.raw_ne_zero _)
  | signal | start | stop | free | freeOffer => cases h

/-! ## Signaling in vain -/

/-- What is left of a session whose signaling has failed. -/
def FailedToSignal (s after : Session) : Prop :=
  (s.exchange.state = .created →
    ∃ exchange, exchange.state = .failed ∧ after = { s with exchange }) ∧
  (s.exchange.state ≠ .created → after = s)

theorem failedToSignal_signalOver (transport : Negotiation.Transport) (s : Session) {error : Error}
    (h : (s.signalOver transport).1 = some (.error error)) :
    FailedToSignal s (s.signalOver transport).2.2 := by
  unfold Session.signalOver at h ⊢
  split at h
  · next hbegin =>
    refine ⟨?_, fun _ => rfl⟩
    intro hcreated
    exact absurd hcreated (Negotiation.Exchange.begin?_eq_error hbegin)
  · next begun hbegin =>
    constructor
    · intro _
      exact ⟨_, Negotiation.Exchange.state_finish_of_error hbegin h, rfl⟩
    · intro hother
      exact absurd (Negotiation.Exchange.begin?_eq_ok hbegin).1 hother

theorem signaled_eq_null {result : Option (Except Error Negotiation.Answer)}
    (h : (signaled result).1 = .null) : ∃ error, result = some (.error error) := by
  rcases result with _ | error | answer
  · cases h
  · exact ⟨error, rfl⟩
  · cases h

/-- That a call which fails leaves the host as it was. A signaling call whose words are both good
has taken its offer for good, and may have left the session's exchange failed. -/
structure FailsCleanly (host : Host) : Prop where
  refused : ∀ c, (host.call transport c).1.answer.isRefusal → (host.call transport c).2 = host
  vain : ∀ c : Call, c.IsVain host → (host.call transport c).2 = host
  signal : ∀ session offer place handle, host.resolve session = .ok place →
    host.offerHandle? offer = some handle →
    (host.call transport (.signal session offer)).1.answer = .signaled .null →
    (∃ s left, host.sessions[place]? = some s ∧ FailedToSignal s left ∧
      (host.call transport (.signal session offer)).2 =
        { host with
          offers := (host.offers.release handle).2
          sessions := host.sessions.set place left }) ∧
    ∀ other, (host.call transport (.signal session offer)).2.offers.resolve? other =
      if other = handle then none else host.offers.resolve? other

theorem Housed.failsCleanly (h : host.Housed) : host.FailsCleanly transport where
  refused _ := call_of_isRefusal transport
  vain _ := call_of_isVain transport
  signal session offer place handle hresolve hoffer hnull := by
    obtain ⟨s, hs⟩ := h.session hresolve
    obtain ⟨taken, htaken, htake⟩ := takeOffer_of_eq_some hoffer
    have hafter : (host.call transport (.signal session offer)).2 =
        { host with
          offers := (host.offers.release handle).2
          sessions := host.sessions.set place (s.signalOver (transport s taken)).2.2 } := by
      simp only [call, Host.signal, hresolve, htake, freeOffer_of_eq_some hoffer, hs,
        Host.modifySession, List.set_eq_modify]
    have hanswer : (host.call transport (.signal session offer)).1.answer =
        .signaled (signaled (s.signalOver (transport s taken)).1).1 := by
      simp only [call, Host.signal, hresolve, htake, freeOffer_of_eq_some hoffer, hs]
    obtain ⟨error, herror⟩ := signaled_eq_null (Answer.signaled.inj (hanswer.symm.trans hnull))
    refine ⟨⟨s, _, hs, failedToSignal_signalOver _ s herror, hafter⟩, ?_⟩
    intro other
    rw [hafter]
    exact HandleTable.resolve?_release htaken other

/-- In every host that is reached, whatever its calls are and however they take turns, a call that
fails leaves behind what it found, but for an offer that was presented to a live session. -/
theorem failsCleanly_run (schedule : List Traffic.Action) :
    (Traffic.new.run schedule).1.host.FailsCleanly transport := by
  have hnew : Traffic.new.host.Housed := housed_new
  exact (hnew.run schedule).failsCleanly transport

end RtpBridge.Host

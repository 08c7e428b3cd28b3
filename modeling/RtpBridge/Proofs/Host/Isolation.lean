-- SUMMARY: What is done with one session changes no other one, nor what other words name.
import RtpBridge.Proofs.Host.Settings

/-!
# Sessions leave each other alone

A session is named by one word at most (`Apart`). What is done with a session changes at most the
session at its place, what its own word names and what the word of the offer names that it is given
(`LeavesOthers`): no other session, no other word and no settings. That holds of a call that goes
through at once, of each step of a call that stands beside others, and of all steps that a call
takes until it has returned, with those of its session (`Traffic.isolates_run`).
-/

namespace RtpBridge

namespace Host

variable {host after last : Host} {place : Option Nat} {session offer : Option UInt64}
  {raw other : UInt64}

/-! ## Words -/

/-- The offer that a word names. -/
def offer? (host : Host) (raw : UInt64) : Option Offer :=
  (Handle.ofRaw? raw).bind host.offers.resolve?

theorem resolve_release {handle : Handle} (h : handle.raw = raw) (hne : other ≠ raw) :
    { host with live := (host.live.release handle).2 }.resolve other = host.resolve other := by
  unfold resolve
  split
  · rfl
  · next found hfound =>
    have hdiffer : found ≠ handle := by
      rintro rfl
      exact hne ((Handle.ofRaw?_eq_some.1 hfound).symm.trans h)
    simp only [HandleTable.resolve, HandleTable.resolve?_release_of_ne hdiffer]

theorem offer?_freeOffer (hne : other ≠ raw) :
    (host.freeOffer raw).offer? other = host.offer? other := by
  unfold freeOffer
  split
  · next handle hraw =>
    rw [Handle.ofRaw?_eq_some] at hraw
    unfold offer?
    cases hfound : Handle.ofRaw? other with
    | none => rfl
    | some found =>
      have hdiffer : found ≠ handle := by
        rintro rfl
        exact hne ((Handle.ofRaw?_eq_some.1 hfound).symm.trans hraw)
      exact HandleTable.resolve?_release_of_ne hdiffer
  · rfl

/-! ## What is left alone -/

/-- That all is the same but for the session at a place, what one word names as a session, and what
one names as an offer. -/
structure LeavesOthers (place : Option Nat) (session offer : Option UInt64) (host after : Host) :
    Prop where
  config : after.config = host.config
  sessions : ∀ p, some p ≠ place → after.sessions[p]? = host.sessions[p]?
  resolve : ∀ raw, some raw ≠ session → after.resolve raw = host.resolve raw
  offers : ∀ raw, some raw ≠ offer → after.offer? raw = host.offer? raw

theorem LeavesOthers.refl (host : Host) : LeavesOthers place session offer host host :=
  ⟨rfl, fun _ _ => rfl, fun _ _ => rfl, fun _ _ => rfl⟩

theorem LeavesOthers.trans (h : LeavesOthers place session offer host after)
    (hlast : LeavesOthers place session offer after last) :
    LeavesOthers place session offer host last where
  config := hlast.config.trans h.config
  sessions p hp := (hlast.sessions p hp).trans (h.sessions p hp)
  resolve raw hraw := (hlast.resolve raw hraw).trans (h.resolve raw hraw)
  offers raw hraw := (hlast.offers raw hraw).trans (h.offers raw hraw)

/-- What changes less changes no more. -/
theorem LeavesOthers.widen {p : Option Nat} {raw taken : Option UInt64}
    (h : LeavesOthers p raw taken host after) (hplace : p = none ∨ p = place)
    (hsession : raw = none ∨ raw = session) (hoffer : taken = none ∨ taken = offer) :
    LeavesOthers place session offer host after where
  config := h.config
  sessions q hq := h.sessions q <| by
    rcases hplace with rfl | rfl
    · exact Option.some_ne_none q
    · exact hq
  resolve other hother := h.resolve other <| by
    rcases hsession with rfl | rfl
    · exact Option.some_ne_none other
    · exact hother
  offers other hother := h.offers other <| by
    rcases hoffer with rfl | rfl
    · exact Option.some_ne_none other
    · exact hother

theorem leavesOthers_modifySession {p : Nat} (hp : some p = place) (host : Host)
    (f : Session → Session) :
    LeavesOthers place session offer host (host.modifySession p f) where
  config := rfl
  sessions q hq := by
    have hdiffer : p ≠ q := by
      rintro rfl
      exact hq hp
    rw [Busy.sessions_modifySession, if_neg hdiffer]
  resolve _ _ := rfl
  offers _ _ := rfl

theorem leavesOthers_release {handle : Handle} (h : handle.raw = raw)
    (hraw : some raw = session) (host : Host) :
    LeavesOthers place session offer host { host with live := (host.live.release handle).2 } where
  config := rfl
  sessions _ _ := rfl
  resolve _ hother := resolve_release h fun hsame => hother (hsame ▸ hraw)
  offers _ _ := rfl

theorem leavesOthers_freeOffer (hraw : some raw = offer) (host : Host) :
    LeavesOthers place session offer host (host.freeOffer raw) := by
  obtain ⟨offers, hfree⟩ := host.exists_freeOffer_eq raw
  refine ⟨by rw [hfree], fun _ _ => by rw [hfree], fun _ _ => by rw [hfree]; rfl, ?_⟩
  intro other hother
  exact offer?_freeOffer fun hsame => hother (hsame ▸ hraw)

/-! ## Calls that go through at once -/

/-- The place of the session that a word names. -/
def place? (host : Host) (raw : UInt64) : Option Nat := (host.resolve raw).toOption

theorem place?_eq_some {p : Nat} : host.place? raw = some p ↔ host.resolve raw = .ok p := by
  unfold place?
  cases host.resolve raw <;> simp [Except.toOption]

theorem leavesOthers_retire {p : Nat} (hp : some p = place) (host : Host) :
    LeavesOthers place session offer host (host.retire p).2 := by
  unfold retire
  split
  · exact .refl host
  · split
    · exact leavesOthers_modifySession hp host _
    · exact leavesOthers_modifySession hp host _
    · exact .refl host

/-- A free takes the handle of the session that it retires. -/
theorem leavesOthers_free (host : Host) (raw : UInt64) :
    LeavesOthers (host.place? raw) (some raw) offer host (host.free raw).2 := by
  unfold free
  split
  · next p live hfree =>
    obtain ⟨handle, hraw, hresolve, rfl⟩ := map_release_eq_some hfree
    have hp : host.place? raw = some p :=
      place?_eq_some.2 (resolve_eq_ok.2 ⟨handle, hraw, hresolve⟩)
    exact (leavesOthers_release hraw rfl host).trans (leavesOthers_retire hp.symm _)
  · exact .refl host

theorem leavesOthers_signal (transport : Session → Offer → Negotiation.Transport)
    (raw taken : UInt64) (host : Host) :
    LeavesOthers (host.place? raw) session (some taken) host
      (host.signal transport raw taken).2.2 := by
  have hfree : LeavesOthers (host.place? raw) session (some taken) host (host.freeOffer taken) :=
    leavesOthers_freeOffer rfl host
  rw [← snd_takeOffer] at hfree
  unfold signal
  split
  · exact .refl host
  · next p hresolve =>
    split
    · next htake => rwa [htake] at hfree
    · next found left htake =>
      rw [htake] at hfree
      split
      · exact hfree
      · exact hfree.trans (leavesOthers_modifySession (place?_eq_some.2 hresolve).symm left _)

/-- A call on a session leaves alone what is not its own. -/
theorem leavesOthers_call (transport : Session → Offer → Negotiation.Transport) {c : Call}
    (h : c.session? = some raw) (host : Host) :
    LeavesOthers (host.place? raw) (some raw) c.offer? host (host.call transport c).2 := by
  cases c with
  | signal _ taken =>
    cases h
    exact leavesOthers_signal transport raw taken host
  | start _ callbacks answers =>
    cases h
    simp only [call, start]
    split
    · exact .refl host
    · next p hresolve =>
      split
      · exact .refl host
      · exact leavesOthers_modifySession (place?_eq_some.2 hresolve).symm host _
  | stop _ =>
    cases h
    simp only [call, stop]
    split
    · exact .refl host
    · next p hresolve =>
      exact leavesOthers_modifySession (place?_eq_some.2 hresolve).symm host _
  | free _ =>
    cases h
    exact leavesOthers_free host raw
  | configure | create | buildOffer | freeOffer => cases h

/-! ## Words for sessions -/

/-- That no two slots hold the same session. -/
def Apart (host : Host) : Prop :=
  ∀ (i j : Nat) (slot other : Slot Nat) (place : Nat), host.live.slots[i]? = some slot →
    host.live.slots[j]? = some other → slot.value = some place → other.value = some place → i = j

theorem Apart.eq_of_resolve (h : host.Apart) {p : Nat} (hraw : host.resolve raw = .ok p)
    (hother : host.resolve other = .ok p) : raw = other := by
  obtain ⟨handle, rfl, hlive⟩ := resolve_eq_ok.1 hraw
  obtain ⟨found, rfl, hfound⟩ := resolve_eq_ok.1 hother
  obtain ⟨slot, hslot, hgeneration, hvalue⟩ := HandleTable.resolve?_eq_some.1 hlive
  obtain ⟨slot', hslot', hgeneration', hvalue'⟩ := HandleTable.resolve?_eq_some.1 hfound
  have hindex := h _ _ slot slot' p hslot hslot' hvalue hvalue'
  rw [hindex, hslot'] at hslot
  cases hslot
  rw [Handle.eq_of_index_of_generation hindex (hgeneration.symm.trans hgeneration')]

/-- What is left alone is left alone under every other word. -/
theorem LeavesOthers.session? (h : LeavesOthers (host.place? raw) (some raw) offer host after)
    (hapart : host.Apart) (hne : other ≠ raw) : after.session? other = host.session? other := by
  have hresolve : after.resolve other = host.resolve other :=
    h.resolve other fun hsame => hne (Option.some.inj hsame)
  unfold Host.session?
  rw [hresolve]
  cases hother : host.resolve other with
  | error error => rfl
  | ok p =>
    have hp : some p ≠ host.place? raw := fun hsame =>
      hne (hapart.eq_of_resolve hother (place?_eq_some.1 hsame.symm))
    simp only [h.sessions p hp]

theorem apart_new : Apart Host.new := by
  intro i j slot other place hslot
  simp [Host.new, HandleTable.empty] at hslot

theorem Apart.of_liveWithin (h : host.Apart) (hlive : after.LiveWithin host) : after.Apart := by
  intro i j slot other place hslot hother hvalue hvalue'
  exact h i j slot other place (hlive i slot place hslot hvalue)
    (hlive j other place hother hvalue') hvalue hvalue'

/-- A new session is at a place of its own. -/
theorem Apart.createWith (h : host.Apart) (hhoused : host.Housed) (config : Config) (id : String) :
    (host.createWith config id).2.2.Apart := by
  rcases createWith_cases config id host with ⟨_, -, -, hsame⟩ | ⟨-, hlive, -⟩
  · rwa [hsame]
  · intro i j slot other place hslot hother hvalue hvalue'
    rw [hlive, HandleTable.slots_register hhoused.wellFormed] at hslot hother
    have hfresh {k : Nat} {old : Slot Nat} (hold : host.live.slots[k]? = some old) :
        old.value ≠ some host.sessions.length := fun hlast =>
      Nat.lt_irrefl _ (hhoused.placed k old _ hold hlast)
    split at hslot
    · next hi =>
      cases hslot
      cases hvalue
      split at hother
      · next hj => rw [hi, hj]
      · exact absurd hvalue' (hfresh hother)
    · split at hother
      · cases hother
        cases hvalue'
        exact absurd hvalue (hfresh hslot)
      · exact h i j slot other place hslot hother hvalue hvalue'

/-! ## Steps on one session -/

/-- That an action is part of what is done with one session: a call to start, stop or free it is
made that names it by this word, such a call takes a step that is about the session at this place,
or that session does. -/
def Busy.IsOn (b : Busy) (place : Option Nat) (session : Option UInt64) : Busy.Action → Prop
  | .start raw _ | .stop raw | .free raw => some raw = session
  | .proceed call => ∀ position ∈ b.calls[call]?,
      position.place? = none ∨ position.place? = place
  | .session p _ => some p = place

theorem leavesOthers_of_effect {b : Busy} {action : Busy.Action}
    (heffect : b.Effect action after) (h : b.IsOn place session action) :
    LeavesOthers place session offer b.host after := by
  cases heffect with
  | none => exact .refl b.host
  | free handle => exact leavesOthers_release rfl h b.host
  | session p => exact leavesOthers_modifySession h b.host _
  | proceed call position p s hcall hplace =>
    refine leavesOthers_modifySession ?_ b.host _
    rcases h position hcall with hnone | hp
    · rw [hplace] at hnone
      cases hnone
    · rw [← hplace, hp]

/-- That a call is about the session at a place, and about no other offer than that of a word. -/
def Standing.IsOn (place : Option Nat) (offer : Option UInt64) : Standing → Prop
  | .creating _ _ => False
  | .taking p raw => some p = place ∧ some raw = offer
  | .presenting p _ | .exchanging p _ => some p = place
  | .returned _ => True

namespace Traffic

variable {t : Traffic} {schedule own : List Action} {action : Action}

theorem apart_step (h : t.host.Apart) (hhoused : t.host.Housed) (action : Action) :
    (t.step action).1.host.Apart := by
  rcases t.step_creates_or_keeps action with ⟨id, rfl⟩ |
    ⟨call, transport, id, config, rfl, hcall⟩ | hkeeps
  · exact h
  · rw [host_step_of_creating hcall]
    exact h.createWith hhoused config id
  · exact h.of_liveWithin hkeeps.live

theorem apart_run (h : t.host.Apart) (hhoused : t.host.Housed) (schedule : List Action) :
    (t.run schedule).1.host.Apart := by
  induction schedule generalizing t with
  | nil => exact h
  | cons action rest ih => exact ih (apart_step h hhoused action) (hhoused.step action)

theorem leavesOthers_stepOn (transport : Session → Offer → Negotiation.Transport) {host : Host}
    {standing : Standing} (h : standing.IsOn place offer) :
    LeavesOthers place session offer host (stepOn transport host standing).1 := by
  cases standing with
  | creating id config => exact h.elim
  | taking p raw =>
    have hfree : LeavesOthers place session offer host (host.freeOffer raw) :=
      leavesOthers_freeOffer h.2 host
    rw [← snd_takeOffer] at hfree
    simp only [stepOn]
    split <;> next htake => rwa [htake] at hfree
  | presenting p taken =>
    simp only [stepOn]
    split
    · exact .refl host
    · split
      · exact leavesOthers_modifySession h host _
      · exact .refl host
  | exchanging p taken =>
    simp only [stepOn]
    split
    · exact .refl host
    · exact leavesOthers_modifySession h host _
  | returned answer => exact .refl host

/-- That an action is part of what is done with one session, signaling included: no offer is named
but by this word. -/
def IsOn (t : Traffic) (place : Option Nat) (session offer : Option UInt64) : Action → Prop
  | .busy action => t.busy.IsOn place session action
  | .signal raw taken => some raw = session ∧ some taken = offer
  | .proceed call _ => ∀ standing ∈ t.calls[call]?, standing.IsOn place offer
  | .configure _ | .create _ | .buildOffer _ | .freeOffer _ => False

theorem leavesOthers_step (h : t.IsOn place session offer action) :
    LeavesOthers place session offer t.host (t.step action).1.host := by
  cases action with
  | busy action => exact leavesOthers_of_effect (t.busy.effect_step action) h
  | signal raw taken =>
    simp only [step, enterSignal]
    split <;> exact .refl t.host
  | proceed call transport =>
    simp only [step, proceed]
    cases hcall : t.calls[call]? with
    | none => exact .refl t.host
    | some standing => exact leavesOthers_stepOn transport (h standing hcall)
  | configure | create | buildOffer | freeOffer => exact h.elim

/-! ## Calls that go on among others -/

theorem place?_stepOn (s : Session) (position : Position) :
    (Busy.stepOn s position).2.place? = none ∨
      (Busy.stepOn s position).2.place? = position.place? := by
  unfold Busy.stepOn
  split
  · split
    · exact .inr rfl
    · exact .inl rfl
  · split
    · exact .inl rfl
    · exact .inr rfl
  · exact .inl rfl
  · exact .inr rfl
  · split <;> exact .inr rfl
  · exact .inr rfl
  · exact .inr rfl
  · split <;> exact .inr rfl
  · exact .inr rfl
  · exact .inr rfl

/-- That a call is about the session at a place, if it is about any. -/
def CallsAt (b : Busy) (call : Nat) (place : Option Nat) : Prop :=
  ∃ position, b.calls[call]? = some position ∧
    (position.place? = none ∨ position.place? = place)

theorem callsAt_enter {b : Busy} {call : Nat} (h : CallsAt b call place) (position : Position) :
    CallsAt (b.enter position) call place := by
  obtain ⟨found, hcall, hplace⟩ := h
  refine ⟨found, ?_, hplace⟩
  rw [Busy.enter, List.getElem?_append_left (List.getElem?_eq_some_iff.1 hcall).1, hcall]

/-- A call stays with its session, whatever goes on. -/
theorem callsAt_busyStep {b : Busy} {call : Nat} (h : CallsAt b call place)
    (action : Busy.Action) : CallsAt (b.step action) call place := by
  cases action with
  | start raw callbacks =>
    simp only [Busy.step, Busy.enterStart]
    split <;> exact callsAt_enter h _
  | stop raw =>
    simp only [Busy.step, Busy.enterStop]
    split <;> exact callsAt_enter h _
  | free raw =>
    simp only [Busy.step, Busy.enterFree]
    split <;> exact callsAt_enter h _
  | session p action => exact h
  | proceed going =>
    simp only [Busy.step]
    rcases b.proceed_cases going with hsame | ⟨before, p, s, hgoing, hp, hs⟩
    · rwa [hsame]
    · rw [Busy.proceed_eq hgoing hp hs]
      obtain ⟨position, hcall, hplace⟩ := h
      by_cases hsame : going = call
      · subst hsame
        rw [hgoing] at hcall
        cases hcall
        refine ⟨_, List.getElem?_set_self (List.getElem?_eq_some_iff.1 hgoing).1, ?_⟩
        rcases place?_stepOn s before with hnone | hkept
        · exact .inl hnone
        · rwa [hkept]
      · exact ⟨position, by rw [List.getElem?_set_ne hsame, hcall], hplace⟩

theorem callsAt_step {call : Nat} (h : CallsAt t.busy call place) (action : Action) :
    CallsAt (t.step action).1.busy call place := by
  cases action with
  | busy action => exact callsAt_busyStep h action
  | signal session offer =>
    simp only [step, enterSignal]
    split <;> exact h
  | proceed call transport =>
    simp only [step, proceed]
    split <;> exact h
  | configure | create | buildOffer | freeOffer => exact h

/-- That a call is under way, and about one session and one offer only. -/
def StandsOn (t : Traffic) (call : Nat) (place : Option Nat) (offer : Option UInt64) : Prop :=
  ∃ standing, t.calls[call]? = some standing ∧ standing.IsOn place offer

theorem isOn_stepOn {standing : Standing} (h : standing.IsOn place offer)
    (transport : Session → Offer → Negotiation.Transport) (host : Host) :
    (stepOn transport host standing).2.IsOn place offer := by
  cases standing with
  | creating id config => exact h.elim
  | taking p raw =>
    simp only [stepOn]
    split
    · exact h.1
    · trivial
  | presenting p taken =>
    simp only [stepOn]
    split
    · trivial
    · split
      · exact h
      · trivial
  | exchanging p taken =>
    simp only [stepOn]
    split
    · trivial
    · dsimp only
      split
      · trivial
      · exact h
  | returned answer => trivial

theorem standsOn_step {call : Nat} (h : t.StandsOn call place offer) (action : Action) :
    (t.step action).1.StandsOn call place offer := by
  obtain ⟨standing, hcall, hon⟩ := h
  cases action with
  | busy action => exact ⟨standing, hcall, hon⟩
  | signal session offer =>
    simp only [step, enterSignal]
    split <;> exact ⟨standing, getElem?_enter hcall, hon⟩
  | proceed going transport =>
    simp only [step, proceed]
    cases hgoing : t.calls[going]? with
    | none => exact ⟨standing, hcall, hon⟩
    | some before =>
      by_cases hsame : going = call
      · subst hsame
        rw [hgoing] at hcall
        cases hcall
        exact ⟨_, List.getElem?_set_self (List.getElem?_eq_some_iff.1 hgoing).1,
          isOn_stepOn hon transport t.host⟩
      · exact ⟨standing, by rw [List.getElem?_set_ne hsame, hcall], hon⟩
  | configure | create | buildOffer | freeOffer => exact ⟨standing, getElem?_enter hcall, hon⟩

theorem callsAt_run {call : Nat} (h : CallsAt t.busy call place) (later : List Action) :
    CallsAt (t.run later).1.busy call place := by
  induction later generalizing t with
  | nil => exact h
  | cons action rest ih => exact ih (callsAt_step h action)

theorem standsOn_run {call : Nat} (h : t.StandsOn call place offer) (later : List Action) :
    (t.run later).1.StandsOn call place offer := by
  induction later generalizing t with
  | nil => exact h
  | cons action rest ih => exact ih (standsOn_step h action)

/-! ## All that a call does -/

/-- That an action makes a call on the session that a word names, with the offer of another word if
it is to signal one. -/
inductive CallOn (raw : UInt64) : Option UInt64 → Action → Prop
  | start (callbacks : Callbacks) : CallOn raw none (.busy (.start raw callbacks))
  | stop : CallOn raw none (.busy (.stop raw))
  | free : CallOn raw none (.busy (.free raw))
  | signal (offer : UInt64) : CallOn raw (some offer) (.signal raw offer)

/-- That an action is a step of the call that another action makes at a traffic, or of the session
that a word names there. -/
inductive StepOf (t : Traffic) (raw : UInt64) : Action → Action → Prop
  | busy (call : Busy.Action) : StepOf t raw (.busy call) (.busy (.proceed t.busy.calls.length))
  | signal (session offer : UInt64) (transport : Session → Offer → Negotiation.Transport) :
      StepOf t raw (.signal session offer) (.proceed t.calls.length transport)
  | session (call : Action) (place : Nat) (action : Session.Action)
      (h : t.host.resolve raw = .ok place) : StepOf t raw call (.busy (.session place action))

/-- A call that is made is about the session that its word names. -/
theorem callsAt_of_callOn {call : Busy.Action} (h : CallOn raw offer (.busy call)) :
    CallsAt (t.step (.busy call)).1.busy t.busy.calls.length (t.host.place? raw) := by
  have hentered (b : Busy) (hb : b.calls = t.busy.calls) (position : Position) :
      (b.enter position).calls[t.busy.calls.length]? = some position := by
    rw [← hb]
    exact List.getElem?_concat_length
  cases h with
  | start callbacks =>
    simp only [step, Busy.step, Busy.enterStart]
    split
    · next p hresolve =>
      exact ⟨_, hentered _ rfl _, .inr (place?_eq_some.2 hresolve).symm⟩
    · exact ⟨_, hentered _ rfl _, .inl rfl⟩
  | stop =>
    simp only [step, Busy.step, Busy.enterStop]
    split
    · next p hresolve =>
      exact ⟨_, hentered _ rfl _, .inr (place?_eq_some.2 hresolve).symm⟩
    · exact ⟨_, hentered _ rfl _, .inl rfl⟩
  | free =>
    simp only [step, Busy.step, Busy.enterFree]
    split
    · next p live hfree =>
      obtain ⟨handle, hraw, hresolve, -⟩ := map_release_eq_some hfree
      have hp : t.host.place? raw = some p :=
        place?_eq_some.2 (resolve_eq_ok.2 ⟨handle, hraw, hresolve⟩)
      exact ⟨_, hentered _ rfl _, .inr hp.symm⟩
    · exact ⟨_, hentered _ rfl _, .inl rfl⟩

theorem standsOn_enterSignal (raw taken : UInt64) (t : Traffic) :
    (t.enterSignal raw taken).StandsOn t.calls.length (t.host.place? raw) (some taken) := by
  unfold enterSignal
  split
  · next p hresolve =>
    exact ⟨_, List.getElem?_concat_length, (place?_eq_some.2 hresolve).symm, rfl⟩
  · exact ⟨_, List.getElem?_concat_length, trivial⟩

/-- Whatever goes on after a call was made, its steps are on its session. -/
theorem isOn_of_stepOf {entry : Action} (hentry : CallOn raw offer entry)
    (haction : StepOf t raw entry action) (later : List Action) :
    ((t.step entry).1.run later).1.IsOn (t.host.place? raw) none offer action := by
  cases haction with
  | busy call =>
    obtain ⟨position, hcall, hplace⟩ := callsAt_run (callsAt_of_callOn hentry) later
    intro found hfound
    rw [Option.mem_def, hcall] at hfound
    cases hfound
    exact hplace
  | signal session taken transport =>
    cases hentry
    obtain ⟨standing, hcall, hon⟩ := standsOn_run (t.standsOn_enterSignal raw taken) later
    intro found hfound
    rw [Option.mem_def] at hfound
    simp only [step] at hfound
    rw [hcall] at hfound
    cases hfound
    exact hon
  | session call p action hresolve => exact (place?_eq_some.2 hresolve).symm

theorem leavesOthers_of_callOn {entry : Action} (h : CallOn raw offer entry) (t : Traffic) :
    LeavesOthers none (some raw) none t.host (t.step entry).1.host := by
  cases h with
  | start | stop | free => exact leavesOthers_of_effect (t.busy.effect_step _) rfl
  | signal taken =>
    simp only [step, enterSignal]
    split <;> exact .refl t.host

theorem leavesOthers_of_stepOf {entry : Action} (hentry : CallOn raw offer entry)
    (haction : StepOf t raw entry action) (later : List Action) :
    LeavesOthers (t.host.place? raw) none offer ((t.step entry).1.run later).1.host
      (((t.step entry).1.run later).1.step action).1.host :=
  leavesOthers_step (isOn_of_stepOf hentry haction later)

/-- A call with all of its steps and those of its session changes what one of them may change. -/
theorem leavesOthers_run {entry : Action} (hentry : CallOn raw offer entry) {steps : List Action}
    (hsteps : ∀ action ∈ steps, StepOf t raw entry action) :
    LeavesOthers (t.host.place? raw) (some raw) offer t.host (t.run (entry :: steps)).1.host := by
  have hbegins : LeavesOthers (t.host.place? raw) (some raw) offer t.host (t.step entry).1.host :=
    (leavesOthers_of_callOn hentry t).widen (.inl rfl) (.inr rfl) (.inl rfl)
  refine hbegins.trans ?_
  -- The steps that have been taken are all the same to those that come.
  suffices hrest : ∀ later, LeavesOthers (t.host.place? raw) (some raw) offer
      ((t.step entry).1.run later).1.host (((t.step entry).1.run later).1.run steps).1.host from
    hrest []
  induction steps with
  | nil => exact fun later => .refl _
  | cons action rest ih =>
    intro later
    have hstep := leavesOthers_of_stepOf hentry (hsteps action List.mem_cons_self) later
    have hrest := ih (fun other hother => hsteps other (List.mem_cons_of_mem action hother))
      (later ++ [action])
    rw [fst_run_concat] at hrest
    exact (hstep.widen (.inr rfl) (.inl rfl) (.inr rfl)).trans hrest

/-- That what is done with one session has no effect on the others. -/
structure Isolates (t : Traffic) : Prop where
  /-- No session is named by two words. -/
  named : ∀ raw other place, t.host.resolve raw = .ok place → t.host.resolve other = .ok place →
    raw = other
  /-- A call that goes through at once leaves alone all other sessions, under their words and
  without one, all other words and the settings. -/
  calls : ∀ transport (c : Call) raw, c.session? = some raw →
    LeavesOthers (t.host.place? raw) (some raw) c.offer? t.host (t.host.call transport c).2 ∧
      ∀ other, other ≠ raw → (t.host.call transport c).2.session? other = t.host.session? other
  /-- A call that is made changes nothing yet but what its word names. -/
  begins : ∀ raw offer entry, CallOn raw offer entry →
    LeavesOthers none (some raw) none t.host (t.step entry).1.host
  /-- Each of its steps changes the session that its word named when it was made and nothing else,
  but for the offer that it takes, whatever goes on between these steps. -/
  goesOn : ∀ raw offer entry later action, CallOn raw offer entry → StepOf t raw entry action →
    LeavesOthers (t.host.place? raw) none offer ((t.step entry).1.run later).1.host
      (((t.step entry).1.run later).1.step action).1.host
  /-- Therefore it leaves the others alone with all that it and its session do until it has
  returned. -/
  whole : ∀ raw offer entry steps, CallOn raw offer entry →
    (∀ action ∈ steps, StepOf t raw entry action) →
    LeavesOthers (t.host.place? raw) (some raw) offer t.host (t.run (entry :: steps)).1.host ∧
      ∀ other, other ≠ raw →
        (t.run (entry :: steps)).1.host.session? other = t.host.session? other

/-- However the calls of a host take turns, its sessions are isolated from each other. -/
theorem isolates_run (schedule : List Action) : (new.run schedule).1.Isolates := by
  have hnew : new.host.Apart := apart_new
  have hapart := apart_run hnew housed_new schedule
  refine ⟨fun _ _ _ => hapart.eq_of_resolve, ?_, fun _ _ _ h => leavesOthers_of_callOn h _,
    fun _ _ _ later _ hentry haction => leavesOthers_of_stepOf hentry haction later, ?_⟩
  · intro transport c raw hsession
    have hcall := leavesOthers_call transport hsession (new.run schedule).1.host
    exact ⟨hcall, fun other hne => hcall.session? hapart hne⟩
  · intro raw offer entry steps hentry hsteps
    have hrun := leavesOthers_run hentry hsteps
    exact ⟨hrun, fun other hne => hrun.session? hapart hne⟩

end Traffic

end Host

end RtpBridge

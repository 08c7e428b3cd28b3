-- SUMMARY: Every offer of a host is obtained by one call at most, and none is lost.
import RtpBridge.Host.Traffic
import RtpBridge.Proofs.HandleTable.Refinement
import RtpBridge.Proofs.Host.Freeing

/-!
# The account of the offers

Whatever the calls of a host are and however they take turns, a step builds an offer, obtains one
that is there, or leaves all offers alone (`Trades`). The ledger of the offers therefore holds the
handles that were built and not obtained (`Accounted`), and what follows for later calls is read
off there (`KeepsAccount`).
-/

namespace RtpBridge.Host

variable {host : Host} {raw : UInt64} {handle : Handle}

/-! ## Words for offers -/

theorem offerHandle?_eq_some : host.offerHandle? raw = some handle ↔
    Handle.ofRaw? raw = some handle ∧ (host.offers.resolve? handle).isSome :=
  Option.filter_eq_some_iff

theorem offerHandle?_raw (h : (host.offers.resolve? handle).isSome) :
    host.offerHandle? handle.raw = some handle :=
  offerHandle?_eq_some.2 ⟨handle.ofRaw?_raw, h⟩

theorem resolve?_eq_none_of_offerHandle? (h : host.offerHandle? raw = none)
    (hraw : Handle.ofRaw? raw = some handle) : host.offers.resolve? handle = none := by
  simpa [offerHandle?, hraw] using h

theorem offerHandle?_raw_eq_none (h : host.offers.resolve? handle = none) :
    host.offerHandle? handle.raw = none := by
  simp [offerHandle?, handle.ofRaw?_raw, h]

theorem freeOffer_of_eq_some (h : host.offerHandle? raw = some handle) :
    host.freeOffer raw = { host with offers := (host.offers.release handle).2 } := by
  simp only [freeOffer, (offerHandle?_eq_some.1 h).1]

/-- A word without an offer behind it changes nothing. -/
theorem freeOffer_of_eq_none (h : host.offerHandle? raw = none) : host.freeOffer raw = host := by
  unfold freeOffer
  cases hraw : Handle.ofRaw? raw with
  | none => rfl
  | some handle =>
    have hgone := resolve?_eq_none_of_offerHandle? h hraw
    simp only [HandleTable.release_of_resolve?_eq_none hgone]

/-- To take an offer is to free it and to have it. -/
theorem takeOffer_of_eq_some (h : host.offerHandle? raw = some handle) :
    ∃ offer, host.offers.resolve? handle = some offer ∧
      host.takeOffer raw = (.ok offer, host.freeOffer raw) := by
  obtain ⟨hraw, hlive⟩ := offerHandle?_eq_some.1 h
  obtain ⟨offer, hoffer⟩ := Option.isSome_iff_exists.1 hlive
  refine ⟨offer, hoffer, ?_⟩
  simp only [takeOffer, freeOffer, hraw, HandleTable.take,
    HandleTable.release_of_resolve?_eq_some hoffer]

theorem takeOffer_of_eq_none (h : host.offerHandle? raw = none) :
    ∃ error, host.takeOffer raw = (.error error, host) := by
  unfold takeOffer
  cases hraw : Handle.ofRaw? raw with
  | none => exact ⟨_, rfl⟩
  | some handle =>
    have hgone := resolve?_eq_none_of_offerHandle? h hraw
    simp only [HandleTable.take, HandleTable.release_of_resolve?_eq_none hgone]
    exact ⟨_, rfl⟩

theorem snd_takeOffer (host : Host) (raw : UInt64) :
    (host.takeOffer raw).2 = host.freeOffer raw := by
  cases h : host.offerHandle? raw with
  | none =>
    obtain ⟨error, htake⟩ := takeOffer_of_eq_none h
    rw [htake, freeOffer_of_eq_none h]
  | some handle =>
    obtain ⟨offer, -, htake⟩ := takeOffer_of_eq_some h
    rw [htake]

/-- Building an offer fails and changes nothing, or it enters the offer. -/
theorem buildOffer_cases (octets : Option (List UInt8)) (host : Host) :
    ((host.buildOffer octets).1 = 0 ∧ (host.buildOffer octets).2.2 = host) ∨
    ∃ offer, (host.buildOffer octets).1 = (host.offers.register offer).1.raw ∧
      (host.buildOffer octets).2.2 = { host with offers := (host.offers.register offer).2 } := by
  unfold buildOffer
  split
  · exact .inl ⟨rfl, rfl⟩
  · split
    · exact .inl ⟨rfl, rfl⟩
    · next offer _ => exact .inr ⟨offer, rfl, rfl⟩

namespace Traffic

variable {t : Traffic} {offers after : HandleTable Offer} {seen events : List Event}
  {L : Ledger Offer}

/-! ## What a step does to the offers -/

/-- A step builds an offer, obtains one that is there, or leaves all of them alone. -/
inductive Trades : HandleTable Offer → HandleTable Offer → List Event → Prop
  | keep (offers : HandleTable Offer) : Trades offers offers []
  | build (offers : HandleTable Offer) (offer : Offer) :
      Trades offers (offers.register offer).2 [.built (offers.register offer).1]
  | obtain {offers : HandleTable Offer} {handle : Handle}
      (hlive : (offers.resolve? handle).isSome) :
      Trades offers (offers.release handle).2 [.obtained handle]

theorem trades_freeOffer (host : Host) (raw : UInt64) :
    Trades host.offers (host.freeOffer raw).offers
      ((host.offerHandle? raw).toList.map .obtained) := by
  cases h : host.offerHandle? raw with
  | none =>
    rw [freeOffer_of_eq_none h]
    exact .keep host.offers
  | some handle =>
    rw [freeOffer_of_eq_some h]
    exact .obtain (offerHandle?_eq_some.1 h).2

theorem trades_buildOffer (octets : Option (List UInt8)) (host : Host) :
    Trades host.offers (host.buildOffer octets).2.2.offers
      ((Handle.ofRaw? (host.buildOffer octets).1).toList.map .built) := by
  rcases host.buildOffer_cases octets with ⟨hzero, hsame⟩ | ⟨offer, hraw, hafter⟩
  · rw [hzero, hsame]
    exact .keep host.offers
  · rw [hraw, hafter, Handle.ofRaw?_raw]
    exact .build host.offers offer

theorem offers_createWith (config : Config) (id : String) (host : Host) :
    (host.createWith config id).2.2.offers = host.offers := by
  unfold createWith
  split <;> rfl

theorem offers_of_effect {b : Busy} {action : Busy.Action} {after : Host}
    (h : b.Effect action after) : after.offers = b.host.offers := by
  cases h <;> rfl

theorem trades_stepOn (transport : Session → Offer → Negotiation.Transport) (host : Host)
    (standing : Standing) : Trades host.offers (stepOn transport host standing).1.offers
      ((obtains? host standing).toList.map .obtained) := by
  cases standing with
  | creating id config =>
    simp only [stepOn, offers_createWith]
    exact .keep host.offers
  | taking place offer =>
    have htaken : (stepOn transport host (.taking place offer)).1 = host.freeOffer offer := by
      rw [← snd_takeOffer]
      simp only [stepOn]
      split <;> next htake => rw [htake]
    rw [htaken]
    exact trades_freeOffer host offer
  | presenting place offer =>
    simp only [stepOn]
    split
    · exact .keep host.offers
    · split <;> exact .keep host.offers
  | exchanging place offer =>
    simp only [stepOn]
    split <;> exact .keep host.offers
  | returned answer => exact .keep host.offers

theorem trades_step (t : Traffic) (action : Action) :
    Trades t.host.offers (t.step action).1.host.offers (t.step action).2 := by
  cases action with
  | busy action =>
    have hoffers : (t.step (.busy action)).1.host.offers = t.host.offers :=
      offers_of_effect (t.busy.effect_step action)
    rw [hoffers]
    exact .keep t.host.offers
  | configure document =>
    have hoffers : (t.host.configure document).2.2.offers = t.host.offers := by
      unfold configure
      repeat' split
      all_goals rfl
    simp only [step, enter, host] at hoffers ⊢
    rw [hoffers]
    exact .keep t.host.offers
  | create id => exact .keep t.host.offers
  | buildOffer octets => exact trades_buildOffer octets t.host
  | signal session offer =>
    simp only [step, enterSignal]
    split <;> exact .keep t.host.offers
  | freeOffer offer => exact trades_freeOffer t.host offer
  | proceed call transport =>
    simp only [step, proceed]
    split
    · exact .keep t.host.offers
    · next standing _ => exact trades_stepOn transport t.host standing

/-! ## What was seen -/

def Event.built? : Event → Option Handle
  | .built handle => some handle
  | .obtained _ => none

def Event.obtained? : Event → Option Handle
  | .built _ => none
  | .obtained handle => some handle

/-- The handles of the offers that were built. -/
def built (events : List Event) : List Handle := events.filterMap Event.built?

/-- The handles of the offers that were obtained. -/
def obtained (events : List Event) : List Handle := events.filterMap Event.obtained?

@[simp] theorem built_append (first rest : List Event) :
    built (first ++ rest) = built first ++ built rest :=
  List.filterMap_append

@[simp] theorem obtained_append (first rest : List Event) :
    obtained (first ++ rest) = obtained first ++ obtained rest :=
  List.filterMap_append

/-! ## The ledger of the offers -/

/-- That a ledger of the offers holds the handles that were built and not obtained, and has issued
those that were built. -/
structure Accounted (offers : HandleTable Offer) (seen : List Event) (L : Ledger Offer) :
    Prop where
  represents : HandleTable.Represents offers L
  issued : ∀ handle, handle ∈ L.issued ↔ handle ∈ built seen
  live : ∀ handle, handle ∈ L.live ↔ handle ∈ built seen ∧ handle ∉ obtained seen
  nodup_built : (built seen).Nodup
  nodup_obtained : (obtained seen).Nodup
  subset : obtained seen ⊆ built seen

theorem accounted_new : Accounted new.host.offers [] .empty where
  represents := HandleTable.represents_empty
  issued handle := by simp [Ledger.empty, built]
  live handle := by simp [Ledger.empty, built, Finmap.notMem_empty]
  nodup_built := List.nodup_nil
  nodup_obtained := List.nodup_nil
  subset := List.Subset.refl _

theorem Accounted.card_issued (h : Accounted offers seen L) :
    L.issued.card = (built seen).length := by
  have hissued : L.issued = (built seen).toFinset := by
    ext handle
    exact (h.issued handle).trans List.mem_toFinset.symm
  rw [hissued]
  exact List.toFinset_card_of_nodup h.nodup_built

theorem Accounted.build (h : Accounted offers seen L) (offer : Offer)
    (hfit : (built seen).length < 0xFFFFFFFF) :
    Accounted (offers.register offer).2 (seen ++ [.built (offers.register offer).1])
      (L.issue (offers.register offer).1 offer) := by
  rw [← h.card_issued] at hfit
  have hfresh : (offers.register offer).1 ∉ built seen := by
    rw [← h.issued]
    exact h.represents.fst_register_fresh hfit offer
  have hbuilt : built (seen ++ [.built (offers.register offer).1]) =
      built seen ++ [(offers.register offer).1] := built_append _ _
  have hobtained : obtained (seen ++ [.built (offers.register offer).1]) = obtained seen :=
    (obtained_append _ _).trans (List.append_nil _)
  refine ⟨h.represents.register hfit offer, ?_, ?_, ?_, ?_, ?_⟩
  · intro handle
    rw [hbuilt, List.mem_append, List.mem_singleton, ← h.issued]
    exact Finset.mem_insert.trans or_comm
  · intro handle
    rw [hbuilt, hobtained, List.mem_append, List.mem_singleton]
    refine (Finmap.mem_insert.trans (or_congr_right (h.live handle))).trans ?_
    constructor
    · rintro (rfl | ⟨hmem, hnot⟩)
      · exact ⟨.inr rfl, fun hmem => hfresh (h.subset hmem)⟩
      · exact ⟨.inl hmem, hnot⟩
    · rintro ⟨hmem | rfl, hnot⟩
      · exact .inr ⟨hmem, hnot⟩
      · exact .inl rfl
  · rw [hbuilt]
    apply List.Nodup.append h.nodup_built (List.nodup_singleton _)
    exact List.disjoint_singleton.2 hfresh
  · rw [hobtained]
    exact h.nodup_obtained
  · rw [hbuilt, hobtained]
    exact List.Subset.trans h.subset (List.subset_append_left _ _)

theorem Accounted.obtain (h : Accounted offers seen L)
    (hlive : (offers.resolve? handle).isSome) :
    Accounted (offers.release handle).2 (seen ++ [.obtained handle]) (L.erase handle) := by
  rw [← h.represents.lookup, Finmap.lookup_isSome, h.live] at hlive
  have hbuilt : built (seen ++ [.obtained handle]) = built seen :=
    (built_append _ _).trans (List.append_nil _)
  have hobtained : obtained (seen ++ [.obtained handle]) = obtained seen ++ [handle] :=
    obtained_append _ _
  refine ⟨h.represents.release handle, ?_, ?_, ?_, ?_, ?_⟩
  · rw [hbuilt]
    exact h.issued
  · intro other
    rw [hbuilt, hobtained, List.mem_append, List.mem_singleton, not_or]
    refine (Finmap.mem_erase.trans (and_congr_right' (h.live other))).trans ?_
    constructor
    · rintro ⟨hne, hmem, hnot⟩
      exact ⟨hmem, hnot, hne⟩
    · rintro ⟨hmem, hnot, hne⟩
      exact ⟨hne, hmem, hnot⟩
  · rw [hbuilt]
    exact h.nodup_built
  · rw [hobtained]
    apply List.Nodup.append h.nodup_obtained (List.nodup_singleton _)
    exact List.disjoint_singleton.2 hlive.2
  · rw [hbuilt, hobtained]
    exact List.append_subset.2 ⟨h.subset, List.cons_subset.2 ⟨hlive.1, List.nil_subset _⟩⟩

theorem Accounted.trade (h : Accounted offers seen L) (htrade : Trades offers after events)
    (hfit : (built (seen ++ events)).length ≤ 0xFFFFFFFF) :
    ∃ M, Accounted after (seen ++ events) M := by
  cases htrade with
  | keep => exact ⟨L, (List.append_nil seen).symm ▸ h⟩
  | build offer =>
    rw [built_append, List.length_append] at hfit
    exact ⟨_, h.build offer hfit⟩
  | obtain hlive => exact ⟨_, h.obtain hlive⟩

theorem Accounted.run (h : Accounted t.host.offers seen L) (schedule : List Action)
    (hfit : (built (seen ++ (t.run schedule).2)).length ≤ 0xFFFFFFFF) :
    ∃ M, Accounted (t.run schedule).1.host.offers (seen ++ (t.run schedule).2) M := by
  induction schedule generalizing t seen L with
  | nil => exact ⟨L, (List.append_nil seen).symm ▸ h⟩
  | cons action rest ih =>
    rw [snd_run_cons, ← List.append_assoc] at hfit ⊢
    have hprefix : (built (seen ++ (t.step action).2)).length ≤ 0xFFFFFFFF := by
      rw [built_append, List.length_append] at hfit
      exact Nat.le_trans (Nat.le_add_right _ _) hfit
    obtain ⟨M, hstep⟩ := h.trade (t.trades_step action) hprefix
    exact ih hstep hfit

/-! ## What the account tells -/

/-- That every offer is obtained once at most and none is lost, and what this means for the next
call that names one. -/
structure KeepsAccount (t : Traffic) (seen : List Event) : Prop where
  /-- No handle is given to two offers. -/
  builtOnce : (built seen).Nodup
  /-- No offer is obtained by two calls, and none that was not built. -/
  obtainedOnce : (obtained seen).Nodup
  subset : obtained seen ⊆ built seen
  /-- Of the offers that were built, those that were not obtained are there. -/
  size : t.host.offers.size + (obtained seen).length = (built seen).length
  live : ∀ handle, (t.host.offers.resolve? handle).isSome ↔
    handle ∈ built seen ∧ handle ∉ obtained seen
  /-- A call that builds an offer gives its handle, or it gives zero and changes nothing. -/
  builds : ∀ octets,
    (∃ handle, (t.host.buildOffer octets).1 = handle.raw ∧
      (t.step (.buildOffer octets)).2 = [.built handle]) ∨
    ((t.host.buildOffer octets).1 = 0 ∧
      t.step (.buildOffer octets) = (t.enter t.host (.returned (.handle 0)), []))
  /-- A signaling call does not get to its offer unless it finds its session live. -/
  turnedAway : ∀ session offer error, t.host.resolve session = .error error →
    t.step (.signal session offer) = (t.enter t.host (.returned (.signaled .null)), [])
  getsOn : ∀ session offer place, t.host.resolve session = .ok place →
    t.step (.signal session offer) = (t.enter t.host (.taking place offer), [])
  /-- Whoever comes first obtains an offer, with a signaling call or without one. -/
  available : ∀ handle, handle ∈ built seen → handle ∉ obtained seen →
    (t.step (.freeOffer handle.raw)).2 = [.obtained handle] ∧
    ∀ call place transport, t.calls[call]? = some (.taking place handle.raw) →
      (t.step (.proceed call transport)).2 = [.obtained handle]
  /-- Whoever comes later finds nothing and changes nothing. -/
  gone : ∀ handle ∈ obtained seen,
    t.step (.freeOffer handle.raw) = (t.enter t.host (.returned .done), []) ∧
    ∀ call place transport, t.calls[call]? = some (.taking place handle.raw) →
      t.step (.proceed call transport) =
        ({ t with calls := t.calls.set call (.returned (.signaled .null)) }, [])

theorem step_proceed_of_gone (h : t.host.offerHandle? raw = none) {call place : Nat}
    (hcall : t.calls[call]? = some (.taking place raw))
    (transport : Session → Offer → Negotiation.Transport) :
    t.step (.proceed call transport) =
      ({ t with calls := t.calls.set call (.returned (.signaled .null)) }, []) := by
  obtain ⟨error, htake⟩ := takeOffer_of_eq_none h
  simp only [step, proceed, hcall, stepOn, htake, obtains?, h, Option.toList_none, List.map_nil]
  rfl

theorem Accounted.size_add (h : Accounted offers seen L) :
    offers.size + (obtained seen).length = (built seen).length := by
  have hkeys : L.live.keys = (built seen).toFinset \ (obtained seen).toFinset := by
    ext handle
    rw [Finmap.mem_keys, h.live, Finset.mem_sdiff, List.mem_toFinset, List.mem_toFinset]
  have hsubset : (obtained seen).toFinset ⊆ (built seen).toFinset := by
    intro handle hobtained
    exact List.mem_toFinset.2 (h.subset (List.mem_toFinset.1 hobtained))
  rw [h.represents.size_eq_card, hkeys, ← List.toFinset_card_of_nodup h.nodup_obtained,
    Finset.card_sdiff_add_card_eq_card hsubset]
  exact List.toFinset_card_of_nodup h.nodup_built

theorem Accounted.keepsAccount (h : Accounted t.host.offers seen L) : t.KeepsAccount seen := by
  have hlive (handle : Handle) : (t.host.offers.resolve? handle).isSome ↔
      handle ∈ built seen ∧ handle ∉ obtained seen := by
    rw [← h.represents.lookup, Finmap.lookup_isSome, h.live]
  refine ⟨h.nodup_built, h.nodup_obtained, h.subset, h.size_add, hlive, ?_, ?_, ?_, ?_, ?_⟩
  · intro octets
    rcases t.host.buildOffer_cases octets with ⟨hzero, hsame⟩ | ⟨offer, hraw, hafter⟩
    · right
      refine ⟨hzero, ?_⟩
      simp only [step, hzero, hsame]
      rfl
    · left
      refine ⟨_, hraw, ?_⟩
      simp only [step, hraw, Handle.ofRaw?_raw]
      rfl
  · intro session offer error hresolve
    simp only [step, enterSignal, hresolve]
  · intro session offer place hresolve
    simp only [step, enterSignal, hresolve]
  · intro handle hbuilt hobtained
    have hthere := offerHandle?_raw ((hlive handle).2 ⟨hbuilt, hobtained⟩)
    refine ⟨?_, ?_⟩
    · simp only [step, hthere]
      rfl
    · intro call place transport hcall
      simp only [step, proceed, hcall, obtains?, hthere]
      rfl
  · intro handle hobtained
    have hgone : t.host.offers.resolve? handle = none := by
      by_contra hthere
      exact ((hlive handle).1 (Option.isSome_iff_ne_none.2 hthere)).2 hobtained
    have hnone := offerHandle?_raw_eq_none hgone
    refine ⟨?_, ?_⟩
    · simp only [step, hnone, freeOffer_of_eq_none hnone]
      rfl
    · intro call place transport hcall
      exact step_proceed_of_gone hnone hcall transport

/-- However the calls of a host take turns: if fewer than `2 ^ 32` offers are built, each is
obtained by one call at most, and those that no call has obtained are there. -/
theorem keepsAccount_run (schedule : List Action)
    (hfit : (built (new.run schedule).2).length ≤ 0xFFFFFFFF) :
    (new.run schedule).1.KeepsAccount (new.run schedule).2 := by
  obtain ⟨L, h⟩ := accounted_new.run schedule hfit
  exact h.keepsAccount

/-- An offer, and what is none. -/
def smallOffer : List UInt8 :=
  Utf8.encode "\x7b\"type\":\"offer\",\"sdp\":\"v=0\\no=- 1 1 IN IP4 0\\ns=-\\nt=0 0\\n\"\x7d".toList

/-- A signaling call and a free want the same offer; after that its slot is used again. -/
def contended : List Action :=
  [.create "s", .proceed 0 (·.transport .isolated), .buildOffer (some smallOffer),
    .buildOffer (some []), .signal 0x100000000 0x100000000, .signal 0x100000000 0x100000000,
    .proceed 4 (·.transport .isolated), .freeOffer 0x100000000, .buildOffer (some smallOffer),
    .proceed 3 (·.transport .isolated)]

theorem keepsAccount_run_contended :
    (built (new.run contended).2).length ≤ 0xFFFFFFFF ∧
      (new.run contended).2 =
        [.built (.pack 0 .first), .obtained (.pack 0 .first),
          .built (.pack 0 Generation.first.next)] ∧
      (new.run contended).1.KeepsAccount (new.run contended).2 := by
  have hseen : (new.run contended).2 =
      [.built (.pack 0 .first), .obtained (.pack 0 .first),
        .built (.pack 0 Generation.first.next)] := by
    decide +kernel
  have hfit : (built (new.run contended).2).length ≤ 0xFFFFFFFF := by
    rw [hseen]
    decide
  exact ⟨hfit, hseen, keepsAccount_run contended hfit⟩

end Traffic

end RtpBridge.Host

-- SUMMARY: Feedback has no influence on the media of a session, nor on what its run returns.
import RtpBridge.Proofs.Relay.Feedback
import RtpBridge.Proofs.Session.Blame

/-!
# Feedback and media

The media view of a session mutes its feedback, and takes a run that waits for nothing but
feedback as returned (`Session.media`). A step of the feedback leaves this view alone, and every
other step does to it what it does to the session, so two runs that differ in their feedback only
look the same in it.
-/

namespace RtpBridge.Session

variable {s t : Session} {action kept : Action}

/-! ## The media of a session -/

/-- What a run is bound to return, once it waits for nothing but feedback. -/
def settled? (s : Session) : Option (Except Error Unit) :=
  match s.control with
  | .tearingDown .joinSinks fault | .tearingDown .terminate fault => some (s.result fault)
  | .returned result => some result
  | _ => none

/-- The session as if its feedback sinks had not read yet, nor its run waited for them. -/
def media (s : Session) : Session :=
  match s.settled? with
  | some result =>
    { s with
      relay := s.relay.map (·.mute), lifecycle := .terminated, control := .returned result }
  | none => { s with relay := s.relay.map (·.mute) }

/-- What an action is to the media: nothing if it is one of the feedback, or if the owner waits for
feedback. -/
def mediaAction? (s : Session) : Action → Option Action
  | .feedback .. => none
  | .advance answers _ => if s.settled?.isSome then none else some (.advance answers false)
  | action => some action

/-- What a schedule is to the media. -/
def mediaActions (s : Session) : List Action → List Action
  | [] => []
  | action :: rest => (s.mediaAction? action).toList ++ mediaActions (s.step action).1 rest

/-- The exits of the forward pumps that the owner has waited for. -/
def forwardExits (s : Session) : List PumpExit := s.relay.elim [] (·.forwardExits)

theorem settled?_eq (hcontrol : t.control = s.control) (hexits : t.forwardExits = s.forwardExits) :
    t.settled? = s.settled? := by
  have hresult (fault : Option BindFault) : t.result fault = s.result fault := by
    unfold result
    rw [← forwardExits, ← forwardExits, hexits]
  simp only [settled?, hcontrol, hresult]

theorem media_of_settled {result : Except Error Unit} (h : s.settled? = some result) :
    s.media = { s with
      relay := s.relay.map (·.mute), lifecycle := .terminated, control := .returned result } := by
  rw [media, h]

theorem media_of_unsettled (h : s.settled? = none) :
    s.media = { s with relay := s.relay.map (·.mute) } := by
  rw [media, h]

theorem relay_media (s : Session) : s.media.relay = s.relay.map (·.mute) := by
  unfold media
  split <;> rfl

theorem forwardExits_media (s : Session) : s.media.forwardExits = s.forwardExits := by
  rw [forwardExits, relay_media, forwardExits]
  cases s.relay <;> rfl

theorem settled?_media (s : Session) : s.media.settled? = s.settled? := by
  cases h : s.settled? with
  | some result =>
    rw [media_of_settled h]
    rfl
  | none =>
    have hcontrol : s.media.control = s.control := by rw [media_of_unsettled h]
    exact (settled?_eq hcontrol s.forwardExits_media).trans h

theorem stop_media (s : Session) : s.media.stop = s.stop := by
  unfold media
  split <;> rfl

/-- What is changed outside the owner's work is changed in the view. -/
theorem media_update {relay : Option Relay} {stop : StopLatch}
    {early : List (MediaKind × Arrival)}
    (hexits : ({ s with relay, stop, early } : Session).forwardExits = s.forwardExits) :
    ({ s with relay, stop, early } : Session).media =
      { s.media with relay := relay.map (·.mute), stop, early } := by
  have hsettled : ({ s with relay, stop, early } : Session).settled? = s.settled? :=
    settled?_eq rfl hexits
  cases h : s.settled? with
  | some result =>
    rw [media_of_settled h, media_of_settled (hsettled.trans h)]
  | none =>
    rw [media_of_unsettled h, media_of_unsettled (hsettled.trans h)]

theorem map_mute_mute (relay : Option Relay) :
    (relay.map (·.mute)).map (·.mute) = relay.map (·.mute) := by
  rw [Option.map_map]
  exact congrArg (relay.map ·) (funext Relay.mute_mute)

/-- Two sessions that differ in what is not seen look the same. -/
theorem media_eq {other : Session} (hother : other = { s with relay := other.relay })
    (hrelay : s.relay.map (·.mute) = other.relay.map (·.mute)) : s.media = other.media := by
  have hexits : other.forwardExits = s.forwardExits := by
    rw [← forwardExits_media, ← s.forwardExits_media, forwardExits, forwardExits, relay_media,
      relay_media, hrelay]
  have hsettled : other.settled? = s.settled? := settled?_eq (by rw [hother]) hexits
  cases h : s.settled? with
  | some result =>
    rw [media_of_settled h, media_of_settled (hsettled.trans h), hrelay]
    rw [hother]
  | none =>
    rw [media_of_unsettled h, media_of_unsettled (hsettled.trans h), hrelay]
    rw [hother]

theorem media_media (s : Session) : s.media.media = s.media := by
  cases h : s.settled? with
  | some result =>
    rw [media_of_settled (s.settled?_media.trans h), media_of_settled h]
    simp only [map_mute_mute]
  | none =>
    rw [media_of_unsettled (s.settled?_media.trans h), media_of_unsettled h]
    simp only [map_mute_mute]

theorem pair?_media (s : Session) : s.media.control.pair? = s.control.pair? := by
  unfold media
  split
  · next hsettled =>
    unfold settled? at hsettled
    split at hsettled
    · next hcontrol => rw [hcontrol]; rfl
    · next hcontrol => rw [hcontrol]; rfl
    · next hcontrol => rw [hcontrol]; rfl
    · cases hsettled
  · rfl

theorem early_media (s : Session) : s.media.early = s.early := by
  unfold media
  split <;> rfl

theorem written_media (s : Session) (kind : MediaKind) : s.media.written kind = s.written kind := by
  unfold written
  rw [relay_media]
  cases s.relay with
  | none => rfl
  | some relay =>
    simp only [Option.map_some, Option.bind_some, Relay.getElem?_links_mute]
    cases relay.links[kind.index]? <;> rfl

/-! ## Steps outside the owner's work -/

/-- Two changes that look the same in the view, one made to the session and one to its view. -/
theorem media_congr {after other : Session}
    (hafter : after =
      { s with relay := after.relay, stop := after.stop, early := after.early })
    (hother : other =
      { s.media with relay := other.relay, stop := other.stop, early := other.early })
    (hrelay : after.relay.map (·.mute) = other.relay.map (·.mute))
    (hstop : after.stop = other.stop) (hearly : after.early = other.early)
    (hexits : after.forwardExits = s.forwardExits) : after.media = other.media := by
  have hsame : other.forwardExits = s.media.forwardExits := by
    rw [forwardExits_media, ← hexits, ← other.forwardExits_media, ← after.forwardExits_media,
      forwardExits, forwardExits, relay_media, relay_media, hrelay]
  calc after.media
      = { s.media with
          relay := after.relay.map (·.mute), stop := after.stop, early := after.early } :=
        (congrArg media hafter).trans
          (media_update ((congrArg forwardExits hafter).symm.trans hexits))
    _ = { s.media.media with
          relay := other.relay.map (·.mute), stop := other.stop, early := other.early } := by
        rw [media_media, hrelay, hstop, hearly]
    _ = other.media :=
        ((congrArg media hother).trans
          (media_update ((congrArg forwardExits hother).symm.trans hsame))).symm

theorem media_triggerStop (stopper : Stopper) (s : Session) :
    (s.triggerStop stopper).1.media = (s.media.triggerStop stopper).1.media := by
  refine media_congr rfl rfl ?_ ?_ s.early_media.symm rfl
  · simp only [triggerStop, relay_media, Option.map_map]
    exact congrArg (s.relay.map ·) (funext fun relay => relay.mute_mute.symm)
  · simp only [triggerStop, stop_media]

theorem media_arrive (kind : MediaKind) (arrival : Arrival) (s : Session) :
    (s.arrive kind arrival).media = (s.media.arrive kind arrival).media := by
  cases hrelay : s.relay with
  | none =>
    have hmuted : s.media.relay = none := by rw [relay_media, hrelay, Option.map_none]
    simp only [arrive, hrelay, hmuted, pair?_media]
    split
    · refine media_congr rfl rfl ?_ s.stop_media.symm ?_ ?_
      · rfl
      · simp only [early_media]
      · simp only [forwardExits, hrelay]
    · exact s.media_media.symm
  | some relay =>
    have hmuted : s.media.relay = some relay.mute := by rw [relay_media, hrelay, Option.map_some]
    have hmedia : (Relay.Action.arrive kind.index arrival).isMedia := rfl
    have hstep := (Relay.mute_step hmedia relay s.stop).1
    simp only [arrive, hrelay, hmuted]
    refine media_congr rfl rfl ?_ s.stop_media.symm s.early_media.symm ?_
    · exact congrArg some hstep
    · simp only [forwardExits, hrelay]
      rfl

theorem media_pump (kind : MediaKind) (s : Session) :
    (s.pump kind).1.media = (s.media.pump kind).1.media := by
  cases hrelay : s.relay with
  | none =>
    have hmuted : s.media.relay = none := by rw [relay_media, hrelay, Option.map_none]
    simp only [pump, hrelay, hmuted]
    exact s.media_media.symm
  | some relay =>
    have hmuted : s.media.relay = some relay.mute := by rw [relay_media, hrelay, Option.map_some]
    have hmedia : (Relay.Action.pump kind.index).isMedia := rfl
    obtain ⟨hstep, hstop⟩ := Relay.mute_step hmedia relay s.stop
    simp only [pump, hrelay, hmuted, stop_media]
    refine media_congr rfl rfl (congrArg some hstep) hstop s.early_media.symm ?_
    simp only [forwardExits, hrelay]
    rfl

/-- What is done to a relay's feedback is not seen in the view. -/
theorem media_relay_of_hidden {relay after : Relay} (hrelay : s.relay = some relay)
    (hmute : after.mute = relay.mute) :
    ({ s with relay := some after } : Session).media = s.media := by
  have hexits : ({ s with relay := some after } : Session).forwardExits = s.forwardExits := by
    simp only [forwardExits, hrelay]
    exact Relay.forwardExits_of_mute_eq hmute
  calc ({ s with relay := some after } : Session).media
      = { s.media with relay := some after.mute, stop := s.stop, early := s.early } :=
        media_update hexits
    _ = { s.media with relay := s.media.relay, stop := s.media.stop, early := s.media.early } := by
        rw [relay_media, hrelay, stop_media, early_media, Option.map_some, hmute]

theorem media_feedback (kind : MediaKind) (outcome : ReadOutcome) (s : Session) :
    (s.feedback kind outcome).media = s.media := by
  cases hrelay : s.relay with
  | none =>
    have hsame : s.feedback kind outcome = s := by
      simp only [feedback, hrelay, Option.map_none]
      rw [← hrelay]
    rw [hsame]
  | some relay =>
    have hhidden : ¬(Relay.Action.feedback kind.index outcome).isMedia := Bool.false_ne_true
    have hmute := (Relay.mute_step_of_hidden hhidden relay s.stop).1
    simp only [feedback, hrelay, Option.map_some]
    exact media_relay_of_hidden hrelay hmute

/-! ## Calls of the host -/

/-- No run and no close takes a session that is settled. -/
theorem lifecycle_media (h : s.Orderly) : s.media.lifecycle = .idle ↔ s.lifecycle = .idle := by
  cases hsettled : s.settled? with
  | none => rw [media_of_unsettled hsettled]
  | some result =>
    rw [media_of_settled hsettled]
    refine ⟨nofun, fun hidle => ?_⟩
    rw [settled?, h.unowned_of_idle hidle] at hsettled
    cases hsettled

theorem settled?_of_idle (h : s.Orderly) (hidle : s.lifecycle = .idle) : s.settled? = none := by
  rw [settled?, h.unowned_of_idle hidle]

theorem media_beginRun (h : s.Orderly) (callbacks : Callbacks) :
    (s.beginRun callbacks).1.media = (s.media.beginRun callbacks).1.media := by
  by_cases hidle : s.lifecycle = .idle
  · have hmuted := media_of_unsettled (settled?_of_idle h hidle)
    simp only [beginRun, (lifecycle_media h).2 hidle, hidle, if_true]
    rw [hmuted]
    exact media_eq rfl (map_mute_mute s.relay).symm
  · have htaken : ¬s.media.lifecycle = .idle := fun hm => hidle ((lifecycle_media h).1 hm)
    simp only [beginRun, htaken, hidle, if_false, media_media]

theorem media_beginClose (h : s.Orderly) : s.beginClose.1.media = s.media.beginClose.1.media := by
  by_cases hidle : s.lifecycle = .idle
  · have hmuted := media_of_unsettled (settled?_of_idle h hidle)
    simp only [beginClose, (lifecycle_media h).2 hidle, hidle, if_true]
    rw [hmuted]
    exact media_eq rfl (map_mute_mute s.relay).symm
  · have htaken : ¬s.media.lifecycle = .idle := fun hm => hidle ((lifecycle_media h).1 hm)
    simp only [beginClose, htaken, hidle, if_false, media_media]

/-! ## The owner -/

theorem media_of_relay_eq_none (h : s.settled? = none) (hrelay : s.relay = none) :
    s.media = s := by
  rw [media_of_unsettled h, hrelay, Option.map_none, ← hrelay]

theorem media_of_relay_eq_some {relay : Relay} (h : s.settled? = none)
    (hrelay : s.relay = some relay) : s.media = { s with relay := some relay.mute } := by
  rw [media_of_unsettled h, hrelay, Option.map_some]

/-- A stage of the teardown before the owner waits for feedback. -/
theorem media_tearDown {stage : Teardown} {fault : Option BindFault} (isGraceOver : Bool)
    (hcontrol : s.control = .tearingDown stage fault) (h : s.settled? = none) :
    (s.tearDown stage fault isGraceOver).1.media =
      (s.media.tearDown stage fault false).1.media := by
  cases hrelay : s.relay with
  | none =>
    rw [media_of_relay_eq_none h hrelay]
    cases stage with
    | clearInput | raiseClose | joinPumps | closeConnection => simp only [tearDown, hrelay]
    | joinSinks | terminate =>
      rw [settled?, hcontrol] at h
      cases h
  | some relay =>
    have hmute : s.relay.map (·.mute) = some relay.mute.mute := by
      rw [hrelay, Option.map_some, relay.mute_mute]
    rw [media_of_relay_eq_some h hrelay]
    cases stage with
    | clearInput | closeConnection =>
      simp only [tearDown, hrelay]
      exact media_eq rfl hmute
    | raiseClose =>
      have hraise : some relay.raiseClose.mute = some relay.mute.raiseClose.mute :=
        congrArg some relay.raiseClose.mute_mute.symm
      simp only [tearDown, hrelay]
      exact media_eq rfl hraise
    | joinPumps =>
      have hjoined : relay.mute.pumpsJoined = relay.pumpsJoined := by
        simp only [Relay.pumpsJoined, Relay.mute, List.length_map]
      have hjoin := relay.mute_joinPump?
      simp only [tearDown, hrelay, hjoined]
      split
      · exact media_eq rfl hmute
      · cases hfirst : relay.joinPump? with
        | none =>
          rw [hfirst] at hjoin
          rw [Option.map_eq_none_iff.1 hjoin.symm]
          exact media_eq rfl hmute
        | some after =>
          rw [hfirst] at hjoin
          obtain ⟨later, hlater, heq⟩ := Option.map_eq_some_iff.1 hjoin.symm
          rw [hlater]
          exact media_eq rfl (congrArg some heq.symm)
    | joinSinks | terminate =>
      rw [settled?, hcontrol] at h
      cases h

theorem media_stepClosing {stage : Closing} (hcontrol : s.control = .closing stage) :
    (s.stepClosing stage).1.media = (s.media.stepClosing stage).1.media := by
  have h : s.settled? = none := by rw [settled?, hcontrol]
  have hmute := (map_mute_mute s.relay).symm
  rw [media_of_unsettled h]
  cases stage with
  | trigger | clearInput | closeConnection => exact media_eq rfl hmute

/-- The owner does the same to the view until it has nothing to wait for but feedback. -/
theorem media_advance (answers : Ingress.Answers) (isGraceOver : Bool) (h : s.settled? = none) :
    (s.advance answers isGraceOver).1.media = (s.media.advance answers false).1.media := by
  have hmute := (map_mute_mute s.relay).symm
  have hmuted := media_of_unsettled h
  have hcontrol : s.media.control = s.control := by rw [hmuted]
  simp only [advance, hcontrol]
  cases hplace : s.control with
  | unowned | closed => exact s.media_media.symm
  | returned =>
    rw [settled?, hplace] at h
    cases h
  | binding callbacks =>
    rw [hmuted]
    cases Ingress.allocate answers [] with
    | mk bound rest => cases bound <;> exact media_eq rfl hmute
  | abandoning fault =>
    rw [hmuted]
    exact media_eq rfl hmute
  | reporting pair callbacks =>
    rw [hmuted]
    simp only [report]
    split <;> exact media_eq rfl hmute
  | installing pair input =>
    rw [hmuted]
    cases input <;> exact media_eq rfl hmute
  | launching pair =>
    rw [hmuted]
    exact media_eq rfl rfl
  | parked =>
    rw [hmuted]
    simp only
    split <;> exact media_eq rfl hmute
  | tearingDown stage fault => exact media_tearDown isGraceOver hplace h
  | closing stage => exact media_stepClosing hplace

/-- A settled session looks the same while its owner goes on and stays settled like this. -/
theorem media_of_settled_alike {after : Session} {result : Except Error Unit}
    (h : s.settled? = some result) (hafter : after.settled? = some result)
    (heq : after = { s with lifecycle := after.lifecycle, control := after.control }) :
    after.media = s.media := by
  rw [media_of_settled h, media_of_settled hafter, heq]

/-- While it waits for feedback, the owner does nothing that is seen. -/
theorem media_advance_of_settled {result : Except Error Unit} (answers : Ingress.Answers)
    (isGraceOver : Bool) (h : s.settled? = some result) :
    (s.advance answers isGraceOver).1.media = s.media := by
  have hsettled := h
  unfold settled? at h
  split at h
  · next fault hcontrol =>
    cases h
    simp only [advance, hcontrol]
    cases hrelay : s.relay with
    | none =>
      simp only [tearDown, hrelay]
      exact media_of_settled_alike hsettled rfl rfl
    | some relay =>
      simp only [tearDown, hrelay]
      split
      · exact media_of_settled_alike hsettled rfl rfl
      · split
        · next joined hjoin => exact media_relay_of_hidden hrelay (Relay.mute_joinSink? hjoin)
        · rfl
  · next fault hcontrol =>
    cases h
    simp only [advance, hcontrol, tearDown]
    exact media_of_settled_alike hsettled rfl rfl
  · next hcontrol => simp only [advance, hcontrol]
  · cases h

theorem settled?_advance {result : Except Error Unit} (answers : Ingress.Answers)
    (isGraceOver : Bool) (h : s.settled? = some result) :
    (s.advance answers isGraceOver).1.settled? = some result := by
  rw [← settled?_media, media_advance_of_settled answers isGraceOver h, settled?_media, h]

/-! ## Runs -/

/-- A step does to the view what it does to the session. -/
theorem media_step (h : s.Orderly) (hkept : s.mediaAction? action = some kept) :
    (s.step action).1.media = (s.media.step kept).1.media := by
  cases action with
  | feedback => cases hkept
  | run callbacks =>
    cases hkept
    exact media_beginRun h callbacks
  | closeIfIdle =>
    cases hkept
    exact media_beginClose h
  | stop | connectionFailed =>
    cases hkept
    exact media_triggerStop _ s
  | arrive kind arrival =>
    cases hkept
    exact media_arrive kind arrival s
  | pump kind =>
    cases hkept
    exact media_pump kind s
  | message octets =>
    cases hkept
    exact s.media_media.symm
  | advance answers isGraceOver =>
    rw [mediaAction?, Option.ite_none_left_eq_some] at hkept
    obtain ⟨hunsettled, heq⟩ := hkept
    cases heq
    exact media_advance answers isGraceOver (Option.not_isSome_iff_eq_none.1 hunsettled)

/-- What is not the media's is not seen. -/
theorem media_step_of_hidden (hhidden : s.mediaAction? action = none) :
    (s.step action).1.media = s.media := by
  cases action with
  | run | closeIfIdle | stop | arrive | pump | message | connectionFailed => cases hhidden
  | feedback kind outcome => exact media_feedback kind outcome s
  | advance answers isGraceOver =>
    cases hsettled : s.settled? with
    | some result => exact media_advance_of_settled answers isGraceOver hsettled
    | none =>
      rw [mediaAction?, hsettled] at hhidden
      cases hhidden

/-- A run of the view alone. -/
def mediaRun (s : Session) (actions : List Action) : Session :=
  actions.foldl (fun s action => (s.step action).1.media) s

/-- The view of a run is made of what the schedule is to the media. -/
theorem media_run (h : s.Orderly) (schedule : List Action) :
    (s.run schedule).1.media = s.media.mediaRun (s.mediaActions schedule) := by
  induction schedule generalizing s with
  | nil => rfl
  | cons action rest ih =>
    rw [fst_run_cons, ih (h.step action), mediaActions]
    cases hkept : s.mediaAction? action with
    | none =>
      rw [media_step_of_hidden hkept]
      rfl
    | some kept =>
      rw [media_step h hkept]
      rfl

/-! ## Returning -/

/-- How often a settled owner goes on at most until it returns, if no sink gets more grace. -/
def dues (s : Session) : Nat :=
  match s.control with
  | .tearingDown .joinSinks _ =>
    s.relay.elim 0 (fun relay => relay.links.length - relay.feedbackExits.length) + 2
  | .tearingDown .terminate _ => 1
  | _ => 0

theorem dues_advance {result : Except Error Unit} (h : s.Orderly)
    (hsettled : s.settled? = some result) (answers : Ingress.Answers) {n : Nat}
    (hdues : s.dues ≤ n + 1) : (s.advance answers true).1.dues ≤ n := by
  unfold settled? at hsettled
  split at hsettled
  · next fault hcontrol =>
    simp only [dues, hcontrol] at hdues
    simp only [advance, hcontrol]
    cases hrelay : s.relay with
    | none =>
      rw [hrelay] at hdues
      simp only [tearDown, hrelay]
      exact Nat.le_of_succ_le_succ hdues
    | some relay =>
      rw [hrelay, Option.elim_some] at hdues
      simp only [tearDown, hrelay]
      split
      · exact Nat.le_of_succ_le_succ (Nat.le_trans (Nat.le_add_left 2 _) hdues)
      · next hjoined =>
        obtain ⟨joined, hjoin, hlinks, hexits⟩ :=
          (h.accounts relay hrelay).exists_joinSink s.config.teardownGrace hjoined
        simp only [hjoin, dues, hcontrol, Option.elim_some, hlinks, hexits]
        have hlt := (h.accounts relay hrelay).exits_lt hjoined
        omega
  · next fault hcontrol =>
    simp only [advance, hcontrol, tearDown, dues]
    exact Nat.zero_le n
  · next hcontrol =>
    simp only [advance, hcontrol, dues]
    exact Nat.zero_le n
  · cases hsettled

/-- A settled run returns after its dues. -/
theorem control_run_of_settled (h : s.Orderly) {result : Except Error Unit}
    (hsettled : s.settled? = some result) (answers : Ingress.Answers) {n : Nat}
    (hdues : s.dues ≤ n) :
    (s.run (List.replicate n (.advance answers true))).1.control = .returned result := by
  induction n generalizing s with
  | zero =>
    unfold settled? at hsettled
    unfold dues at hdues
    split at hsettled
    · next fault hcontrol =>
      rw [hcontrol] at hdues
      cases hdues
    · next fault hcontrol =>
      rw [hcontrol] at hdues
      cases hdues
    · next hcontrol =>
      cases hsettled
      exact hcontrol
    · cases hsettled
  | succ n ih =>
    have hnext := settled?_advance answers true hsettled
    rw [List.replicate_succ, fst_run_cons]
    exact ih (h.step (.advance answers true)) hnext (dues_advance h hsettled answers hdues)

/-- A relay of a session has two sinks, so that four times are enough. -/
theorem dues_run_le (id : String) (config : Config) (tracks : MediaKind → Sink)
    (schedule : List Action) : (run { new id config with tracks } schedule).1.dues ≤ 4 := by
  have hpumps := ((findings_new id config tracks).run schedule).pumps
  unfold dues
  split
  · cases hrelay : (run { new id config with tracks } schedule).1.relay with
    | none => exact Nat.le_add_left 2 2
    | some relay =>
      have hlength := (hpumps.relay relay hrelay).length
      simp only [Option.elim_some, hlength]
      exact Nat.add_le_add_right (Nat.sub_le 2 _) 2
  · exact Nat.le_add_left 1 3
  · exact Nat.zero_le 4

theorem settled?_of_returned {result : Except Error Unit}
    (hcontrol : s.control = .returned result) : s.settled? = some result := by
  rw [settled?, hcontrol]

/-- In the view of a run that has returned only the feedback is not seen. -/
theorem media_of_returned (h : s.Orderly) {result : Except Error Unit}
    (hcontrol : s.control = .returned result) :
    s.media = { s with relay := s.relay.map (·.mute) } := by
  have hplace := h.place
  rw [hcontrol] at hplace
  rw [media_of_settled (settled?_of_returned hcontrol), ← hcontrol, ← hplace.1]

/-- A run that has returned has no step left. -/
theorem run_of_returned {result : Except Error Unit} (hcontrol : s.control = .returned result)
    (answers : Ingress.Answers) (n : Nat) :
    (s.run (List.replicate n (.advance answers true))).1 = s := by
  have hstay : (s.advance answers true).1 = s := by simp only [advance, hcontrol]
  induction n with
  | zero => rfl
  | succ n ih =>
    rw [List.replicate_succ, fst_run_cons, step, hstay]
    exact ih

/-- A settled session looks the same however often its owner goes on. -/
theorem media_run_of_settled {result : Except Error Unit} (hsettled : s.settled? = some result)
    (answers : Ingress.Answers) (n : Nat) :
    (s.run (List.replicate n (.advance answers true))).1.media = s.media := by
  induction n generalizing s with
  | zero => rfl
  | succ n ih =>
    rw [List.replicate_succ, fst_run_cons]
    exact (ih (settled?_advance answers true hsettled)).trans
      (media_advance_of_settled answers true hsettled)

/-- Two runs that differ in their feedback only, be they of a relay or of a session, write the same
samples, leave the same exits of the forward pumps and the same latch. If one run of the session has
returned, the other one returns the same as soon as its sinks get no more grace, and leaves the
session in the same state but for the feedback. A feedback sink takes the packets that come and the
first read that brings none, which says how it ends, and gives one buffer to all its reads. -/
theorem feedback_spares_media :
    (∀ (relay : Relay) (stop : StopLatch) (one other : List Relay.Action),
      one.filter (·.isMedia) = other.filter (·.isMedia) →
        (relay.run stop one).1.links.map (·.pump) = (relay.run stop other).1.links.map (·.pump) ∧
        (relay.run stop one).1.forwardExits = (relay.run stop other).1.forwardExits ∧
        (relay.run stop one).2 = (relay.run stop other).2) ∧
    (∀ (id : String) (config : Config) (tracks : MediaKind → Sink) (one other : List Action),
      mediaActions { new id config with tracks } one =
          mediaActions { new id config with tracks } other →
        let s := (run { new id config with tracks } one).1
        let t := (run { new id config with tracks } other).1
        (∀ kind, s.written kind = t.written kind) ∧ s.forwardExits = t.forwardExits ∧
        s.stop = t.stop ∧ s.media = t.media ∧
        ∀ result answers, s.control = .returned result →
          let ended := (t.run (List.replicate 4 (.advance answers true))).1
          ended.control = .returned result ∧
          { s with relay := s.relay.map Relay.mute } =
            { ended with relay := ended.relay.map Relay.mute } ∧
          ∀ result', t.control = .returned result' → ended = t) ∧
    ∀ (source : FeedbackSource) (session : String) (kind : MediaKind),
      let p := (FeedbackSink.start session kind).settle source
      p.room = FeedbackSink.bufferSize ∧
      p.reads = source.packets + (source.answer? source.packets).toList.length ∧
      p.calls = source.packets + 1 ∧
      p.ending? = (source.answer? source.packets).bind (·.ending?) := by
  refine ⟨fun relay stop one other hsame => ?_, fun id config tracks one other hsame => ?_,
    FeedbackSink.settle_source⟩
  · obtain ⟨hone, hstop⟩ := Relay.mute_run (rfl : relay.mute = relay.mute) stop one
    obtain ⟨hother, hstop'⟩ := Relay.mute_run (rfl : relay.mute = relay.mute) stop other
    rw [hsame] at hone hstop
    have hmute := hone.trans hother.symm
    exact ⟨Relay.pumps_of_mute_eq hmute, Relay.forwardExits_of_mute_eq hmute,
      hstop.trans hstop'.symm⟩
  · intro s t
    have hnew := orderly_new id config tracks
    have horderly : t.Orderly := hnew.run other
    have hmedia : s.media = t.media := by
      rw [media_run hnew one, media_run hnew other, hsame]
    refine ⟨fun kind => ?_, ?_, ?_, hmedia, fun result answers hreturned => ?_⟩
    · rw [← written_media, hmedia, written_media]
    · rw [← forwardExits_media, hmedia, forwardExits_media]
    · rw [← stop_media, hmedia, stop_media]
    · have hsettled : t.settled? = some result := by
        rw [← settled?_media, ← hmedia, settled?_media, settled?_of_returned hreturned]
      have hended := control_run_of_settled horderly hsettled answers
        (dues_run_le id config tracks other)
      refine ⟨hended, ?_, fun result' hreturned' => run_of_returned hreturned' answers 4⟩
      rw [← media_of_returned (hnew.run one) hreturned,
        ← media_of_returned (horderly.run _) hended, media_run_of_settled hsettled answers 4]
      exact hmedia

/-- A run that is stopped, up to where its owner has nothing to wait for but feedback. -/
def stopped : List Action :=
  let next : Action := .advance ⟨.ok 5000, .ok 5001, .ok (), .ok ()⟩ false
  [.run ⟨true, some 0⟩, next, next, next, next, .stop, next, next, next, .pump .video, .pump .video,
    .pump .audio, .pump .audio, next, next, next, next]

/-- The sinks of one run are stuck, those of the other one fail at once. -/
theorem feedback_spares_media_stuck :
    let next : Action := .advance ⟨.ok 5000, .ok 5001, .ok (), .ok ()⟩ true
    let failing : List Action := [.feedback .video (.failed "reset"), .feedback .audio .closed]
    let one := stopped ++ failing ++ [next, next, next, next]
    mediaActions (new "s" .default) one = mediaActions (new "s" .default) stopped ∧
      (run (new "s" .default) one).1.control = .returned (.ok ()) ∧
      (run (new "s" .default) (stopped ++ [next, next, next, next])).1.control =
        .returned (.ok ()) := by
  intro next failing one
  have hsame : mediaActions (new "s" .default) one = mediaActions (new "s" .default) stopped := rfl
  have hreturned : (run (new "s" .default) one).1.control = .returned (.ok ()) := rfl
  obtain ⟨-, -, -, -, hended⟩ :=
    feedback_spares_media.2.1 "s" .default (fun _ => unboundTrack) one stopped hsame
  obtain ⟨hcontrol, -⟩ := hended (.ok ()) ⟨.ok 5000, .ok 5001, .ok (), .ok ()⟩ hreturned
  rw [run_append]
  exact ⟨hsame, hreturned, hcontrol⟩

end RtpBridge.Session

-- SUMMARY: Whose failure a run returns, and when it is not the failure that stopped the session.
import RtpBridge.Proofs.Session.Chronicle
import RtpBridge.Proofs.Session.Inquest

/-!
# Blame

A run whose ports were bound returns what the exits of its forward pumps say: the failure of the
first pump in the order of launch. This is the failure that stopped the session, or none if no
failure did, unless another pump fails as well and comes first (`Session.returned_blames`). That
pump fails late, while the session is being torn down, or its task dies.
-/

namespace RtpBridge.Session

variable {s after : Session} {seen events : List Event} {stopper : Stopper}
  {ending : MediaKind → TaskEnd} {result : Except Error Unit}

/-! ## What a run returns -/

/-- That an owner with sockets keeps them until its relay has them, and that what it returns with
a relay is what the exits say. -/
structure Reckoning (s : Session) (seen : List Event) : Prop where
  bound : ∀ pair, .bound pair ∈ seen → s.control.pair?.isSome ∨ s.relay.isSome
  result : ∀ result, s.control = .returned result → s.relay.isSome → result = s.result none

theorem LeavesAlone.isSome_relay (h : s.LeavesAlone after) (hrelay : s.relay.isSome) :
    after.relay.isSome := by
  rcases h.relay with hsame | ⟨relay, stop, action, -, hafter⟩
  · rwa [hsame]
  · rw [hafter, Option.isSome_some]

theorem LeavesAlone.isSome_of_relay (h : s.LeavesAlone after) (hrelay : after.relay.isSome) :
    s.relay.isSome := by
  rcases h.relay with hsame | ⟨relay, stop, action, hbefore, -⟩
  · rwa [← hsame]
  · rw [hbefore, Option.isSome_some]

theorem result_none {relay : Relay} (hrelay : s.relay = some relay) : s.result none =
    match relay.forwardExits.findSome? (·.fault?) with
    | some fault => .error (.transport fault)
    | none => .ok () := by
  rw [Session.result, hrelay]
  rfl

/-- What the others do has no part in the result. -/
theorem LeavesAlone.result_eq (h : s.LeavesAlone after) (hjoined : s.PumpsAreJoined)
    (hrelay : s.relay.isSome) : after.result none = s.result none := by
  obtain ⟨relay, hsome⟩ := Option.isSome_iff_exists.1 hrelay
  obtain ⟨next, hnext⟩ := Option.isSome_iff_exists.1 (h.isSome_relay hrelay)
  let P (other : Relay) : Prop :=
    other.pumpsJoined ∧ other.forwardExits = relay.forwardExits
  have hP : ∀ other stop action, P other → P (Relay.step other stop action).1 :=
    fun other stop action ⟨hother, hexits⟩ => ⟨Relay.pumpsJoined_step hother stop action,
      (Relay.forwardExits_step_of_joined hother stop action).trans hexits⟩
  have hnow : P next := h.forall_relay hP
    (forall_relay_of_eq_some hsome ⟨hjoined relay hsome, rfl⟩) next hnext
  rw [result_none hnext, result_none hsome, hnow.2]

theorem Reckoning.leaveAlone (h : s.Reckoning seen) (horderly : s.Orderly)
    (hleaves : s.LeavesAlone after) (hevents : ∀ event ∈ events, event.place? = none) :
    after.Reckoning (seen ++ events) where
  bound pair hmem := by
    rw [hleaves.control]
    exact (h.bound pair (mem_of_place? rfl hevents hmem)).imp_right hleaves.isSome_relay
  result result hcontrol hrelay := by
    have hbefore := hleaves.isSome_of_relay hrelay
    have hplace := horderly.place
    rw [hleaves.control] at hcontrol
    rw [hcontrol] at hplace
    rw [hleaves.result_eq hplace.2.2.2.1 hbefore]
    exact h.result result hcontrol hbefore

/-- An owner that goes on without its sockets has handed them to a relay, or never had any. -/
theorem Reckoning.goTo (h : s.Reckoning seen) (hrelay : after.relay.isSome = s.relay.isSome)
    (hpair : s.control.pair? = none ∨ after.control.pair?.isSome)
    (hreturned : ∀ result, after.control ≠ .returned result)
    (hevents : ∀ pair, .bound pair ∉ events) : after.Reckoning (seen ++ events) where
  bound pair hmem := by
    have hseen := (List.mem_append.1 hmem).resolve_right (hevents pair)
    rw [hrelay]
    refine (h.bound pair hseen).imp_left fun hbefore => hpair.resolve_left fun hnone => ?_
    rw [hnone] at hbefore
    cases hbefore
  result result hcontrol := absurd hcontrol (hreturned result)

theorem Reckoning.tearDown (h : s.Reckoning seen) (horderly : s.Orderly) {stage : Teardown}
    {fault : Option BindFault} (hcontrol : s.control = .tearingDown stage fault)
    (isGraceOver : Bool) : (s.tearDown stage fault isGraceOver).1.Reckoning
      (seen ++ (s.tearDown stage fault isGraceOver).2) := by
  have hpair : s.control.pair? = none := by
    rw [hcontrol]
    rfl
  have hreturned (result : Except Error Unit) : s.control ≠ .returned result := by
    rw [hcontrol]
    exact fun h => by cases h
  have hjoined {exits : List PumpExit} {f : PumpExit → Event}
      (hf : ∀ exit pair, f exit ≠ .bound pair)
      (pair : IngressPair) : .bound pair ∉ exits.map f := fun hmem => by
    obtain ⟨exit, -, heq⟩ := List.mem_map.1 hmem
    exact hf exit pair heq
  cases stage with
  | clearInput | closeConnection =>
    exact h.goTo rfl (.inl hpair) (fun _ h => by cases h) fun _ hmem =>
      by cases List.mem_singleton.1 hmem
  | raiseClose =>
    cases hrelay : s.relay with
    | none =>
      simp only [Session.tearDown, hrelay]
      exact h.goTo rfl (.inl hpair) (fun _ h => by cases h) fun _ => List.not_mem_nil
    | some relay =>
      simp only [Session.tearDown, hrelay]
      refine h.goTo (by rw [hrelay]; rfl) (.inl hpair) (fun _ h => by cases h) fun pair hmem => ?_
      cases List.mem_singleton.1 hmem
  | joinPumps | joinSinks =>
    cases hrelay : s.relay with
    | none =>
      simp only [Session.tearDown, hrelay]
      exact h.goTo rfl (.inl hpair) (fun _ h => by cases h) fun _ => List.not_mem_nil
    | some relay =>
      simp only [Session.tearDown, hrelay]
      split
      · exact h.goTo rfl (.inl hpair) (fun _ h => by cases h) fun _ => List.not_mem_nil
      · split
        · exact h.goTo (by rw [hrelay]; rfl) (.inl hpair) hreturned
            (hjoined fun _ _ h => by cases h)
        · exact h.goTo rfl (.inl hpair) hreturned fun _ => List.not_mem_nil
  | terminate =>
    have hplace := horderly.place
    rw [hcontrol] at hplace
    refine ⟨fun pair hmem => ?_, fun result hresult hrelay => ?_⟩
    · have hseen := (List.mem_append.1 hmem).resolve_right fun hmem =>
        by cases List.mem_singleton.1 hmem
      refine (h.bound pair hseen).imp_left fun hbefore => ?_
      rw [hpair] at hbefore
      cases hbefore
    · -- A run with a relay had no trouble with its ports.
      cases fault with
      | none =>
        cases hresult
        rfl
      | some fault =>
        have hnone : s.relay = none := hplace.2.2 rfl
        have hsome : s.relay.isSome := hrelay
        rw [hnone] at hsome
        cases hsome

theorem Reckoning.advance (h : s.Reckoning seen) (horderly : s.Orderly)
    (answers : Ingress.Answers) (isGraceOver : Bool) :
    (s.advance answers isGraceOver).1.Reckoning (seen ++ (s.advance answers isGraceOver).2) := by
  cases hcontrol : s.control with
  | unowned | returned | closed =>
    simp only [Session.advance, hcontrol]
    exact h.leaveAlone horderly (.refl s) place?_of_mem_nil
  | binding callbacks =>
    have hpair : s.control.pair? = none := by
      rw [hcontrol]
      rfl
    simp only [Session.advance, hcontrol]
    split
    · exact ⟨fun _ _ => .inl rfl, fun _ hresult => by cases hresult⟩
    · exact h.goTo rfl (.inl hpair) (fun _ h => by cases h) fun _ hmem =>
        by cases List.mem_singleton.1 hmem
  | abandoning fault =>
    have hpair : s.control.pair? = none := by
      rw [hcontrol]
      rfl
    simp only [Session.advance, hcontrol, triggerStop]
    refine h.goTo rfl (.inl hpair) (fun _ h => by cases h) fun pair hmem => ?_
    split at hmem
    · cases List.mem_singleton.1 hmem
    · cases hmem
  | reporting pair callbacks =>
    simp only [Session.advance, hcontrol, report]
    split
    · exact h.goTo rfl (.inr rfl) (fun _ h => by cases h) fun _ hmem =>
        by cases List.mem_singleton.1 hmem
    · exact h.goTo rfl (.inr rfl) (fun _ h => by cases h) fun _ => List.not_mem_nil
  | installing pair input =>
    simp only [Session.advance, hcontrol, install]
    split
    · exact h.goTo rfl (.inr rfl) (fun _ h => by cases h) fun _ hmem =>
        by cases List.mem_singleton.1 hmem
    · exact h.goTo rfl (.inr rfl) (fun _ h => by cases h) fun _ => List.not_mem_nil
  | launching pair =>
    simp only [Session.advance, hcontrol]
    exact ⟨fun _ _ => .inr rfl, fun _ hresult => by cases hresult⟩
  | parked =>
    have hpair : s.control.pair? = none := by
      rw [hcontrol]
      rfl
    simp only [Session.advance, hcontrol]
    split
    · exact h.goTo rfl (.inl hpair) (fun _ h => by cases h) fun _ => List.not_mem_nil
    · exact h.leaveAlone horderly (.refl s) place?_of_mem_nil
  | tearingDown stage fault =>
    simp only [Session.advance, hcontrol]
    exact h.tearDown horderly hcontrol isGraceOver
  | closing stage =>
    have hpair : s.control.pair? = none := by
      rw [hcontrol]
      rfl
    simp only [Session.advance, hcontrol]
    cases stage with
    | trigger =>
      simp only [stepClosing, triggerStop]
      refine h.goTo rfl (.inl hpair) (fun _ h => by cases h) fun pair hmem => ?_
      split at hmem
      · cases List.mem_singleton.1 hmem
      · cases hmem
    | clearInput | closeConnection =>
      exact h.goTo rfl (.inl hpair) (fun _ h => by cases h) fun _ hmem =>
        by cases List.mem_singleton.1 hmem

theorem Reckoning.step (h : s.Reckoning seen) (horderly : s.Orderly) (action : Action) :
    (s.step action).1.Reckoning (seen ++ (s.step action).2) := by
  have hunowned (hidle : s.lifecycle = .idle) : s.control.pair? = none := by
    rw [horderly.unowned_of_idle hidle]
    rfl
  cases action with
  | advance answers isGraceOver => exact h.advance horderly answers isGraceOver
  | run callbacks =>
    simp only [Session.step, beginRun]
    split
    · next hidle =>
      exact h.goTo rfl (.inl (hunowned hidle)) (fun _ h => by cases h) fun _ hmem =>
        by cases List.mem_singleton.1 hmem
    · exact h.leaveAlone horderly (.refl s) (by simp)
  | closeIfIdle =>
    simp only [Session.step, beginClose]
    split
    · next hidle =>
      exact h.goTo rfl (.inl (hunowned hidle)) (fun _ h => by cases h) fun _ hmem =>
        by cases List.mem_singleton.1 hmem
    · exact h.leaveAlone horderly (.refl s) (by simp)
  | stop | connectionFailed =>
    refine h.leaveAlone horderly (leavesAlone_triggerStop _ s) ?_
    simp only [Session.step, triggerStop]
    split <;> simp
  | arrive kind arrival =>
    exact h.leaveAlone horderly (leavesAlone_arrive kind arrival s) place?_of_mem_nil
  | feedback kind outcome =>
    exact h.leaveAlone horderly (leavesAlone_feedback kind outcome s) place?_of_mem_nil
  | message octets =>
    exact h.leaveAlone horderly (.refl s) (place?_of_mem_map fun _ => rfl)
  | pump kind =>
    exact h.leaveAlone horderly (leavesAlone_pump kind s) fun _ => place?_of_mem_snd_pump

/-! ## Runs -/

/-- All that is known of a session from what was seen of it. -/
structure Findings (s : Session) (seen : List Event) : Prop where
  orderly : s.Orderly
  pumps : s.PumpsSeen seen
  inquest : s.Inquest seen
  reckoning : s.Reckoning seen

theorem findings_new (id : String) (config : Config) (tracks : MediaKind → Sink) :
    ({ new id config with tracks } : Session).Findings [] where
  orderly := orderly_new id config tracks
  pumps := ⟨fun _ => isOfPumps_of_mem_nil, fun _ hrelay => nomatch hrelay⟩
  inquest := inquest_new id config tracks
  reckoning := ⟨fun _ hmem => absurd hmem List.not_mem_nil, fun _ hresult => nomatch hresult⟩

theorem Findings.step (h : s.Findings seen) (action : Action) :
    (s.step action).1.Findings (seen ++ (s.step action).2) where
  orderly := h.orderly.step action
  pumps := h.pumps.step h.orderly action
  inquest := h.inquest.step h.orderly h.pumps action
  reckoning := h.reckoning.step h.orderly action

theorem Findings.run (h : s.Findings seen) (schedule : List Action) :
    (s.run schedule).1.Findings (seen ++ (s.run schedule).2) := by
  induction schedule generalizing s seen with
  | nil =>
    rw [run_nil, List.append_nil]
    exact h
  | cons action rest ih =>
    rw [fst_run_cons, snd_run_cons, ← List.append_assoc]
    exact ih (h.step action)

/-- What a run ought to return when its pumps have ended like this, by who stopped it: the failure
of a pump that did. -/
def Stopper.verdict (ending : MediaKind → TaskEnd) : Stopper → Except Error Unit
  | .pump kind => (ending kind).exit.fault?.elim (.ok ()) fun fault => .error (.transport fault)
  | .host | .owner | .connection => .ok ()

/-- That one of these stopped a run whose pumps ended like this, and what it returned for it. -/
structure Blames (seen : List Event) (result : Except Error Unit) (stopper : Stopper)
    (ending : MediaKind → TaskEnd) : Prop where
  once : stoppers seen = [stopper]
  ended : ∀ kind, endings kind seen = [ending kind]
  /-- A pump stops a session by failing. -/
  failed : ∀ kind, stopper = .pump kind → ∃ fault, ending kind = .returned (.failed fault)
  /-- The failure of the first pump in the order of launch is returned. -/
  returns : result = if (ending .video).exit = .closed then Stopper.verdict ending (.pump .audio)
    else Stopper.verdict ending (.pump .video)
  /-- It is the one that stopped the session, unless another pump has failed and comes first. -/
  right : result = stopper.verdict ending ↔ stopper = .pump .video ∨
    ∀ kind, stopper ≠ .pump kind → (ending kind).exit = .closed
  /-- A pump that failed and did not stop the session died, or failed when it was stopped. -/
  late : ∀ kind, stopper ≠ .pump kind → (ending kind).exit ≠ .closed → ending kind = .died ∨
    ∃ before after, seen = before ++ .pumpEnded kind (ending kind) :: after ∧
      stoppers before = [stopper]

/-! ### Verdicts -/

theorem verdict_of_closed {kind : MediaKind} (h : (ending kind).exit = .closed) :
    Stopper.verdict ending (.pump kind) = .ok () := by
  simp only [Stopper.verdict, h, PumpExit.fault?, Option.elim_none]

theorem verdict_of_failed {kind : MediaKind} {fault : TransportFault}
    (h : (ending kind).exit = .failed fault) :
    Stopper.verdict ending (.pump kind) = .error (.transport fault) := by
  simp only [Stopper.verdict, h, PumpExit.fault?, Option.elim_some]

/-- The failure of the video pump is not taken for one of the audio pump. -/
theorem verdict_ne (hnames : ∀ kind fault, ending kind = .returned (.failed fault) →
    fault.kind? = some kind) (hvideo : (ending .video).exit ≠ .closed)
    {fault : TransportFault} (haudio : ending .audio = .returned (.failed fault)) :
    Stopper.verdict ending (.pump .video) ≠ Stopper.verdict ending (.pump .audio) := by
  have hkind : fault.kind? = some .audio := hnames .audio fault haudio
  have hexit : (ending .audio).exit = .failed fault := by rw [haudio, TaskEnd.exit]
  intro heq
  rw [verdict_of_failed hexit] at heq
  cases hend : ending .video with
  | died =>
    have hdied : (ending .video).exit = .failed .taskDied := by rw [hend, TaskEnd.exit]
    rw [verdict_of_failed hdied] at heq
    cases heq
    cases hkind
  | returned exit =>
    cases exit with
    | closed => exact hvideo (by rw [hend, TaskEnd.exit])
    | failed other =>
      have hother : (ending .video).exit = .failed other := by rw [hend, TaskEnd.exit]
      rw [verdict_of_failed hother] at heq
      cases heq
      cases hkind.symm.trans (hnames .video fault hend)

/-- The verdict is right unless a pump that did not stop the session has failed and comes before
the one that did, if one did. -/
theorem eq_verdict_iff (hnames : ∀ kind fault, ending kind = .returned (.failed fault) →
      fault.kind? = some kind)
    (hfailed : ∀ kind, stopper = .pump kind → ∃ fault, ending kind = .returned (.failed fault))
    (hreturns : result = if (ending .video).exit = .closed then
      Stopper.verdict ending (.pump .audio) else Stopper.verdict ending (.pump .video)) :
    result = stopper.verdict ending ↔ stopper = .pump .video ∨
      ∀ kind, stopper ≠ .pump kind → (ending kind).exit = .closed := by
  have hnotClosed {kind : MediaKind} (hstopper : stopper = .pump kind) :
      (ending kind).exit ≠ .closed := by
    obtain ⟨fault, hfault⟩ := hfailed kind hstopper
    rw [hfault]
    exact nofun
  rw [hreturns]
  cases stopper with
  | pump kind =>
    cases kind with
    | video =>
      rw [if_neg (hnotClosed rfl)]
      exact iff_of_true rfl (.inl rfl)
    | audio =>
      by_cases hvideo : (ending .video).exit = .closed
      · rw [if_pos hvideo]
        refine iff_of_true rfl (.inr fun kind hne => ?_)
        cases kind with
        | video => exact hvideo
        | audio => exact absurd rfl hne
      · obtain ⟨fault, haudio⟩ := hfailed .audio rfl
        rw [if_neg hvideo]
        refine iff_of_false (verdict_ne hnames hvideo haudio) fun h => ?_
        exact hvideo ((h.resolve_left nofun) .video nofun)
  | host | owner | connection =>
    by_cases hvideo : (ending .video).exit = .closed
    · rw [if_pos hvideo]
      cases haudio : (ending .audio).exit with
      | closed =>
        rw [verdict_of_closed haudio]
        refine iff_of_true rfl (.inr fun kind _ => ?_)
        cases kind with
        | video => exact hvideo
        | audio => exact haudio
      | failed fault =>
        rw [verdict_of_failed haudio]
        refine iff_of_false nofun fun h => ?_
        cases haudio.symm.trans ((h.resolve_left nofun) .audio nofun)
    · obtain ⟨fault, hfault⟩ : ∃ fault, (ending .video).exit = .failed fault := by
        cases hexit : (ending .video).exit with
        | closed => exact absurd hexit hvideo
        | failed fault => exact ⟨fault, rfl⟩
      rw [if_neg hvideo, verdict_of_failed hfault]
      refine iff_of_false nofun fun h => ?_
      exact hvideo ((h.resolve_left nofun) .video nofun)

/-! ### The returned result -/

/-- When both pumps are waited for, how they ended was seen, and the exits say so. -/
theorem Findings.exists_ending {relay : Relay} (h : s.Findings seen) (hrelay : s.relay = some relay)
    (hjoined : relay.pumpsJoined) (kind : MediaKind) : ∃ ending, endings kind seen = [ending] ∧
      relay.forwardExits[kind.index]? = some ending.exit ∧
      ∀ fault, ending = .returned (.failed fault) → fault.kind? = some kind := by
  obtain ⟨link, hlink⟩ := (h.pumps.relay relay hrelay).getElem? kind
  obtain ⟨ending, hending, hexit⟩ := (h.orderly.accounts relay hrelay).ending? hjoined hlink
  have hpump : s.pumpOf? kind = some link.pump := by
    rw [pumpOf?_eq hrelay, hlink, Option.map_some]
  refine ⟨ending, ?_, hexit, fun fault hfault => ?_⟩
  · rw [h.inquest.ended, hpump, Option.bind_some, hending, Option.toList_some]
  · exact (h.inquest.pumps kind _ hpump).names fault (hfault ▸ hending)

/-- What the exits of the pumps say is the verdict on the first one that has failed. -/
theorem result_of_exits {relay : Relay} (hrelay : s.relay = some relay)
    (hexits : relay.forwardExits = [(ending .video).exit, (ending .audio).exit]) :
    s.result none = if (ending .video).exit = .closed then Stopper.verdict ending (.pump .audio)
      else Stopper.verdict ending (.pump .video) := by
  rw [result_none hrelay, hexits]
  cases hvideo : (ending .video).exit with
  | failed fault => simp [Stopper.verdict, hvideo, PumpExit.fault?]
  | closed =>
    cases haudio : (ending .audio).exit <;> simp [Stopper.verdict, haudio, PumpExit.fault?]

/-- A pump that failed and did not stop the session failed after it was stopped, or died. -/
theorem Findings.late (h : s.Findings seen) (hstopper : stoppers seen = [stopper])
    {kind : MediaKind} {ended : TaskEnd} (hended : endings kind seen = [ended])
    (hkind : stopper ≠ .pump kind) (hexit : ended.exit ≠ .closed) : ended = .died ∨
      ∃ before after, seen = before ++ .pumpEnded kind ended :: after ∧
        stoppers before = [stopper] := by
  cases ended with
  | died => exact .inl rfl
  | returned exit =>
    cases exit with
    | closed => exact absurd rfl hexit
    | failed fault =>
      have hmem : .returned (.failed fault) ∈ endings kind seen := by
        rw [hended]
        exact List.mem_singleton_self _
      have hnot : .pump kind ∉ stoppers seen := by
        rw [hstopper, List.mem_singleton]
        exact fun heq => hkind heq.symm
      obtain ⟨before, after, hseen, hbefore⟩ := h.inquest.late kind fault hmem hnot
      refine .inr ⟨before, after, hseen, ?_⟩
      have hprefix : stoppers before <+: [stopper] := by
        rw [← hstopper, hseen, stoppers_append]
        exact List.prefix_append ..
      have hpos : 0 < (stoppers before).length := List.length_pos_iff.2 hbefore
      exact hprefix.eq_of_length (Nat.le_antisymm hprefix.length_le hpos)

theorem Findings.blames (h : s.Findings seen) {pair : IngressPair} (hbound : .bound pair ∈ seen)
    (hreturned : s.control = .returned result) :
    ∃ stopper ending, Blames seen result stopper ending := by
  have hplace := h.orderly.place
  rw [hreturned] at hplace
  obtain ⟨-, hstop, -, hpumps, -⟩ := hplace
  have hsome : s.relay.isSome := (h.reckoning.bound pair hbound).resolve_left fun hpair => by
    rw [hreturned] at hpair
    cases hpair
  obtain ⟨relay, hrelay⟩ := Option.isSome_iff_exists.1 hsome
  have hjoined : relay.pumpsJoined := hpumps relay hrelay
  -- The latch is triggered by the end, so someone was seen to trigger it.
  have hlength : (stoppers seen).length = 1 := by rw [h.inquest.latch, if_pos hstop]
  obtain ⟨stopper, hstopper⟩ := List.length_eq_one_iff.1 hlength
  choose ending hended hexit hnames using h.exists_ending hrelay hjoined
  have hexits : relay.forwardExits = [(ending .video).exit, (ending .audio).exit] := by
    have htwo : relay.forwardExits.length = 2 :=
      (beq_iff_eq.1 hjoined).trans (h.pumps.relay relay hrelay).length
    obtain ⟨first, second, hpair⟩ := List.length_eq_two.1 htwo
    have hvideo := hexit .video
    have haudio := hexit .audio
    rw [hpair] at hvideo haudio
    rw [hpair, Option.some.inj hvideo, Option.some.inj haudio]
  have hfailed (kind : MediaKind) (hkind : stopper = .pump kind) :
      ∃ fault, ending kind = .returned (.failed fault) := by
    obtain ⟨fault, hfault⟩ := h.inquest.failed kind (by rw [hstopper, hkind]; simp)
    rw [hended, List.mem_singleton] at hfault
    exact ⟨fault, hfault.symm⟩
  have hreturns := (h.reckoning.result result hreturned hsome).trans (result_of_exits hrelay hexits)
  exact ⟨stopper, ending, hstopper, hended, hfailed, hreturns,
    eq_verdict_iff hnames hfailed hreturns, fun kind => h.late hstopper (hended kind)⟩

/-- A run whose ports were bound was stopped once, and that it was and how its pumps ended was seen.
It returns the failure of the first pump in the order of launch, if one has failed. That is what it
was stopped for, or no failure if it was not stopped for one, unless some other pump has failed as
well and comes before. Then that pump failed when the session was stopped already, or died. -/
theorem returned_blames (id : String) (config : Config) (tracks : MediaKind → Sink)
    (schedule : List Action) {pair : IngressPair} {result : Except Error Unit}
    (hbound : .bound pair ∈ (run { new id config with tracks } schedule).2)
    (hreturned : (run { new id config with tracks } schedule).1.control = .returned result) :
    ∃ stopper ending,
      Blames (run { new id config with tracks } schedule).2 result stopper ending :=
  ((findings_new id config tracks).run schedule).blames hbound hreturned

/-- The owner's steps, with an operating system that has two ports to give. -/
def ownerStep : Action := .advance ⟨.ok 5000, .ok 5001, .ok (), .ok ()⟩ true

/-- A run up to where it waits for the latch, with a datagram on each of these ports that its track
refuses. -/
def launched (kinds : List MediaKind) : List Action :=
  [.run ⟨true, none⟩, ownerStep, ownerStep, ownerStep, ownerStep] ++
    kinds.map (.arrive · (.datagram [0x80]))

/-- The owner goes on until the pumps are told to close, and they read what is queued. -/
def tornDown : List Action :=
  [ownerStep, ownerStep, ownerStep, .pump .video, .pump .video, .pump .audio, .pump .audio] ++
    List.replicate 8 ownerStep

theorem returned_blames_video :
    let schedule := launched [.video] ++ [.pump .video] ++ tornDown
    .bound ⟨⟨.video, 5000⟩, ⟨.audio, 5001⟩⟩ ∈ (run (new "s" .default) schedule).2 ∧
      (run (new "s" .default) schedule).1.control = .returned (.error (.transport
        (.trackWrite .video "RTP header size insufficient"))) ∧
      ∃ stopper ending, Blames (run (new "s" .default) schedule).2 (.error (.transport
        (.trackWrite .video "RTP header size insufficient"))) stopper ending := by
  intro schedule
  have hbound : .bound ⟨⟨.video, 5000⟩, ⟨.audio, 5001⟩⟩ ∈ (run (new "s" .default) schedule).2 := by
    decide +kernel
  have hreturned : (run (new "s" .default) schedule).1.control = .returned (.error (.transport
      (.trackWrite .video "RTP header size insufficient"))) := rfl
  exact ⟨hbound, hreturned, returned_blames "s" .default _ schedule hbound hreturned⟩

/-- A pump that fails when the session was stopped already is blamed for the stop all the same: the
video pump for that of the audio pump, and the audio pump for that of the host. -/
theorem late_failure_is_blamed :
    (stoppers (run (new "s" .default)
        (launched [.audio, .video] ++ [.pump .audio] ++ tornDown)).2 = [.pump .audio] ∧
      (run (new "s" .default)
        (launched [.audio, .video] ++ [.pump .audio] ++ tornDown)).1.control =
        .returned (.error (.transport (.trackWrite .video "RTP header size insufficient")))) ∧
    (stoppers (run (new "s" .default) (launched [.audio] ++ [.stop] ++ tornDown)).2 = [.host] ∧
      (run (new "s" .default) (launched [.audio] ++ [.stop] ++ tornDown)).1.control =
        .returned (.error (.transport (.trackWrite .audio "RTP header size insufficient")))) :=
  ⟨⟨by decide +kernel, rfl⟩, by decide +kernel, rfl⟩

end RtpBridge.Session

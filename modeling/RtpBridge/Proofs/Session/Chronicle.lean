-- SUMMARY: What has been seen of a session by the time that its owner is at a place of the work.
import RtpBridge.Proofs.Session.Pumps

/-!
# What has been seen

The owner of a session goes from place to place, and what has been seen tells the places that it
has left behind (`Control.Placed`), whether the host knows the ports (`Told`) and what the pumps
have done (`PumpsSeen`). Together this is the session's `Chronicle`; every step goes on with it. From
it follows what was done at the moment at which the connection is closed, or the session over.
-/

namespace RtpBridge.Session

variable {wantsPorts : Bool} {s after : Session} {seen events : List Event}
  {control next : Control}

/-! ## Places of the owner -/

/-- Whether the session was taken by a close. -/
@[simp] def Control.isClosing : Control → Bool
  | .closing _ | .closed => true
  | _ => false

/-- The place of the owner in its work, counted from the start. A close keeps step with the
teardown of a run. -/
@[simp] def Control.place : Control → Nat
  | .unowned => 0
  | .binding _ => 1
  | .abandoning _ | .reporting .. => 2
  | .installing .. => 3
  | .launching _ => 4
  | .parked | .closing .trigger => 5
  | .tearingDown .clearInput _ | .closing .clearInput => 6
  | .tearingDown .raiseClose _ => 7
  | .tearingDown .joinPumps _ => 8
  | .tearingDown .closeConnection _ | .closing .closeConnection => 9
  | .tearingDown .joinSinks _ | .closed => 10
  | .tearingDown .terminate _ => 11
  | .returned _ => 12

/-- The one place at which the owner brings about an event. -/
@[simp] def Event.place? : Event → Option Nat
  | .runBegan => some 0
  | .bound _ | .bindFailed _ => some 1
  | .portsReported _ => some 2
  | .inputInstalled _ => some 3
  | .inputCleared => some 6
  | .connectionClosed => some 9
  | .terminated => some 11
  | _ => none

/-- What no owner leaves out on its way. -/
@[simp] def milestones : List Event := [.inputCleared, .connectionClosed, .terminated]

/-- That what was seen of the owner lies behind it, and that the milestones behind it were seen. -/
structure Control.Placed (control : Control) (seen : List Event) : Prop where
  behind : ∀ event ∈ seen, ∀ place, event.place? = some place → place < control.place
  reached : ∀ event ∈ milestones, ∀ place, event.place? = some place → place < control.place →
    event ∈ seen
  /-- At each place the owner brings about one event at most. -/
  once : ∀ place, seen.countP (·.place? == some place) ≤ 1
  closing : control.isClosing → .runBegan ∉ seen

/-- How an owner goes on: it brings about what belongs to its place and leaves the place for good,
and it does not pass by a milestone. -/
structure Control.GoesOn (control next : Control) (events : List Event) : Prop where
  le : control.place ≤ next.place
  inPlace : ∀ event ∈ events, ∀ place, event.place? = some place →
    control.place = place ∧ place < next.place
  passes : ∀ event ∈ milestones, ∀ place, event.place? = some place → control.place ≤ place →
    place < next.place → event ∈ events
  once : events.countP (·.place?.isSome) ≤ 1
  closing : next.isClosing → (control.isClosing ∨ control.place = 0) ∧ .runBegan ∉ events

theorem place?_of_mem_nil : ∀ event ∈ ([] : List Event), event.place? = none :=
  fun _ hevent => absurd hevent List.not_mem_nil

theorem Control.goesOn_refl (h : ∀ event ∈ events, event.place? = none) :
    control.GoesOn control events where
  le := Nat.le_refl _
  inPlace event hevent place hplace := by
    rw [h event hevent] at hplace
    cases hplace
  passes _ _ _ _ hle hlt := absurd hlt (Nat.not_lt.2 hle)
  once := by
    have hnone : events.countP (·.place?.isSome) = 0 :=
      List.countP_eq_zero.2 fun event hevent => by rw [h event hevent]; exact Bool.false_ne_true
    omega
  closing hclosing := ⟨.inl hclosing, fun hbegan => nomatch h _ hbegan⟩

theorem Control.goesOn_self (control : Control) : control.GoesOn control [] :=
  goesOn_refl place?_of_mem_nil

theorem Control.Placed.goOn (h : control.Placed seen) (hgo : control.GoesOn next events) :
    next.Placed (seen ++ events) := by
  refine ⟨fun event hevent place hplace => ?_, fun event hevent place hplace hlt => ?_,
    fun place => ?_, fun hclosing hbegan => ?_⟩
  · rcases List.mem_append.1 hevent with hevent | hevent
    · exact Nat.lt_of_lt_of_le (h.behind event hevent place hplace) hgo.le
    · exact (hgo.inPlace event hevent place hplace).2
  · rcases Nat.lt_or_ge place control.place with hbehind | hahead
    · exact List.mem_append_left _ (h.reached event hevent place hplace hbehind)
    · exact List.mem_append_right _ (hgo.passes event hevent place hplace hahead hlt)
  · rw [List.countP_append]
    by_cases hnew : ∃ event ∈ events, event.place? = some place
    · -- What is brought about at this place now was not seen before.
      obtain ⟨event, hevent, hplace⟩ := hnew
      have hhere := (hgo.inPlace event hevent place hplace).1
      have hbefore : seen.countP (·.place? == some place) = 0 := by
        refine List.countP_eq_zero.2 fun earlier hearlier heq => ?_
        have hlt := h.behind earlier hearlier place (eq_of_beq heq)
        omega
      have hle : events.countP (·.place? == some place) ≤ events.countP (·.place?.isSome) :=
        List.countP_mono_left fun later _ heq => by rw [eq_of_beq heq, Option.isSome_some]
      have honce := hgo.once
      omega
    · have hnone : events.countP (·.place? == some place) = 0 :=
        List.countP_eq_zero.2 fun event hevent heq => hnew ⟨event, hevent, eq_of_beq heq⟩
      have honce := h.once place
      omega
  · obtain ⟨hbefore, hnew⟩ := hgo.closing hclosing
    rcases List.mem_append.1 hbegan with hbegan | hbegan
    · rcases hbefore with hbefore | hzero
      · exact h.closing hbefore hbegan
      · exact absurd (hzero ▸ h.behind _ hbegan 0 rfl) (Nat.lt_irrefl 0)
    · exact hnew hbegan

/-! ### Steps -/

@[simp] theorem control_goTo (control : Control) (s : Session) :
    (s.goTo control).control = control := rfl

/-- Taking a session brings its owner from no place to the first one of its work. -/
theorem goesOn_take (hplace : control.place = 0) (hnext : next.place ≤ 5)
    (hevents : ∀ event ∈ events, ∀ place, event.place? = some place → place = 0 ∧ 0 < next.place)
    (honce : events.countP (·.place?.isSome) ≤ 1)
    (hclosing : next.isClosing → .runBegan ∉ events) : control.GoesOn next events where
  le := hplace ▸ Nat.zero_le _
  inPlace event hevent place h := by
    obtain ⟨rfl, hpos⟩ := hevents event hevent place h
    exact ⟨hplace, hpos⟩
  passes event hevent place h _ hlt := by
    -- All milestones lie at the sixth place or beyond.
    have hfar : 6 ≤ place := by
      simp only [milestones, List.mem_cons, List.not_mem_nil, or_false] at hevent
      rcases hevent with rfl | rfl | rfl <;> cases h <;> decide
    omega
  once := honce
  closing h := ⟨.inr hplace, hclosing h⟩

theorem place?_of_mem_map {α : Type} {f : α → Event} {items : List α}
    (h : ∀ item, (f item).place? = none) : ∀ event ∈ items.map f, event.place? = none := by
  intro event hevent
  obtain ⟨item, -, rfl⟩ := List.mem_map.1 hevent
  exact h item

theorem goesOn_tearDown {stage : Teardown} {fault : Option BindFault}
    (hcontrol : s.control = .tearingDown stage fault) (isGraceOver : Bool) :
    s.control.GoesOn (s.tearDown stage fault isGraceOver).1.control
      (s.tearDown stage fault isGraceOver).2 := by
  rw [hcontrol]
  unfold tearDown
  cases stage with
  | clearInput | closeConnection =>
    cases s.relay <;> constructor <;> simp [clearInput, Session.closeConnection]
  | raiseClose => cases s.relay <;> constructor <;> simp
  | joinPumps | joinSinks =>
    cases s.relay with
    | none => constructor <;> simp
    | some relay =>
      simp only
      split
      · constructor <;> simp
      · split
        · rw [hcontrol]
          exact Control.goesOn_refl (place?_of_mem_map fun _ => rfl)
        · rw [hcontrol]
          exact Control.goesOn_self _
  | terminate => constructor <;> simp

theorem goesOn_advance (answers : Ingress.Answers) (isGraceOver : Bool) (s : Session) :
    s.control.GoesOn (s.advance answers isGraceOver).1.control
      (s.advance answers isGraceOver).2 := by
  cases hcontrol : s.control with
  | unowned | returned | closed =>
    simp only [advance, hcontrol]
    exact Control.goesOn_self _
  | binding callbacks =>
    simp only [advance, hcontrol]
    split <;> constructor <;> simp
  | abandoning fault =>
    simp only [advance, hcontrol, triggerStop]
    split <;> constructor <;> simp
  | reporting pair callbacks =>
    simp only [advance, hcontrol, report]
    split <;> constructor <;> simp
  | installing pair input =>
    simp only [advance, hcontrol, install]
    split <;> constructor <;> simp
  | launching pair =>
    simp only [advance, hcontrol, launch]
    constructor <;> simp
  | parked =>
    simp only [advance, hcontrol]
    split
    · constructor <;> simp
    · rw [hcontrol]
      exact Control.goesOn_self _
  | tearingDown stage fault =>
    simp only [advance, hcontrol]
    exact hcontrol ▸ goesOn_tearDown hcontrol isGraceOver
  | closing stage =>
    simp only [advance, hcontrol]
    cases stage with
    | trigger =>
      simp only [stepClosing, triggerStop]
      split <;> constructor <;> simp
    | clearInput | closeConnection =>
      constructor <;> simp [stepClosing, clearInput, Session.closeConnection]

/-! ## What the host is told -/

/-- What the owner was given by the host, as long as it has not told the ports. -/
def Control.callbacks? : Control → Option Callbacks
  | .binding callbacks | .reporting _ callbacks => some callbacks
  | _ => none

/-- Whether the owner is between telling the ports and the launch. -/
def Control.hasReported : Control → Bool
  | .installing .. | .launching _ => true
  | _ => false

/-- That samples may be written or messages delivered, now or in the owner's next steps. -/
def Serves (s : Session) : Prop :=
  s.control.hasReported ∨ s.relay ≠ none ∨ s.input.callback ≠ none

/-- That the host knows the ports, if it wants to be told. -/
def PortsAreKnown (wantsPorts : Bool) (seen : List Event) : Prop :=
  wantsPorts → ∃ ports, .portsReported ports ∈ seen

/-- That the owner still knows what the host wants, and that the host knows the ports before it
gets to notice anything else of the session. -/
structure Told (wantsPorts : Bool) (s : Session) (seen : List Event) : Prop where
  wants : ∀ callbacks, s.control.callbacks? = some callbacks → callbacks.takesPorts = wantsPorts
  known : s.Serves → PortsAreKnown wantsPorts seen

theorem PortsAreKnown.append (h : PortsAreKnown wantsPorts seen) (events : List Event) :
    PortsAreKnown wantsPorts (seen ++ events) := fun hwants => by
  obtain ⟨ports, hports⟩ := h hwants
  exact ⟨ports, List.mem_append_left _ hports⟩

theorem Told.of_frame (h : s.Told wantsPorts seen)
    (hwants : ∀ callbacks, after.control.callbacks? = some callbacks →
      s.control.callbacks? = some callbacks)
    (hreported : after.control.hasReported → s.control.hasReported)
    (hrelay : after.relay ≠ none → s.relay ≠ none)
    (hinput : after.input.callback ≠ none → s.input.callback ≠ none) :
    after.Told wantsPorts (seen ++ events) where
  wants callbacks hcallbacks := h.wants callbacks (hwants callbacks hcallbacks)
  known hserves := (h.known (hserves.imp hreported (Or.imp hrelay hinput))).append events

/-- An owner that has told the ports, or that there are none, has no more to know of the host. -/
theorem told_of_callbacks? (hcallbacks : after.control.callbacks? = none)
    (hknown : after.Serves → PortsAreKnown wantsPorts seen) : after.Told wantsPorts seen where
  wants callbacks hsome := by
    rw [hcallbacks] at hsome
    cases hsome
  known := hknown

theorem Told.withdraw (h : s.Told wantsPorts seen) (hcallbacks : after.control.callbacks? = none)
    (hreported : after.control.hasReported = false) (hrelay : after.relay ≠ none → s.relay ≠ none)
    (hinput : after.input.callback ≠ none → s.input.callback ≠ none) :
    after.Told wantsPorts (seen ++ events) := by
  refine told_of_callbacks? hcallbacks fun hserves => (h.known ?_).append events
  rcases hserves with hserves | hserves
  · rw [hreported] at hserves
    cases hserves
  · exact .inr (hserves.imp hrelay hinput)

theorem Told.leaveAlone (h : s.Told wantsPorts seen) (hleaves : s.LeavesAlone after) :
    after.Told wantsPorts (seen ++ events) := by
  refine h.of_frame ?_ ?_ (fun hsome hnone => hsome (hleaves.relay_eq_none hnone)) ?_
  · rw [hleaves.control]
    exact fun _ h => h
  · rw [hleaves.control]
    exact fun h => h
  · rw [hleaves.input]
    exact fun h => h

/-- A teardown only takes things away. -/
theorem Told.tearDown (h : s.Told wantsPorts seen) (stage : Teardown) (fault : Option BindFault)
    (isGraceOver : Bool) : (s.tearDown stage fault isGraceOver).1.Told wantsPorts
      (seen ++ (s.tearDown stage fault isGraceOver).2) := by
  have hsome {relay : Relay} (hrelay : s.relay = some relay) : s.relay ≠ none := by
    rw [hrelay]
    exact Option.some_ne_none relay
  cases stage with
  | clearInput => exact h.withdraw rfl rfl (fun h => h) fun hinput => absurd rfl hinput
  | closeConnection | terminate => exact h.withdraw rfl rfl (fun h => h) fun h => h
  | raiseClose =>
    cases hrelay : s.relay with
    | none =>
      simp only [Session.tearDown, hrelay]
      exact h.withdraw rfl rfl (fun h => h) fun h => h
    | some relay =>
      simp only [Session.tearDown, hrelay]
      exact h.withdraw rfl rfl (fun _ => hsome hrelay) fun h => h
  | joinPumps | joinSinks =>
    cases hrelay : s.relay with
    | none =>
      simp only [Session.tearDown, hrelay]
      exact h.withdraw rfl rfl (fun h => h) fun h => h
    | some relay =>
      simp only [Session.tearDown, hrelay]
      split
      · exact h.withdraw rfl rfl (fun h => h) fun h => h
      · split
        · exact h.of_frame (fun _ h => h) (fun h => h) (fun _ => hsome hrelay) fun h => h
        · exact h.of_frame (fun _ h => h) (fun h => h) (fun h => h) fun h => h

theorem Told.advance (h : s.Told wantsPorts seen) (answers : Ingress.Answers)
    (isGraceOver : Bool) : (s.advance answers isGraceOver).1.Told wantsPorts
      (seen ++ (s.advance answers isGraceOver).2) := by
  cases hcontrol : s.control with
  | unowned | returned | closed =>
    simp only [Session.advance, hcontrol]
    exact h.of_frame (fun _ h => h) (fun h => h) (fun h => h) fun h => h
  | binding callbacks =>
    simp only [Session.advance, hcontrol]
    split
    · exact h.of_frame (fun _ hsame => hcontrol ▸ hsame) (fun h => absurd h Bool.false_ne_true)
        (fun h => h) fun h => h
    · exact h.withdraw rfl rfl (fun h => h) fun h => h
  | abandoning fault =>
    simp only [Session.advance, hcontrol]
    exact h.withdraw rfl rfl (fun h => h) fun h => h
  | reporting pair callbacks =>
    have hwants := h.wants callbacks (by rw [hcontrol]; rfl)
    simp only [Session.advance, hcontrol, report]
    split
    · exact told_of_callbacks? rfl fun _ _ =>
        ⟨_, List.mem_append_right _ (List.mem_singleton_self _)⟩
    · next hdeaf =>
      exact told_of_callbacks? rfl fun _ hwanted => absurd (hwants.trans hwanted) hdeaf
  | installing pair input =>
    have hserves : s.Serves := .inl (by rw [hcontrol]; rfl)
    simp only [Session.advance, hcontrol, install]
    split <;> exact told_of_callbacks? rfl fun _ => (h.known hserves).append _
  | launching pair =>
    have hserves : s.Serves := .inl (by rw [hcontrol]; rfl)
    simp only [Session.advance, hcontrol]
    exact told_of_callbacks? rfl fun _ => (h.known hserves).append _
  | parked =>
    simp only [Session.advance, hcontrol]
    split
    · exact h.withdraw rfl rfl (fun h => h) fun h => h
    · exact h.of_frame (fun _ h => h) (fun h => h) (fun h => h) fun h => h
  | tearingDown stage fault =>
    simp only [Session.advance, hcontrol]
    exact h.tearDown stage fault isGraceOver
  | closing stage =>
    simp only [Session.advance, hcontrol]
    cases stage with
    | trigger | closeConnection => exact h.withdraw rfl rfl (fun h => h) fun h => h
    | clearInput => exact h.withdraw rfl rfl (fun h => h) fun hinput => absurd rfl hinput

/-! ## The chronicle of a session -/

/-- That what has been seen is what the owner and the pumps have done, each at its place. -/
structure Chronicle (wantsPorts : Bool) (s : Session) (seen : List Event) : Prop where
  orderly : s.Orderly
  placed : s.control.Placed seen
  told : s.Told wantsPorts seen
  pumps : s.PumpsSeen seen
  /-- A session that was closed never ran. -/
  closing : s.control.isClosing → s.relay = none

theorem chronicle_new (wantsPorts : Bool) (id : String) (config : Config)
    (tracks : MediaKind → Sink) :
    Chronicle wantsPorts { new id config with tracks } [] where
  orderly := orderly_new id config tracks
  placed := ⟨fun _ hevent => absurd hevent List.not_mem_nil,
    fun _ _ place _ hlt => absurd hlt place.not_lt_zero, fun _ => Nat.zero_le 1,
    fun _ => List.not_mem_nil⟩
  told := told_of_callbacks? rfl fun hserves => by
    rcases hserves with hreported | hrelay | hinput
    · cases hreported
    · exact absurd rfl hrelay
    · exact absurd rfl hinput
  pumps := ⟨fun _ => isOfPumps_of_mem_nil, fun _ hrelay => by cases hrelay⟩
  closing hclosing := by cases hclosing

/-- Whoever closes a session does not launch a relay. -/
theorem closing_advance (h : Chronicle wantsPorts s seen) (answers : Ingress.Answers)
    (isGraceOver : Bool) (hclosing : (s.advance answers isGraceOver).1.control.isClosing) :
    (s.advance answers isGraceOver).1.relay = none := by
  have hbefore := ((goesOn_advance answers isGraceOver s).closing hclosing).1
  cases hcontrol : s.control with
  | unowned =>
    have hplace := h.orderly.place
    rw [hcontrol] at hplace
    simp only [Session.advance, hcontrol]
    exact hplace.2
  | closing stage =>
    have hrelay := h.closing (by rw [hcontrol]; rfl)
    simp only [Session.advance, hcontrol]
    cases stage <;> exact hrelay
  | closed =>
    simp only [Session.advance, hcontrol]
    exact h.closing (by rw [hcontrol]; rfl)
  | tearingDown stage fault => cases stage <;> simp [hcontrol] at hbefore
  | _ => simp [hcontrol] at hbefore

theorem place?_of_mem_pumpEvents {kind : MediaKind} {before after : ForwardPump} {event : Event}
    (h : event ∈ pumpEvents kind before after) : event.place? = none := by
  obtain ⟨_, rfl⟩ | ⟨_, rfl⟩ := mem_pumpEvents h <;> rfl

theorem place?_of_mem_snd_pump {kind : MediaKind} {event : Event}
    (h : event ∈ (s.pump kind).2) : event.place? = none := by
  unfold Session.pump at h
  split at h
  · cases h
  · rcases List.mem_append.1 h with hseen | hstop
    · split at hseen
      · exact place?_of_mem_pumpEvents hseen
      · cases hseen
    · split at hstop
      · cases hstop
      · cases List.mem_singleton.1 hstop
        rfl

theorem Chronicle.leaveAlone (h : Chronicle wantsPorts s seen) (hleaves : s.LeavesAlone after)
    (hevents : ∀ event ∈ events, event.place? = none) (hpumps : after.PumpsSeen (seen ++ events)) :
    Chronicle wantsPorts after (seen ++ events) where
  orderly := hleaves.orderly h.orderly
  placed := by
    rw [hleaves.control]
    exact h.placed.goOn (Control.goesOn_refl hevents)
  told := h.told.leaveAlone hleaves
  pumps := hpumps
  closing hclosing := hleaves.relay_eq_none (h.closing (hleaves.control ▸ hclosing))

theorem Chronicle.step (h : Chronicle wantsPorts s seen) (action : Action)
    (hwants : ∀ callbacks, action = .run callbacks → s.lifecycle = .idle →
      callbacks.takesPorts = wantsPorts) :
    Chronicle wantsPorts (s.step action).1 (seen ++ (s.step action).2) := by
  have horderly := h.orderly.step action
  have hpumps := h.pumps.step h.orderly action
  have hunowned (hidle : s.lifecycle = .idle) : s.control.place = 0 ∧ s.relay = none := by
    have hplace := h.orderly.place
    rw [h.orderly.unowned_of_idle hidle] at hplace
    exact ⟨by rw [h.orderly.unowned_of_idle hidle]; rfl, hplace.2⟩
  cases action with
  | run callbacks =>
    by_cases hidle : s.lifecycle = .idle
    · obtain ⟨hplace, hrelay⟩ := hunowned hidle
      simp only [Session.step, beginRun, hidle, if_true] at horderly hpumps ⊢
      refine ⟨horderly, h.placed.goOn (goesOn_take hplace ?_ ?_ ?_ ?_), ⟨?_, fun hserves => ?_⟩,
        hpumps, fun hclosing => by cases hclosing⟩
      · simp
      · simp
      · simp
      · simp
      · rintro _ ⟨⟩
        exact hwants callbacks rfl hidle
      · refine (h.told.known (.inr (hserves.resolve_left fun hreported => ?_))).append _
        cases hreported
    · simp only [Session.step, beginRun, hidle, if_false] at hpumps ⊢
      exact h.leaveAlone (.refl s) (by simp) hpumps
  | closeIfIdle =>
    by_cases hidle : s.lifecycle = .idle
    · obtain ⟨hplace, hrelay⟩ := hunowned hidle
      simp only [Session.step, beginClose, hidle, if_true] at horderly hpumps ⊢
      refine ⟨horderly, h.placed.goOn (goesOn_take hplace ?_ ?_ ?_ ?_), ?_, hpumps, fun _ => hrelay⟩
      · simp
      · simp
      · simp
      · simp
      · exact h.told.withdraw rfl rfl (fun h => h) fun h => h
    · simp only [Session.step, beginClose, hidle, if_false] at hpumps ⊢
      exact h.leaveAlone (.refl s) (by simp) hpumps
  | advance answers isGraceOver =>
    exact ⟨horderly, h.placed.goOn (goesOn_advance answers isGraceOver s),
      h.told.advance answers isGraceOver, hpumps, closing_advance h answers isGraceOver⟩
  | stop | connectionFailed =>
    refine h.leaveAlone (leavesAlone_triggerStop _ s) ?_ hpumps
    simp only [Session.step, triggerStop]
    split <;> simp
  | arrive kind arrival =>
    exact h.leaveAlone (leavesAlone_arrive kind arrival s) place?_of_mem_nil hpumps
  | feedback kind outcome =>
    exact h.leaveAlone (leavesAlone_feedback kind outcome s) place?_of_mem_nil hpumps
  | message octets =>
    exact h.leaveAlone (.refl s) (place?_of_mem_map fun _ => rfl) hpumps
  | pump kind =>
    exact h.leaveAlone (leavesAlone_pump kind s) (fun _ => place?_of_mem_snd_pump) hpumps

/-! ## What the chronicle tells -/

/-- What happens at a place of the owner was not brought about by anyone else. -/
theorem mem_of_place? {event : Event} {place : Nat} (hplace : event.place? = some place)
    (hevents : ∀ event ∈ events, event.place? = none) (hmem : event ∈ seen ++ events) :
    event ∈ seen := by
  refine (List.mem_append.1 hmem).resolve_right fun hnew => ?_
  rw [hevents event hnew] at hplace
  cases hplace

theorem Control.Placed.terminated_notMem (h : control.Placed seen) (hplace : control.place ≤ 11) :
    .terminated ∉ seen := fun hmem =>
  absurd (h.behind _ hmem 11 rfl) (Nat.not_lt.2 hplace)

theorem Control.Placed.returned (h : control.Placed seen) (hmem : .terminated ∈ seen) :
    ∃ result, control = .returned result := by
  have hlt := h.behind _ hmem 11 rfl
  cases control with
  | returned result => exact ⟨result, rfl⟩
  | tearingDown stage fault => cases stage <;> simp at hlt
  | closing stage => cases stage <;> simp at hlt
  | _ => simp at hlt

/-- When the session is over, its latch is triggered and no callback is left. -/
theorem Chronicle.isTornDown (h : Chronicle wantsPorts s seen) (hmem : .terminated ∈ seen) :
    s.IsTornDown .terminate := by
  obtain ⟨result, hcontrol⟩ := h.placed.returned hmem
  have hplace := h.orderly.place
  rw [hcontrol] at hplace
  exact hplace.2

/-- The connection is not closed before the pumps are waited for. -/
theorem Chronicle.pumpsAreJoined (h : Chronicle wantsPorts s seen)
    (hmem : .connectionClosed ∈ seen) : s.PumpsAreJoined := by
  have hlt := h.placed.behind _ hmem 9 rfl
  have hplace := h.orderly.place
  cases hcontrol : s.control with
  | returned result =>
    rw [hcontrol] at hplace
    exact hplace.2.2.2.1
  | closed => exact forall_relay_of_eq_none (h.closing (by rw [hcontrol]; rfl))
  | tearingDown stage fault =>
    rw [hcontrol] at hplace hlt
    cases stage with
    | joinSinks => exact hplace.2.1.2.2.1
    | terminate => exact hplace.2.1.2.2.1
    | _ => simp at hlt
  | closing stage =>
    rw [hcontrol] at hlt
    cases stage <;> simp at hlt
  | _ =>
    rw [hcontrol] at hlt
    simp at hlt

/-- When the pumps are waited for, their ends have been seen. -/
theorem Chronicle.pumpEnded_mem (h : Chronicle wantsPorts s seen) (hjoined : s.PumpsAreJoined)
    (hlaunched : .launched ∈ seen) (kind : MediaKind) :
    ∃ ending, .pumpEnded kind ending ∈ seen := by
  cases hrelay : s.relay with
  | none => cases h.pumps.unlaunched hrelay _ hlaunched
  | some relay =>
    have htold := h.pumps.relay relay hrelay
    obtain ⟨link, hlink⟩ := htold.getElem? kind
    obtain ⟨ending, hending, -⟩ :=
      (h.orderly.accounts relay hrelay).ending? (hjoined relay hrelay) hlink
    exact ⟨ending, (htold.pump kind link hlink).ended ending hending⟩

/-- A pump that still works was not waited for. -/
theorem Chronicle.running_of_isOpen (h : Chronicle wantsPorts s seen) {relay : Relay}
    (hrelay : s.relay = some relay) {kind : MediaKind} {link : Link}
    (hlink : relay.links[kind.index]? = some link) (hopen : link.isOpen) :
    .terminated ∉ seen ∧ .connectionClosed ∉ seen ∧ seen.countP Event.isPumpJoined < 2 := by
  have haccounts := h.orderly.accounts relay hrelay
  have htold := h.pumps.relay relay hrelay
  have hnot : ¬relay.pumpsJoined := fun hjoined => by
    obtain ⟨ending, hending, -⟩ := haccounts.ending? hjoined hlink
    rw [Link.isOpen_iff.1 hopen] at hending
    cases hending
  refine ⟨fun hmem => hnot ((h.isTornDown hmem).2.2.1 relay hrelay),
    fun hmem => hnot (h.pumpsAreJoined hmem relay hrelay), ?_⟩
  rw [htold.joined, ← htold.length]
  exact Nat.lt_of_le_of_ne haccounts.length_le fun heq => hnot (beq_iff_eq.2 heq)

/-- When the owner goes on to close the connection it has collected both pumps. -/
theorem Chronicle.countP_isPumpJoined (h : Chronicle wantsPorts s seen) {fault : Option BindFault}
    (hcontrol : s.control = .tearingDown .closeConnection fault) (hlaunched : .launched ∈ seen) :
    seen.countP Event.isPumpJoined = 2 := by
  have hplace := h.orderly.place
  rw [hcontrol] at hplace
  cases hrelay : s.relay with
  | none => cases h.pumps.unlaunched hrelay _ hlaunched
  | some relay =>
    have htold := h.pumps.relay relay hrelay
    have hjoined : relay.forwardExits.length = relay.links.length :=
      beq_iff_eq.1 (hplace.2.1.2.2 relay hrelay)
    rw [htold.joined, hjoined, htold.length]

/-- A session that ran is over when this is seen, and not before. -/
theorem Chronicle.lifecycle_eq_terminated_iff (h : Chronicle wantsPorts s seen)
    (hbegan : .runBegan ∈ seen) : s.lifecycle = .terminated ↔ .terminated ∈ seen := by
  have hplace := h.orderly.place
  constructor
  · intro hterminated
    have hclosing := h.placed.closing
    cases hcontrol : s.control with
    | returned result => exact h.placed.reached _ (by simp) 11 rfl (by simp [hcontrol])
    | closing | closed => exact absurd hbegan (hclosing (by rw [hcontrol]; rfl))
    | parked =>
      rw [hcontrol] at hplace
      cases hterminated.symm.trans hplace
    | _ =>
      rw [hcontrol] at hplace
      cases hterminated.symm.trans hplace.1
  · intro hmem
    obtain ⟨result, hcontrol⟩ := h.placed.returned hmem
    rw [hcontrol] at hplace
    exact hplace.1

end RtpBridge.Session

-- SUMMARY: Which messages of the remote peer reach the host, and when.
import RtpBridge.Proofs.Session.Trace

/-!
# Input

Messages come in at any time, and the sink is filled and emptied in steps of their own. A callback
is in the sink only between two places of a run (`Control.servesInput`), so the messages that reach
the host are those that come in between the installation and the clearing, each once and in the
order in which they came (`Session.InputWindow`).
-/

namespace RtpBridge.Session

variable {s : Session} {action : Action} {next : Session × List Event} {callback : Callback}
  {schedule : List Action}

/-! ## Messages and deliveries -/

def Action.message? : Action → Option (List UInt8)
  | .message octets => some octets
  | _ => none

/-- The call of a callback that is seen. -/
def Event.delivery? : Event → Option (Callback × List UInt8)
  | .inputDelivered callback message => some (callback, message)
  | _ => none

def deliveries (events : List Event) : List (Callback × List UInt8) :=
  events.filterMap Event.delivery?

@[simp] theorem deliveries_append (first rest : List Event) :
    deliveries (first ++ rest) = deliveries first ++ deliveries rest :=
  List.filterMap_append

theorem deliveries_eq_nil {events : List Event} (h : ∀ event ∈ events, event.delivery? = none) :
    deliveries events = [] :=
  List.filterMap_eq_nil_iff.2 h

/-- Whether an event has to do with the input of the host. -/
def Event.isOfInput : Event → Bool
  | .inputInstalled _ | .inputCleared | .inputDelivered .. => true
  | _ => false

theorem Event.delivery?_of_not_isOfInput {event : Event} (h : ¬event.isOfInput) :
    event.delivery? = none := by
  cases event with
  | inputDelivered => exact absurd rfl h
  | _ => rfl

/-- The places of a run at which there may be a callback. -/
def Control.servesInput : Control → Bool
  | .launching _ | .parked | .tearingDown .clearInput _ => true
  | _ => false

theorem Control.servesInput_iff {control : Control} :
    control.servesInput ↔ 3 < control.place ∧ control.place ≤ 6 ∧ ¬control.isClosing := by
  cases control with
  | tearingDown stage fault => cases stage <;> simp [servesInput]
  | closing stage => cases stage <;> simp [servesInput]
  | _ => simp [servesInput]

/-- A run does not leave these places without clearing the sink. -/
theorem Control.GoesOn.servesInput {control next : Control} {events : List Event}
    (h : control.GoesOn next events) (hserves : control.servesInput)
    (hclear : .inputCleared ∉ events) : next.servesInput := by
  obtain ⟨hbegin, hend, hclosing⟩ := servesInput_iff.1 hserves
  apply servesInput_iff.2
  refine ⟨Nat.lt_of_lt_of_le hbegin h.le, ?_, ?_⟩
  · by_contra hpast
    exact hclear (h.passes .inputCleared (by simp) 6 rfl hend (Nat.not_le.1 hpast))
  · intro hnext
    rcases (h.closing hnext).1 with hbefore | hzero
    · exact hclosing hbefore
    · exact absurd (hzero ▸ hbegin) (by decide)

/-! ## Steps -/

/-- That a step has nothing to do with the input of the host. -/
def KeepsInput (s : Session) (next : Session × List Event) : Prop :=
  next.1.input = s.input ∧ ∀ event ∈ next.2, ¬event.isOfInput

theorem keepsInput_map {α : Type} {after : Session} {f : α → Event} (items : List α)
    (hinput : after.input = s.input) (h : ∀ item, (f item).isOfInput = false) :
    s.KeepsInput (after, items.map f) := by
  refine ⟨hinput, ?_⟩
  intro event hevent
  obtain ⟨item, -, rfl⟩ := List.mem_map.1 hevent
  exact Bool.eq_false_iff.1 (h item)

theorem keepsInput_nil {after : Session} (hinput : after.input = s.input) :
    s.KeepsInput (after, []) :=
  ⟨hinput, fun _ hevent => absurd hevent List.not_mem_nil⟩

theorem keepsInput_singleton {after : Session} {event : Event} (hinput : after.input = s.input)
    (hevent : event.isOfInput = false) : s.KeepsInput (after, [event]) := by
  refine ⟨hinput, ?_⟩
  intro other hother
  rw [List.mem_singleton.1 hother, hevent]
  exact Bool.false_ne_true

theorem keepsInput_triggerStop (stopper : Stopper) (s : Session) :
    s.KeepsInput (s.triggerStop stopper) := by
  unfold triggerStop
  split
  · exact keepsInput_singleton rfl rfl
  · exact keepsInput_nil rfl

theorem keepsInput_tearDown (stage : Teardown) (hstage : stage ≠ .clearInput)
    (fault : Option BindFault) (isGraceOver : Bool) (s : Session) :
    s.KeepsInput (s.tearDown stage fault isGraceOver) := by
  cases stage with
  | clearInput => exact absurd rfl hstage
  | closeConnection | terminate => exact keepsInput_singleton rfl rfl
  | raiseClose =>
    cases hrelay : s.relay with
    | none =>
      simp only [tearDown, hrelay]
      exact keepsInput_nil rfl
    | some relay =>
      simp only [tearDown, hrelay]
      exact keepsInput_singleton rfl rfl
  | joinPumps | joinSinks =>
    cases hrelay : s.relay with
    | none =>
      simp only [tearDown, hrelay]
      exact keepsInput_nil rfl
    | some relay =>
      simp only [tearDown, hrelay]
      split
      · exact keepsInput_nil rfl
      · split
        · exact keepsInput_map _ rfl fun _ => rfl
        · exact keepsInput_nil rfl

theorem keepsInput_pump (kind : MediaKind) (s : Session) : s.KeepsInput (s.pump kind) := by
  refine ⟨(leavesAlone_pump kind s).input, ?_⟩
  intro event hevent
  unfold pump at hevent
  split at hevent
  · cases hevent
  · rcases List.mem_append.1 hevent with hseen | hstop
    · split at hseen
      · obtain ⟨_, rfl⟩ | ⟨_, rfl⟩ := mem_pumpEvents hseen <;> exact Bool.false_ne_true
      · cases hseen
    · split at hstop
      · cases hstop
      · cases List.mem_singleton.1 hstop
        exact Bool.false_ne_true

/-- What a step means for the input of the host. -/
inductive HandlesInput (s : Session) : Action → Session × List Event → Prop
  | message (octets : List UInt8) : HandlesInput s (.message octets) (s.step (.message octets))
  | install {answers : Ingress.Answers} {isGraceOver : Bool} {after : Session}
      (callback : Callback) (hreported : s.control.hasReported) (hplace : s.control.place = 3)
      (hinput : after.input.callback = some callback) (hserves : after.control.servesInput) :
      HandlesInput s (.advance answers isGraceOver) (after, [.inputInstalled callback])
  | clear {answers : Ingress.Answers} {isGraceOver : Bool} {after : Session}
      (hplace : 3 < after.control.place) (hinput : after.input.callback = none) :
      HandlesInput s (.advance answers isGraceOver) (after, [.inputCleared])
  | other {action : Action} {next : Session × List Event} (hmessage : action.message? = none)
      (hgo : s.control.GoesOn next.1.control next.2) (hkeeps : s.KeepsInput next) :
      HandlesInput s action next

theorem handlesInput_advance (answers : Ingress.Answers) (isGraceOver : Bool) (s : Session) :
    HandlesInput s (.advance answers isGraceOver) (s.advance answers isGraceOver) := by
  have hother (hkeeps : s.KeepsInput (s.advance answers isGraceOver)) :
      HandlesInput s (.advance answers isGraceOver) (s.advance answers isGraceOver) :=
    .other rfl (goesOn_advance answers isGraceOver s) hkeeps
  cases hcontrol : s.control with
  | installing pair input =>
    cases input with
    | none =>
      apply hother
      simp only [advance, hcontrol, install]
      exact keepsInput_nil rfl
    | some callback =>
      simp only [advance, hcontrol, install]
      exact .install callback (by rw [hcontrol]; rfl) (by rw [hcontrol]; rfl) rfl rfl
  | tearingDown stage fault =>
    by_cases hstage : stage = .clearInput
    · subst hstage
      simp only [advance, hcontrol, tearDown]
      refine .clear ?_ rfl
      cases s.relay <;> simp
    · apply hother
      simp only [advance, hcontrol]
      exact keepsInput_tearDown stage hstage fault isGraceOver s
  | closing stage =>
    cases stage with
    | trigger =>
      apply hother
      simp only [advance, hcontrol, stepClosing]
      exact s.keepsInput_triggerStop .owner
    | clearInput =>
      simp only [advance, hcontrol, stepClosing]
      exact .clear (by simp) rfl
    | closeConnection =>
      apply hother
      simp only [advance, hcontrol, stepClosing]
      exact keepsInput_singleton rfl rfl
  | unowned | returned | closed =>
    apply hother
    simp only [advance, hcontrol]
    exact keepsInput_nil rfl
  | binding callbacks =>
    apply hother
    simp only [advance, hcontrol]
    split <;> exact keepsInput_singleton rfl rfl
  | abandoning fault =>
    apply hother
    simp only [advance, hcontrol]
    exact s.keepsInput_triggerStop .owner
  | reporting pair callbacks =>
    apply hother
    simp only [advance, hcontrol, report]
    split
    · exact keepsInput_singleton rfl rfl
    · exact keepsInput_nil rfl
  | launching pair =>
    apply hother
    simp only [advance, hcontrol]
    exact keepsInput_singleton rfl rfl
  | parked =>
    apply hother
    simp only [advance, hcontrol]
    split <;> exact keepsInput_nil rfl

theorem handlesInput_step (h : s.Orderly) (action : Action) :
    HandlesInput s action (s.step action) := by
  cases action with
  | message octets => exact .message octets
  | advance answers isGraceOver => exact handlesInput_advance answers isGraceOver s
  | run callbacks =>
    by_cases hidle : s.lifecycle = .idle
    · have hplace : s.control.place = 0 := by
        rw [h.unowned_of_idle hidle]
        rfl
      simp only [step, beginRun, hidle, if_true]
      exact .other rfl (goesOn_take hplace (by simp) (by simp) (by simp) (by simp))
        (keepsInput_singleton rfl rfl)
    · simp only [step, beginRun, hidle, if_false]
      exact .other rfl (Control.goesOn_refl (by simp)) (keepsInput_singleton rfl rfl)
  | closeIfIdle =>
    by_cases hidle : s.lifecycle = .idle
    · have hplace : s.control.place = 0 := by
        rw [h.unowned_of_idle hidle]
        rfl
      simp only [step, beginClose, hidle, if_true]
      exact .other rfl (goesOn_take hplace (by simp) (by simp) (by simp) (by simp))
        (keepsInput_singleton rfl rfl)
    · simp only [step, beginClose, hidle, if_false]
      exact .other rfl (Control.goesOn_refl (by simp)) (keepsInput_singleton rfl rfl)
  | stop | connectionFailed =>
    refine .other rfl (Control.goesOn_refl ?_) (s.keepsInput_triggerStop _)
    simp only [step, triggerStop]
    split <;> simp
  | arrive kind arrival =>
    have hleaves := leavesAlone_arrive kind arrival s
    refine .other rfl ?_ (keepsInput_nil hleaves.input)
    simp only [step, hleaves.control]
    exact Control.goesOn_self _
  | pump kind =>
    have hleaves := leavesAlone_pump kind s
    refine .other rfl ?_ (s.keepsInput_pump kind)
    simp only [step, hleaves.control]
    exact Control.goesOn_refl fun _ => place?_of_mem_snd_pump
  | feedback kind outcome =>
    have hleaves := leavesAlone_feedback kind outcome s
    refine .other rfl ?_ (keepsInput_nil hleaves.input)
    simp only [step, hleaves.control]
    exact Control.goesOn_self _

/-! ## Where the callback is -/

/-- That there is no callback but at the places that serve input. -/
def Listens (s : Session) : Prop := s.input.callback ≠ none → s.control.servesInput

theorem HandlesInput.listens (hstep : HandlesInput s action next) (h : s.Listens) :
    next.1.Listens := by
  cases hstep with
  | message octets => exact h
  | install callback _ _ _ hserves => exact fun _ => hserves
  | clear _ hinput => exact fun hsome => absurd hinput hsome
  | other _ hgo hkeeps =>
    intro hsome
    apply hgo.servesInput
    · apply h
      rw [← hkeeps.1]
      exact hsome
    · intro hclear
      exact hkeeps.2 _ hclear rfl

theorem Listens.run (h : s.Listens) (horderly : s.Orderly) (schedule : List Action) :
    (s.run schedule).1.Listens := by
  induction schedule generalizing s with
  | nil => exact h
  | cons action rest ih =>
    exact ih ((handlesInput_step horderly action).listens h) (horderly.step action)

/-- Whoever may be called is called by a session that runs. -/
theorem Listens.lifecycle (h : s.Listens) (horderly : s.Orderly)
    (hsome : s.input.callback ≠ none) : s.lifecycle = .running := by
  have hserves := h hsome
  have hplace := horderly.place
  cases hcontrol : s.control with
  | launching | tearingDown =>
    rw [hcontrol] at hplace
    exact hplace.1
  | parked =>
    rw [hcontrol] at hplace
    exact hplace
  | _ =>
    rw [hcontrol] at hserves
    cases hserves

/-! ## What becomes of messages -/

theorem KeepsInput.deliveries (h : s.KeepsInput next) : deliveries next.2 = [] := by
  apply deliveries_eq_nil
  intro event hevent
  exact Event.delivery?_of_not_isOfInput (h.2 event hevent)

theorem deliveries_step_message (s : Session) (octets : List UInt8) :
    deliveries (s.step (.message octets)).2 = (s.input.deliver octets).2 := by
  simp only [step, deliveries, List.filterMap_map, Function.comp_def, Event.delivery?]
  exact List.filterMap_some

theorem not_mem_step_message {event : Event} (hevent : event.delivery? = none)
    (octets : List UInt8) : event ∉ (s.step (.message octets)).2 := by
  intro hmem
  obtain ⟨_, -, rfl⟩ := List.mem_map.1 hmem
  cases hevent

/-- An empty sink is filled by the installation. All other steps drop what comes in. -/
theorem HandlesInput.of_empty (hstep : HandlesInput s action next)
    (hempty : s.input.callback = none) :
    (∃ callback, s.control.hasReported ∧ next.2 = [.inputInstalled callback] ∧
      3 < next.1.control.place ∧ next.1.input.callback = some callback) ∨
    (next.1.input.callback = none ∧ deliveries next.2 = [] ∧
      ∀ callback, .inputInstalled callback ∉ next.2) := by
  cases hstep with
  | message octets =>
    refine .inr ⟨hempty, ?_, fun _ => not_mem_step_message rfl octets⟩
    rw [deliveries_step_message, InputSink.snd_deliver, hempty]
    rfl
  | install callback hreported _ hinput hserves =>
    exact .inl ⟨callback, hreported, rfl, (Control.servesInput_iff.1 hserves).1, hinput⟩
  | clear _ hinput => exact .inr ⟨hinput, rfl, by simp⟩
  | other _ _ hkeeps =>
    refine .inr ⟨hkeeps.1 ▸ hempty, hkeeps.deliveries, ?_⟩
    intro callback hinstalled
    exact hkeeps.2 _ hinstalled rfl

/-- After the installation, what comes in is delivered, until a step clears the sink. -/
theorem HandlesInput.of_full (hstep : HandlesInput s action next)
    (hplace : 3 < s.control.place) (hfull : s.input.callback = some callback) :
    3 < next.1.control.place ∧
    ((next.2 = [.inputCleared] ∧ next.1.input.callback = none) ∨
    (next.1.input.callback = some callback ∧ .inputCleared ∉ next.2 ∧
      deliveries next.2 = action.message?.toList.map (callback, ·))) := by
  cases hstep with
  | message octets =>
    refine ⟨hplace, .inr ⟨hfull, not_mem_step_message rfl octets, ?_⟩⟩
    rw [deliveries_step_message, InputSink.snd_deliver, hfull]
    rfl
  | install _ _ hthere => exact absurd hthere (Nat.ne_of_gt hplace)
  | clear hplace hinput => exact ⟨hplace, .inl ⟨rfl, hinput⟩⟩
  | other hmessage hgo hkeeps =>
    refine ⟨Nat.lt_of_lt_of_le hplace hgo.le, .inr ⟨hkeeps.1 ▸ hfull, ?_, ?_⟩⟩
    · intro hclear
      exact hkeeps.2 _ hclear rfl
    · rw [hkeeps.deliveries, hmessage]
      rfl

/-- Once the installation lies behind the owner, an empty sink stays empty, and what belongs to the
places before is over. -/
theorem HandlesInput.of_past (hstep : HandlesInput s action next)
    (hplace : 3 < s.control.place) (hempty : s.input.callback = none) :
    3 < next.1.control.place ∧ next.1.input.callback = none ∧ deliveries next.2 = [] ∧
      ∀ event ∈ next.2, ∀ place, event.place? = some place → 3 < place := by
  cases hstep with
  | message octets =>
    refine ⟨hplace, hempty, ?_, ?_⟩
    · rw [deliveries_step_message, InputSink.snd_deliver, hempty]
      rfl
    · intro event hevent place hthere
      obtain ⟨_, -, rfl⟩ := List.mem_map.1 hevent
      cases hthere
  | install _ _ hthere => exact absurd hthere (Nat.ne_of_gt hplace)
  | clear hnext hinput =>
    refine ⟨hnext, hinput, rfl, ?_⟩
    intro event hevent place hthere
    cases List.mem_singleton.1 hevent
    cases hthere
    decide
  | other _ hgo hkeeps =>
    refine ⟨Nat.lt_of_lt_of_le hplace hgo.le, hkeeps.1 ▸ hempty, hkeeps.deliveries, ?_⟩
    intro event hevent place hthere
    exact (hgo.inPlace event hevent place hthere).1 ▸ hplace

/-! ## Runs -/

theorem run_of_past (horderly : s.Orderly) (hplace : 3 < s.control.place)
    (hempty : s.input.callback = none) (schedule : List Action) :
    deliveries (s.run schedule).2 = [] ∧
      ∀ event ∈ (s.run schedule).2, ∀ place, event.place? = some place → 3 < place := by
  induction schedule generalizing s with
  | nil => exact ⟨rfl, fun _ hevent => absurd hevent List.not_mem_nil⟩
  | cons action rest ih =>
    obtain ⟨hnext, hstill, hdropped, hover⟩ :=
      (handlesInput_step horderly action).of_past hplace hempty
    obtain ⟨hrest, hlater⟩ := ih (horderly.step action) hnext hstill
    rw [snd_run_cons]
    constructor
    · rw [deliveries_append, hdropped, hrest]
      rfl
    · intro event hevent
      rcases List.mem_append.1 hevent with hnow | hthen
      · exact hover event hnow
      · exact hlater event hthen

/-- That a sink which is full delivers what comes in during the first part of a schedule, which
lasts until the sink is cleared, and nothing in the rest of it. -/
structure Delivers (s : Session) (callback : Callback) (during rest : List Action) : Prop where
  delivered : deliveries (s.run during).2 = (during.filterMap Action.message?).map (callback, ·)
  uncleared : .inputCleared ∉ (s.run during).2
  ends : rest = [] ∨ ∃ clearing late, rest = clearing :: late ∧
    ((s.run during).1.step clearing).2 = [.inputCleared]
  dropped : deliveries ((s.run during).1.run rest).2 = []

theorem run_of_full (horderly : s.Orderly) (hplace : 3 < s.control.place)
    (hfull : s.input.callback = some callback) (schedule : List Action) :
    ∃ during rest, schedule = during ++ rest ∧ s.Delivers callback during rest := by
  induction schedule generalizing s with
  | nil =>
    exact ⟨[], [], rfl, rfl, List.not_mem_nil, .inl rfl, rfl⟩
  | cons action schedule ih =>
    obtain ⟨hnext, ⟨hclear, hempty⟩ | ⟨hstill, hkept, hdelivered⟩⟩ :=
      (handlesInput_step horderly action).of_full hplace hfull
    · refine ⟨[], action :: schedule, rfl, rfl, List.not_mem_nil,
        .inr ⟨action, schedule, rfl, hclear⟩, ?_⟩
      rw [run_nil, snd_run_cons, deliveries_append, hclear,
        (run_of_past (horderly.step action) hnext hempty schedule).1]
      rfl
    · obtain ⟨during, rest, rfl, h⟩ := ih (horderly.step action) hnext hstill
      refine ⟨action :: during, rest, rfl, ?_, ?_, h.ends, h.dropped⟩
      · rw [snd_run_cons, deliveries_append, hdelivered, h.delivered]
        cases hmessage : action.message? <;> simp [hmessage]
      · rw [snd_run_cons, List.mem_append]
        exact not_or.2 ⟨hkept, h.uncleared⟩

/-- That an empty sink drops what comes in during the first part of a schedule, and is filled in the
step that comes after it. -/
structure Fills (s : Session) (callback : Callback) (early : List Action) (filling : Action) :
    Prop where
  dropped : deliveries (s.run early).2 = []
  reported : (s.run early).1.control.hasReported
  installed : ((s.run early).1.step filling).2 = [.inputInstalled callback]

theorem run_of_empty (horderly : s.Orderly) (hempty : s.input.callback = none)
    (schedule : List Action) :
    (deliveries (s.run schedule).2 = [] ∧
      ∀ callback, .inputInstalled callback ∉ (s.run schedule).2) ∨
    ∃ callback early filling during rest, schedule = early ++ filling :: (during ++ rest) ∧
      s.Fills callback early filling ∧
      ((s.run early).1.step filling).1.Delivers callback during rest := by
  induction schedule generalizing s with
  | nil => exact .inl ⟨rfl, fun _ => List.not_mem_nil⟩
  | cons action schedule ih =>
    have hstep := horderly.step action
    rcases (handlesInput_step horderly action).of_empty hempty with
      ⟨callback, hreported, hinstalled, hnext, hfull⟩ | ⟨hstill, hdropped, hnone⟩
    · obtain ⟨during, rest, rfl, h⟩ := run_of_full hstep hnext hfull schedule
      exact .inr ⟨callback, [], action, during, rest, rfl, ⟨rfl, hreported, hinstalled⟩, h⟩
    · rcases ih hstep hstill with ⟨hrest, hlater⟩ | ⟨callback, early, filling, during, rest, rfl,
        hfills, hdelivers⟩
      · refine .inl ⟨?_, ?_⟩
        · rw [snd_run_cons, deliveries_append, hdropped, hrest]
          rfl
        · intro callback hinstalled
          rcases List.mem_append.1 (snd_run_cons s action schedule ▸ hinstalled) with hnow | hthen
          · exact hnone callback hnow
          · exact hlater callback hthen
      · refine .inr ⟨callback, action :: early, filling, during, rest, rfl,
          ⟨?_, hfills.reported, hfills.installed⟩, hdelivers⟩
        rw [snd_run_cons, deliveries_append, hdropped, hfills.dropped]
        rfl

/-- A session is not over before its owner is past the installation. -/
theorem Orderly.lt_place_of_terminated (h : s.Orderly) (hover : s.lifecycle = .terminated) :
    3 < s.control.place := by
  have hplace := h.place
  cases hcontrol : s.control with
  | returned | parked | closed => simp
  | closing stage => cases stage <;> simp
  | _ =>
    rw [hcontrol] at hplace
    cases hover.symm.trans hplace.1

/-- In every interleaving there is a callback in the sink only while the session runs. A message
reaches the host only between the step in which the callback was installed, after the host knows
the ports if it wants to, and the step that clears the sink. All that comes in between is delivered
once and in its order. All else is dropped. When the session is over, no callback of the host is
called any more. -/
theorem input_reaches_host (id : String) (config : Config) (tracks : MediaKind → Sink)
    (schedule : List Action) :
    ((run { new id config with tracks } schedule).1.input.callback ≠ none →
      (run { new id config with tracks } schedule).1.lifecycle = .running) ∧
    ((run { new id config with tracks } schedule).1.lifecycle = .terminated → ∀ later,
      deliveries ((run { new id config with tracks } schedule).1.run later).2 = [] ∧
      ∀ ports, .portsReported ports ∉
        ((run { new id config with tracks } schedule).1.run later).2) ∧
    ((deliveries (run { new id config with tracks } schedule).2 = [] ∧
      ∀ callback, .inputInstalled callback ∉ (run { new id config with tracks } schedule).2) ∨
    ∃ callback early filling during rest, schedule = early ++ filling :: (during ++ rest) ∧
      Fills { new id config with tracks } callback early filling ∧
      PortsAreKnown ((takenBy? early).any (·.takesPorts))
        (run { new id config with tracks } early).2 ∧
      ((run { new id config with tracks } early).1.step filling).1.Delivers callback during
        rest) := by
  have horderly := orderly_new id config tracks
  have hempty : ({ new id config with tracks } : Session).input.callback = none := rfl
  have hover := horderly.run schedule
  have hlistens : (run { new id config with tracks } schedule).1.Listens :=
    Listens.run (fun hsome => absurd hempty hsome) horderly schedule
  refine ⟨hlistens.lifecycle hover, ?_, ?_⟩
  · intro hterminated later
    have hnone : (run { new id config with tracks } schedule).1.input.callback = none := by
      by_contra hsome
      cases hterminated.symm.trans (hlistens.lifecycle hover hsome)
    obtain ⟨hdropped, hpast⟩ :=
      run_of_past hover (hover.lt_place_of_terminated hterminated) hnone later
    refine ⟨hdropped, ?_⟩
    intro ports hreported
    exact absurd (hpast _ hreported 2 rfl) (by decide)
  · refine (run_of_empty horderly hempty schedule).imp_right ?_
    rintro ⟨callback, early, filling, during, rest, hschedule, hfills, hdelivers⟩
    refine ⟨callback, early, filling, during, rest, hschedule, hfills, ?_, hdelivers⟩
    exact (chronicle_run id config tracks early).told.known (.inl hfills.reported)

/-- Messages come in before the run, while there is a callback, and after it is cleared. -/
example :
    let next : Action := .advance ⟨.ok 5000, .ok 5001, .ok (), .ok ()⟩ true
    deliveries (run { new "s" .default with tracks := fun _ => .ofRules [] }
      [.message [1], .run ⟨true, some 7⟩, next, next, .message [2], next, .message [3], next,
        .message [4], .stop, next, .message [5], next, .message [6]]).2 =
      [(7, [3]), (7, [4]), (7, [5])] := rfl

end RtpBridge.Session

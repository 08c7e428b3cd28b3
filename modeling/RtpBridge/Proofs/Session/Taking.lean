-- SUMMARY: A session is taken once, by one call, and every other call leaves it as it is.
import RtpBridge.Proofs.Session.Trace
import RtpBridge.Session.Calls

/-!
# Taking a session

Calls of any number race for a session. What is done on it is the work on the one call that has
taken it: the owner's place and what the owner brings about belong to that call (`Control.IsFor`,
`Event.IsFor`). A call that finds the session taken has returned by the time that it has looked. With
this as the invariant of a step (`Calls.Owned`), a session has one way out of idleness, whatever the
calls are and however they take turns (`Calls.takenOnce_run`).
-/

namespace RtpBridge

/-- The moves that the lifecycle of a session can make. -/
inductive Lifecycle.Moves : Lifecycle → Lifecycle → Prop
  | begin : Moves .idle .running
  | close : Moves .idle .terminated
  | finish : Moves .running .terminated

namespace Session

variable {s : Session} {c : Calls} {request : Request} {reply : Reply} {action : Action}
  {control : Control} {event : Event} {events : List Event}

/-! ## The moves of a lifecycle -/

/-- Whether a step is a call that takes the session. -/
def Takes (s : Session) (action : Action) : Prop :=
  ∃ call, s.call? action = some call ∧ call.takes

theorem takes_iff : s.Takes action ↔
    s.lifecycle = .idle ∧ ∃ request, action.request? = some request ∧ request.wantsSession := by
  constructor
  · rintro ⟨call, hcall, htakes⟩
    obtain ⟨request, hrequest, rfl⟩ := Option.map_eq_some_iff.1 hcall
    obtain ⟨hwants, hidle⟩ := Bool.and_eq_true_iff.1 htakes
    exact ⟨eq_of_beq hidle, request, hrequest, hwants⟩
  · rintro ⟨hidle, request, hrequest, hwants⟩
    refine ⟨_, Option.map_eq_some_iff.2 ⟨request, hrequest, rfl⟩, ?_⟩
    exact Bool.and_eq_true_iff.2 ⟨hwants, beq_iff_eq.2 hidle⟩

/-- What a call does that takes the session. -/
theorem step_of_takes (h : s.Takes action) :
    (∃ callbacks, action = .run callbacks ∧ s.step action =
      ({ s with lifecycle := .running, control := .binding callbacks }, [.runBegan])) ∨
    (action = .closeIfIdle ∧ s.step action =
      ({ s with lifecycle := .terminated, control := .closing .trigger }, [.closeBegan])) := by
  obtain ⟨hidle, request, hrequest, hwants⟩ := takes_iff.1 h
  cases action with
  | run callbacks => exact .inl ⟨callbacks, rfl, if_pos hidle⟩
  | closeIfIdle => exact .inr ⟨rfl, if_pos hidle⟩
  | stop =>
    cases hrequest
    cases hwants
  | _ => cases hrequest

/-- A step takes an idle session, or it is the owner's, or neither what is the owner's nor its
events have to do with it. -/
theorem takes_or_advance_or_leavesAlone (s : Session) (action : Action) :
    s.Takes action ∨ (∃ answers isGraceOver, action = .advance answers isGraceOver) ∨
      (s.LeavesAlone (s.step action).1 ∧ ∀ event ∈ (s.step action).2, event.place? = none) := by
  cases action with
  | run callbacks =>
    by_cases hidle : s.lifecycle = .idle
    · exact .inl (takes_iff.2 ⟨hidle, _, rfl, rfl⟩)
    · simp only [step, beginRun, hidle, if_false]
      exact .inr (.inr ⟨.refl s, by simp⟩)
  | closeIfIdle =>
    by_cases hidle : s.lifecycle = .idle
    · exact .inl (takes_iff.2 ⟨hidle, _, rfl, rfl⟩)
    · simp only [step, beginClose, hidle, if_false]
      exact .inr (.inr ⟨.refl s, by simp⟩)
  | advance answers isGraceOver => exact .inr (.inl ⟨answers, isGraceOver, rfl⟩)
  | stop | connectionFailed =>
    refine .inr (.inr ⟨leavesAlone_triggerStop _ s, ?_⟩)
    simp only [step, triggerStop]
    split <;> simp
  | arrive kind arrival =>
    exact .inr (.inr ⟨leavesAlone_arrive kind arrival s, place?_of_mem_nil⟩)
  | pump kind => exact .inr (.inr ⟨leavesAlone_pump kind s, fun _ => place?_of_mem_snd_pump⟩)
  | feedback kind outcome =>
    exact .inr (.inr ⟨leavesAlone_feedback kind outcome s, place?_of_mem_nil⟩)
  | message octets => exact .inr (.inr ⟨.refl s, place?_of_mem_map fun _ => rfl⟩)

theorem lifecycle_step (s : Session) (action : Action) :
    (s.step action).1.lifecycle = s.lifecycle ∨
      s.lifecycle.Moves (s.step action).1.lifecycle := by
  rcases s.takes_or_advance_or_leavesAlone action with htakes | ⟨answers, isGraceOver, rfl⟩ |
    ⟨hleaves, -⟩
  · right
    simp only [(takes_iff.1 htakes).1]
    rcases step_of_takes htakes with ⟨callbacks, -, hstep⟩ | ⟨-, hstep⟩
    · simp only [hstep]
      exact .begin
    · simp only [hstep]
      exact .close
  · rcases (lasting_advance answers isGraceOver s).1 with hkept | hended
    · exact .inl hkept
    · simp only [step, hended]
      cases s.lifecycle with
      | idle => exact .inr .close
      | running => exact .inr .finish
      | terminated => exact .inl rfl
  · exact .inl hleaves.lifecycle

/-- An idle session stays as it is but for what is not the owner's, until a call takes it. -/
theorem leavesAlone_of_idle (h : s.Orderly) (hidle : s.lifecycle = .idle)
    (hleft : ¬s.Takes action) :
    s.LeavesAlone (s.step action).1 ∧ ∀ event ∈ (s.step action).2, event.place? = none := by
  rcases s.takes_or_advance_or_leavesAlone action with htakes | ⟨answers, isGraceOver, rfl⟩ | hleaves
  · exact absurd htakes hleft
  · simp only [step, advance, h.unowned_of_idle hidle]
    exact ⟨.refl s, place?_of_mem_nil⟩
  · exact hleaves

/-- A session stops being idle when a call takes it, and in no other way. -/
theorem lifecycle_step_of_idle (h : s.Orderly) (hidle : s.lifecycle = .idle) (action : Action) :
    (s.step action).1.lifecycle ≠ .idle ↔ s.Takes action := by
  constructor
  · intro hgone
    by_contra hleft
    exact hgone ((leavesAlone_of_idle h hidle hleft).1.lifecycle.trans hidle)
  · intro htakes hstill
    rcases step_of_takes htakes with ⟨callbacks, -, hstep⟩ | ⟨-, hstep⟩ <;>
      cases hstep ▸ hstill

/-! ## Work on a call -/

/-- That the owner's place belongs to the work on a request. -/
def Control.IsFor (request : Request) : Control → Prop
  | .unowned => False
  | .binding callbacks | .reporting _ callbacks => request = .run callbacks
  | .installing _ input => ∃ callbacks, request = .run callbacks ∧ callbacks.input = input
  | .abandoning _ | .launching _ | .parked | .tearingDown .. | .returned _ =>
    ∃ callbacks, request = .run callbacks
  | .closing _ | .closed => request = .closeIfIdle

/-- That the work on a request may bring about an event: ports are bound for a run alone, and told
or given input only as its callbacks say. -/
def Event.IsFor (request : Request) : Event → Prop
  | .bound _ | .bindFailed _ => ∃ callbacks, request = .run callbacks
  | .portsReported _ => ∃ callbacks, request = .run callbacks ∧ callbacks.takesPorts
  | .inputInstalled callback =>
    ∃ callbacks, request = .run callbacks ∧ callbacks.input = some callback
  | _ => True

def Event.isBinding : Event → Bool
  | .bound _ | .bindFailed _ => true
  | _ => false

def Event.isPortsReport : Event → Bool
  | .portsReported _ => true
  | _ => false

def Event.isInstallation : Event → Bool
  | .inputInstalled _ => true
  | _ => false

/-- What no request is needed for: events that are not the owner's, or come late in its work. -/
theorem Event.isFor_of_place? (h : ∀ place, event.place? = some place → 3 < place) :
    event.IsFor request := by
  cases event with
  | bound | bindFailed => exact absurd (h 1 rfl) (by decide)
  | portsReported => exact absurd (h 2 rfl) (by decide)
  | inputInstalled => exact absurd (h 3 rfl) (by decide)
  | _ => trivial

theorem Event.isFor_of_eq_none (h : event.place? = none) : event.IsFor request := by
  apply Event.isFor_of_place?
  intro place hplace
  cases h.symm.trans hplace

/-- A run that has nothing left to give to the host goes on as any run does. -/
theorem Control.isFor_of_le_place (hplace : 4 ≤ control.place)
    (hclosing : ¬control.isClosing) {callbacks : Callbacks} (hrequest : request = .run callbacks) :
    control.IsFor request := by
  cases control with
  | unowned | binding | abandoning | reporting | installing => simp at hplace
  | closing | closed => exact absurd rfl hclosing
  | launching | parked | tearingDown | returned => exact ⟨callbacks, hrequest⟩

/-- That a step of the owner goes on with the work on the request. -/
def WorksFor (request : Request) (next : Session × List Event) : Prop :=
  next.1.control.IsFor request ∧ ∀ event ∈ next.2, event.IsFor request

/-- From the launch on, nothing in the work of a run depends on what the host gave. -/
theorem worksFor_of_le_place (hplace : 4 ≤ s.control.place) (hrunning : ¬s.control.isClosing)
    {callbacks : Callbacks} (hrequest : request = .run callbacks) (answers : Ingress.Answers)
    (isGraceOver : Bool) : WorksFor request (s.advance answers isGraceOver) := by
  have hgo := goesOn_advance answers isGraceOver s
  constructor
  · apply Control.isFor_of_le_place (Nat.le_trans hplace hgo.le) _ hrequest
    intro hclosing
    rcases (hgo.closing hclosing).1 with hbefore | hzero
    · exact hrunning hbefore
    · exact absurd (hzero ▸ hplace) (by decide)
  · intro event hevent
    apply Event.isFor_of_place?
    intro place hthere
    exact (hgo.inPlace event hevent place hthere).1 ▸ hplace

theorem worksFor_advance (h : s.control.IsFor request) (answers : Ingress.Answers)
    (isGraceOver : Bool) : WorksFor request (s.advance answers isGraceOver) := by
  cases hcontrol : s.control with
  | unowned =>
    rw [hcontrol] at h
    cases h
  | binding callbacks =>
    rw [hcontrol] at h
    simp only [advance, hcontrol]
    split
    · refine ⟨h, ?_⟩
      rintro _ (_ | ⟨_, ⟨⟩⟩)
      exact ⟨callbacks, h⟩
    · refine ⟨⟨callbacks, h⟩, ?_⟩
      rintro _ (_ | ⟨_, ⟨⟩⟩)
      exact ⟨callbacks, h⟩
  | abandoning fault =>
    rw [hcontrol] at h
    simp only [advance, hcontrol, triggerStop]
    refine ⟨h, ?_⟩
    split <;> simp [Event.IsFor]
  | reporting pair callbacks =>
    rw [hcontrol] at h
    simp only [advance, hcontrol, report]
    split
    · next htakes =>
      refine ⟨⟨callbacks, h, rfl⟩, ?_⟩
      rintro _ (_ | ⟨_, ⟨⟩⟩)
      exact ⟨callbacks, h, htakes⟩
    · exact ⟨⟨callbacks, h, rfl⟩, by simp⟩
  | installing pair input =>
    rw [hcontrol] at h
    obtain ⟨callbacks, hrequest, hinput⟩ := h
    simp only [advance, hcontrol, install]
    split
    · refine ⟨⟨callbacks, hrequest⟩, ?_⟩
      rintro _ (_ | ⟨_, ⟨⟩⟩)
      exact ⟨callbacks, hrequest, hinput⟩
    · exact ⟨⟨callbacks, hrequest⟩, by simp⟩
  | launching | parked | returned =>
    obtain ⟨callbacks, hrequest⟩ : ∃ callbacks, request = .run callbacks := by
      rw [hcontrol] at h
      exact h
    exact worksFor_of_le_place (by simp [hcontrol]) (by simp [hcontrol]) hrequest _ _
  | tearingDown stage fault =>
    obtain ⟨callbacks, hrequest⟩ : ∃ callbacks, request = .run callbacks := by
      rw [hcontrol] at h
      exact h
    exact worksFor_of_le_place (by cases stage <;> simp [hcontrol]) (by simp [hcontrol]) hrequest _ _
  | closing stage =>
    rw [hcontrol] at h
    simp only [advance, hcontrol]
    cases stage with
    | trigger =>
      simp only [stepClosing, triggerStop]
      refine ⟨h, ?_⟩
      split <;> simp [Event.IsFor]
    | clearInput | closeConnection =>
      exact ⟨h, by simp [stepClosing, clearInput, closeConnection, Event.IsFor]⟩
  | closed =>
    simp only [advance, hcontrol]
    exact ⟨h, by simp⟩

theorem worksFor_step (h : s.control.IsFor request) (htaken : s.lifecycle ≠ .idle)
    (action : Action) : WorksFor request (s.step action) := by
  rcases s.takes_or_advance_or_leavesAlone action with htakes | ⟨answers, isGraceOver, rfl⟩ |
    ⟨hleaves, hevents⟩
  · exact absurd (takes_iff.1 htakes).1 htaken
  · exact worksFor_advance h answers isGraceOver
  · refine ⟨hleaves.control ▸ h, ?_⟩
    intro event hevent
    exact Event.isFor_of_eq_none (hevents event hevent)

/-- Whoever takes a session works on its own request. -/
theorem worksFor_of_takes (htakes : s.Takes action) (hrequest : action.request? = some request) :
    WorksFor request (s.step action) := by
  rcases step_of_takes htakes with ⟨callbacks, rfl, hstep⟩ | ⟨rfl, hstep⟩ <;>
    cases hrequest <;> rw [hstep]
  · exact ⟨rfl, by simp [Event.IsFor]⟩
  · exact ⟨rfl, by simp [Event.IsFor]⟩

/-! ## Replies -/

/-- Work that is done stays done, and so does its result. -/
theorem ownerReply?_step (h : s.Orderly) (hreply : s.ownerReply? = some reply) (action : Action) :
    (s.step action).1.ownerReply? = some reply := by
  have htaken : s.lifecycle ≠ .idle := by
    intro hidle
    simp only [ownerReply?, h.unowned_of_idle hidle] at hreply
    cases hreply
  rcases s.step_cases action with ⟨callbacks, rfl, hidle⟩ | ⟨rfl, hidle⟩ |
    ⟨answers, isGraceOver, rfl⟩ | hleaves
  · exact absurd hidle htaken
  · exact absurd hidle htaken
  · cases hcontrol : s.control with
    | returned | closed =>
      simp only [step, advance, hcontrol]
      exact hreply
    | _ =>
      simp only [ownerReply?, hcontrol] at hreply
      cases hreply
  · simp only [ownerReply?, hleaves.control]
    exact hreply

namespace Call

/-- That a call which has not taken the session has returned, and with what. -/
def IsAnswered (call : Call) : Prop :=
  ∃ reply, call.reply? = some reply ∧
    (call.request.wantsSession → call.request.refusal? = some reply)

theorem await_of_isAnswered {call : Call} (h : call.IsAnswered) (s : Session) :
    call.await s = call := by
  obtain ⟨reply, hreply, -⟩ := h
  simp only [await, hreply, Option.some_or]
  rw [← hreply]

theorem await_of_reply? {call : Call} (h : call.reply? = s.ownerReply?) :
    call.await s = call := by
  simp only [await, h, Option.or_self]
  rw [← h]

theorem takes_await (call : Call) (s : Session) : (call.await s).takes = call.takes := rfl

end Call

theorem isAnswered_call? {call : Call} (hcall : s.call? action = some call)
    (hleft : call.takes = false) : call.IsAnswered := by
  obtain ⟨request, hrequest, rfl⟩ := Option.map_eq_some_iff.1 hcall
  cases request with
  | stop => exact ⟨_, rfl, fun hwants => by cases hwants⟩
  | run | closeIfIdle =>
    have htaken : s.lifecycle ≠ .idle := fun hidle => by
      simp [Call.takes, Request.wantsSession, hidle] at hleft
    refine ⟨_, ?_, fun _ => rfl⟩
    simp only [reply?, htaken, if_false, Request.refusal?]

/-! ## Who has the session -/

namespace Calls

/-! ### Steps -/

theorem calls_step (c : Calls) (action : Action) : (c.step action).calls =
    (c.calls ++ (c.session.call? action).toList).map (·.await (c.session.step action).1) := rfl

/-- The calls after a step are those before it, and the one that is made in it. -/
theorem mem_calls_step {call : Call} (h : call ∈ (c.step action).calls) :
    ∃ before, call = before.await (c.session.step action).1 ∧
      (before ∈ c.calls ∨ c.session.call? action = some before) := by
  rw [calls_step] at h
  obtain ⟨before, hbefore, rfl⟩ := List.mem_map.1 h
  refine ⟨before, rfl, ?_⟩
  exact (List.mem_append.1 hbefore).imp_right Option.mem_toList.1

theorem countP_takes_step (c : Calls) (action : Action) :
    (c.step action).calls.countP Call.takes =
      c.calls.countP Call.takes + (c.session.call? action).toList.countP Call.takes := by
  rw [calls_step, List.countP_map, List.countP_append]
  rfl

/-- That one call has the session from the moment at which it is not idle, that what was seen is
the work on that call, and that all other calls have returned. -/
structure Owned (c : Calls) : Prop where
  orderly : c.session.Orderly
  idle : c.session.lifecycle = .idle →
    (∀ call ∈ c.calls, ¬call.request.wantsSession) ∧ ∀ event ∈ c.seen, event.place? = none
  taken : c.session.lifecycle ≠ .idle → c.calls.countP Call.takes = 1
  answered : ∀ call ∈ c.calls, call.takes = false → call.IsAnswered
  owner : ∀ call ∈ c.calls, call.takes → call.reply? = c.session.ownerReply? ∧
    c.session.control.IsFor call.request ∧ ∀ event ∈ c.seen, event.IsFor call.request

theorem owned_new (id : String) (config : Config) (tracks : MediaKind → Sink) :
    (Calls.new { Session.new id config with tracks }).Owned where
  orderly := orderly_new id config tracks
  idle _ := ⟨fun _ hcall => absurd hcall List.not_mem_nil, place?_of_mem_nil⟩
  taken htaken := absurd rfl htaken
  answered _ hcall := absurd hcall List.not_mem_nil
  owner _ hcall := absurd hcall List.not_mem_nil

theorem not_takes_of_not_wantsSession {call : Call} (h : ¬call.request.wantsSession) :
    call.takes = false := by
  simp only [Call.takes, Bool.eq_false_iff.2 h, Bool.false_and]

/-- A call takes an idle session, and the work on it begins. -/
theorem Owned.step_of_takes (h : c.Owned) (htakes : c.session.Takes action) :
    (c.step action).Owned := by
  have hidle := (takes_iff.1 htakes).1
  have hgone := (lifecycle_step_of_idle h.orderly hidle action).2 htakes
  obtain ⟨hunwanted, hunseen⟩ := h.idle hidle
  have hold : ∀ call ∈ c.calls, call.takes = false := fun call hcall =>
    not_takes_of_not_wantsSession (hunwanted call hcall)
  have ⟨taker, htaker, hisTaker⟩ := htakes
  constructor
  · exact h.orderly.step action
  · intro hstill
    exact absurd hstill hgone
  · intro _
    have hzero : c.calls.countP Call.takes = 0 :=
      List.countP_eq_zero.2 fun call hcall => Bool.eq_false_iff.1 (hold call hcall)
    rw [countP_takes_step, hzero, htaker]
    simp [hisTaker]
  · intro call hcall hleft
    obtain ⟨before, rfl, hbefore | hnew⟩ := mem_calls_step hcall
    · have hanswered := h.answered before hbefore (hold before hbefore)
      rw [Call.await_of_isAnswered hanswered]
      exact hanswered
    · cases htaker.symm.trans hnew
      exact absurd hisTaker (Bool.eq_false_iff.1 hleft)
  · intro call hcall hmine
    obtain ⟨before, rfl, hbefore | hnew⟩ := mem_calls_step hcall
    · exact absurd hmine (Bool.eq_false_iff.1 (hold before hbefore))
    · cases htaker.symm.trans hnew
      obtain ⟨request, hrequest, rfl⟩ := Option.map_eq_some_iff.1 htaker
      obtain ⟨hwork, hevents⟩ := worksFor_of_takes htakes hrequest
      refine ⟨?_, hwork, ?_⟩
      · have hwaits : c.session.reply? request = none := by
          cases request with
          | stop => cases hisTaker
          | run | closeIfIdle => simp only [reply?, hidle, if_true]
        simp only [Call.await, hwaits, Option.none_or]
        rfl
      · intro event hevent
        rcases List.mem_append.1 hevent with hseen | hnew
        · exact Event.isFor_of_eq_none (hunseen event hseen)
        · exact hevents event hnew

/-- While no call takes the session, the work on the one that has taken it goes on. -/
theorem Owned.step_of_not_takes (h : c.Owned) (hleft : ¬c.session.Takes action) :
    (c.step action).Owned := by
  have hnew {call : Call} (hcall : c.session.call? action = some call) : call.takes = false :=
    Bool.eq_false_iff.2 fun htakes => hleft ⟨call, hcall, htakes⟩
  constructor
  · exact h.orderly.step action
  · intro hstill
    have hidle := (lifecycle_of_step hstill).1
    obtain ⟨hunwanted, hunseen⟩ := h.idle hidle
    refine ⟨?_, ?_⟩
    · intro call hcall hwants
      obtain ⟨before, rfl, hbefore | hcall⟩ := mem_calls_step hcall
      · exact hunwanted before hbefore hwants
      · obtain ⟨request, hrequest, rfl⟩ := Option.map_eq_some_iff.1 hcall
        exact hleft (takes_iff.2 ⟨hidle, request, hrequest, hwants⟩)
    · intro event hevent
      rcases List.mem_append.1 hevent with hseen | hevent
      · exact hunseen event hseen
      · exact (leavesAlone_of_idle h.orderly hidle hleft).2 event hevent
  · intro hgone
    have htaken : c.session.lifecycle ≠ .idle := fun hidle =>
      hleft ((lifecycle_step_of_idle h.orderly hidle action).1 hgone)
    have hzero : (c.session.call? action).toList.countP Call.takes = 0 :=
      List.countP_eq_zero.2 fun call hcall => Bool.eq_false_iff.1 (hnew (Option.mem_toList.1 hcall))
    rw [countP_takes_step, h.taken htaken, hzero]
  · intro call hcall hother
    obtain ⟨before, rfl, hbefore | hcall⟩ := mem_calls_step hcall
    · have hanswered := h.answered before hbefore hother
      rw [Call.await_of_isAnswered hanswered]
      exact hanswered
    · have hanswered := isAnswered_call? hcall (hnew hcall)
      rw [Call.await_of_isAnswered hanswered]
      exact hanswered
  · intro call hcall hmine
    obtain ⟨before, rfl, hbefore | hcall⟩ := mem_calls_step hcall
    · obtain ⟨hreply, hwork, hevents⟩ := h.owner before hbefore hmine
      have htaken : c.session.lifecycle ≠ .idle := fun hidle =>
        (h.idle hidle).1 before hbefore (Bool.and_eq_true_iff.1 hmine).1
      obtain ⟨hnext, hnew⟩ := worksFor_step hwork htaken action
      refine ⟨?_, hnext, ?_⟩
      · simp only [Call.await, hreply]
        cases hdone : c.session.ownerReply? with
        | none => rfl
        | some reply => exact (ownerReply?_step h.orderly hdone action).symm
      · intro event hevent
        rcases List.mem_append.1 hevent with hseen | hevent
        · exact hevents event hseen
        · exact hnew event hevent
    · rw [Call.takes_await, hnew hcall] at hmine
      cases hmine

theorem Owned.step (h : c.Owned) (action : Action) : (c.step action).Owned := by
  by_cases htakes : c.session.Takes action
  · exact h.step_of_takes htakes
  · exact h.step_of_not_takes htakes

theorem Owned.run (h : c.Owned) (schedule : List Action) : (c.run schedule).Owned := by
  induction schedule generalizing c with
  | nil => exact h
  | cons action rest ih => exact ih (h.step action)

/-! ### Refusals -/

/-- The calls of a session on which nothing happens have nothing to wait for. -/
theorem Owned.await_eq (h : c.Owned) {call : Call} (hcall : call ∈ c.calls) :
    call.await c.session = call := by
  cases htakes : call.takes with
  | true => exact Call.await_of_reply? (h.owner call hcall htakes).1
  | false => exact Call.await_of_isAnswered (h.answered call hcall htakes) _

/-- A call that finds the session taken adds itself and its refusal, and nothing else changes. -/
theorem Owned.step_of_refused (h : c.Owned) (htaken : c.session.lifecycle ≠ .idle)
    (hrequest : action.request? = some request) (hwants : request.wantsSession) :
    ∃ refusal : Event, refusal.isRefusal ∧ c.step action =
      ⟨c.session, c.calls ++ [⟨request, c.session.lifecycle, request.refusal?⟩],
        c.seen ++ [refusal]⟩ := by
  have hcalls : c.calls.map (·.await c.session) = c.calls :=
    (List.map_congr_left fun _ hcall => h.await_eq hcall).trans (List.map_id _)
  have hrefused {refusal : Event} {reply : Reply}
      (hstep : c.session.step action = (c.session, [refusal]))
      (hreply : c.session.reply? request = some reply) :
      c.step action = ⟨c.session, c.calls ++ [⟨request, c.session.lifecycle, some reply⟩],
        c.seen ++ [refusal]⟩ := by
    simp only [Calls.step, hstep, call?, hrequest, hreply, Option.map_some, Option.toList_some,
      List.map_append, List.map_cons, List.map_nil, hcalls]
    rfl
  cases action with
  | run callbacks =>
    cases hrequest
    exact ⟨.runIgnored, rfl, hrefused (if_neg htaken) (if_neg htaken)⟩
  | closeIfIdle =>
    cases hrequest
    exact ⟨.closeRefused, rfl, hrefused (if_neg htaken) (if_neg htaken)⟩
  | stop =>
    cases hrequest
    cases hwants
  | _ => cases hrequest

/-! ### Runs -/

/-- A session does not depend on who waits for it. -/
theorem session_run (c : Calls) (schedule : List Action) :
    (c.run schedule).session = (c.session.run schedule).1 ∧
      (c.run schedule).seen = c.seen ++ (c.session.run schedule).2 := by
  induction schedule generalizing c with
  | nil => exact ⟨rfl, (List.append_nil _).symm⟩
  | cons action rest ih =>
    obtain ⟨hsession, hseen⟩ := ih (c.step action)
    refine ⟨hsession, hseen.trans ?_⟩
    rw [snd_run_cons, ← List.append_assoc]
    rfl

/-- That a session has one way out of idleness: one call takes it, and no other call has a part in
what is done on it. -/
structure TakenOnce (c : Calls) : Prop where
  /-- The lifecycle goes forward or stays, whatever comes next. -/
  moves : ∀ action, (c.step action).session.lifecycle = c.session.lifecycle ∨
    c.session.lifecycle.Moves (c.step action).session.lifecycle
  /-- An idle session is taken by the next run or close, and by nothing else. -/
  leaves : c.session.lifecycle = .idle → ∀ action,
    ((c.step action).session.lifecycle ≠ .idle ↔
      ∃ request, action.request? = some request ∧ request.wantsSession)
  /-- Of all runs and closes one takes the session, if there are any. -/
  takes : c.calls.countP Call.takes = if c.calls.any (·.request.wantsSession) then 1 else 0
  idle : c.session.lifecycle = .idle ↔ c.calls.countP Call.takes = 0
  /-- The call that has taken the session returns when the work is done. -/
  owner : ∀ call ∈ c.calls, call.takes → call.reply? = c.session.ownerReply?
  /-- All other calls have returned: a run with success, a close with the news that it closed
  nothing. -/
  others : ∀ call ∈ c.calls, call.takes = false → call.IsAnswered
  /-- Such a run or close changes nothing. -/
  refused : c.session.lifecycle ≠ .idle → ∀ action request, action.request? = some request →
    request.wantsSession → ∃ refusal : Event, refusal.isRefusal ∧ c.step action =
      ⟨c.session, c.calls ++ [⟨request, c.session.lifecycle, request.refusal?⟩],
        c.seen ++ [refusal]⟩
  /-- Ports are bound and told and input is installed for the call that has taken the session. -/
  behalf : ∀ event ∈ c.seen, event.place?.isSome →
    ∃ call ∈ c.calls, call.takes ∧ event.IsFor call.request
  boundOnce : c.seen.countP Event.isBinding ≤ 1
  reportedOnce : c.seen.countP Event.isPortsReport ≤ 1
  installedOnce : c.seen.countP Event.isInstallation ≤ 1
  closedOnce : c.seen.count .connectionClosed ≤ 1

/-- What an owner brings about at one place only is seen once at most. -/
theorem countP_le_one_of_place (h : control.Placed events) (place : Nat) {p : Event → Bool}
    (hp : ∀ event, p event → event.place? = some place) : events.countP p ≤ 1 := by
  apply Nat.le_trans _ (h.once place)
  apply List.countP_mono_left
  intro event _ hevent
  exact beq_iff_eq.2 (hp event hevent)

theorem Owned.countP_takes_eq_zero (h : c.Owned) :
    c.calls.countP Call.takes = 0 ↔ c.session.lifecycle = .idle := by
  constructor
  · intro hzero
    by_contra htaken
    cases hzero.symm.trans (h.taken htaken)
  · intro hidle
    apply List.countP_eq_zero.2
    intro call hcall
    exact Bool.eq_false_iff.1 (not_takes_of_not_wantsSession ((h.idle hidle).1 call hcall))

theorem Owned.exists_takes (h : c.Owned) (htaken : c.session.lifecycle ≠ .idle) :
    ∃ call ∈ c.calls, call.takes := by
  apply List.countP_pos_iff.1
  rw [h.taken htaken]
  exact Nat.one_pos

theorem Owned.takenOnce (h : c.Owned) (hplaced : c.session.control.Placed c.seen) :
    c.TakenOnce where
  moves := c.session.lifecycle_step
  leaves hidle action := by
    apply (lifecycle_step_of_idle h.orderly hidle action).trans
    exact takes_iff.trans (and_iff_right hidle)
  takes := by
    by_cases hidle : c.session.lifecycle = .idle
    · have hnone : ¬c.calls.any (·.request.wantsSession) := by
        simpa using (h.idle hidle).1
      simp only [hnone, h.countP_takes_eq_zero.2 hidle]
      rfl
    · obtain ⟨call, hcall, htakes⟩ := h.exists_takes hidle
      have hany : c.calls.any (·.request.wantsSession) :=
        List.any_eq_true.2 ⟨call, hcall, (Bool.and_eq_true_iff.1 htakes).1⟩
      simp only [hany, h.taken hidle, if_true]
  idle := h.countP_takes_eq_zero.symm
  owner call hcall htakes := (h.owner call hcall htakes).1
  others := h.answered
  refused htaken _ _ := h.step_of_refused htaken
  behalf event hevent hplace := by
    have htaken : c.session.lifecycle ≠ .idle := by
      intro hidle
      rw [(h.idle hidle).2 event hevent] at hplace
      cases hplace
    obtain ⟨call, hcall, htakes⟩ := h.exists_takes htaken
    exact ⟨call, hcall, htakes, (h.owner call hcall htakes).2.2 event hevent⟩
  boundOnce := by
    apply countP_le_one_of_place hplaced 1
    intro event hevent
    cases event with
    | bound | bindFailed => rfl
    | _ => cases hevent
  reportedOnce := by
    apply countP_le_one_of_place hplaced 2
    intro event hevent
    cases event with
    | portsReported => rfl
    | _ => cases hevent
  installedOnce := by
    apply countP_le_one_of_place hplaced 3
    intro event hevent
    cases event with
    | inputInstalled => rfl
    | _ => cases hevent
  closedOnce := by
    apply countP_le_one_of_place hplaced 9
    intro event hevent
    rw [eq_of_beq hevent]
    rfl

/-- However many calls there are and however they take turns with all else that goes on, the
session is taken once. -/
theorem takenOnce_run (id : String) (config : Config) (tracks : MediaKind → Sink)
    (schedule : List Action) :
    ((Calls.new { Session.new id config with tracks }).run schedule).TakenOnce := by
  obtain ⟨hsession, hseen⟩ :=
    session_run (Calls.new { Session.new id config with tracks }) schedule
  apply ((owned_new id config tracks).run schedule).takenOnce
  rw [hsession, hseen]
  exact (chronicle_run id config tracks schedule).placed

/-- A run takes the session. A second run and a close come too late, and a stop is for anyone. -/
example :
    let c := (Calls.new { Session.new "s" .default with tracks := fun _ => .ofRules [] }).run
      [.run ⟨true, none⟩, .run ⟨true, some 0⟩, .closeIfIdle, .stop]
    c.calls.map (·.takes) = [true, false, false, false] ∧
      c.calls.map (·.reply?) =
        [none, some (.ran (.ok ())), some (.closed false), some (.stopped true)] ∧
      c.seen = [.runBegan, .runIgnored, .closeRefused, .stopTriggered .host] :=
  ⟨rfl, rfl, rfl⟩

end Calls

end Session

end RtpBridge

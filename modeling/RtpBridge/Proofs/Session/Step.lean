-- SUMMARY: What a step of a session leaves as it is, and what lasts for good.
import RtpBridge.Proofs.Relay.Links
import RtpBridge.Session.Step

/-!
# Steps of a session: laws

Three kinds of steps matter to who owns a session: one that takes it while it is idle, one
of the owner, and all others, which leave to the owner what is the owner's
(`Session.step_cases`). A triggered latch and the end of a session last for good.
-/

namespace RtpBridge.Session

variable {s after : Session}

/-! ## Steps of others -/

/-- What everyone but the owner leaves alone. The relay goes on by one action at most. -/
structure LeavesAlone (s after : Session) : Prop where
  control : after.control = s.control
  lifecycle : after.lifecycle = s.lifecycle
  input : after.input = s.input
  isConnectionOpen : after.isConnectionOpen = s.isConnectionOpen
  reported : after.reported = s.reported
  stop : s.stop.isTriggered → after.stop.isTriggered
  relay : after.relay = s.relay ∨ ∃ relay stop action,
    s.relay = some relay ∧ after.relay = some (Relay.step relay stop action).1

theorem LeavesAlone.refl (s : Session) : s.LeavesAlone s :=
  ⟨rfl, rfl, rfl, rfl, rfl, fun h => h, .inl rfl⟩

theorem leavesAlone_triggerStop (stopper : Stopper) (s : Session) :
    s.LeavesAlone (s.triggerStop stopper).1 :=
  ⟨rfl, rfl, rfl, rfl, rfl, fun _ => s.stop.isTriggered_trigger, .inl rfl⟩

theorem leavesAlone_arrive (kind : MediaKind) (arrival : Arrival) (s : Session) :
    s.LeavesAlone (s.arrive kind arrival) := by
  unfold arrive
  split
  · next relay hrelay =>
    exact ⟨rfl, rfl, rfl, rfl, rfl, fun h => h,
      .inr ⟨relay, s.stop, .arrive kind.index arrival, hrelay, rfl⟩⟩
  · split
    · exact ⟨rfl, rfl, rfl, rfl, rfl, fun h => h, .inl rfl⟩
    · exact .refl s

theorem leavesAlone_pump (kind : MediaKind) (s : Session) : s.LeavesAlone (s.pump kind).1 := by
  unfold pump
  split
  · exact .refl s
  · next relay hrelay =>
    refine ⟨rfl, rfl, rfl, rfl, rfl, fun hstop => ?_,
      .inr ⟨relay, s.stop, .pump kind.index, hrelay, rfl⟩⟩
    simp only [Relay.step]
    split
    · exact s.stop.isTriggered_trigger
    · exact hstop

theorem leavesAlone_feedback (kind : MediaKind) (outcome : ReadOutcome) (s : Session) :
    s.LeavesAlone (s.feedback kind outcome) := by
  refine ⟨rfl, rfl, rfl, rfl, rfl, fun h => h, ?_⟩
  cases hrelay : s.relay with
  | none =>
    refine .inl ?_
    simp only [feedback, hrelay, Option.map_none]
  | some relay =>
    refine .inr ⟨relay, s.stop, .feedback kind.index outcome, rfl, ?_⟩
    simp only [feedback, hrelay, Option.map_some]
    rfl

/-- A step takes an idle session, or it is the owner's, or it leaves to the owner what is the
owner's. -/
theorem step_cases (s : Session) (action : Action) :
    (∃ callbacks, action = .run callbacks ∧ s.lifecycle = .idle) ∨
    (action = .closeIfIdle ∧ s.lifecycle = .idle) ∨
    (∃ answers isGraceOver, action = .advance answers isGraceOver) ∨
    s.LeavesAlone (s.step action).1 := by
  cases action with
  | run callbacks =>
    by_cases hidle : s.lifecycle = .idle
    · exact .inl ⟨callbacks, rfl, hidle⟩
    · simp only [step, beginRun, hidle, if_false]
      exact .inr (.inr (.inr (.refl s)))
  | closeIfIdle =>
    by_cases hidle : s.lifecycle = .idle
    · exact .inr (.inl ⟨rfl, hidle⟩)
    · simp only [step, beginClose, hidle, if_false]
      exact .inr (.inr (.inr (.refl s)))
  | advance answers isGraceOver => exact .inr (.inr (.inl ⟨answers, isGraceOver, rfl⟩))
  | stop | connectionFailed => exact .inr (.inr (.inr (leavesAlone_triggerStop _ s)))
  | arrive kind arrival => exact .inr (.inr (.inr (leavesAlone_arrive kind arrival s)))
  | pump kind => exact .inr (.inr (.inr (leavesAlone_pump kind s)))
  | feedback kind outcome => exact .inr (.inr (.inr (leavesAlone_feedback kind outcome s)))
  | message octets => exact .inr (.inr (.inr (.refl s)))

/-! ## What lasts -/

/-- The owner ends the session or leaves its lifecycle, and never takes a trigger back. -/
theorem lasting_tearDown (stage : Teardown) (fault : Option BindFault) (isGraceOver : Bool)
    (s : Session) :
    ((s.tearDown stage fault isGraceOver).1.lifecycle = s.lifecycle ∨
      (s.tearDown stage fault isGraceOver).1.lifecycle = .terminated) ∧
    (s.tearDown stage fault isGraceOver).1.stop = s.stop := by
  unfold tearDown
  split
  · exact ⟨.inl rfl, rfl⟩
  · exact ⟨.inl rfl, rfl⟩
  · split
    · exact ⟨.inl rfl, rfl⟩
    · split <;> exact ⟨.inl rfl, rfl⟩
  · exact ⟨.inl rfl, rfl⟩
  · exact ⟨.inl rfl, rfl⟩
  · exact ⟨.inl rfl, rfl⟩
  · split
    · exact ⟨.inl rfl, rfl⟩
    · split <;> exact ⟨.inl rfl, rfl⟩
  · exact ⟨.inl rfl, rfl⟩
  · exact ⟨.inr rfl, rfl⟩

theorem lasting_advance (answers : Ingress.Answers) (isGraceOver : Bool) (s : Session) :
    ((s.advance answers isGraceOver).1.lifecycle = s.lifecycle ∨
      (s.advance answers isGraceOver).1.lifecycle = .terminated) ∧
    (s.stop.isTriggered → (s.advance answers isGraceOver).1.stop.isTriggered) := by
  unfold advance
  split
  · exact ⟨.inl rfl, fun h => h⟩
  · exact ⟨.inl rfl, fun h => h⟩
  · exact ⟨.inl rfl, fun h => h⟩
  · split <;> exact ⟨.inl rfl, fun h => h⟩
  · exact ⟨.inl rfl, fun _ => s.stop.isTriggered_trigger⟩
  · simp only [report]
    split <;> exact ⟨.inl rfl, fun h => h⟩
  · simp only [install]
    split <;> exact ⟨.inl rfl, fun h => h⟩
  · exact ⟨.inl rfl, fun h => h⟩
  · split <;> exact ⟨.inl rfl, fun h => h⟩
  · next stage fault _ =>
    obtain ⟨hlifecycle, hstop⟩ := lasting_tearDown stage fault isGraceOver s
    exact ⟨hlifecycle, fun h => hstop ▸ h⟩
  · unfold stepClosing
    split
    · exact ⟨.inl rfl, fun _ => s.stop.isTriggered_trigger⟩
    · exact ⟨.inl rfl, fun h => h⟩
    · exact ⟨.inl rfl, fun h => h⟩

theorem terminated_step (h : s.lifecycle = .terminated) (action : Action) :
    (s.step action).1.lifecycle = .terminated := by
  rcases s.step_cases action with ⟨_, -, hidle⟩ | ⟨-, hidle⟩ | ⟨answers, isGraceOver, rfl⟩ | hleaves
  · rw [h] at hidle
    cases hidle
  · rw [h] at hidle
    cases hidle
  · rcases (lasting_advance answers isGraceOver s).1 with hkept | hended
    · exact hkept.trans h
    · exact hended
  · exact hleaves.lifecycle.trans h

theorem isTriggered_step (h : s.stop.isTriggered) (action : Action) :
    (s.step action).1.stop.isTriggered := by
  rcases s.step_cases action with ⟨callbacks, rfl, hidle⟩ | ⟨rfl, hidle⟩ |
    ⟨answers, isGraceOver, rfl⟩ | hleaves
  · simp only [step, beginRun, hidle, if_true, h]
  · simp only [step, beginClose, hidle, if_true, h]
  · exact (lasting_advance answers isGraceOver s).2 h
  · exact hleaves.stop h

/-! ## Runs -/

theorem run_append (s : Session) (first rest : List Action) :
    s.run (first ++ rest) = (((s.run first).1.run rest).1,
      (s.run first).2 ++ ((s.run first).1.run rest).2) := by
  induction first generalizing s with
  | nil => rfl
  | cons action first ih =>
    rw [List.cons_append]
    refine Prod.ext ?_ ?_
    · rw [fst_run_cons, ih, fst_run_cons]
    · rw [snd_run_cons, ih, snd_run_cons, fst_run_cons, List.append_assoc]

end RtpBridge.Session

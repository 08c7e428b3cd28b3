-- SUMMARY: What holds of a session at each place of its owner's work, whatever the others do.
import RtpBridge.Proofs.Session.Step

/-!
# The order of the work

The owner of a session is always at one place of its work, and what it has done by then holds
of the session, whatever the others do (`Session.Orderly`). In a teardown, each stage leaves
behind for good what it is there for (`Session.IsTornDown`).
-/

namespace RtpBridge.Session

variable {s after : Session}

/-! ## Places of the work -/

/-- That no forward pump is left to be waited for. -/
def PumpsAreJoined (s : Session) : Prop := ∀ relay, s.relay = some relay → relay.pumpsJoined

def SinksAreJoined (s : Session) : Prop := ∀ relay, s.relay = some relay → relay.sinksJoined

/-- What a teardown has done by the time that it comes to a stage. -/
def IsTornDown (s : Session) : Teardown → Prop
  | .clearInput => s.stop.isTriggered
  | .raiseClose | .joinPumps => s.stop.isTriggered ∧ s.input.callback = none
  | .closeConnection => s.stop.isTriggered ∧ s.input.callback = none ∧ s.PumpsAreJoined
  | .joinSinks => s.stop.isTriggered ∧ s.input.callback = none ∧ s.PumpsAreJoined ∧
    s.isConnectionOpen = false
  | .terminate => s.stop.isTriggered ∧ s.input.callback = none ∧ s.PumpsAreJoined ∧
    s.isConnectionOpen = false ∧ s.SinksAreJoined

/-- That the session is as the owner's place in its work demands. -/
def IsAt (s : Session) : Control → Prop
  | .unowned => s.lifecycle = .idle ∧ s.relay = none
  | .binding _ | .abandoning _ | .reporting _ _ | .installing _ _ | .launching _ =>
    s.lifecycle = .running ∧ s.relay = none
  | .parked => s.lifecycle = .running
  | .tearingDown stage fault =>
    s.lifecycle = .running ∧ s.IsTornDown stage ∧ (fault.isSome → s.relay = none)
  | .returned _ => s.lifecycle = .terminated ∧ s.IsTornDown .terminate
  | .closing _ | .closed => s.lifecycle = .terminated

/-- That the session is as its owner has left it, and its relay as its tasks have. -/
structure Orderly (s : Session) : Prop where
  place : s.IsAt s.control
  accounts : ∀ relay, s.relay = some relay → relay.Accounts

theorem orderly_new (id : String) (config : Config) (tracks : MediaKind → Sink) :
    ({ new id config with tracks } : Session).Orderly :=
  ⟨⟨rfl, rfl⟩, fun _ h => nomatch h⟩

/-! ## Steps of others -/

theorem LeavesAlone.relay_eq_none (h : s.LeavesAlone after) (hrelay : s.relay = none) :
    after.relay = none := by
  rcases h.relay with hsame | ⟨relay, _, _, hsome, -⟩
  · rw [hsame, hrelay]
  · rw [hrelay] at hsome
    cases hsome

/-- What an action of a relay keeps, the others keep. -/
theorem LeavesAlone.forall_relay {P : Relay → Prop} (h : s.LeavesAlone after)
    (hP : ∀ relay stop action, P relay → P (Relay.step relay stop action).1)
    (hrelay : ∀ relay, s.relay = some relay → P relay) :
    ∀ relay, after.relay = some relay → P relay := by
  rcases h.relay with hsame | ⟨relay, stop, action, hsome, hafter⟩
  · rw [hsame]
    exact hrelay
  · intro next hnext
    rw [hafter] at hnext
    cases hnext
    exact hP relay stop action (hrelay relay hsome)

theorem LeavesAlone.pumpsAreJoined (h : s.LeavesAlone after) (hs : s.PumpsAreJoined) :
    after.PumpsAreJoined :=
  h.forall_relay (fun _ stop action hr => Relay.pumpsJoined_step hr stop action) hs

theorem LeavesAlone.sinksAreJoined (h : s.LeavesAlone after) (hs : s.SinksAreJoined) :
    after.SinksAreJoined :=
  h.forall_relay (fun _ stop action hr => Relay.sinksJoined_step hr stop action) hs

theorem LeavesAlone.isTornDown (h : s.LeavesAlone after) {stage : Teardown}
    (hs : s.IsTornDown stage) : after.IsTornDown stage := by
  have hinput (hclear : s.input.callback = none) : after.input.callback = none := by
    rw [h.input, hclear]
  cases stage with
  | clearInput => exact h.stop hs
  | raiseClose | joinPumps => exact ⟨h.stop hs.1, hinput hs.2⟩
  | closeConnection =>
    obtain ⟨hstop, hclear, hpumps⟩ := hs
    exact ⟨h.stop hstop, hinput hclear, h.pumpsAreJoined hpumps⟩
  | joinSinks =>
    obtain ⟨hstop, hclear, hpumps, hclosed⟩ := hs
    exact ⟨h.stop hstop, hinput hclear, h.pumpsAreJoined hpumps,
      h.isConnectionOpen.trans hclosed⟩
  | terminate =>
    obtain ⟨hstop, hclear, hpumps, hclosed, hsinks⟩ := hs
    exact ⟨h.stop hstop, hinput hclear, h.pumpsAreJoined hpumps,
      h.isConnectionOpen.trans hclosed, h.sinksAreJoined hsinks⟩

theorem LeavesAlone.isAt (h : s.LeavesAlone after) {control : Control} (hs : s.IsAt control) :
    after.IsAt control := by
  cases control with
  | unowned | binding | abandoning | reporting | installing | launching =>
    exact ⟨h.lifecycle.trans hs.1, h.relay_eq_none hs.2⟩
  | parked | closing | closed => exact h.lifecycle.trans hs
  | tearingDown stage fault =>
    obtain ⟨hlifecycle, htorn, hrelay⟩ := hs
    exact ⟨h.lifecycle.trans hlifecycle, h.isTornDown htorn, fun hf => h.relay_eq_none (hrelay hf)⟩
  | returned => exact ⟨h.lifecycle.trans hs.1, h.isTornDown hs.2⟩

theorem LeavesAlone.orderly (h : s.LeavesAlone after) (hs : s.Orderly) : after.Orderly where
  accounts := h.forall_relay (fun _ stop action hr => hr.step stop action) hs.accounts
  place := by
    rw [h.control]
    exact h.isAt hs.place

/-! ## Steps of the owner -/

/-- Collecting an exit is a matter of the relay alone. -/
theorem leavesAlone_relay {relay : Relay} (hrelay : s.relay = some relay) (action : Relay.Action) :
    s.LeavesAlone { s with relay := some (relay.step s.stop action).1 } :=
  ⟨rfl, rfl, rfl, rfl, rfl, fun h => h, .inr ⟨relay, s.stop, action, hrelay, rfl⟩⟩

/-- Without a relay there is nothing to collect. -/
theorem forall_relay_of_eq_none {P : Relay → Prop} (hrelay : s.relay = none) :
    ∀ relay, s.relay = some relay → P relay := by
  intro relay hsome
  rw [hrelay] at hsome
  cases hsome

theorem forall_relay_of_eq_some {P : Relay → Prop} {relay : Relay} (hrelay : s.relay = some relay)
    (hP : P relay) : ∀ relay, s.relay = some relay → P relay := by
  intro other hsome
  rw [hrelay] at hsome
  cases hsome
  exact hP

/-- The stages of a teardown follow each other, and each leaves behind what it is there for. -/
theorem Orderly.tearDown {stage : Teardown} {fault : Option BindFault} (h : s.Orderly)
    (hcontrol : s.control = .tearingDown stage fault) (isGraceOver : Bool) :
    (s.tearDown stage fault isGraceOver).1.Orderly := by
  have hplace := h.place
  rw [hcontrol] at hplace
  obtain ⟨hlifecycle, htorn, hfault⟩ := hplace
  cases stage with
  | clearInput =>
    cases hrelay : s.relay with
    | none =>
      have hpumps : s.PumpsAreJoined := forall_relay_of_eq_none hrelay
      simp only [Session.tearDown, hrelay]
      exact ⟨⟨hlifecycle, ⟨htorn, rfl, hpumps⟩, hfault⟩, h.accounts⟩
    | some relay =>
      simp only [Session.tearDown, hrelay]
      exact ⟨⟨hlifecycle, ⟨htorn, rfl⟩, hfault⟩, h.accounts⟩
  | raiseClose =>
    obtain ⟨hstop, hinput⟩ := htorn
    cases hrelay : s.relay with
    | none =>
      have hpumps : s.PumpsAreJoined := forall_relay_of_eq_none hrelay
      simp only [Session.tearDown, hrelay]
      exact ⟨⟨hlifecycle, ⟨hstop, hinput, hpumps⟩, hfault⟩, h.accounts⟩
    | some relay =>
      have hraised := (leavesAlone_relay hrelay .raiseClose).orderly h
      have hnone (hf : fault.isSome) : some relay.raiseClose = none := by
        rw [hfault hf] at hrelay
        cases hrelay
      simp only [Session.tearDown, hrelay]
      exact ⟨⟨hlifecycle, ⟨hstop, hinput⟩, hnone⟩, hraised.accounts⟩
  | joinPumps =>
    obtain ⟨hstop, hinput⟩ := htorn
    cases hrelay : s.relay with
    | none =>
      have hpumps : s.PumpsAreJoined := forall_relay_of_eq_none hrelay
      simp only [Session.tearDown, hrelay]
      exact ⟨⟨hlifecycle, ⟨hstop, hinput, hpumps⟩, hfault⟩, h.accounts⟩
    | some relay =>
      simp only [Session.tearDown, hrelay]
      split
      · next hjoined =>
        have hpumps : s.PumpsAreJoined := forall_relay_of_eq_some hrelay hjoined
        exact ⟨⟨hlifecycle, ⟨hstop, hinput, hpumps⟩, hfault⟩, h.accounts⟩
      · split
        · next joined hjoin =>
          have hstep : (relay.step s.stop .joinPump).1 = joined := by
            simp only [Relay.step, hjoin, Option.getD_some]
          exact hstep ▸ (leavesAlone_relay hrelay .joinPump).orderly h
        · exact h
  | closeConnection =>
    obtain ⟨hstop, hinput, hpumps⟩ := htorn
    cases hrelay : s.relay with
    | none =>
      have hsinks : s.SinksAreJoined := forall_relay_of_eq_none hrelay
      simp only [Session.tearDown, hrelay]
      exact ⟨⟨hlifecycle, ⟨hstop, hinput, hpumps, rfl, hsinks⟩, hfault⟩, h.accounts⟩
    | some relay =>
      simp only [Session.tearDown, hrelay]
      exact ⟨⟨hlifecycle, ⟨hstop, hinput, hpumps, rfl⟩, hfault⟩, h.accounts⟩
  | joinSinks =>
    obtain ⟨hstop, hinput, hpumps, hclosed⟩ := htorn
    cases hrelay : s.relay with
    | none =>
      have hsinks : s.SinksAreJoined := forall_relay_of_eq_none hrelay
      simp only [Session.tearDown, hrelay]
      exact ⟨⟨hlifecycle, ⟨hstop, hinput, hpumps, hclosed, hsinks⟩, hfault⟩, h.accounts⟩
    | some relay =>
      simp only [Session.tearDown, hrelay]
      split
      · next hjoined =>
        have hsinks : s.SinksAreJoined := forall_relay_of_eq_some hrelay hjoined
        exact ⟨⟨hlifecycle, ⟨hstop, hinput, hpumps, hclosed, hsinks⟩, hfault⟩, h.accounts⟩
      · split
        · next joined hjoin =>
          have hstep : (relay.step s.stop
              (.joinSink s.config.teardownGrace isGraceOver)).1 = joined := by
            simp only [Relay.step, hjoin, Option.getD_some]
          exact hstep ▸ (leavesAlone_relay hrelay _).orderly h
        · exact h
  | terminate => exact ⟨⟨rfl, htorn⟩, h.accounts⟩

/-- What came in early is handed to the pumps before they take a step. -/
theorem accounts_deliverEarly {relay : Relay} (h : relay.Accounts)
    (early : List (MediaKind × Arrival)) :
    (early.foldl (fun relay (kind, arrival) => relay.modifyLink kind.index (·.arrive arrival))
      relay).Accounts := by
  induction early generalizing relay with
  | nil => exact h
  | cons first rest ih => exact ih (h.step .armed (.arrive first.1.index first.2))

theorem Orderly.advance (h : s.Orderly) (answers : Ingress.Answers) (isGraceOver : Bool) :
    (s.advance answers isGraceOver).1.Orderly := by
  have hplace := h.place
  cases hcontrol : s.control with
  | unowned | returned | closed =>
    simp only [Session.advance, hcontrol]
    exact h
  | binding callbacks =>
    rw [hcontrol] at hplace
    simp only [Session.advance, hcontrol]
    split <;> exact ⟨hplace, h.accounts⟩
  | abandoning fault =>
    rw [hcontrol] at hplace
    simp only [Session.advance, hcontrol]
    exact ⟨⟨hplace.1, s.stop.isTriggered_trigger, fun _ => hplace.2⟩, h.accounts⟩
  | reporting pair callbacks =>
    rw [hcontrol] at hplace
    simp only [Session.advance, hcontrol, report]
    split <;> exact ⟨hplace, h.accounts⟩
  | installing pair input =>
    rw [hcontrol] at hplace
    simp only [Session.advance, hcontrol, install]
    split <;> exact ⟨hplace, h.accounts⟩
  | launching pair =>
    rw [hcontrol] at hplace
    simp only [Session.advance, hcontrol]
    refine ⟨hplace.1, fun relay hrelay => ?_⟩
    cases hrelay
    exact accounts_deliverEarly (Relay.accounts_launch _ _) s.early
  | parked =>
    rw [hcontrol] at hplace
    simp only [Session.advance, hcontrol]
    split
    · next hstop =>
      have hnone (hf : (none : Option BindFault).isSome) : s.relay = none := by cases hf
      exact ⟨⟨hplace, hstop, hnone⟩, h.accounts⟩
    · exact h
  | tearingDown stage fault =>
    simp only [Session.advance, hcontrol]
    exact h.tearDown hcontrol isGraceOver
  | closing stage =>
    rw [hcontrol] at hplace
    simp only [Session.advance, hcontrol]
    cases stage <;> exact ⟨hplace, h.accounts⟩

/-- Only a session that no one has taken is idle. -/
theorem Orderly.unowned_of_idle (h : s.Orderly) (hidle : s.lifecycle = .idle) :
    s.control = .unowned := by
  have hplace := h.place
  cases hcontrol : s.control with
  | unowned => rfl
  | binding | abandoning | reporting | installing | launching | tearingDown | returned =>
    rw [hcontrol] at hplace
    cases hidle.symm.trans hplace.1
  | parked | closing | closed =>
    rw [hcontrol] at hplace
    cases hidle.symm.trans hplace

theorem Orderly.step (h : s.Orderly) (action : Action) : (s.step action).1.Orderly := by
  rcases s.step_cases action with ⟨callbacks, rfl, hidle⟩ | ⟨rfl, hidle⟩ |
    ⟨answers, isGraceOver, rfl⟩ | hleaves
  · have hplace := h.place
    rw [h.unowned_of_idle hidle] at hplace
    simp only [Session.step, beginRun, hidle, if_true]
    exact ⟨⟨rfl, hplace.2⟩, h.accounts⟩
  · simp only [Session.step, beginClose, hidle, if_true]
    exact ⟨rfl, h.accounts⟩
  · exact h.advance answers isGraceOver
  · exact hleaves.orderly h

theorem Orderly.run (h : s.Orderly) (schedule : List Action) : (s.run schedule).1.Orderly := by
  induction schedule generalizing s with
  | nil => exact h
  | cons action rest ih => exact ih (h.step action)

end RtpBridge.Session

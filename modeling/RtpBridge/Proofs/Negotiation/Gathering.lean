-- SUMMARY: Gathering that takes too long fails the session, and no call is given an answer.
import RtpBridge.Proofs.Ice.Gathering
import RtpBridge.Proofs.Negotiation.Calls
import RtpBridge.Session.Basic

/-!
# Exchanges that time out

An exchange that comes as far as the wait for gathering, and waits in vain, ends with the error of
that wait (`Transport.TimesOut.result_eq`). The session is failed from then on, and no call on it is
ever given an answer (`Calls.FailsInTime`). `Session.boundsGathering` puts the limit of the
configuration in.
-/

namespace RtpBridge

namespace Negotiation

variable {transport : Transport} {limit : Option UInt64} {fault : Ice.GatheringTimeout}

/-! ## The end of an exchange -/

/-- That an exchange comes as far as the wait, and waits in vain. -/
structure Transport.TimesOut (transport : Transport) (limit : Option UInt64)
    (fault : Ice.GatheringTimeout) : Prop where
  passes : transport.Passes limit .applyLocal
  wait : transport.promise.wait limit = .timedOut fault

/-- A local description that is applied was made from the remote one. -/
theorem Transport.Passes.of_applyLocal (h : transport.Passes limit .applyLocal) :
    transport.applyRemote = .ok () ∧ transport.createAnswer = .ok () ∧
      transport.applyLocal = .ok () := by
  cases h with
  | applyLocal before hlocal =>
    cases before with
    | createAnswer before hanswer =>
      cases before with
      | applyRemote hremote => exact ⟨hremote, hanswer, hlocal⟩

theorem Transport.TimesOut.ne_waitsForever (h : transport.TimesOut limit fault) :
    transport.promise.wait limit ≠ .waitsForever := by
  rw [h.wait]
  nofun

theorem Transport.TimesOut.not_passes (h : transport.TimesOut limit fault) :
    ¬ transport.Passes limit .awaitGathering := by
  intro hpasses
  cases hpasses with
  | awaitGathering _ hcomplete => cases h.wait.symm.trans hcomplete

/-- The error names the first step that goes wrong, which is the wait. -/
theorem Transport.TimesOut.result_eq {result : Except Error Answer}
    (h : transport.TimesOut limit fault) (hends : transport.Ends limit result) :
    result = .error (.gatheringTimeout fault) := by
  obtain ⟨hremote, hanswer, hlocal⟩ := h.passes.of_applyLocal
  cases hends with
  | applyRemote herror => cases hremote.symm.trans herror
  | createAnswer _ herror => cases hanswer.symm.trans herror
  | applyLocal _ herror => cases hlocal.symm.trans herror
  | awaitGathering _ htimedOut =>
    cases h.wait.symm.trans htimedOut
    rfl
  | readLocal before => exact absurd before h.not_passes
  | serialize before =>
    cases before with
    | readLocal before => exact absurd before h.not_passes
  | answer before =>
    cases before with
    | serialize before =>
      cases before with
      | readLocal before => exact absurd before h.not_passes

example : Transport.TimesOut ⟨.ok (), .ok (), .ok (), .never, none, .ok ()⟩ (some 30) ⟨30⟩ :=
  ⟨.applyLocal (.createAnswer (.applyRemote rfl) rfl) rfl, rfl⟩

/-! ## Side by side -/

namespace Calls

variable {c : Calls}

/-- That the first call fails with this fault if it returns, that the session is failed then, and
that no call is given an answer. -/
structure FailsWith (fault : Ice.GatheringTimeout) (c : Calls) : Prop where
  first : ∀ call result, c.calls[0]? = some call → call.stage = .returned result →
    result = .error (.gatheringTimeout fault) ∧ c.state = .failed
  noAnswer : ∀ (k : Nat) call answer, c.calls[k]? = some call → call.stage ≠ .returned (.ok answer)

theorem Orderly.failsWith (h : c.Orderly limit) {call : Call} (hcall : c.calls[0]? = some call)
    (htimesOut : call.transport.TimesOut limit fault) : c.FailsWith fault := by
  have hfirst : ∀ call result, c.calls[0]? = some call → call.stage = .returned result →
      result = .error (.gatheringTimeout fault) ∧ c.state = .failed := by
    intro other result hother hresult
    cases hcall.symm.trans hother
    have hstands := h.first call hcall
    rw [hresult] at hstands
    obtain ⟨hends, -, hfailed⟩ := hstands.returned
    have heq := htimesOut.result_eq hends
    exact ⟨heq, hfailed.2 ⟨_, heq⟩⟩
  refine ⟨hfirst, fun k other answer hother hanswer => ?_⟩
  -- Whoever came later was turned away, which is no answer either.
  rcases Nat.eq_zero_or_pos k with rfl | hk
  · cases (hfirst other _ hother hanswer).1
  · obtain ⟨state, hreturned⟩ := h.turnedAway k other hk hother
    cases hreturned.symm.trans hanswer

/-- That the first call, if its wait is in vain, fails whatever other calls do; and that it does
return. -/
structure FailsInTime (limit : Option UInt64) (c : Calls) : Prop where
  fails : ∀ call fault, c.calls[0]? = some call → call.transport.TimesOut limit fault →
    ∀ later, (c.run later).FailsWith fault
  returns : ∀ call fault, c.calls[0]? = some call → call.transport.TimesOut limit fault →
    ∀ later : List Action, 7 ≤ later.countP (·.isStepOf 0) →
    (c.run later).calls[0]? =
      some ⟨call.transport, .returned (.error (.gatheringTimeout fault))⟩ ∧
    (c.run later).state = .failed

theorem Orderly.failsInTime (h : c.Orderly limit) : c.FailsInTime limit := by
  have hfails (call : Call) (fault : Ice.GatheringTimeout) (hcall : c.calls[0]? = some call)
      (htimesOut : call.transport.TimesOut limit fault) (later : List Action) :
      (c.run later).FailsWith fault := by
    obtain ⟨stage, hlast, -⟩ := h.stepsLeft_run hcall htimesOut.ne_waitsForever later
    exact (h.run later).failsWith hlast htimesOut
  refine ⟨hfails, fun call fault hcall htimesOut later hcount => ?_⟩
  obtain ⟨stage, hlast, hleft⟩ := h.stepsLeft_run hcall htimesOut.ne_waitsForever later
  have hzero : stage.stepsLeft = 0 := by
    have hseven := call.stage.stepsLeft_le
    omega
  obtain ⟨result, rfl⟩ := ((h.run later).first _ hlast).returned_of_stepsLeft hzero
  obtain ⟨rfl, hstate⟩ := (hfails call fault hcall htimesOut later).first _ result hlast rfl
  exact ⟨hlast, hstate⟩

end Calls

/-! ## One call alone -/

theorem Exchange.stepsLeft_run (e : Exchange)
    (hwait : transport.promise.wait limit ≠ .waitsForever) (count : Nat) :
    (e.run transport limit (List.replicate count .advance)).stage.stepsLeft ≤
      e.stage.stepsLeft - count := by
  induction count generalizing e with
  | zero => exact Nat.le_refl _
  | succ count ih =>
    have hstep := e.stepsLeft_advance hwait
    have hrest := ih (e.advance transport limit)
    rw [List.replicate_succ, run, List.foldl_cons]
    refine Nat.le_trans hrest ?_
    omega

theorem Exchange.finish_of_timesOut {e begun : Exchange} (hbegin : e.begin? = .ok begun)
    (h : transport.TimesOut limit fault) :
    (begun.finish transport limit).result? = some (.error (.gatheringTimeout fault)) ∧
      (begun.finish transport limit).state = .failed := by
  have hstands := stands_finish hbegin transport limit
  have hleft := begun.stepsLeft_run h.ne_waitsForever 7
  rw [Nat.sub_eq_zero_of_le begun.stage.stepsLeft_le, Nat.le_zero] at hleft
  obtain ⟨result, hresult⟩ := hstands.returned_of_stepsLeft hleft
  rw [hresult] at hstands
  obtain ⟨hends, -, hfailed⟩ := hstands.returned
  obtain rfl := h.result_eq hends
  exact ⟨result?_eq_some.2 hresult, hfailed.2 ⟨_, rfl⟩⟩

end Negotiation

namespace Session

variable {transport : Negotiation.Transport} {fault : Ice.GatheringTimeout}

theorem signalOver_of_timesOut {s : Session} (hcreated : s.exchange.state = .created)
    (h : transport.TimesOut s.config.gatheringTimeout fault) :
    (s.signalOver transport).1 = some (.error (.gatheringTimeout fault)) ∧
      (s.signalOver transport).2.2.exchange.state = .failed := by
  unfold signalOver
  cases hbegin : s.exchange.begin? with
  | error rejection => exact absurd hcreated (Negotiation.Exchange.begin?_eq_error hbegin)
  | ok begun => exact Negotiation.Exchange.finish_of_timesOut hbegin h

/-- That gathering takes no longer than the settings allow, and that a session for which it does is
failed for good. -/
structure BoundsGathering (config : Config) (fired? : Option Ice.PromiseEvent)
    (history : List Ice.Happening) (calls : Negotiation.Calls) : Prop where
  inTime : Ice.GatheringWait.EndsInTime config fired? history
  /-- An exchange waits as a wait in time does. -/
  waits : ∀ (promise : Ice.Promise) (horizon : Nat),
    (∀ ms ∈ config.gatheringTimeout, ms.toNat * 1000000 ≤ horizon) →
    (Ice.GatheringWait.run config.gatheringLimit promise.fired? (promise.history horizon)).waited =
      promise.wait config.gatheringTimeout
  /-- The error tells the limit of the settings. -/
  tells : ∀ (promise : Ice.Promise) fault,
    promise.wait config.gatheringTimeout = .timedOut fault →
    config.gatheringTimeout = some fault.limit
  signals : ∀ (s : Session) transport fault, s.config = config → s.exchange.state = .created →
    transport.TimesOut config.gatheringTimeout fault →
    (s.signalOver transport).1 = some (.error (.gatheringTimeout fault)) ∧
      (s.signalOver transport).2.2.exchange.state = .failed
  /-- So it is if others want to signal the session meanwhile. -/
  calls : calls.FailsInTime config.gatheringTimeout

/-- Whatever the settings, whenever the promise fires, and however calls come and go on: a wait
ends when the promise fires, or when its limit is up with an error that tells the limit; and the
call that hears that error fails the session, for which there is no answer any more. -/
theorem boundsGathering (config : Config) (fired? : Option Ice.PromiseEvent)
    (history : List Ice.Happening) (id : String) (schedule : List Negotiation.Calls.Action) :
    BoundsGathering config fired? history
      ((Negotiation.Calls.new id config.gatheringTimeout).run schedule) where
  inTime := Ice.GatheringWait.endsInTime config fired? history
  waits promise _ hhorizon :=
    Ice.GatheringWait.waited_run config.gatheringTimeout promise hhorizon
  tells _ _ hwait := Ice.Promise.limit_of_timedOut hwait
  signals := by
    rintro s transport fault rfl hcreated htimesOut
    exact signalOver_of_timesOut hcreated htimesOut
  calls :=
    ((Negotiation.Calls.orderly_new id config.gatheringTimeout).run schedule).failsInTime

end Session

end RtpBridge

-- SUMMARY: How an exchange moves through the signaling states, and what its end tells of the transport.
import RtpBridge.Negotiation.Calls

/-!
# The exchange: laws

The signaling state and the stage of the call that began the exchange go together
(`Stands`), and a step takes the state along one of its edges or leaves it (`Moves`). The stage
also tells which steps of the transport have gone well; so the end of an exchange tells the first
one that did not, or that all of them did (`Transport.Ends`). After seven steps an exchange is
over, unless the wait for gathering has no end.
-/

namespace RtpBridge

/-- The edges between signaling states. None leads away from the end, be it good or bad. -/
inductive SignalingState.Moves : SignalingState → SignalingState → Prop where
  | begin : Moves .created .remoteApplied
  | answer : Moves .remoteApplied .answerSet
  | gather : Moves .answerSet .gathering
  | complete : Moves .gathering .complete
  | failEarly : Moves .remoteApplied .failed
  | failLate : Moves .gathering .failed

namespace Negotiation

/-! ## What the transport does -/

/-- That a step of the transport, and all before it, go well. -/
inductive Transport.Passes (transport : Transport) (limit : Option UInt64) : Request → Prop where
  | applyRemote (h : transport.applyRemote = .ok ()) : Passes transport limit .applyRemote
  | createAnswer (before : Passes transport limit .applyRemote)
      (h : transport.createAnswer = .ok ()) : Passes transport limit .createAnswer
  | applyLocal (before : Passes transport limit .createAnswer)
      (h : transport.applyLocal = .ok ()) : Passes transport limit .applyLocal
  | awaitGathering (before : Passes transport limit .applyLocal)
      (h : transport.promise.wait limit = .complete) : Passes transport limit .awaitGathering
  | readLocal {answer : Answer} (before : Passes transport limit .awaitGathering)
      (h : transport.localDescription = some answer) : Passes transport limit .readLocal
  | serialize (before : Passes transport limit .readLocal)
      (h : transport.serialize = .ok ()) : Passes transport limit .serialize

/-- How an exchange ends: with the answer if every step of the transport goes well, or else with
the error that names the first one that does not. -/
inductive Transport.Ends (transport : Transport) (limit : Option UInt64) :
    Except Error Answer → Prop where
  | applyRemote {rejection : Rejection} (h : transport.applyRemote = .error rejection) :
      Ends transport limit (.error (.negotiation rejection))
  | createAnswer {cause : String} (before : transport.Passes limit .applyRemote)
      (h : transport.createAnswer = .error cause) :
      Ends transport limit (.error (.answerGeneration cause))
  | applyLocal {cause : String} (before : transport.Passes limit .createAnswer)
      (h : transport.applyLocal = .error cause) :
      Ends transport limit (.error (.localDescription (.rejected cause)))
  | awaitGathering {fault : Ice.GatheringTimeout} (before : transport.Passes limit .applyLocal)
      (h : transport.promise.wait limit = .timedOut fault) :
      Ends transport limit (.error (.gatheringTimeout fault))
  | readLocal (before : transport.Passes limit .awaitGathering)
      (h : transport.localDescription = none) :
      Ends transport limit (.error (.localDescription .missing))
  | serialize {cause : String} (before : transport.Passes limit .readLocal)
      (h : transport.serialize = .error cause) :
      Ends transport limit (.error (.localDescription (.unserializable cause)))
  | answer {answer : Answer} (before : transport.Passes limit .serialize)
      (h : transport.localDescription = some answer) : Ends transport limit (.ok answer)

/-! ## States and stages -/

/-- The state and the stage of the call that began the exchange, with what has gone well by then. -/
inductive Transport.Stands (transport : Transport) (limit : Option UInt64) :
    Stage → SignalingState → Prop where
  | applyingRemote : Stands transport limit .applyingRemote .remoteApplied
  | creatingAnswer (h : transport.Passes limit .applyRemote) :
      Stands transport limit .creatingAnswer .remoteApplied
  | applyingLocal (h : transport.Passes limit .createAnswer) :
      Stands transport limit .applyingLocal .remoteApplied
  | announcing (h : transport.Passes limit .applyLocal) :
      Stands transport limit .announcing .answerSet
  | waiting (h : transport.Passes limit .applyLocal) : Stands transport limit .waiting .gathering
  | readingLocal (h : transport.Passes limit .awaitGathering) :
      Stands transport limit .readingLocal .gathering
  | serializing {answer : Answer} (h : transport.Passes limit .readLocal)
      (hanswer : transport.localDescription = some answer) :
      Stands transport limit (.serializing answer) .gathering
  | answered {answer : Answer} (h : transport.Ends limit (.ok answer)) :
      Stands transport limit (.returned (.ok answer)) .complete
  | failed {error : Error} (h : transport.Ends limit (.error error)) :
      Stands transport limit (.returned (.error error)) .failed

variable {transport : Transport} {limit : Option UInt64} {stage : Stage} {state : SignalingState}
  {e : Exchange}

/-- A step of the call that began the exchange keeps state and stage together, and takes the state
along an edge if it changes it. -/
theorem Transport.Stands.advance (h : transport.Stands limit e.stage e.state) :
    transport.Stands limit (e.advance transport limit).stage (e.advance transport limit).state ∧
      ((e.advance transport limit).state = e.state ∨
        e.state.Moves (e.advance transport limit).state) := by
  obtain ⟨session, state, stage, log⟩ := e
  cases h with
  | applyingRemote =>
    simp only [Exchange.advance]
    split
    · next hok => exact ⟨.creatingAnswer (.applyRemote hok), .inl rfl⟩
    · next herror => exact ⟨.failed (.applyRemote herror), .inr .failEarly⟩
  | creatingAnswer before =>
    simp only [Exchange.advance]
    split
    · next hok => exact ⟨.applyingLocal (.createAnswer before hok), .inl rfl⟩
    · next herror => exact ⟨.failed (.createAnswer before herror), .inr .failEarly⟩
  | applyingLocal before =>
    simp only [Exchange.advance]
    split
    · next hok => exact ⟨.announcing (.applyLocal before hok), .inr .answer⟩
    · next herror => exact ⟨.failed (.applyLocal before herror), .inr .failEarly⟩
  | announcing before => exact ⟨.waiting before, .inr .gather⟩
  | waiting before =>
    simp only [Exchange.advance]
    cases hwait : transport.promise.wait limit with
    | complete => exact ⟨.readingLocal (.awaitGathering before hwait), .inl rfl⟩
    | timedOut fault => exact ⟨.failed (.awaitGathering before hwait), .inr .failLate⟩
    | waitsForever => exact ⟨.waiting before, .inl rfl⟩
  | readingLocal before =>
    simp only [Exchange.advance]
    split
    · next hsome => exact ⟨.serializing (.readLocal before hsome) hsome, .inl rfl⟩
    · next hnone => exact ⟨.failed (.readLocal before hnone), .inr .failLate⟩
  | serializing before hanswer =>
    simp only [Exchange.advance]
    split
    · next hok => exact ⟨.answered (.answer (.serialize before hok) hanswer), .inr .complete⟩
    · next herror => exact ⟨.failed (.serialize before herror), .inr .failLate⟩
  | answered hends => exact ⟨.answered hends, .inl rfl⟩
  | failed hends => exact ⟨.failed hends, .inl rfl⟩

theorem Exchange.session_advance (e : Exchange) (transport : Transport) (limit : Option UInt64) :
    (e.advance transport limit).session = e.session := by
  unfold advance waited
  repeat' split
  all_goals rfl

theorem Transport.Stands.ne_created (h : transport.Stands limit stage state) :
    state ≠ .created := by
  cases h <;> nofun

/-- Once a call has returned, state and result tell the same. -/
theorem Transport.Stands.returned {result : Except Error Answer}
    (h : transport.Stands limit (.returned result) state) : transport.Ends limit result ∧
      (state = .complete ↔ ∃ answer, result = .ok answer) ∧
      (state = .failed ↔ ∃ error, result = .error error) := by
  cases h with
  | answered hends => exact ⟨hends, ⟨fun _ => ⟨_, rfl⟩, fun _ => rfl⟩, ⟨nofun, nofun⟩⟩
  | failed hends => exact ⟨hends, ⟨nofun, nofun⟩, ⟨fun _ => ⟨_, rfl⟩, fun _ => rfl⟩⟩

/-! ## The end of an exchange -/

/-- So many more steps an exchange takes, if the wait for gathering has an end. -/
def Stage.stepsLeft : Stage → Nat
  | .applyingRemote => 7
  | .creatingAnswer => 6
  | .applyingLocal => 5
  | .announcing => 4
  | .waiting => 3
  | .readingLocal => 2
  | .serializing _ => 1
  | .notBegun | .returned _ => 0

theorem Stage.stepsLeft_le (stage : Stage) : stage.stepsLeft ≤ 7 := by
  cases stage <;> simp [stepsLeft]

theorem Exchange.stepsLeft_advance (e : Exchange)
    (hwait : transport.promise.wait limit ≠ .waitsForever) :
    (e.advance transport limit).stage.stepsLeft ≤ e.stage.stepsLeft - 1 := by
  obtain ⟨session, state, stage, log⟩ := e
  cases stage with
  | notBegun | announcing | returned => exact Nat.le_refl _
  | applyingRemote | creatingAnswer | applyingLocal | readingLocal =>
    simp only [advance]
    split
    · exact Nat.le_refl _
    · exact Nat.zero_le _
  | waiting =>
    simp only [advance]
    cases hwaited : transport.promise.wait limit with
    | complete => exact Nat.le_refl _
    | timedOut fault => exact Nat.zero_le _
    | waitsForever => exact absurd hwaited hwait
  | serializing answer =>
    simp only [advance]
    split <;> exact Nat.zero_le _

theorem Transport.Stands.returned_of_stepsLeft (h : transport.Stands limit stage state)
    (hleft : stage.stepsLeft = 0) : ∃ result, stage = .returned result := by
  cases h with
  | answered | failed => exact ⟨_, rfl⟩
  | _ => cases hleft

/-! ## Whole calls -/

theorem Exchange.begin?_eq_ok {begun : Exchange} (h : e.begin? = .ok begun) :
    e.state = .created ∧ begun = { e with state := .remoteApplied, stage := .applyingRemote } := by
  unfold begin? at h
  split at h
  · next hcreated =>
    cases h
    exact ⟨hcreated, rfl⟩
  · cases h

theorem Exchange.begin?_eq_error {rejection : Rejection} (h : e.begin? = .error rejection) :
    e.state ≠ .created := by
  intro hcreated
  rw [begin?, if_pos hcreated] at h
  cases h

theorem Exchange.result?_of_begin? {begun : Exchange} (h : e.begin? = .ok begun) :
    begun.result? = none := by
  rw [(begin?_eq_ok h).2]
  rfl

theorem Exchange.result?_eq_some {result : Except Error Answer} :
    e.result? = some result ↔ e.stage = .returned result := by
  unfold result?
  cases e.stage <;> simp

/-- A call that has returned takes no further step. -/
theorem Exchange.run_of_result? {result : Except Error Answer} (h : e.result? = some result)
    (transport : Transport) (limit : Option UInt64) (count : Nat) :
    e.run transport limit (List.replicate count .advance) = e := by
  have hstep : e.advance transport limit = e := by
    simp only [advance, result?_eq_some.1 h]
  induction count with
  | zero => rfl
  | succ count ih =>
    rw [List.replicate_succ, run, List.foldl_cons, step, hstep]
    exact ih

theorem Transport.Stands.run (h : transport.Stands limit e.stage e.state) (count : Nat) :
    transport.Stands limit (e.run transport limit (List.replicate count .advance)).stage
      (e.run transport limit (List.replicate count .advance)).state := by
  induction count generalizing e with
  | zero => exact h
  | succ count ih => exact ih h.advance.1

theorem Exchange.stands_finish {begun : Exchange} (hbegin : e.begin? = .ok begun)
    (transport : Transport) (limit : Option UInt64) :
    transport.Stands limit (begun.finish transport limit).stage
      (begun.finish transport limit).state := by
  have hbegun : transport.Stands limit begun.stage begun.state := by
    rw [(begin?_eq_ok hbegin).2]
    exact .applyingRemote
  exact hbegun.run 7

/-- A call that began the exchange and returns an error leaves it failed. -/
theorem Exchange.state_finish_of_error {begun : Exchange} (hbegin : e.begin? = .ok begun)
    {error : Error} (herror : (begun.finish transport limit).result? = some (.error error)) :
    (begun.finish transport limit).state = .failed := by
  have hstands := stands_finish hbegin transport limit
  rw [result?_eq_some.1 herror] at hstands
  exact hstands.returned.2.2.2 ⟨error, rfl⟩

end Negotiation

end RtpBridge

-- SUMMARY: What has become of a session when a free of it has returned, whatever goes on meanwhile.
import Mathlib.Data.List.Induction
import RtpBridge.Host.Concurrency
import RtpBridge.Proofs.HandleTable.Representation
import RtpBridge.Proofs.Session.Step

/-!
# Freeing a session that others use

A free looks at the lifecycle of the session and acts on what it saw in a later step. When
it has returned, the session is over or has been told to stop, but for one case: it was idle
when the free looked and was running when the free acted (`Busy.freed_isEnding`). Then the
close is refused, the refusal goes unheard, and nobody tells the session to stop.
-/

namespace RtpBridge

/-- That a session is over or has been told to stop. -/
def Session.IsEnding (s : Session) : Prop := s.lifecycle = .terminated ∨ s.stop.isTriggered

theorem Session.IsEnding.step {s : Session} (h : s.IsEnding) (action : Session.Action) :
    (s.step action).1.IsEnding := by
  rcases h with h | h
  · exact .inl (Session.terminated_step h action)
  · exact .inr (Session.isTriggered_step h action)

namespace Host

/-- What a free that finds a session takes: the handle that its word is. -/
theorem map_release_eq_some {host : Host} {raw : UInt64} {place : Nat} {live : HandleTable Nat}
    (h : (Handle.ofRaw? raw).map host.live.release = some (some place, live)) :
    ∃ handle, handle.raw = raw ∧ host.live.resolve? handle = some place ∧
      live = (host.live.release handle).2 := by
  obtain ⟨handle, hraw, hrelease⟩ := Option.map_eq_some_iff.1 h
  refine ⟨handle, Handle.ofRaw?_eq_some.1 hraw, ?_, ?_⟩
  · rw [← HandleTable.fst_release, hrelease]
  · rw [hrelease]

namespace Busy

variable {b : Busy} {action : Action} {schedule : List Action} {call place : Nat}
  {position : Position}

/-- That there is a session at a place, and that it is as told. -/
def At (b : Busy) (place : Nat) (P : Session → Prop) : Prop :=
  ∃ s, b.host.sessions[place]? = some s ∧ P s

/-! ## Steps -/

/-- Every step of a call on a session is one of the session's own steps, or none. -/
theorem fst_stepOn (s : Session) (position : Position) :
    (stepOn s position).1 = s ∨ ∃ action, (stepOn s position).1 = (s.step action).1 := by
  unfold stepOn
  split
  · split
    · exact .inr ⟨_, rfl⟩
    · exact .inl rfl
  · split <;> exact .inl rfl
  · exact .inr ⟨_, rfl⟩
  · exact .inl rfl
  · split
    · exact .inr ⟨_, rfl⟩
    · exact .inl rfl
  · exact .inr ⟨_, rfl⟩
  · exact .inl rfl
  · split <;> exact .inl rfl
  · exact .inl rfl
  · exact .inl rfl

/-- A call that goes on has a session to go on with, and the step is the one on that session. -/
theorem proceed_eq {s : Session} (hcall : b.calls[call]? = some position)
    (hplace : position.place? = some place) (hs : b.host.sessions[place]? = some s) :
    b.proceed call = ⟨b.host.modifySession place fun _ => (stepOn s position).1,
      b.calls.set call (stepOn s position).2⟩ := by
  simp only [proceed, hcall, hplace, hs]

theorem proceed_cases (b : Busy) (call : Nat) : b.proceed call = b ∨ ∃ position place s,
    b.calls[call]? = some position ∧ position.place? = some place ∧
      b.host.sessions[place]? = some s := by
  unfold proceed
  split
  · exact .inl rfl
  · next position hcall =>
    split
    · exact .inl rfl
    · next place hplace =>
      split
      · exact .inl rfl
      · next s hs => exact .inr ⟨position, place, s, hcall, hplace, hs⟩

theorem sessions_modifySession (host : Host) (p : Nat) (f : Session → Session) (place : Nat) :
    (host.modifySession p f).sessions[place]? =
      if p = place then host.sessions[place]?.map f else host.sessions[place]? := by
  rw [modifySession, List.getElem?_modify]
  split
  · rfl
  · exact Option.map_id'

/-- What a step does to the host: it takes the handle of a session, changes one session as the
session itself or a call does, or leaves all as it is. -/
inductive Effect (b : Busy) : Action → Host → Prop
  | none (action : Action) : Effect b action b.host
  | free (handle : Handle) (place : Nat) (h : b.host.live.resolve? handle = some place) :
      Effect b (.free handle.raw) { b.host with live := (b.host.live.release handle).2 }
  | session (place : Nat) (action : Session.Action) :
      Effect b (.session place action) (b.host.modifySession place fun s => (s.step action).1)
  | proceed (call : Nat) (position : Position) (place : Nat) (s : Session)
      (hcall : b.calls[call]? = some position) (hplace : position.place? = some place)
      (hs : b.host.sessions[place]? = some s) :
      Effect b (.proceed call) (b.host.modifySession place fun _ => (stepOn s position).1)

theorem effect_step (b : Busy) (action : Action) : b.Effect action (b.step action).host := by
  cases action with
  | start session callbacks =>
    simp only [step, enterStart]
    split <;> exact .none _
  | stop session =>
    simp only [step, enterStop]
    split <;> exact .none _
  | free session =>
    simp only [step, enterFree]
    split
    · next hfree =>
      obtain ⟨handle, rfl, hresolve, rfl⟩ := map_release_eq_some hfree
      exact .free handle _ hresolve
    · exact .none _
  | session place action => exact .session place action
  | proceed call =>
    simp only [step]
    rcases b.proceed_cases call with hsame | ⟨position, place, s, hcall, hplace, hs⟩
    · rw [hsame]
      exact .none _
    · rw [proceed_eq hcall hplace hs]
      exact .proceed call position place s hcall hplace hs

/-- What the sessions keep in their own steps, they keep in all that goes on at the host. -/
theorem At.step {P : Session → Prop} (hP : ∀ s action, P s → P (Session.step s action).1)
    (h : b.At place P) (action : Action) : (b.step action).At place P := by
  obtain ⟨s, hs, hPs⟩ := h
  have heffect := b.effect_step action
  unfold At
  generalize (b.step action).host = after at heffect ⊢
  cases heffect with
  | none | free => exact ⟨s, hs, hPs⟩
  | session p action =>
    rw [sessions_modifySession, hs]
    split
    · exact ⟨_, rfl, hP s action hPs⟩
    · exact ⟨s, rfl, hPs⟩
  | proceed call position p s' hcall hplace hs' =>
    rw [sessions_modifySession, hs]
    split
    · next heq =>
      rw [heq, hs] at hs'
      cases hs'
      refine ⟨_, rfl, ?_⟩
      rcases fst_stepOn s position with hstep | ⟨action, hstep⟩
      · rwa [hstep]
      · rw [hstep]
        exact hP s action hPs
    · exact ⟨s, rfl, hPs⟩

/-- Where a call is that was just made. -/
def isEntry : Position → Bool
  | .starting _ _ | .stopping _ | .looking _ | .returned => true
  | _ => false

/-- A call is where it was, or was just made, or took the step of its position. -/
theorem calls_step (h : (b.step action).calls[call]? = some position) :
    b.calls[call]? = some position ∨ isEntry position ∨
      ∃ before place s, action = .proceed call ∧ b.calls[call]? = some before ∧
        before.place? = some place ∧ b.host.sessions[place]? = some s ∧
        position = (stepOn s before).2 ∧
        (b.step action).host.sessions[place]? = some (stepOn s before).1 := by
  have hentered {b' : Busy} {p : Position} (hp : isEntry p)
      (h : (b'.enter p).calls[call]? = some position) :
      b'.calls[call]? = some position ∨ isEntry position := by
    rw [enter, List.getElem?_append] at h
    split at h
    · exact .inl h
    · rw [List.getElem?_singleton] at h
      split at h
      · cases h
        exact .inr hp
      · cases h
  cases action with
  | session p action => exact .inl h
  | start session callbacks =>
    simp only [step, enterStart] at h
    split at h <;> exact (hentered rfl h).imp_right .inl
  | stop session =>
    simp only [step, enterStop] at h
    split at h <;> exact (hentered rfl h).imp_right .inl
  | free session =>
    simp only [step, enterFree] at h
    split at h <;> exact (hentered rfl h).imp_right .inl
  | proceed call' =>
    simp only [step] at h
    rcases b.proceed_cases call' with hsame | ⟨before, place, s, hcall, hplace, hs⟩
    · rw [hsame] at h
      exact .inl h
    · have hproceed := proceed_eq hcall hplace hs
      rw [hproceed, List.getElem?_set] at h
      split at h
      · next heq =>
        obtain rfl := heq
        split at h
        · cases h
          refine .inr (.inr ⟨before, place, s, rfl, hcall, hplace, hs, rfl, ?_⟩)
          rw [step, hproceed, sessions_modifySession, if_pos rfl, hs]
          rfl
        · cases h
      · exact .inl h

/-! ## What a free goes by -/

/-- That the call looked at the session at a place when it was idle. -/
def LookedIdle (b : Busy) (schedule : List Action) (call place : Nat) : Prop :=
  ∃ before after, schedule = before ++ .proceed call :: after ∧
    (b.run before).calls[call]? = some (.looking place) ∧
    (b.run before).At place fun s => s.lifecycle = .idle

/-- That the session was idle when the call looked, and running when it acted on that. -/
def Overtaken (b : Busy) (schedule : List Action) (call place : Nat) : Prop :=
  ∃ before after, schedule = before ++ .proceed call :: after ∧
    b.LookedIdle before call place ∧ (b.run before).At place fun s => s.lifecycle = .running

theorem LookedIdle.append (h : b.LookedIdle schedule call place) (rest : List Action) :
    b.LookedIdle (schedule ++ rest) call place := by
  obtain ⟨before, after, rfl, h⟩ := h
  exact ⟨before, after ++ rest, by rw [List.append_assoc, List.cons_append], h⟩

theorem Overtaken.append (h : b.Overtaken schedule call place) (rest : List Action) :
    b.Overtaken (schedule ++ rest) call place := by
  obtain ⟨before, after, rfl, h⟩ := h
  exact ⟨before, after ++ rest, by rw [List.append_assoc, List.cons_append], h⟩

/-- What a call can rely on where it is. -/
def Knows (b : Busy) (schedule : List Action) (call : Nat) : Position → Prop
  | .retiring place .idle => b.LookedIdle schedule call place
  | .retiring place .terminated | .closing place =>
    (b.run schedule).At place fun s => s.lifecycle = .terminated
  | .freed place =>
    (b.run schedule).At place fun s => s.IsEnding ∨ b.Overtaken schedule call place
  | _ => True

theorem run_concat (b : Busy) (schedule : List Action) (action : Action) :
    b.run (schedule ++ [action]) = (b.run schedule).step action := by
  rw [run, List.foldl_append]
  rfl

theorem knows_of_isEntry (h : isEntry position) : b.Knows schedule call position := by
  cases position with
  | starting | stopping | looking | returned => trivial
  | running | retiring | closing | freed => cases h

/-- What a call knows lasts while others go on. -/
theorem Knows.append (h : b.Knows schedule call position) (action : Action) :
    b.Knows (schedule ++ [action]) call position := by
  have hterminated {place : Nat}
      (h : (b.run schedule).At place fun s => s.lifecycle = .terminated) :
      (b.run (schedule ++ [action])).At place fun s => s.lifecycle = .terminated := by
    rw [run_concat]
    exact h.step (fun s action hs => Session.terminated_step hs action) action
  unfold Knows at h ⊢
  split at h
  · exact h.append [action]
  · exact hterminated h
  · exact hterminated h
  · next place =>
    have hkept : (b.run (schedule ++ [action])).At place
        fun s => s.IsEnding ∨ b.Overtaken schedule call place := by
      rw [run_concat]
      exact h.step (fun s action hs => hs.imp_left fun hs => hs.step action) action
    obtain ⟨s, hs, hends⟩ := hkept
    exact ⟨s, hs, hends.imp_right fun hover => hover.append [action]⟩
  · trivial

/-- A step of a call leads from what it knows to what it knows next. -/
theorem Knows.proceed {s : Session} (h : b.Knows schedule call position)
    (hcall : (b.run schedule).calls[call]? = some position)
    (hplace : position.place? = some place)
    (hs : (b.run schedule).host.sessions[place]? = some s)
    (hafter : (b.run (schedule ++ [.proceed call])).host.sessions[place]? =
      some (stepOn s position).1) :
    b.Knows (schedule ++ [.proceed call]) call (stepOn s position).2 := by
  cases position with
  | starting p callbacks =>
    simp only [stepOn]
    split <;> trivial
  | running p =>
    simp only [stepOn]
    split <;> trivial
  | stopping | returned => trivial
  | looking p =>
    cases hplace
    simp only [stepOn] at hafter ⊢
    cases hlifecycle : s.lifecycle with
    | idle => exact ⟨schedule, [], rfl, hcall, s, hs, hlifecycle⟩
    | running => trivial
    | terminated => exact ⟨s, hafter, hlifecycle⟩
  | retiring p seen =>
    cases hplace
    cases seen with
    | idle =>
      simp only [stepOn] at hafter ⊢
      by_cases hidle : s.lifecycle = .idle
      · rw [if_pos hidle] at hafter ⊢
        refine ⟨_, hafter, ?_⟩
        simp only [Session.step, Session.beginClose, hidle, if_true]
      · rw [if_neg hidle] at hafter ⊢
        refine ⟨s, hafter, ?_⟩
        cases hlifecycle : s.lifecycle with
        | idle => exact absurd hlifecycle hidle
        | terminated => exact .inl (.inl hlifecycle)
        | running => exact .inr ⟨schedule, [], rfl, h, s, hs, hlifecycle⟩
    | running => exact ⟨_, hafter, .inl (.inr s.stop.isTriggered_trigger)⟩
    | terminated =>
      obtain ⟨s', hs', hterminated⟩ := h
      rw [hs] at hs'
      cases hs'
      exact ⟨s, hafter, .inl (.inl hterminated)⟩
  | closing p =>
    cases hplace
    obtain ⟨s', hs', hterminated⟩ := h
    rw [hs] at hs'
    cases hs'
    simp only [stepOn] at hafter ⊢
    split at hafter
    · exact ⟨s, hafter, .inl (.inl hterminated)⟩
    · exact ⟨s, hafter, hterminated⟩
  | freed p =>
    cases hplace
    obtain ⟨s', hs', hends⟩ := h
    rw [hs] at hs'
    cases hs'
    exact ⟨s, hafter, hends.imp_right fun hover => hover.append _⟩

/-! ## Runs -/

theorem knows_run (hcalls : b.calls = []) (schedule : List Action) {call : Nat}
    {position : Position} (h : (b.run schedule).calls[call]? = some position) :
    b.Knows schedule call position := by
  induction schedule using List.reverseRecOn generalizing call position with
  | nil =>
    rw [run, List.foldl_nil, hcalls] at h
    cases h
  | append_singleton schedule action ih =>
    rw [run_concat] at h
    rcases calls_step h with hkept | hentry |
      ⟨before, place, s, rfl, hcall, hplace, hs, rfl, hafter⟩
    · exact (ih hkept).append action
    · exact knows_of_isEntry hentry
    · rw [← run_concat] at hafter
      exact (ih hcall).proceed hcall hplace hs hafter

/-- When a free that found its handle live has returned, the session is over or has been told to
stop, unless it was idle when the free looked and running when the free acted. -/
theorem freed_isEnding (host : Host) (schedule : List Action) {call place : Nat}
    (h : (run ⟨host, []⟩ schedule).calls[call]? = some (.freed place)) :
    ∃ s, (run ⟨host, []⟩ schedule).host.sessions[place]? = some s ∧
      (s.lifecycle = .terminated ∨ s.stop.isTriggered ∨
        Overtaken ⟨host, []⟩ schedule call place) := by
  obtain ⟨s, hs, hends⟩ := knows_run rfl schedule h
  exact ⟨s, hs, or_assoc.1 hends⟩

/-- A host with one session, and the word that names it. -/
def sole : Host := (Host.new.create "s").2.2

def soleHandle : UInt64 := (Host.new.create "s").1

/-- A free that comes when the session is running stops it. -/
def freedWhileRunning : List Action :=
  [.start soleHandle ⟨true, none⟩, .proceed 0, .free soleHandle, .proceed 1, .proceed 1]

theorem freed_isEnding_whileRunning :
    (run ⟨sole, []⟩ freedWhileRunning).calls[1]? = some (.freed 0) ∧
      ∃ s, (run ⟨sole, []⟩ freedWhileRunning).host.sessions[0]? = some s ∧
        (s.lifecycle = .terminated ∨ s.stop.isTriggered ∨
          Overtaken ⟨sole, []⟩ freedWhileRunning 1 0) := by
  have hfreed : (run ⟨sole, []⟩ freedWhileRunning).calls[1]? = some (.freed 0) := by
    decide +kernel
  exact ⟨hfreed, freed_isEnding sole freedWhileRunning hfreed⟩

/-- The free looks while the start has its handle resolved but has not taken the session yet, and
acts when it has. -/
def freedTooEarly : List Action :=
  [.start soleHandle ⟨true, none⟩, .free soleHandle, .proceed 1, .proceed 0, .proceed 1]

/-- Then the session runs on without a handle and without having been told to stop. -/
theorem freed_tooEarly_orphans :
    (run ⟨sole, []⟩ freedTooEarly).calls = [.running 0, .freed 0] ∧
      ((run ⟨sole, []⟩ freedTooEarly).host.sessions[0]?.map fun s => (s.lifecycle, s.stop)) =
        some (.running, .armed) ∧
      (run ⟨sole, []⟩ freedTooEarly).host.live.isEmpty := by
  decide +kernel

end Busy

end Host

end RtpBridge

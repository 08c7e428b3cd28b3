-- SUMMARY: No two open sockets of a machine share a port, whatever its sessions do.
import RtpBridge.Proofs.Session.Sockets

/-!
# Ports of a machine

A session that asks for its sockets changes the open ports as an allocation does, and in no other
step does it open one (`Machine.Accounts`). An operating system that gives out only ports that are
not open therefore never lets two sockets share one (`Machine.ports_unshared`). There is such a
system, with and without a bound on its sockets (`Machine.runsFairly_served`).
-/

namespace RtpBridge

/-! ## Fresh answers -/

namespace Ingress

variable {answers : Answers} {inUse : List Nat}

theorem Answers.AreFresh.mono {fewer : List Nat} (h : answers.AreFresh inUse)
    (hsub : fewer ⊆ inUse) : answers.AreFresh fewer := by
  intro video hvideo
  obtain ⟨⟨hvideoZero, hvideoFresh⟩, haudio⟩ := h video hvideo
  refine ⟨⟨hvideoZero, fun hmem => hvideoFresh (hsub hmem)⟩, fun audio hmem => ?_⟩
  obtain ⟨haudioZero, haudioFresh⟩ := haudio audio hmem
  exact ⟨haudioZero, fun hmem => haudioFresh (List.cons_subset_cons video hsub hmem)⟩

/-- An allocation leaves no port open twice. -/
theorem AllOrNothing.nodup (h : AllOrNothing answers inUse) (hinUse : inUse.Nodup) :
    (allocate answers inUse).2.Nodup := by
  cases hall : allocate answers inUse with
  | mk result after =>
    cases result with
    | error fault =>
      rw [(h.fails fault after hall).1]
      exact hinUse
    | ok pair =>
      obtain ⟨-, hopens⟩ := h.succeeds pair after hall
      rw [hopens.opened, List.nodup_cons, List.nodup_cons, List.mem_cons, not_or]
      exact ⟨⟨hopens.distinct.symm, hopens.fresh.2⟩, hopens.fresh.1, hinUse⟩

theorem AllOrNothing.ne_zero (h : AllOrNothing answers inUse)
    (hinUse : ∀ port ∈ inUse, port ≠ 0) : ∀ port ∈ (allocate answers inUse).2, port ≠ 0 := by
  cases hall : allocate answers inUse with
  | mk result after =>
    cases result with
    | error fault =>
      rw [(h.fails fault after hall).1]
      exact hinUse
    | ok pair =>
      obtain ⟨-, hopens⟩ := h.succeeds pair after hall
      rw [hopens.opened, List.forall_mem_cons, List.forall_mem_cons]
      exact ⟨hopens.nonzero.2, hopens.nonzero.1, hinUse⟩

end Ingress

theorem Session.openSockets_new (id : String) (config : Config) (tracks : MediaKind → Sink) :
    ({ new id config with tracks } : Session).openSockets = [] :=
  openSockets_of_pair?_eq_none rfl

namespace Machine

variable {m : Machine} {place : Nat} {s : Session}

/-! ## One session among the others -/

theorem ports_eq (m : Machine) :
    m.ports = m.sessions.flatMap fun s => s.openSockets.map (·.port) := by
  rw [ports, List.map_flatMap]

/-- The ports of the session at a place stand between those of the earlier ones and those of the
later ones, and they alone change with it. -/
theorem ports_modify (hs : m.sessions[place]? = some s) : ∃ early late,
    m.ports = early ++ s.openSockets.map (·.port) ++ late ∧
      ∀ f : Session → Session,
        ({ m with sessions := m.sessions.modify place f } : Machine).ports =
          early ++ (f s).openSockets.map (·.port) ++ late := by
  obtain ⟨hlt, rfl⟩ := List.getElem?_eq_some_iff.1 hs
  refine ⟨(m.sessions.take place).flatMap fun s => s.openSockets.map (·.port),
    (m.sessions.drop (place + 1)).flatMap fun s => s.openSockets.map (·.port), ?_, fun f => ?_⟩
  · rw [ports_eq]
    conv_lhs => rw [← List.take_append_drop place m.sessions, List.drop_eq_getElem_cons hlt]
    simp only [List.flatMap_append, List.flatMap_cons, List.append_assoc]
  · rw [ports_eq, List.modify_eq_take_cons_drop hlt]
    simp only [List.flatMap_append, List.flatMap_cons, List.append_assoc]

/-! ## One step -/

/-- That an action changes the open ports as an allocation does, if a session asks for its sockets
in it, and otherwise at most closes some of the sessions'. -/
structure Accounts (m : Machine) (action : Action) : Prop where
  allocates : ∀ answers ∈ m.asked? action,
    (m.step action).inUse.Perm (Ingress.allocate answers m.inUse).2
  closes : m.asked? action = none → (m.step action).ports.Sublist m.ports

/-- What holds of every machine that runs fairly. -/
structure IsSound (m : Machine) : Prop where
  orderly : ∀ s ∈ m.sessions, s.Orderly
  distinct : m.inUse.Nodup
  nonzero : ∀ port ∈ m.ports, port ≠ 0

theorem asked?_eq_some {action : Action} {answers : Ingress.Answers}
    (h : m.asked? action = some answers) : ∃ place isGraceOver s,
      action = .session place (.advance answers isGraceOver) ∧ m.sessions[place]? = some s ∧
        s.isBinding := by
  unfold asked? at h
  split at h
  · next place _ isGraceOver =>
    obtain ⟨s, hs, heq⟩ := Option.map_eq_some_iff.1 h
    obtain ⟨hs, hbinding⟩ := Option.mem_filter_iff.1 hs
    exact ⟨place, isGraceOver, s, by rw [heq], hs, hbinding⟩
  · cases h

theorem isBinding_of_asked?_eq_none {answers : Ingress.Answers} {isGraceOver : Bool}
    (h : m.asked? (.session place (.advance answers isGraceOver)) = none)
    (hs : m.sessions[place]? = some s) : s.isBinding = false := by
  simp only [asked?, hs, Option.map_eq_none_iff] at h
  simpa using h

/-- To ask for sockets is to allocate a pair, whatever else is open. -/
theorem IsSound.ports_asked (h : m.IsSound) {action : Action} {answers : Ingress.Answers}
    (hasked : m.asked? action = some answers) (others : List Nat) :
    ((m.step action).ports ++ others).Perm (Ingress.allocate answers (m.ports ++ others)).2 := by
  obtain ⟨place, isGraceOver, s, rfl, hs, hbinding⟩ := asked?_eq_some hasked
  obtain ⟨early, late, hports, hnext⟩ := ports_modify hs
  obtain ⟨hnone, hperm⟩ :=
    Session.openSockets_binding (h.orderly s (List.mem_of_getElem? hs)) hbinding answers
      isGraceOver (m.ports ++ others)
  refine .trans ?_ hperm
  rw [step, hnext, hports, hnone, List.map_nil, List.append_nil]
  simp only [Session.step, ← List.append_assoc]
  exact (List.perm_append_comm.append_right late).append_right others

theorem foreign_of_asked? {action : Action} {answers : Ingress.Answers}
    (h : m.asked? action = some answers) : (m.step action).foreign = m.foreign := by
  obtain ⟨place, isGraceOver, s, rfl, -⟩ := asked?_eq_some h
  rfl

/-- What every action does to the ports of the sessions, one kind of action at a time. -/
theorem IsSound.accounts (h : m.IsSound) (action : Action) : m.Accounts action := by
  refine ⟨fun answers hasked => ?_, fun hasked => ?_⟩
  · rw [inUse, foreign_of_asked? hasked]
    exact h.ports_asked hasked m.foreign
  · cases action with
    | create id config tracks =>
      rw [ports_eq, ports_eq, step, List.flatMap_append, List.flatMap_singleton,
        Session.openSockets_new, List.map_nil, List.append_nil]
    | occupy port => exact .refl _
    | vacate port => exact .refl _
    | session place action =>
      cases hs : m.sessions[place]? with
      | none =>
        rw [step, List.modify_eq_self (List.getElem?_eq_none_iff.1 hs)]
      | some s =>
        obtain ⟨early, late, hports, hnext⟩ := ports_modify hs
        rw [step, hnext, hports]
        refine ((List.Sublist.refl early).append (.map _ ?_)).append_right late
        refine Session.sublist_openSockets_step (h.orderly s (List.mem_of_getElem? hs)) action ?_
        rintro answers isGraceOver rfl
        exact isBinding_of_asked?_eq_none hasked hs

theorem IsSound.orderly_step (h : m.IsSound) (action : Action) :
    ∀ s ∈ (m.step action).sessions, s.Orderly := by
  cases action with
  | create id config tracks =>
    refine fun s hs => (List.mem_append.1 hs).elim (h.orderly s) fun hs => ?_
    rw [List.mem_singleton.1 hs]
    exact Session.orderly_new id config tracks
  | session place action =>
    intro s hs
    obtain ⟨i, hi⟩ := List.mem_iff_getElem?.1 hs
    rw [step, List.getElem?_modify] at hi
    obtain ⟨before, hbefore, rfl⟩ := Option.map_eq_some_iff.1 hi
    have horderly := h.orderly before (List.mem_of_getElem? hbefore)
    split
    · exact horderly.step action
    · exact horderly
  | occupy port => exact h.orderly
  | vacate port => exact h.orderly

theorem IsSound.step (h : m.IsSound) {action : Action} (hfair : m.IsFair action) :
    (m.step action).IsSound := by
  have haccounts := h.accounts action
  cases hasked : m.asked? action with
  | some answers =>
    have hfresh := hfair.1 answers hasked
    have hperm := haccounts.allocates answers hasked
    refine ⟨h.orderly_step action,
      hperm.nodup_iff.2 ((Ingress.allOrNothing hfresh).nodup h.distinct), fun port hport => ?_⟩
    -- Others may have port zero, so that it is the sessions' ports alone that are looked at.
    have hports := h.ports_asked hasked []
    rw [List.append_nil, List.append_nil] at hports
    have hown := Ingress.allOrNothing (hfresh.mono (List.subset_append_left m.ports m.foreign))
    exact hown.ne_zero h.nonzero port (hports.subset hport)
  | none =>
    have hsub := haccounts.closes hasked
    refine ⟨h.orderly_step action, ?_, fun port hport => h.nonzero port (hsub.subset hport)⟩
    cases action with
    | create | session => exact h.distinct.sublist (hsub.append_right m.foreign)
    | vacate port =>
      exact h.distinct.sublist ((List.Sublist.refl m.ports).append List.erase_sublist)
    | occupy port =>
      have hfresh : port ∉ m.inUse := hfair.2 port rfl
      exact (List.perm_middle.nodup_iff).2 (List.nodup_cons.2 ⟨hfresh, h.distinct⟩)

/-! ## A fair operating system -/

/-- The action, with ports of the system that `Ingress.answers` tells of. -/
def Action.served (budget : Option Nat) (m : Machine) : Action → Action
  | .session place (.advance _ isGraceOver) =>
    .session place (.advance (Ingress.answers budget m.inUse) isGraceOver)
  | .occupy _ => .occupy (Ingress.freshPort m.inUse)
  | action => action

/-- The schedule in which all ports come from that system. -/
def served (budget : Option Nat) (m : Machine) : List Action → List Action
  | [] => []
  | action :: rest =>
    action.served budget m :: served budget (m.step (action.served budget m)) rest

theorem isFair_served (budget : Option Nat) (m : Machine) (action : Action) :
    m.IsFair (action.served budget m) := by
  have hport : Ingress.freshPort m.inUse ∉ m.inUse := Ingress.freshPort_notMem m.inUse
  have hanswers : (Ingress.answers budget m.inUse).AreFresh m.inUse :=
    Ingress.areFresh_answers budget m.inUse
  unfold Action.served
  split
  · refine ⟨fun answers hasked => ?_, nofun⟩
    obtain ⟨_, _, _, heq, -⟩ := asked?_eq_some hasked
    cases heq
    exact hanswers
  · refine ⟨nofun, fun port hoccupied => ?_⟩
    cases hoccupied
    exact hport
  · next hsession hoccupy =>
    refine ⟨fun answers hasked => ?_, fun port hoccupied => ?_⟩
    · obtain ⟨_, _, _, rfl, -⟩ := asked?_eq_some hasked
      exact absurd rfl (hsession _ _ _)
    · cases action with
      | occupy port => exact absurd rfl (hoccupy port)
      | create | session | vacate => cases hoccupied

/-- Whatever is to happen on a machine can happen fairly. -/
theorem runsFairly_served (budget : Option Nat) (m : Machine) (schedule : List Action) :
    m.RunsFairly (served budget m schedule) := by
  induction schedule generalizing m with
  | nil => trivial
  | cons action rest ih => exact ⟨isFair_served budget m action, ih _⟩

/-! ## Runs -/

theorem isSound_new {foreign : List Nat} (h : foreign.Nodup) : IsSound ⟨[], foreign⟩ := by
  have hports : ports ⟨[], foreign⟩ = [] := rfl
  refine ⟨fun _ hs => absurd hs List.not_mem_nil, ?_, fun _ hport => ?_⟩
  · rw [inUse, hports]
    exact h
  · rw [hports] at hport
    exact absurd hport List.not_mem_nil

theorem IsSound.run (h : m.IsSound) {schedule : List Action} (hfair : m.RunsFairly schedule) :
    (m.run schedule).IsSound := by
  induction schedule generalizing m with
  | nil => exact h
  | cons action rest ih => exact ih (h.step hfair.1) hfair.2

theorem RunsFairly.of_append {early late : List Action} (h : m.RunsFairly (early ++ late)) :
    m.RunsFairly early := by
  induction early generalizing m with
  | nil => trivial
  | cons action rest ih => exact ⟨h.1, ih h.2⟩

/-- An allocation opens a pair or leaves everything as it was. Allocations are all that opens
sockets of sessions, whatever any number of them do side by side and whoever else takes ports
meanwhile, so that no two open sockets ever share a port. -/
theorem ports_unshared {answers : Ingress.Answers} {inUse : List Nat}
    (hfresh : answers.AreFresh inUse) {foreign : List Nat} (hforeign : foreign.Nodup)
    {schedule : List Action} (hfair : RunsFairly ⟨[], foreign⟩ schedule) :
    Ingress.AllOrNothing answers inUse ∧ (run ⟨[], foreign⟩ schedule).inUse.Nodup ∧
    (∀ port ∈ (run ⟨[], foreign⟩ schedule).ports, port ≠ 0) ∧
    ∀ early action late, schedule = early ++ action :: late →
      (run ⟨[], foreign⟩ early).Accounts action := by
  have hsound := (isSound_new hforeign).run hfair
  refine ⟨Ingress.allOrNothing hfresh, hsound.distinct, hsound.nonzero, ?_⟩
  rintro early action late rfl
  have hearly : IsSound (run ⟨[], foreign⟩ early) :=
    (isSound_new hforeign).run hfair.of_append
  exact hearly.accounts action

/-- Two sessions beside someone else: a pump of the first fails, and the port that it gives back
is given to the second. -/
def neighbours : List Action :=
  let create (id : String) : Action := .create id .default fun _ => Session.unboundTrack
  let next (place video audio : Nat) : Action :=
    .session place (.advance ⟨.ok video, .ok audio, .ok (), .ok ()⟩ false)
  [.occupy 80, create "a", create "b", .session 0 (.run ⟨true, some 0⟩),
    .session 1 (.run ⟨false, none⟩), next 0 5000 5001, next 0 0 0, next 0 0 0, next 0 0 0,
    .session 0 (.arrive .video (.fault "reset")), .session 0 (.pump .video), next 1 5000 5002,
    .vacate 80]

theorem ports_unshared_neighbours :
    RunsFairly ⟨[], [443]⟩ neighbours ∧
      (⟨.ok 5000, .ok 5001, .ok (), .ok ()⟩ : Ingress.Answers).AreFresh [443] ∧
      Ingress.AllOrNothing ⟨.ok 5000, .ok 5001, .ok (), .ok ()⟩ [443] ∧
      (run ⟨[], [443]⟩ neighbours).inUse.Nodup ∧
      (∀ port ∈ (run ⟨[], [443]⟩ neighbours).ports, port ≠ 0) ∧
      (run ⟨[], [443]⟩ neighbours).inUse = [5001, 5000, 5002, 443] := by
  have hfair : RunsFairly ⟨[], [443]⟩ neighbours := by decide +kernel
  have hfresh : (⟨.ok 5000, .ok 5001, .ok (), .ok ()⟩ : Ingress.Answers).AreFresh [443] := by
    decide +kernel
  obtain ⟨hall, hdistinct, hnonzero, -⟩ := ports_unshared hfresh (by decide) hfair
  exact ⟨hfair, hfresh, hall, hdistinct, hnonzero, by decide +kernel⟩

end Machine

end RtpBridge

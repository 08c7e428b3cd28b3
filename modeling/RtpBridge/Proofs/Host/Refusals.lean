-- SUMMARY: Settings that are refused make no difference to anything that happens later.
import RtpBridge.Host.Traffic

/-!
# Refused settings

A document that is not accepted might as well not have been given. Leaving such calls out of a
schedule changes nothing but that they are missing among the calls (`Traffic.run_withoutRefused`):
the host, the other calls with their answers and what is seen of the offers are the same. The calls
that follow have other numbers then, so a schedule has to be told anew.
-/

namespace RtpBridge.Host

/-! ## Lists without some of their items -/

/-- What stands at a place and is kept stands among what is kept at the number of kept items before
it. -/
theorem getElem?_filter_countP {α : Type} {p : α → Bool} {l : List α} {n : Nat}
    (h : ∀ x, l[n]? = some x → p x) : (l.filter p)[(l.take n).countP p]? = l[n]? := by
  induction l generalizing n with
  | nil => rfl
  | cons first rest ih =>
    cases n with
    | zero =>
      have hfirst : p first := h first rfl
      simp only [List.take_zero, List.countP_nil, List.filter_cons_of_pos hfirst,
        List.getElem?_cons_zero]
    | succ n =>
      have hrest := ih fun x hx => h x hx
      rw [List.take_succ_cons, List.getElem?_cons_succ, ← hrest]
      by_cases hfirst : p first
      · rw [List.countP_cons_of_pos hfirst, List.filter_cons_of_pos hfirst,
          List.getElem?_cons_succ]
      · rw [List.countP_cons_of_neg hfirst, List.filter_cons_of_neg hfirst]

theorem filter_set_countP {α : Type} {p : α → Bool} {l : List α} {n : Nat} {before : α}
    (hn : l[n]? = some before) (hbefore : p before) {after : α} (hafter : p after) :
    (l.set n after).filter p = (l.filter p).set ((l.take n).countP p) after := by
  induction l generalizing n with
  | nil => rfl
  | cons first rest ih =>
    cases n with
    | zero =>
      cases hn
      simp only [List.set_cons_zero, List.take_zero, List.countP_nil,
        List.filter_cons_of_pos hbefore, List.filter_cons_of_pos hafter]
    | succ n =>
      rw [List.set_cons_succ, List.take_succ_cons]
      by_cases hfirst : p first
      · rw [List.filter_cons_of_pos hfirst, List.filter_cons_of_pos hfirst,
          List.countP_cons_of_pos hfirst, List.set_cons_succ, ih hn]
      · rw [List.filter_cons_of_neg hfirst, List.filter_cons_of_neg hfirst,
          List.countP_cons_of_neg hfirst, ih hn]

namespace Traffic

variable {t : Traffic} {action left : Action}

/-! ## Schedules without refused documents -/

/-- The settings of a document that is accepted. -/
def Action.accepted? : Action → Option Config
  | .configure (some octets) => (Config.ofJson octets).toOption
  | _ => none

theorem configure_eq (document : Option (List UInt8)) (host : Host) :
    (host.configure document).1 = (Action.configure document).accepted?.isSome ∧
      (host.configure document).2.2 =
        { host with config := (Action.configure document).accepted?.getD host.config } := by
  unfold configure
  split
  · exact ⟨rfl, rfl⟩
  · next octets =>
    split <;> next hread => simp [Action.accepted?, hread, Except.toOption]

/-- Whether a call has been told that its settings were not taken. -/
def isRefusal : Standing → Bool
  | .returned (.accepted isAccepted) => !isAccepted
  | _ => false

/-- The traffic without the calls whose settings were not taken. -/
def heard (t : Traffic) : Traffic := { t with calls := t.calls.filter (!isRefusal ·) }

/-- The number of a call among those that are left. -/
def number (t : Traffic) (call : Nat) : Nat := (t.calls.take call).countP (!isRefusal ·)

/-- What is left of an action where refused documents are left out. -/
def unrefused? (t : Traffic) : Action → Option Action
  | .configure document =>
    if (Action.configure document).accepted?.isSome then some (.configure document) else none
  | .proceed call transport =>
    if t.calls[call]?.any isRefusal then none else some (.proceed (t.number call) transport)
  | action => some action

/-- A schedule without its refused documents, told from the traffic at its start. -/
def withoutRefused (t : Traffic) : List Action → List Action
  | [] => []
  | action :: rest => (t.unrefused? action).toList ++ (t.step action).1.withoutRefused rest

/-! ## Steps -/

theorem heard_enter {standing : Standing} (h : isRefusal standing = false) (t : Traffic)
    (host : Host) : (t.enter host standing).heard = t.heard.enter host standing := by
  have hkept : [standing].filter (!isRefusal ·) = [standing] := by simp [h]
  simp only [heard, enter, List.filter_append, hkept]

theorem heard_enter_refused (t : Traffic) :
    (t.enter t.host (.returned (.accepted false))).heard = t.heard := by
  have hdropped : [Standing.returned (.accepted false)].filter (!isRefusal ·) = [] := rfl
  simp only [heard, enter, List.filter_append, hdropped, List.append_nil]
  rfl

/-- No call is told later that its settings were not taken. -/
theorem isRefusal_stepOn (transport : Session → Offer → Negotiation.Transport) (host : Host)
    {standing : Standing} (h : isRefusal standing = false) :
    isRefusal (stepOn transport host standing).2 = false := by
  cases standing with
  | creating id config => rfl
  | taking place offer =>
    simp only [stepOn]
    split <;> rfl
  | presenting place offer =>
    simp only [stepOn]
    split
    · rfl
    · split <;> rfl
  | exchanging place offer =>
    simp only [stepOn]
    split
    · rfl
    · dsimp only
      split <;> rfl
  | returned answer => exact h

/-- A call that goes on among those that are left is the one that goes on among all. -/
theorem heard_proceed {call : Nat} (h : (t.calls[call]?.any isRefusal) = false)
    (transport : Session → Offer → Negotiation.Transport) :
    t.heard.proceed (t.number call) transport =
      ((t.proceed call transport).1.heard, (t.proceed call transport).2) := by
  have hkept (standing : Standing) (hcall : t.calls[call]? = some standing) :
      isRefusal standing = false := by
    rw [hcall] at h
    exact h
  have hsame : t.heard.calls[t.number call]? = t.calls[call]? :=
    getElem?_filter_countP fun standing hcall => by rw [hkept standing hcall]; rfl
  unfold proceed
  rw [hsame]
  cases hcall : t.calls[call]? with
  | none => rfl
  | some standing =>
    have hbefore := hkept standing hcall
    have hafter := isRefusal_stepOn transport t.host hbefore
    have hset : (t.calls.set call (stepOn transport t.host standing).2).filter (!isRefusal ·) =
        t.heard.calls.set (t.number call) (stepOn transport t.host standing).2 :=
      filter_set_countP hcall (by rw [hbefore]; rfl) (by rw [hafter]; rfl)
    exact Prod.ext (congrArg (Traffic.mk _) hset.symm) rfl

/-- What is left of an action does to the calls that are left what the action does to all. -/
theorem step_of_unrefused?_eq_some (h : t.unrefused? action = some left) :
    t.heard.step left = ((t.step action).1.heard, (t.step action).2) := by
  cases action with
  | configure document =>
    simp only [unrefused?, Option.ite_none_right_eq_some, Option.some.injEq] at h
    obtain ⟨haccepted, rfl⟩ := h
    have hanswer : (t.host.configure document).1 = true := by
      rw [(configure_eq document t.host).1, haccepted]
    have hheard : isRefusal (.returned (.accepted (t.host.configure document).1)) = false := by
      rw [hanswer]
      rfl
    exact congrArg (·, []) (heard_enter hheard t _).symm
  | proceed call transport =>
    simp only [unrefused?] at h
    split at h
    · cases h
    · next hheard =>
      cases h
      exact heard_proceed (Bool.eq_false_iff.2 hheard) transport
  | busy action =>
    cases h
    rfl
  | create id =>
    cases h
    exact congrArg (·, []) (heard_enter rfl t t.host).symm
  | buildOffer octets =>
    cases h
    exact congrArg (·, _) (heard_enter rfl t (t.host.buildOffer octets).2.2).symm
  | signal session offer =>
    cases h
    have hhost : t.heard.host = t.host := rfl
    simp only [step, enterSignal, hhost]
    cases t.host.resolve session with
    | ok place => exact congrArg (·, []) (heard_enter rfl t t.host).symm
    | error error => exact congrArg (·, []) (heard_enter rfl t t.host).symm
  | freeOffer offer =>
    cases h
    exact congrArg (·, _) (heard_enter rfl t (t.host.freeOffer offer)).symm

/-- An action of which nothing is left does nothing that would be missed. -/
theorem step_of_unrefused?_eq_none (h : t.unrefused? action = none) :
    (t.step action).1.heard = t.heard ∧ (t.step action).2 = [] := by
  cases action with
  | configure document =>
    simp only [unrefused?, ite_eq_right_iff, reduceCtorEq, imp_false] at h
    obtain ⟨hanswer, hhost⟩ := configure_eq document t.host
    rw [Option.not_isSome_iff_eq_none] at h
    rw [h] at hanswer hhost
    have hsame : (t.host.configure document).2.2 = t.host := hhost
    have hrefused : (t.host.configure document).1 = false := hanswer
    simp only [step, hrefused, hsame]
    exact ⟨heard_enter_refused t, trivial⟩
  | proceed call transport =>
    simp only [unrefused?, ite_eq_left_iff, reduceCtorEq, imp_false] at h
    obtain ⟨standing, hcall, hrefusal⟩ := (Option.any_eq_true ..).1 (Classical.not_not.1 h)
    cases standing with
    | returned answer =>
      have hset : t.calls.set call (.returned answer) = t.calls := by
        obtain ⟨hlt, hsame⟩ := List.getElem?_eq_some_iff.1 hcall
        rw [← hsame, List.set_getElem_self hlt]
      simp only [step, proceed, hcall, stepOn, hset]
      exact ⟨rfl, rfl⟩
    | creating | taking | presenting | exchanging => cases hrefusal
  | busy | create | buildOffer | signal | freeOffer => cases h

/-! ## Runs -/

theorem run_cons (t : Traffic) (action : Action) (rest : List Action) :
    t.run (action :: rest) = (((t.step action).1.run rest).1,
      (t.step action).2 ++ ((t.step action).1.run rest).2) := rfl

/-- Leaving out refused documents changes nothing but that these calls are missing. -/
theorem run_withoutRefused (t : Traffic) (schedule : List Action) :
    t.heard.run (t.withoutRefused schedule) =
      ((t.run schedule).1.heard, (t.run schedule).2) := by
  induction schedule generalizing t with
  | nil => rfl
  | cons action rest ih =>
    rw [withoutRefused, run_cons t]
    cases hleft : t.unrefused? action with
    | none =>
      obtain ⟨hsame, hevents⟩ := step_of_unrefused?_eq_none hleft
      rw [Option.toList_none, List.nil_append, ← hsame, ih, hevents]
      rfl
    | some left =>
      have hstep := step_of_unrefused?_eq_some hleft
      rw [Option.toList_some, List.singleton_append, run_cons, hstep, ih]

end Traffic

end RtpBridge.Host

-- SUMMARY: Every message goes to the callback that was installed last, and to no other.
import Mathlib.Data.List.Induction
import RtpBridge.InputSink
import RtpBridge.Proofs.Shared

/-!
# Input sinks: laws

The history of a sink tells who listens at each moment: the callback of the last install, if no
clear and no other install came since (`InputSink.IsListening`). It is given every message that
comes in meanwhile, in order and unchanged, and nobody else is (`InputSink.history_isFaithful`).
-/

namespace RtpBridge.InputSink

variable {κ : Type} {history before after : List (Action κ × Answer κ)} {sink : InputSink κ}
  {action : Action κ} {callback : κ}

/-! ## What a history tells -/

/-- What is installed after an action that decides it. -/
def Action.reset? : Action κ → Option (Option κ)
  | .install _ callback => some (some callback)
  | .clear _ => some none
  | .clone _ | .new | .deliver .. => none

def Action.message? : Action κ → Option (List UInt8)
  | .deliver _ message => some message
  | .clone _ | .new | .install .. | .clear _ => none

/-- That a callback was installed, and that no install or clear came since. -/
def IsListening (before : List (Action κ × Answer κ)) (callback : κ) : Prop :=
  ∃ early holder answer late, before = early ++ (.install holder callback, answer) :: late ∧
    ∀ entry ∈ late, entry.1.reset? = none

/-- The messages that a callback is given in the calls of an answer. -/
def Answer.messagesFor [DecidableEq κ] (callback : κ) (answer : Answer κ) : List (List UInt8) :=
  (answer.calls.filter fun call => call.1 = callback).map (·.2)

/-- The messages that a callback is given in a history. -/
def received [DecidableEq κ] (callback : κ) (history : List (Action κ × Answer κ)) :
    List (List UInt8) :=
  history.flatMap fun entry => entry.2.messagesFor callback

/-- That every message goes to the one who listens. -/
structure IsFaithful [DecidableEq κ] (history : List (Action κ × Answer κ)) : Prop where
  /-- A message that a callback listens for is given to it alone, as it is. -/
  heard : ∀ before holder message answer later callback,
    history = before ++ (.deliver holder message, answer) :: later → IsListening before callback →
    answer = .delivered true [(callback, message)]
  /-- One that nobody hears is given to nobody. -/
  lost : ∀ before holder message answer later,
    history = before ++ (.deliver holder message, answer) :: later →
    (∀ callback, ¬ IsListening before callback) →
    answer = .delivered false []
  /-- Nothing is given to two. -/
  once : ∀ entry ∈ history, entry.2.calls.length ≤ 1
  /-- Only messages lead to calls. -/
  silent : ∀ entry ∈ history, entry.1.message? = none → entry.2.calls = []
  /-- A callback that is installed once is given what comes in until the next install or clear. -/
  receives : ∀ before holder callback answer window later,
    history = before ++ (.install holder callback, answer) :: (window ++ later) →
    (∀ entry ∈ window, entry.1.reset? = none) →
    (∀ entry ∈ later.head?, entry.1.reset? ≠ none) →
    (∀ entry ∈ before ++ window ++ later, entry.1.reset? ≠ some (some callback)) →
    received callback history = window.filterMap fun entry => entry.1.message?

/-! ## Who listens -/

theorem snd_act (sink : InputSink κ) (action : Action κ) :
    (sink.act action).2 = (action.reset?.map InputSink.mk).getD sink := by
  cases action <;> rfl

theorem reset?_eq_some_some : action.reset? = some (some callback) ↔
    ∃ holder, action = .install holder callback := by
  cases action with
  | install holder other =>
    simp only [Action.reset?, Option.some.injEq, Action.install.injEq, exists_and_right,
      exists_eq', true_and]
  | clone | new | clear | deliver => simp [Action.reset?]

theorem isListening_append_singleton (before : List (Action κ × Answer κ))
    (entry : Action κ × Answer κ) (callback : κ) : IsListening (before ++ [entry]) callback ↔
      entry.1.reset? = some (some callback) ∨
        (entry.1.reset? = none ∧ IsListening before callback) := by
  constructor
  · rintro ⟨early, holder, answer, late, heq, hlate⟩
    cases late using List.reverseRecOn with
    | nil =>
      obtain ⟨-, hentry⟩ := List.append_inj' heq rfl
      cases hentry
      exact .inl rfl
    | append_singleton late last =>
      rw [← List.cons_append, ← List.append_assoc] at heq
      obtain ⟨hbefore, hentry⟩ := List.append_inj' heq rfl
      cases hentry
      have hlast := hlate entry (List.mem_append_right late List.mem_cons_self)
      exact .inr ⟨hlast, early, holder, answer, late, hbefore,
        fun entry hmem => hlate entry (List.mem_append_left _ hmem)⟩
  · rintro (hinstall | ⟨hnone, early, holder, answer, late, rfl, hlate⟩)
    · obtain ⟨action, answer⟩ := entry
      obtain ⟨holder, rfl⟩ := reset?_eq_some_some.1 hinstall
      exact ⟨before, holder, answer, [], rfl, nofun⟩
    · refine ⟨early, holder, answer, late ++ [entry], List.append_assoc .., ?_⟩
      rw [List.forall_mem_append, List.forall_mem_singleton]
      exact ⟨hlate, hnone⟩

/-- What is installed is what was installed last, if it was not cleared since. -/
theorem callback_after (before : List (Action κ × Answer κ)) (callback : κ) :
    (Shared.after act empty before).callback = some callback ↔ IsListening before callback := by
  induction before using List.reverseRecOn with
  | nil =>
    refine ⟨nofun, ?_⟩
    rintro ⟨early, holder, answer, late, hnil, -⟩
    cases early <;> cases hnil
  | append_singleton before entry ih =>
    rw [isListening_append_singleton, Shared.after_append]
    show (act _ entry.1).2.callback = _ ↔ _
    rw [snd_act]
    cases entry.1.reset? with
    | none => simpa using ih
    | some installed => simp

/-! ## Who is given what -/

theorem deliver_of_isListening (h : IsListening before callback) (message : List UInt8) :
    (Shared.after act empty before).deliver message = (true, [(callback, message)]) := by
  have hcallback := (callback_after before callback).2 h
  refine Prod.ext ?_ ?_
  · rw [fst_deliver, hcallback]
    rfl
  · rw [snd_deliver, hcallback]
    rfl

theorem deliver_of_not_isListening (h : ∀ callback, ¬ IsListening before callback)
    (message : List UInt8) : (Shared.after act empty before).deliver message = (false, []) := by
  have hcallback : (Shared.after act empty before).callback = none :=
    Option.eq_none_iff_forall_ne_some.2 fun callback hsome =>
      h callback ((callback_after before callback).1 hsome)
  refine Prod.ext ?_ ?_
  · rw [fst_deliver, hcallback]
    rfl
  · rw [snd_deliver, hcallback]
    rfl

theorem calls_of_message?_eq_none (h : action.message? = none) (sink : InputSink κ) :
    (sink.act action).1.calls = [] := by
  cases action with
  | deliver => cases h
  | clone | new | install | clear => rfl

theorem length_calls_act_le (sink : InputSink κ) (action : Action κ) :
    (sink.act action).1.calls.length ≤ 1 := by
  cases action with
  | deliver holder message =>
    obtain ⟨_ | callback⟩ := sink
    · exact Nat.zero_le 1
    · exact Nat.le_refl 1
  | clone | new | install | clear => exact Nat.zero_le 1

theorem message?_of_reset? (h : action.reset? ≠ none) : action.message? = none := by
  cases action with
  | deliver => exact absurd rfl h
  | clone | new | install | clear => rfl

/-- Only an install brings a callback in, and every reset takes out the one before. -/
theorem not_installed_act (hinstall : action.reset? ≠ some (some callback))
    (h : sink.callback ≠ some callback ∨ action.reset? ≠ none) :
    (sink.act action).2.callback ≠ some callback := by
  rw [snd_act]
  cases hreset : action.reset? with
  | none => exact h.resolve_right fun hne => hne hreset
  | some installed => exact fun heq => hinstall (hreset.trans (congrArg some heq))

section

variable [DecidableEq κ]

theorem received_cons (callback : κ) (entry : Action κ × Answer κ)
    (rest : List (Action κ × Answer κ)) :
    received callback (entry :: rest) = entry.2.messagesFor callback ++ received callback rest :=
  List.flatMap_cons

theorem received_append (callback : κ) (early late : List (Action κ × Answer κ)) :
    received callback (early ++ late) = received callback early ++ received callback late :=
  List.flatMap_append

theorem messagesFor_of_not_installed (h : sink.callback ≠ some callback) (action : Action κ) :
    (sink.act action).1.messagesFor callback = [] := by
  cases action with
  | deliver holder message =>
    obtain ⟨installed⟩ := sink
    cases installed with
    | none => rfl
    | some other =>
      have hne : other ≠ callback := fun heq => h (congrArg some heq)
      simp [Answer.messagesFor, act, Answer.calls, deliver, hne]
  | clone | new | install | clear => rfl

theorem messagesFor_of_installed (callback : κ) (action : Action κ) :
    ((⟨some callback⟩ : InputSink κ).act action).1.messagesFor callback =
      action.message?.toList := by
  cases action with
  | deliver holder message => simp [Answer.messagesFor, act, Answer.calls, deliver, Action.message?]
  | clone | new | install | clear => rfl

/-- Someone who is not installed is given nothing. -/
theorem received_of_not_installed (h : Shared.Explains act sink history)
    (hsink : sink.callback ≠ some callback)
    (hhistory : ∀ entry ∈ history, entry.1.reset? ≠ some (some callback)) :
    received callback history = [] := by
  induction history generalizing sink with
  | nil => rfl
  | cons entry rest ih =>
    obtain ⟨hanswer, hexplains⟩ := h
    obtain ⟨hentry, hrest⟩ := List.forall_mem_cons.1 hhistory
    rw [received_cons, ← hanswer, messagesFor_of_not_installed hsink]
    exact ih hexplains (not_installed_act hentry (.inl hsink)) hrest

/-- Someone who stays installed is given everything. -/
theorem received_of_no_reset (h : Shared.Explains act ⟨some callback⟩ history)
    (hhistory : ∀ entry ∈ history, entry.1.reset? = none) :
    received callback history = history.filterMap fun entry => entry.1.message? := by
  induction history with
  | nil => rfl
  | cons entry rest ih =>
    obtain ⟨hanswer, hexplains⟩ := h
    obtain ⟨hentry, hrest⟩ := List.forall_mem_cons.1 hhistory
    rw [snd_act, hentry] at hexplains
    rw [received_cons, ← hanswer, messagesFor_of_installed]
    refine (congrArg _ (ih hexplains hrest)).trans ?_
    rw [List.filterMap_cons]
    cases entry.1.message? <;> rfl

theorem received_of_reset_first (h : Shared.Explains act sink history)
    (hfirst : ∀ entry ∈ history.head?, entry.1.reset? ≠ none)
    (hhistory : ∀ entry ∈ history, entry.1.reset? ≠ some (some callback)) :
    received callback history = [] := by
  cases history with
  | nil => rfl
  | cons entry rest =>
    obtain ⟨hanswer, hexplains⟩ := h
    obtain ⟨hentry, hrest⟩ := List.forall_mem_cons.1 hhistory
    have hreset := hfirst entry rfl
    rw [received_cons, ← hanswer, Answer.messagesFor,
      calls_of_message?_eq_none (message?_of_reset? hreset)]
    exact received_of_not_installed hexplains (not_installed_act hentry (.inr hreset)) hrest

/-- What a single sink answers is faithful to what is done to it. -/
theorem isFaithful_of_explains (h : Shared.Explains act empty history) : IsFaithful history where
  heard := by
    rintro before holder message answer later callback rfl hlistening
    have hanswer := h.answer
    rw [act, deliver_of_isListening hlistening] at hanswer
    exact hanswer
  lost := by
    rintro before holder message answer later rfl hlistening
    have hanswer := h.answer
    rw [act, deliver_of_not_isListening hlistening] at hanswer
    exact hanswer
  once := by
    intro entry hentry
    obtain ⟨before, later, rfl⟩ := List.append_of_mem hentry
    rw [h.answer]
    exact length_calls_act_le _ _
  silent := by
    intro entry hentry hmessage
    obtain ⟨before, later, rfl⟩ := List.append_of_mem hentry
    rw [h.answer]
    exact calls_of_message?_eq_none hmessage _
  receives := by
    rintro before holder callback answer window later rfl hwindow hlater hothers
    rw [List.forall_mem_append, List.forall_mem_append] at hothers
    obtain ⟨⟨hbefore, -⟩, hafter⟩ := hothers
    obtain ⟨hexplainsBefore, -, hexplains⟩ := Shared.explains_append.1 h
    obtain ⟨hexplainsWindow, hexplainsLater⟩ := Shared.explains_append.1 hexplains
    have hnothing : received callback before = [] :=
      received_of_not_installed hexplainsBefore nofun hbefore
    have hinstall : answer.messagesFor callback = [] := by
      rw [h.answer]
      rfl
    have heverything := received_of_no_reset hexplainsWindow hwindow
    have hover : received callback later = [] := received_of_reset_first hexplainsLater hlater hafter
    rw [received_append, received_cons, received_append, hnothing, hinstall, heverything, hover,
      List.append_nil]
    rfl

end

/-! ## Shared sinks -/

theorem step_of_holder? {holder : Nat} (h : action.holder? = some holder)
    (sinks : Shared (InputSink κ)) :
    step sinks action = sinks.through empty holder fun sink => sink.act action := by
  cases action <;> cases h <;> rfl

theorem valueAt_step_of_holder?_eq_none (h : action.holder? = none)
    (sinks : Shared (InputSink κ)) (place : Nat) :
    (step sinks action).2.valueAt empty place = sinks.valueAt empty place := by
  cases action with
  | clone holder => exact Shared.valueAt_clone sinks empty holder place
  | new => exact Shared.valueAt_new sinks empty place
  | install | clear | deliver => cases h

theorem keeps_step (sinks : Shared (InputSink κ)) (action : Action κ) :
    sinks.Keeps (step sinks action).2 := by
  cases action with
  | clone holder => exact Shared.keeps_clone sinks holder
  | new => exact Shared.keeps_new sinks empty
  | install holder | clear holder | deliver holder => exact Shared.keeps_modify sinks holder _

/-- The holders of a sink are the one that came with it and its clones. -/
theorem admits {sinks : Shared (InputSink κ)} (h : sinks.IsValid) :
    Shared.Admits step id .clone .new .added sinks :=
  h.admits keeps_step (fun _ => ⟨rfl, rfl⟩) ⟨rfl, rfl⟩

theorem isValid_step {sinks : Shared (InputSink κ)} (h : sinks.IsValid) (action : Action κ) :
    (step sinks action).2.IsValid := by
  cases action with
  | clone holder => exact h.clone holder
  | new => exact h.new empty
  | install holder | clear holder | deliver holder => exact h.modify holder _

theorem tracks (place : Nat) : Shared.Tracks step (concerns place) (act : InputSink κ → _)
    (·.valueAt empty place) Shared.IsValid where
  keeps sinks action hvalid := isValid_step hvalid action
  acts sinks action hvalid hconcerns := by
    obtain ⟨holder, hholder, hplace⟩ :=
      Option.bind_eq_some_iff.1 (of_decide_eq_true hconcerns)
    rw [step_of_holder? hholder]
    exact ⟨Shared.fst_through hplace _, Shared.valueAt_modify_self hvalid hplace _⟩
  rests sinks action hvalid hconcerns := by
    cases hholder : action.holder? with
    | none => exact valueAt_step_of_holder?_eq_none hholder sinks place
    | some holder =>
      have hplace : action.holder?.bind sinks.place? ≠ some place := of_decide_eq_false hconcerns
      rw [hholder] at hplace
      rw [step_of_holder? hholder]
      exact Shared.valueAt_modify_of_ne hplace _

/-- Whatever is done through any holders of a sink and in between: a message goes to the callback
that was installed last if it was not cleared since, and each callback is given all that comes in
while it is installed, in order. The holders of a sink are its first one and those that were cloned
from them, at all times. -/
theorem history_isFaithful [DecidableEq κ] (schedule : List (Action κ)) (place : Nat) :
    IsFaithful (InputSink.history place (.single empty) schedule) ∧
    Shared.Admits step id .clone .new .added
      (Shared.final step (.single (empty : InputSink κ)) schedule) := by
  have hvalid := Shared.isValid_single (empty : InputSink κ)
  have hexplains := (tracks place).explains hvalid schedule
  have hvalue : (Shared.single (empty : InputSink κ)).valueAt empty place = empty := by
    cases place <;> rfl
  rw [hvalue] at hexplains
  exact ⟨isFaithful_of_explains hexplains,
    admits ((tracks place).invariant_final hvalid schedule)⟩

/-- Two holders of one sink and one of another: a message goes where its own sink sends it, and the
one that comes in after the clear is lost. -/
example :
    let seen := InputSink.history 0 (.single empty) [.clone 0, .new, .install 0 "a",
      .install 2 "c", .deliver 1 [1], .install 1 "b", .deliver 2 [2], .deliver 0 [3], .clear 0,
      .deliver 1 [4]]
    received "a" seen = [[1]] ∧ received "b" seen = [[3]] ∧ received "c" seen = [] ∧
      seen.map (·.2) = [.done, .delivered true [("a", [1])], .done, .delivered true [("b", [3])],
        .done, .delivered false []] := by decide

end RtpBridge.InputSink

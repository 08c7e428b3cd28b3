-- SUMMARY: Who holds a shared value, and that it answers as if each holder had it alone.
import RtpBridge.Shared

/-!
# Shared values: laws

The holders of one value are the one that came with it and the clones of its holders, and none of
them ever refers to another one (`Shared.Admits`). Whatever is done through other holders in
between, what is done through them is answered as if nothing else happened
(`Shared.Tracks.explains`).
-/

namespace RtpBridge.Shared

variable {σ : Type} {s : Shared σ} {fresh : σ} {holder place : Nat}

/-! ## Places -/

/-- That every holder refers to a value. -/
def IsValid (s : Shared σ) : Prop := ∀ place ∈ s.holders, place < s.values.length

theorem isValid_single (value : σ) : (single value).IsValid := by
  intro place hplace
  rw [List.mem_singleton.1 hplace]
  exact Nat.one_pos

theorem IsValid.lt (h : s.IsValid) (hplace : s.place? holder = some place) :
    place < s.values.length :=
  h place (List.mem_of_getElem? hplace)

theorem IsValid.new (h : s.IsValid) (value : σ) : (s.new value).2.IsValid := by
  intro place hplace
  rw [Shared.new, List.length_append, List.length_singleton]
  rcases List.mem_append.1 hplace with hold | hnew
  · exact Nat.lt_succ_of_lt (h place hold)
  · rw [List.mem_singleton.1 hnew]
    exact Nat.lt_succ_self _

theorem IsValid.clone (h : s.IsValid) (holder : Nat) : (s.clone holder).2.IsValid := by
  intro place hplace
  rcases List.mem_append.1 hplace with hold | hnew
  · exact h place hold
  · exact h.lt (Option.mem_toList.1 hnew)

theorem holders_modify (s : Shared σ) (holder : Nat) (f : σ → σ) :
    (s.modify holder f).holders = s.holders := by
  unfold modify
  split <;> rfl

theorem IsValid.modify (h : s.IsValid) (holder : Nat) (f : σ → σ) : (s.modify holder f).IsValid := by
  intro place hplace
  rw [holders_modify] at hplace
  unfold Shared.modify
  split
  · rw [List.length_modify]
    exact h place hplace
  · exact h place hplace

/-- That every holder goes on to refer to the value that it refers to. -/
def Keeps (s later : Shared σ) : Prop :=
  ∀ holder place, s.place? holder = some place → later.place? holder = some place

theorem Keeps.refl (s : Shared σ) : s.Keeps s := fun _ _ => id

theorem Keeps.trans {s next later : Shared σ} (h : s.Keeps next) (hnext : next.Keeps later) :
    s.Keeps later :=
  fun holder place hplace => hnext holder place (h holder place hplace)

theorem Keeps.of_append {later : Shared σ} {added : List Nat}
    (h : later.holders = s.holders ++ added) : s.Keeps later := by
  intro holder place hplace
  rw [place?, h, List.getElem?_append_left (List.getElem?_eq_some_iff.1 hplace).1]
  exact hplace

theorem keeps_new (s : Shared σ) (value : σ) : s.Keeps (s.new value).2 := .of_append rfl

theorem keeps_clone (s : Shared σ) (holder : Nat) : s.Keeps (s.clone holder).2 := .of_append rfl

theorem keeps_modify (s : Shared σ) (holder : Nat) (f : σ → σ) : s.Keeps (s.modify holder f) :=
  .of_append ((holders_modify s holder f).trans (List.append_nil _).symm)

/-- A new holder refers to a value of its own. -/
theorem place?_new (s : Shared σ) (value : σ) :
    (s.new value).2.place? (s.new value).1 = some s.values.length :=
  List.getElem?_concat_length

/-- A clone of a holder refers to the same value. -/
theorem place?_clone (s : Shared σ) (holder : Nat) :
    (s.clone holder).2.place? (s.clone holder).1 = s.place? holder := by
  have hadded : (s.clone holder).2.place? (s.clone holder).1 = s.holders[holder]?.toList[0]? := by
    rw [place?, clone, List.getElem?_append_right (Nat.le_refl _), Nat.sub_self]
  rw [hadded, place?]
  cases s.holders[holder]? <;> rfl

theorem place?_length_holders (s : Shared σ) : s.place? s.holders.length = none :=
  List.getElem?_eq_none (Nat.le_refl _)

theorem IsValid.place?_ne_length (h : s.IsValid) (holder : Nat) :
    s.place? holder ≠ some s.values.length :=
  fun hplace => Nat.lt_irrefl _ (h.lt hplace)

/-! ## Values -/

@[simp] theorem valueAt_clone (s : Shared σ) (fresh : σ) (holder place : Nat) :
    (s.clone holder).2.valueAt fresh place = s.valueAt fresh place := rfl

@[simp] theorem valueAt_new (s : Shared σ) (fresh : σ) (place : Nat) :
    (s.new fresh).2.valueAt fresh place = s.valueAt fresh place := by
  rw [valueAt, valueAt, Shared.new, List.getElem?_append]
  split
  · rfl
  · next hge =>
    rw [List.getElem?_eq_none (Nat.not_lt.1 hge), List.getElem?_singleton]
    split <;> rfl

theorem valueAt_modify_self (h : s.IsValid) (hplace : s.place? holder = some place) (f : σ → σ) :
    (s.modify holder f).valueAt fresh place = f (s.valueAt fresh place) := by
  have hlt := h.lt hplace
  simp only [modify, hplace, valueAt, List.getElem?_modify_eq, List.getElem?_eq_getElem hlt]
  rfl

theorem valueAt_modify_of_ne (hplace : s.place? holder ≠ some place) (f : σ → σ) :
    (s.modify holder f).valueAt fresh place = s.valueAt fresh place := by
  unfold modify
  split
  · next other hother =>
    have hne : other ≠ place := fun heq => hplace (heq ▸ hother)
    simp only [valueAt, List.getElem?_modify_ne _ _ hne]
  · rfl

theorem getD_get? (fresh : σ) (hplace : s.place? holder = some place) :
    (s.get? holder).getD fresh = s.valueAt fresh place := by
  rw [get?, hplace]
  rfl

theorem fst_through {β : Type} (hplace : s.place? holder = some place) (act : σ → β × σ) :
    (s.through fresh holder act).1 = (act (s.valueAt fresh place)).1 := by
  rw [through, getD_get? fresh hplace]

/-! ## Histories -/

section

variable {τ α β : Type} {step : τ → α → β × τ} {concerns : τ → α → Bool} {act : σ → α → β × σ}

/-- The state after a run. -/
def final (step : τ → α → β × τ) (state : τ) (schedule : List α) : τ :=
  schedule.foldl (fun state action => (step state action).2) state

/-- That the actions which concern a value of a state do to it what they do to the value alone, and
that the others leave it as it is. -/
structure Tracks (step : τ → α → β × τ) (concerns : τ → α → Bool) (act : σ → α → β × σ)
    (value : τ → σ) (invariant : τ → Prop) : Prop where
  keeps : ∀ state action, invariant state → invariant (step state action).2
  acts : ∀ state action, invariant state → concerns state action →
    (step state action).1 = (act (value state) action).1 ∧
      value (step state action).2 = (act (value state) action).2
  rests : ∀ state action, invariant state → concerns state action = false →
    value (step state action).2 = value state

variable {value : τ → σ} {invariant : τ → Prop} {state : τ}

theorem Tracks.invariant_final (h : Tracks step concerns act value invariant)
    (hstate : invariant state) (schedule : List α) : invariant (final step state schedule) := by
  induction schedule generalizing state with
  | nil => exact hstate
  | cons action rest ih => exact ih (h.keeps state action hstate)

theorem Tracks.explains (h : Tracks step concerns act value invariant)
    (hstate : invariant state) (schedule : List α) :
    Explains act (value state) (history step concerns state schedule) := by
  induction schedule generalizing state with
  | nil => trivial
  | cons action rest ih =>
    have hrest := ih (h.keeps state action hstate)
    unfold history
    cases hconcerns : concerns state action with
    | false =>
      rw [h.rests state action hstate hconcerns] at hrest
      exact hrest
    | true =>
      obtain ⟨hanswer, hvalue⟩ := h.acts state action hstate hconcerns
      rw [hvalue] at hrest
      exact ⟨hanswer.symm, hrest⟩

theorem Tracks.value_final (h : Tracks step concerns act value invariant)
    (hstate : invariant state) (schedule : List α) :
    value (final step state schedule) =
      after act (value state) (history step concerns state schedule) := by
  induction schedule generalizing state with
  | nil => rfl
  | cons action rest ih =>
    have hrest := ih (h.keeps state action hstate)
    unfold history
    cases hconcerns : concerns state action with
    | false =>
      rw [h.rests state action hstate hconcerns] at hrest
      exact hrest
    | true =>
      obtain ⟨-, hvalue⟩ := h.acts state action hstate hconcerns
      rw [hvalue] at hrest
      exact hrest

/-- How holders come and stay, where an answer tells the number of the holder that was added. -/
structure Admits (step : τ → α → β × τ) (shared : τ → Shared σ) (clone : Nat → α) (new : α)
    (added : Nat → β) (state : τ) : Prop where
  /-- A holder never comes to refer to another value. -/
  keeps : ∀ schedule : List α, (shared state).Keeps (shared (final step state schedule))
  /-- A clone is one more holder of the value of the one that was cloned. -/
  clones : ∀ holder, ∃ n, (step state (clone holder)).1 = added n ∧
    (shared state).place? n = none ∧
    (shared (step state (clone holder)).2).place? n = (shared state).place? holder
  /-- A new holder refers to a value that nobody else refers to. -/
  news : ∃ n place, (step state new).1 = added n ∧ (shared state).place? n = none ∧
    (shared (step state new).2).place? n = some place ∧
    ∀ holder, (shared state).place? holder ≠ some place

/-- If no step makes a holder refer to another value, then no run does. -/
theorem keeps_final {shared : τ → Shared σ}
    (h : ∀ state action, (shared state).Keeps (shared (step state action).2)) (state : τ)
    (schedule : List α) : (shared state).Keeps (shared (final step state schedule)) := by
  induction schedule generalizing state with
  | nil => exact Keeps.refl _
  | cons action rest ih => exact (h state action).trans (ih (step state action).2)

/-- It is enough that every step keeps the holders and that the two actions which add one do so by
`Shared.clone` and `Shared.new`. -/
theorem IsValid.admits {shared : τ → Shared σ} {clone : Nat → α} {new : α} {added : Nat → β}
    {state : τ} {fresh : σ} (h : (shared state).IsValid)
    (hkeeps : ∀ state action, (shared state).Keeps (shared (step state action).2))
    (hclone : ∀ holder, (step state (clone holder)).1 = added ((shared state).clone holder).1 ∧
      shared (step state (clone holder)).2 = ((shared state).clone holder).2)
    (hnew : (step state new).1 = added ((shared state).new fresh).1 ∧
      shared (step state new).2 = ((shared state).new fresh).2) :
    Admits step shared clone new added state where
  keeps := keeps_final hkeeps state
  clones holder := by
    obtain ⟨hanswer, hshared⟩ := hclone holder
    refine ⟨_, hanswer, (shared state).place?_length_holders, ?_⟩
    rw [hshared]
    exact (shared state).place?_clone holder
  news := by
    obtain ⟨hanswer, hshared⟩ := hnew
    refine ⟨_, _, hanswer, (shared state).place?_length_holders, ?_, h.place?_ne_length⟩
    rw [hshared]
    exact (shared state).place?_new fresh

theorem after_append (act : σ → α → β × σ) (value : σ) (early late : List (α × β)) :
    after act value (early ++ late) = after act (after act value early) late :=
  List.foldl_append

theorem explains_append {value : σ} {early late : List (α × β)} :
    Explains act value (early ++ late) ↔
      Explains act value early ∧ Explains act (after act value early) late := by
  induction early generalizing value with
  | nil => exact (iff_of_eq (true_and _)).symm
  | cons entry rest ih => exact (and_congr_right fun _ => ih).trans and_assoc.symm

/-- An entry of a history is the answer of the value as the earlier entries have left it. -/
theorem Explains.answer {value : σ} {before later : List (α × β)} {action : α} {answer : β}
    (h : Explains act value (before ++ (action, answer) :: later)) :
    answer = (act (after act value before) action).1 :=
  (explains_append.1 h).2.1.symm

end

end RtpBridge.Shared

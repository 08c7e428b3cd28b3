-- SUMMARY: Runs of a handle table: how many slots there are, and what is entered into each of them.
import Mathlib.Data.List.FinRange
import RtpBridge.Proofs.HandleTable.Ledger
import RtpBridge.Proofs.HandleTable.Representation

/-!
# Runs, slot by slot

An action does one of two things to a slot: it fills it, in the slot's next generation, or
it leaves it in its generation, with its value or without (`slots_step_of_filling`,
`slots_step_of_not_filling`). `fillings` lists what a run enters into one slot. A table has
as many slots as it needs at its busiest (`size_slots_step`), and each of them has a value or
is free (`WellFormed.length_values_add`). None of this needs a bound on their number; that
handles tell slots apart does.
-/

namespace RtpBridge.HandleTable

variable {α : Type} {t : HandleTable α}

/-- A slot that is there and has a value. -/
def IsOccupied (t : HandleTable α) (index : Nat) : Prop :=
  ∃ slot value, t.slots[index]? = some slot ∧ slot.value = some value

theorem resolve_eq_ok {h : Handle} {value : α} :
    t.resolve h = .ok value ↔ t.resolve? h = some value := by
  unfold resolve
  cases t.resolve? h <;> simp

section
variable {slot : Slot α}

theorem isOccupied_iff_of_slot {index : Nat} (hs : t.slots[index]? = some slot) :
    t.IsOccupied index ↔ ∃ value, slot.value = some value := by
  constructor
  · rintro ⟨slot', value, hs', hv⟩
    obtain rfl : slot = slot' := Option.some.inj (hs.symm.trans hs')
    exact ⟨value, hv⟩
  · rintro ⟨value, hv⟩
    exact ⟨slot, value, hs, hv⟩

/-- A handle finds the value of its slot while the slot is in the handle's generation. -/
theorem resolve_eq_ok_iff_of_slot {h : Handle} (hs : t.slots[h.index]? = some slot) {value : α} :
    t.resolve h = .ok value ↔
      slot.generation.val.toNat = h.generation ∧ slot.value = some value := by
  rw [resolve_eq_ok, resolve?_eq_of_slot hs, Option.ite_none_right_eq_some]

end

/-! ## Runs in two parts -/

theorem snd_run_append (t : HandleTable α) (before after : List (Action α)) :
    (t.run (before ++ after)).2 = ((t.run before).2.run after).2 := by
  induction before generalizing t with
  | nil => rfl
  | cons action before ih => exact ih (t.step action).2

theorem snd_run_concat (t : HandleTable α) (actions : List (Action α)) (action : Action α) :
    (t.run (actions ++ [action])).2 = ((t.run actions).2.step action).2 :=
  snd_run_append t actions [action]

theorem WellFormed.run (wf : t.WellFormed) (actions : List (Action α)) :
    (t.run actions).2.WellFormed := by
  induction actions generalizing t with
  | nil => exact wf
  | cons action actions ih => exact ih (wf.step action)

/-! ## Taking values out -/

/-- The actions that take a value out by its handle. -/
inductive Action.TakesOut (h : Handle) : Action α → Prop where
  | release : TakesOut h (.release h)
  | take : TakesOut h (.take h)

theorem snd_step_of_takesOut (t : HandleTable α) {h : Handle} {action : Action α}
    (ha : action.TakesOut h) : (t.step action).2 = (t.release h).2 := by
  cases ha with
  | release => rfl
  | take => exact snd_take t h

/-! ## How many slots and values there are -/

/-- The values in a table, by their slots. -/
def values (t : HandleTable α) : List α := t.slots.toList.filterMap (·.value)

theorem WellFormed.length_free (wf : t.WellFormed) :
    t.free.length = t.slots.toList.countP (·.value.isNone) := by
  let slots := t.slots.toList
  have hperm : t.free.Perm
      (((List.finRange slots.length).filter fun i => slots[i].value.isNone).map Fin.val) := by
    refine (List.perm_ext_iff_of_nodup wf.free_nodup
      (((List.nodup_finRange _).filter _).map Fin.val_injective)).2 fun i => ?_
    rw [wf.mem_free_iff, ← Array.getElem?_toList]
    simp only [List.mem_map, List.mem_filter, List.mem_finRange, true_and,
      Option.isNone_iff_eq_none]
    constructor
    · rintro ⟨slot, hs, hnone⟩
      obtain ⟨hlt, rfl⟩ := List.getElem?_eq_some_iff.1 hs
      exact ⟨⟨i, hlt⟩, hnone, rfl⟩
    · rintro ⟨i, hnone, rfl⟩
      exact ⟨_, List.getElem?_eq_getElem i.2, hnone⟩
  calc t.free.length
      = (List.finRange slots.length).countP fun i => slots[i].value.isNone := by
        rw [hperm.length_eq, List.length_map, List.countP_eq_length_filter]
    _ = ((List.finRange slots.length).map fun i => slots[i]).countP (·.value.isNone) := by
        rw [List.countP_map]
        rfl
    _ = t.slots.toList.countP (·.value.isNone) :=
        congrArg (List.countP _) (List.map_getElem_finRange slots)

/-- A slot has a value or is free. -/
theorem WellFormed.length_values_add (wf : t.WellFormed) :
    t.values.length + t.free.length = t.slots.size := by
  rw [wf.length_free, values, List.length_filterMap_eq_countP, ← Array.length_toList,
    List.length_eq_countP_add_countP (fun slot : Slot α => slot.value.isSome)]
  congr 2
  funext slot
  cases slot.value <;> rfl

theorem WellFormed.size_eq (wf : t.WellFormed) : t.size = t.values.length := by
  have := wf.length_values_add
  simp only [HandleTable.size]
  omega

/-- A slot is added only when every slot has a value. -/
theorem size_slots_step (t : HandleTable α) (action : Action α) :
    (t.step action).2.slots.size = max t.slots.size (t.step action).2.size := by
  have hsame : ∀ u : HandleTable α, u.slots.size = t.slots.size →
      u.slots.size = max t.slots.size u.size := by
    intro u hu
    rw [← hu]
    exact (Nat.max_eq_left (Nat.sub_le _ _)).symm
  cases action with
  | register value =>
    have hsize := size_slots_register t value
    have hfree := congrArg List.length (free_register t value)
    rw [List.length_tail] at hfree
    simp only [HandleTable.step, HandleTable.size]
    omega
  | resolve h => exact hsame t rfl
  | release h => exact hsame _ (size_slots_release t h)
  | take h =>
    refine hsame _ ?_
    rw [snd_step_of_takesOut t .take]
    exact size_slots_release t h
  | size => exact hsame t rfl

theorem size_slots_le_run (t : HandleTable α) (actions : List (Action α)) :
    t.slots.size ≤ (t.run actions).2.slots.size := by
  induction actions generalizing t with
  | nil => exact Nat.le_refl _
  | cons action actions ih =>
    have hstep : t.slots.size ≤ (t.step action).2.slots.size := by
      rw [size_slots_step]
      exact Nat.le_max_left _ _
    exact Nat.le_trans hstep (ih (t.step action).2)

theorem WellFormed.nextIndex_lt (wf : t.WellFormed) (value : α) :
    t.nextIndex < (t.register value).2.slots.size := by
  have hslot := slots_register wf value t.nextIndex
  rw [if_pos rfl] at hslot
  exact (Array.getElem?_eq_some_iff.1 hslot).1

/-! ## What is entered into a slot -/

/-- What an action enters into a slot, and under which handle. -/
def filling? (t : HandleTable α) (index : Nat) : Action α → Option (Holding α)
  | .register value => if t.nextIndex = index then some ⟨(t.register value).1, value⟩ else none
  | _ => none

/-- What a run enters into a slot, in order. -/
def fillings (t : HandleTable α) (index : Nat) : List (Action α) → List (Holding α)
  | [] => []
  | action :: rest => (t.filling? index action).toList ++ fillings (t.step action).2 index rest

theorem fillings_append (t : HandleTable α) (index : Nat) (before after : List (Action α)) :
    t.fillings index (before ++ after) =
      t.fillings index before ++ (t.run before).2.fillings index after := by
  induction before generalizing t with
  | nil => rfl
  | cons action before ih =>
    rw [List.cons_append, fillings, ih, ← List.append_assoc]
    rfl

theorem fillings_concat (t : HandleTable α) (index : Nat) (actions : List (Action α))
    (action : Action α) :
    t.fillings index (actions ++ [action]) =
      t.fillings index actions ++ ((t.run actions).2.filling? index action).toList := by
  rw [fillings_append]
  exact congrArg (t.fillings index actions ++ ·) (List.append_nil _)

theorem slots_step_of_filling (wf : t.WellFormed) {index : Nat} {action : Action α}
    {holding : Holding α} (hf : t.filling? index action = some holding) :
    holding.1 = .pack index (t.nextGeneration index) ∧
      (t.step action).2.slots[index]? = some ⟨t.nextGeneration index, some holding.2⟩ := by
  cases action with
  | register value =>
    simp only [filling?, Option.ite_none_right_eq_some, Option.some.injEq] at hf
    obtain ⟨rfl, rfl⟩ := hf
    exact ⟨fst_register t value, by
      simp only [HandleTable.step, slots_register wf, if_true]⟩
  | resolve | release | take | size => cases hf

theorem slots_step_of_not_filling (wf : t.WellFormed) {index : Nat} {action : Action α}
    (hf : t.filling? index action = none) :
    (t.step action).2.slots[index]? = t.slots[index]? ∨
      (t.step action).2.slots[index]? =
        (t.slots[index]?).map fun slot => { slot with value := none } := by
  have hrelease : ∀ h, (t.release h).2.slots[index]? = t.slots[index]? ∨
      (t.release h).2.slots[index]? =
        (t.slots[index]?).map fun slot => { slot with value := none } := by
    intro h
    cases hv : t.resolve? h with
    | none => exact .inl (by rw [release_of_resolve?_eq_none hv])
    | some value =>
      rw [slots_release hv]
      split
      · exact .inr rfl
      · exact .inl rfl
  cases action with
  | register value =>
    have hne : index ≠ t.nextIndex := by
      rintro rfl
      simp only [filling?, if_true, reduceCtorEq] at hf
    exact .inl (by simp only [HandleTable.step, slots_register wf, if_neg hne])
  | resolve h => exact .inl rfl
  | release h => exact hrelease h
  | take h =>
    rw [snd_step_of_takesOut t .take]
    exact hrelease h
  | size => exact .inl rfl

end RtpBridge.HandleTable

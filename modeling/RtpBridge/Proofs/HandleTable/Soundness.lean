-- SUMMARY: Every table that is reached is sound: what is free, how many values there are, and which handles are good.
import RtpBridge.Proofs.HandleTable.History
import RtpBridge.Proofs.HandleTable.Refinement

/-!
# Soundness of tables

Whatever a run does, with live handles, stale ones or forged ones, and even once generations
have been counted around, the table after it is sound (`reached_isSound`). The size counts what was
entered and not taken out again, and every slot with a value is known by the handle that was
issued for it last, which finds that value.
-/

namespace RtpBridge.HandleTable

variable {α : Type} {t : HandleTable α}

/-! ## The size -/

theorem WellFormed.length_free_le (wf : t.WellFormed) : t.free.length ≤ t.slots.size := by
  rw [← wf.length_values_add]
  exact Nat.le_add_left _ _

theorem WellFormed.size_register (wf : t.WellFormed) (value : α) :
    (t.register value).2.size = t.size + 1 := by
  have hsize := size_slots_register t value
  have hfree := wf.length_free_le
  have hfree' := (wf.register value).length_free_le
  simp only [HandleTable.size]
  omega

theorem WellFormed.size_release (wf : t.WellFormed) (h : Handle) :
    (t.release h).2.size + (t.resolve? h).toList.length = t.size := by
  cases hv : t.resolve? h with
  | none =>
    rw [release_of_resolve?_eq_none hv]
    rfl
  | some value =>
    have hfree' := (wf.release h).length_free_le
    rw [free_release hv, size_slots_release, List.length_cons] at hfree'
    simp only [HandleTable.size, free_release hv, size_slots_release, List.length_cons,
      Option.toList_some, List.length_nil]
    omega

/-- The size counts what is entered and not taken out. -/
theorem WellFormed.size_step (wf : t.WellFormed) (action : Action α) :
    (t.step action).2.size + (Ledger.returned? (action, (t.step action).1)).toList.length =
      t.size + registrations [action] := by
  cases action with
  | register value => exact wf.size_register value
  | resolve h => rfl
  | release h =>
    rw [← wf.size_release h]
    simp only [HandleTable.step, fst_release]
    cases t.resolve? h <;> rfl
  | take h =>
    rw [snd_step_of_takesOut t .take, ← wf.size_release h]
    simp only [HandleTable.step, fst_take, resolve]
    cases t.resolve? h <;> rfl
  | size => rfl

theorem WellFormed.size_run (wf : t.WellFormed) (actions : List (Action α)) :
    (t.run actions).2.size +
        ((actions.zip (t.run actions).1).filterMap Ledger.returned?).length =
      t.size + registrations actions := by
  induction actions generalizing t with
  | nil => rfl
  | cons action actions ih =>
    have hstep := wf.size_step action
    have hrun := ih (wf.step action)
    have hreturned : ((action :: actions).zip (t.run (action :: actions)).1).filterMap
        Ledger.returned? = (Ledger.returned? (action, (t.step action).1)).toList ++
          (actions.zip ((t.step action).2.run actions).1).filterMap Ledger.returned? := by
      change List.filterMap _ ((action, (t.step action).1) :: _) = _
      rw [List.filterMap_cons]
      cases Ledger.returned? (action, (t.step action).1) <;> rfl
    have hfinal : (t.run (action :: actions)).2 = ((t.step action).2.run actions).2 := rfl
    rw [registrations_cons, hreturned, List.length_append, hfinal]
    omega

/-! ## The handles issued last -/

/-- A slot that is there was filled, and its generation is that of the handle issued last. -/
theorem exists_last_filling (actions : List (Action α)) {index : Nat} {slot : Slot α}
    (hs : (empty.run actions).2.slots[index]? = some slot) :
    ∃ holding, (empty.fillings index actions).getLast? = some holding ∧
      holding.1 = .pack index slot.generation ∧
      (slot.value = none ∨ slot.value = some holding.2) := by
  induction actions using List.reverseRecOn generalizing slot with
  | nil => simp [run, empty] at hs
  | append_singleton actions action ih =>
    have wf := wellFormed_empty.run actions
    rw [snd_run_concat] at hs
    rw [fillings_concat]
    cases hf : (empty.run actions).2.filling? index action with
    | none =>
      rw [Option.toList_none, List.append_nil]
      rcases slots_step_of_not_filling wf hf with h | h
      · exact ih (h.symm.trans hs)
      · rw [h] at hs
        obtain ⟨before, hb, rfl⟩ := Option.map_eq_some_iff.1 hs
        obtain ⟨holding, hlast, hpack, -⟩ := ih hb
        exact ⟨holding, hlast, hpack, .inl rfl⟩
    | some holding =>
      obtain ⟨hpack, hslot⟩ := slots_step_of_filling wf hf
      obtain rfl := Option.some.inj (hslot.symm.trans hs)
      exact ⟨holding, List.getLast?_concat, hpack, .inr rfl⟩

/-- The last handle of a slot with a value, in a table whose slots have different handles. -/
theorem exists_last_resolves (actions : List (Action α))
    (hfit : (empty.run actions).2.slots.size ≤ 0x100000000) {index : Nat}
    (ho : (empty.run actions).2.IsOccupied index) :
    ∃ holding, (empty.fillings index actions).getLast? = some holding ∧
      holding.1.index = index ∧ (empty.run actions).2.resolve holding.1 = .ok holding.2 := by
  obtain ⟨slot, value, hs, hv⟩ := ho
  obtain ⟨⟨h, entered⟩, hlast, rfl, hvalue⟩ := exists_last_filling actions hs
  have hlt : index < 0x100000000 :=
    Nat.lt_of_lt_of_le (Array.getElem?_eq_some_iff.1 hs).1 hfit
  have hindex : (Handle.pack index slot.generation).index = index := Handle.index_pack _ hlt
  have hslot : (empty.run actions).2.slots[(Handle.pack index slot.generation).index]? =
      some slot := by
    rw [hindex, hs]
  refine ⟨_, hlast, hindex, (resolve_eq_ok_iff_of_slot hslot).2 ⟨?_, ?_⟩⟩
  · rw [Handle.generation_pack]
  · rw [hv] at hvalue ⊢
    exact hvalue.resolve_left (Option.some_ne_none _)

/-! ## Reached tables -/

/-- A table that is reached has in its free list the slots without a value, each once, so that a
value is always registered into a slot that is there or just being added. No generation is
zero. The size is the number of values entered less that of the values taken out, and
never less than nothing. The handles issued last for the slots with a value are different,
and each finds the value of its slot. -/
theorem reached_isSound (actions : List (Action α))
    (hfit : (empty.run actions).2.slots.size ≤ 0x100000000) :
    let t : HandleTable α := (empty.run actions).2
    let returned := (actions.zip (empty.run actions).1).filterMap Ledger.returned?
    t.free.Nodup ∧
    (∀ i, i ∈ t.free ↔ ∃ slot, t.slots[i]? = some slot ∧ slot.value = none) ∧
    (∀ i ∈ t.free, i < t.slots.size) ∧
    (∀ slot ∈ t.slots, slot.generation.val ≠ 0) ∧
    (∀ value, (t.register value).2.slots[t.nextIndex]? =
      some ⟨t.nextGeneration t.nextIndex, some value⟩) ∧
    t.free.length ≤ t.slots.size ∧
    t.size + returned.length = registrations actions ∧
    (∀ i, t.IsOccupied i → ∃ holding, (empty.fillings i actions).getLast? = some holding ∧
      t.resolve holding.1 = .ok holding.2 ∧
      ∃ slot, t.slots[i]? = some slot ∧ slot.value = some holding.2) ∧
    ∀ i j, t.IsOccupied i → t.IsOccupied j → i ≠ j →
      ∀ first ∈ (empty.fillings i actions).getLast?,
        ∀ second ∈ (empty.fillings j actions).getLast?, first.1 ≠ second.1 := by
  intro t returned
  have wf : t.WellFormed := wellFormed_empty.run actions
  refine ⟨wf.free_nodup, wf.mem_free_iff, ?range, ?generation, ?write, wf.length_free_le, ?size,
    ?resolve, ?distinct⟩
  case range =>
    intro i hi
    obtain ⟨slot, hs, -⟩ := (wf.mem_free_iff i).1 hi
    exact (Array.getElem?_eq_some_iff.1 hs).1
  case generation =>
    intro slot _
    exact slot.generation.val_ne_zero
  case write =>
    intro value
    rw [slots_register wf, if_pos rfl]
  case size =>
    rw [wellFormed_empty.size_run actions]
    exact Nat.zero_add _
  case resolve =>
    intro i ho
    obtain ⟨holding, hlast, hindex, hresolve⟩ := exists_last_resolves actions hfit ho
    obtain ⟨slot, hs, -, hv⟩ := resolve?_eq_some.1 (resolve_eq_ok.1 hresolve)
    exact ⟨holding, hlast, hresolve, slot, hindex ▸ hs, hv⟩
  case distinct =>
    intro i j hi hj hne first hfirst second hsecond heq
    obtain ⟨h, hh, hhi, -⟩ := exists_last_resolves actions hfit hi
    obtain ⟨k, hk, hkj, -⟩ := exists_last_resolves actions hfit hj
    obtain rfl := Option.some.inj (hh.symm.trans hfirst)
    obtain rfl := Option.some.inj (hk.symm.trans hsecond)
    exact hne (hhi.symm.trans ((congrArg Handle.index heq).trans hkj))

/-- A run that is given forged and stale handles, with one slot in its second use. -/
def troubled : List (Action Nat) :=
  [.register 5, .take ⟨0xdeadbeef00000005, by decide⟩, .register 6, .release (.pack 0 .first),
    .release (.pack 0 .first), .register 7, .resolve (.pack 0 .first)]

theorem reached_isSound_troubled :
    (empty.run troubled).2.slots.size ≤ 0x100000000 ∧ (empty.run troubled).2.IsOccupied 0 ∧
      (empty.run troubled).2.size +
        ((troubled.zip (empty.run troubled).1).filterMap Ledger.returned?).length = 3 ∧
      ∃ holding, (empty.fillings 0 troubled).getLast? = some holding ∧
        (empty.run troubled).2.resolve holding.1 = .ok holding.2 := by
  have hfit : (empty.run troubled).2.slots.size ≤ 0x100000000 := by decide
  have ho : (empty.run troubled).2.IsOccupied 0 := ⟨_, 7, rfl, rfl⟩
  obtain ⟨-, -, -, -, -, -, hsize, hresolve, -⟩ := reached_isSound troubled hfit
  obtain ⟨holding, hlast, hok, -⟩ := hresolve 0 ho
  exact ⟨hfit, ho, hsize, holding, hlast, hok⟩

end RtpBridge.HandleTable

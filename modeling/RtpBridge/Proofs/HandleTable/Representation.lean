-- SUMMARY: The slots of a handle table: which are free, what each operation writes, and what resolves afterwards.
import RtpBridge.HandleTable

/-!
# Slots

What the operations of a handle table do to its slots. An operation writes one
slot at most: `slots_register` and `slots_release` say which, and everything about
resolving follows from them. `WellFormed` ties the free list to the slots and holds
of every table that is reached from the empty one.
-/

namespace RtpBridge

/-- A handle is known by its slot and its generation. -/
theorem Handle.eq_of_index_of_generation {h k : Handle} (hi : h.index = k.index)
    (hg : h.generation = k.generation) : h = k := by
  have hraw : h.raw.toNat = k.raw.toNat := by
    simp only [Handle.index, Handle.generation] at hi hg
    omega
  cases h
  cases k
  simp only [Handle.mk.injEq]
  exact UInt64.toNat_inj.1 hraw

theorem Handle.ofRaw?_eq_some {raw : UInt64} {h : Handle} : ofRaw? raw = some h ↔ h.raw = raw := by
  constructor
  · intro hraw
    unfold ofRaw? at hraw
    split at hraw
    · cases hraw
      rfl
    · cases hraw
  · rintro rfl
    exact h.ofRaw?_raw

theorem Generation.toNat_first : Generation.first.val.toNat = 1 := rfl

/-- Counting up, below the greatest generation. -/
theorem Generation.toNat_next {g : Generation} (h : g.val.toNat < 0xFFFFFFFF) :
    g.next.val.toNat = g.val.toNat + 1 := by
  have hadd : (g.val + 1).toNat = g.val.toNat + 1 := by
    rw [UInt32.toNat_add, UInt32.toNat_one]
    omega
  have hne : g.val + 1 ≠ 0 := by
    intro h0
    rw [h0, UInt32.toNat_zero] at hadd
    omega
  simp only [Generation.next, hne, ne_eq, not_false_eq_true, dite_true]
  exact hadd

namespace HandleTable

variable {α : Type} {t : HandleTable α}

/-- The free list holds the slots without a value, each once. -/
structure WellFormed (t : HandleTable α) : Prop where
  free_nodup : t.free.Nodup
  mem_free_iff : ∀ i, i ∈ t.free ↔ ∃ slot, t.slots[i]? = some slot ∧ slot.value = none

theorem wellFormed_empty : (empty : HandleTable α).WellFormed where
  free_nodup := List.nodup_nil
  mem_free_iff i := by simp [empty]

/-! ## Resolving -/

theorem resolve?_eq_some {h : Handle} {value : α} :
    t.resolve? h = some value ↔ ∃ slot, t.slots[h.index]? = some slot ∧
      slot.generation.val.toNat = h.generation ∧ slot.value = some value := by
  unfold resolve?
  split
  · next slot hs =>
    simp only [hs, Option.some.injEq, exists_eq_left', Option.ite_none_right_eq_some]
  · next hn => simp [hn]

theorem resolve?_eq_of_slot {h : Handle} {slot : Slot α} (hs : t.slots[h.index]? = some slot) :
    t.resolve? h = if slot.generation.val.toNat = h.generation then slot.value else none := by
  simp only [resolve?, hs]

/-- Only a handle's own slot matters. -/
theorem resolve?_congr {u : HandleTable α} {h : Handle}
    (hs : u.slots[h.index]? = t.slots[h.index]?) : u.resolve? h = t.resolve? h := by
  simp only [resolve?, hs]

/-! ## Registering -/

/-- The slot of the next value: the free one that is used first, or a new one. -/
def nextIndex (t : HandleTable α) : Nat := t.free.headD t.slots.size

/-- A slot that is next is free or not there yet. -/
theorem WellFormed.slot_nextIndex (wf : t.WellFormed) :
    (∃ slot, t.slots[t.nextIndex]? = some slot ∧ slot.value = none) ∨
      t.free = [] ∧ t.nextIndex = t.slots.size := by
  cases hf : t.free with
  | nil => exact .inr ⟨rfl, by simp [nextIndex, hf]⟩
  | cons index free =>
    refine .inl ((wf.mem_free_iff t.nextIndex).1 ?_)
    simp [nextIndex, hf]

theorem fst_register (t : HandleTable α) (value : α) :
    (t.register value).1 = .pack t.nextIndex (t.nextGeneration t.nextIndex) := by
  unfold register
  split
  · next index free hf => simp [nextIndex, hf]
  · next hf => simp [nextIndex, hf, nextGeneration]

theorem free_register (t : HandleTable α) (value : α) :
    (t.register value).2.free = t.free.tail := by
  unfold register
  split <;> simp_all

/-- Registering writes the next slot and no other. -/
theorem slots_register (wf : t.WellFormed) (value : α) (i : Nat) :
    (t.register value).2.slots[i]? =
      if i = t.nextIndex then some ⟨t.nextGeneration t.nextIndex, some value⟩
      else t.slots[i]? := by
  cases hf : t.free with
  | nil =>
    have hn : t.nextIndex = t.slots.size := by simp [nextIndex, hf]
    have hg : t.nextGeneration t.nextIndex = .first := by simp [nextGeneration, hn]
    rw [hg, hn]
    simp only [register, hf]
    exact Array.getElem?_push
  | cons index free =>
    have hn : t.nextIndex = index := by simp [nextIndex, hf]
    obtain ⟨slot, hs, -⟩ := (wf.mem_free_iff index).1 (by simp [hf])
    have hlt : index < t.slots.size := (Array.getElem?_eq_some_iff.1 hs).1
    rw [hn]
    simp only [register, hf, Array.getElem?_setIfInBounds, hlt, if_true, eq_comm]

theorem size_slots_register (t : HandleTable α) (value : α) :
    (t.register value).2.slots.size + t.free.length =
      t.slots.size + (t.register value).2.free.length + 1 := by
  unfold register
  split
  · next index free hf => simp [hf, Nat.add_assoc]
  · next hf => simp [hf]

theorem WellFormed.mem_tail_free_iff (wf : t.WellFormed) {i : Nat} :
    i ∈ t.free.tail ↔ i ∈ t.free ∧ i ≠ t.nextIndex := by
  have hnd := wf.free_nodup
  cases hf : t.free with
  | nil => simp
  | cons index free =>
    rw [hf, List.nodup_cons] at hnd
    have hn : t.nextIndex = index := by simp [nextIndex, hf]
    simp only [List.tail_cons, List.mem_cons, hn]
    constructor
    · intro hi
      exact ⟨.inr hi, fun h => hnd.1 (h ▸ hi)⟩
    · rintro ⟨rfl | hi, hne⟩
      · exact absurd rfl hne
      · exact hi

theorem WellFormed.register (wf : t.WellFormed) (value : α) :
    (t.register value).2.WellFormed where
  free_nodup := by
    rw [free_register]
    exact wf.free_nodup.tail
  mem_free_iff i := by
    rw [free_register, wf.mem_tail_free_iff, slots_register wf, wf.mem_free_iff]
    by_cases hi : i = t.nextIndex
    · simp [hi]
    · simp [hi]

/-- A new handle finds its value, and every other handle what it found before. -/
theorem resolve?_register (wf : t.WellFormed) (hn : t.nextIndex < 0x100000000) (value : α)
    (k : Handle) :
    (t.register value).2.resolve? k =
      if k = (t.register value).1 then some value else t.resolve? k := by
  rw [fst_register]
  have hindex := Handle.index_pack (t.nextGeneration t.nextIndex) hn
  have hgen := Handle.generation_pack t.nextIndex (t.nextGeneration t.nextIndex)
  by_cases hi : k.index = t.nextIndex
  · have hs := slots_register wf value k.index
    rw [if_pos hi] at hs
    rw [resolve?_eq_of_slot hs]
    by_cases hg : (t.nextGeneration t.nextIndex).val.toNat = k.generation
    · have hk : k = .pack t.nextIndex (t.nextGeneration t.nextIndex) :=
        Handle.eq_of_index_of_generation (hi.trans hindex.symm) (hg.symm.trans hgen.symm)
      rw [if_pos hg, if_pos hk]
    · have hk : k ≠ .pack t.nextIndex (t.nextGeneration t.nextIndex) := by
        rintro rfl
        exact hg hgen.symm
      rw [if_neg hg, if_neg hk]
      -- The slot was free or not there, so no other generation of it resolved either.
      rcases wf.slot_nextIndex with ⟨slot, hs, hnone⟩ | ⟨-, hsize⟩
      · rw [← hi] at hs
        rw [resolve?_eq_of_slot hs, hnone, ite_self]
      · have hs : t.slots[k.index]? = none := by
          rw [hi, hsize]
          exact Array.getElem?_eq_none (Nat.le_refl _)
        simp only [resolve?, hs]
  · have hk : k ≠ .pack t.nextIndex (t.nextGeneration t.nextIndex) := by
      rintro rfl
      exact hi hindex
    have hs := slots_register wf value k.index
    rw [if_neg hi] at hs
    rw [if_neg hk]
    exact resolve?_congr hs

/-! ## Releasing -/

theorem release_of_resolve?_eq_some {h : Handle} {value : α} (hv : t.resolve? h = some value) :
    t.release h = (some value,
      ⟨t.slots.modify h.index fun slot => { slot with value := none }, h.index :: t.free⟩) := by
  simp only [release, hv]

theorem free_release {h : Handle} {value : α} (hv : t.resolve? h = some value) :
    (t.release h).2.free = h.index :: t.free := by
  rw [release_of_resolve?_eq_some hv]

/-- Releasing clears the handle's slot and writes no other. -/
theorem slots_release {h : Handle} {value : α} (hv : t.resolve? h = some value) (i : Nat) :
    (t.release h).2.slots[i]? =
      if h.index = i then (t.slots[i]?).map fun slot => { slot with value := none }
      else t.slots[i]? := by
  rw [release_of_resolve?_eq_some hv]
  exact Array.getElem?_modify

theorem size_slots_release (t : HandleTable α) (h : Handle) :
    (t.release h).2.slots.size = t.slots.size := by
  unfold release
  split
  · exact Array.size_modify
  · rfl

theorem WellFormed.release (wf : t.WellFormed) (h : Handle) : (t.release h).2.WellFormed := by
  cases hv : t.resolve? h with
  | none => rw [release_of_resolve?_eq_none hv]; exact wf
  | some value =>
    obtain ⟨slot, hs, -, hval⟩ := resolve?_eq_some.1 hv
    refine ⟨?_, ?_⟩
    · rw [free_release hv, List.nodup_cons]
      refine ⟨?_, wf.free_nodup⟩
      intro hm
      obtain ⟨slot', hs', hnone⟩ := (wf.mem_free_iff _).1 hm
      rw [hs, Option.some.injEq] at hs'
      rw [← hs', hval] at hnone
      cases hnone
    · intro i
      rw [free_release hv, slots_release hv, List.mem_cons, wf.mem_free_iff]
      by_cases hi : h.index = i
      · subst hi
        simp [hs]
      · simp [hi, Ne.symm hi]

/-- A released handle finds nothing, and every other handle what it found before. -/
theorem resolve?_release {h : Handle} {value : α} (hv : t.resolve? h = some value) (k : Handle) :
    (t.release h).2.resolve? k = if k = h then none else t.resolve? k := by
  obtain ⟨slot, hs, hg, -⟩ := resolve?_eq_some.1 hv
  have hw := slots_release hv k.index
  by_cases hi : h.index = k.index
  · rw [hi] at hs
    rw [if_pos hi, hs, Option.map_some] at hw
    rw [resolve?_eq_of_slot hw, resolve?_eq_of_slot hs, ite_self]
    split
    · rfl
    · next hne =>
      have hgk : slot.generation.val.toNat ≠ k.generation := fun hgk =>
        hne (Handle.eq_of_index_of_generation hi.symm (hgk.symm.trans hg))
      rw [if_neg hgk]
  · rw [if_neg hi] at hw
    have hk : k ≠ h := by
      rintro rfl
      exact hi rfl
    rw [if_neg hk]
    exact resolve?_congr hw

theorem resolve?_release_of_ne {h k : Handle} (hne : k ≠ h) :
    (t.release h).2.resolve? k = t.resolve? k := by
  cases hv : t.resolve? h with
  | none => rw [release_of_resolve?_eq_none hv]
  | some value => rw [resolve?_release hv, if_neg hne]

theorem snd_take (t : HandleTable α) (h : Handle) : (t.take h).2 = (t.release h).2 := by
  unfold take
  split <;> simp_all

theorem WellFormed.step (wf : t.WellFormed) (action : Action α) : (t.step action).2.WellFormed := by
  cases action with
  | register value => exact wf.register value
  | resolve h => exact wf
  | release h => exact wf.release h
  | take h =>
    simp only [HandleTable.step]
    rw [snd_take]
    exact wf.release h
  | size => exact wf

end HandleTable

end RtpBridge

-- SUMMARY: A handle that was issued resolves until its slot is used again, and after each full cycle of generations.
import Mathlib.Logic.Function.Iterate
import RtpBridge.Proofs.HandleTable.History

/-!
# How long a handle is good for

A slot counts its generations around a cycle of `2 ^ 32 - 1`, because none is zero. A handle
therefore finds something exactly when its slot has a value and was filled a whole number of
cycles after the handle was issued (`issued_resolves_iff`): a table that runs long enough
does take an old handle for a new one, but not before its slot has been used that often.
-/

namespace RtpBridge

/-! ## The cycle of generations -/

namespace Generation

theorem toNat_next_eq_mod (g : Generation) : g.next.val.toNat = g.val.toNat % 0xFFFFFFFF + 1 := by
  rcases Nat.lt_or_ge g.val.toNat 0xFFFFFFFF with hlt | hge
  · rw [toNat_next hlt, Nat.mod_eq_of_lt hlt]
  · have hlast : g.val.toNat = 0xFFFFFFFF := Nat.le_antisymm (Nat.le_of_lt_succ g.val.toNat_lt) hge
    have hzero : g.val + 1 = 0 := by
      rw [← UInt32.toNat_inj, UInt32.toNat_add, hlast]
      rfl
    simp only [next, hzero, ne_eq, not_true_eq_false, dite_false, toNat_first, hlast, Nat.mod_self]

theorem toNat_iterate_next (g : Generation) (n : Nat) :
    (next^[n] g).val.toNat = (g.val.toNat - 1 + n) % 0xFFFFFFFF + 1 := by
  induction n with
  | zero =>
    have := g.toNat_pos
    have := g.val.toNat_lt
    simp only [Function.iterate_zero, id_eq]
    omega
  | succ n ih =>
    rw [Function.iterate_succ_apply', toNat_next_eq_mod, ih]
    omega

/-- Counting comes back to a generation after whole cycles and at no other time. -/
theorem toNat_iterate_next_eq_iff (g : Generation) (n : Nat) :
    (next^[n] g).val.toNat = g.val.toNat ↔ 0xFFFFFFFF ∣ n := by
  have := g.toNat_pos
  have := g.val.toNat_lt
  rw [toNat_iterate_next]
  omega

end Generation

namespace HandleTable

variable {α : Type} {t : HandleTable α}

/-! ## A slot through a run -/

/-- A slot goes on by one generation when it is filled. It has no value afterwards, or the one it
was filled with, or the one it had. -/
theorem WellFormed.exists_slot_step (wf : t.WellFormed) {index : Nat} {slot : Slot α}
    (hs : t.slots[index]? = some slot) (action : Action α) :
    ∃ after, (t.step action).2.slots[index]? = some after ∧
      after.generation = Generation.next^[(t.filling? index action).toList.length] slot.generation ∧
      (after.value = none ∨
        after.value = ((t.filling? index action).map (·.2)).or slot.value) := by
  cases hf : t.filling? index action with
  | none =>
    rcases slots_step_of_not_filling wf hf with h | h
    · exact ⟨slot, h.trans hs, rfl, .inr rfl⟩
    · rw [hs] at h
      exact ⟨_, h, rfl, .inl rfl⟩
  | some holding =>
    refine ⟨_, (slots_step_of_filling wf hf).2, ?_, .inr rfl⟩
    simp only [nextGeneration, hs]
    rfl

theorem WellFormed.exists_slot_run (wf : t.WellFormed) {index : Nat} {slot : Slot α}
    (hs : t.slots[index]? = some slot) (actions : List (Action α)) :
    ∃ after, (t.run actions).2.slots[index]? = some after ∧
      after.generation = Generation.next^[(t.fillings index actions).length] slot.generation ∧
      (after.value = none ∨
        after.value = ((t.fillings index actions).getLast?.map (·.2)).or slot.value) := by
  induction actions generalizing t slot with
  | nil => exact ⟨slot, hs, rfl, .inr rfl⟩
  | cons action actions ih =>
    obtain ⟨middle, hm, hmg, hmv⟩ := wf.exists_slot_step hs action
    obtain ⟨after, ha, hag, hav⟩ := ih (wf.step action) hm
    refine ⟨after, ha, ?_, ?_⟩
    · rw [hag, hmg, ← Function.iterate_add_apply, fillings, List.length_append, Nat.add_comm]
    · rw [fillings, List.getLast?_append]
      cases hl : ((t.step action).2.fillings index actions).getLast? with
      | some last =>
        rw [hl] at hav
        exact hav
      | none =>
        -- Nothing is entered later, so the value is gone or is that of the first step.
        rw [hl] at hav
        rcases hav with hnone | hkept
        · exact .inl hnone
        · rw [hkept]
          cases hf : t.filling? index action <;> rw [hf] at hmv <;> exact hmv

/-! ## A handle through a run -/

/-- A handle of a slot's present generation resolves after a run if the slot has a value then and
the run has taken it through whole cycles. -/
theorem WellFormed.resolves_run_iff (wf : t.WellFormed) {h : Handle} {slot : Slot α}
    (hs : t.slots[h.index]? = some slot) (hg : slot.generation.val.toNat = h.generation)
    (actions : List (Action α)) :
    (∃ value, (t.run actions).2.resolve h = .ok value) ↔
      (t.run actions).2.IsOccupied h.index ∧
        0xFFFFFFFF ∣ (t.fillings h.index actions).length := by
  obtain ⟨after, ha, hag, -⟩ := wf.exists_slot_run hs actions
  have hcycle : after.generation.val.toNat = h.generation ↔
      0xFFFFFFFF ∣ (t.fillings h.index actions).length := by
    rw [hag, ← hg]
    exact slot.generation.toNat_iterate_next_eq_iff _
  simp only [resolve_eq_ok_iff_of_slot ha, isOccupied_iff_of_slot ha, exists_and_left, hcycle]
  exact and_comm

/-- A handle whose value was taken out resolves again after a whole cycle at the earliest. -/
theorem WellFormed.le_length_fillings (wf : t.WellFormed) {h : Handle} {value found : α}
    (hv : t.resolve h = .ok value) {action : Action α} (ha : action.TakesOut h)
    {later : List (Action α)} (hf : ((t.step action).2.run later).2.resolve h = .ok found) :
    0xFFFFFFFF ≤ ((t.step action).2.fillings h.index later).length := by
  have hr := resolve_eq_ok.1 hv
  obtain ⟨slot, hs, hg, -⟩ := resolve?_eq_some.1 hr
  have hcleared : (t.step action).2.slots[h.index]? = some { slot with value := none } := by
    rw [snd_step_of_takesOut t ha, slots_release hr, if_pos rfl, hs]
    rfl
  obtain ⟨-, hdvd⟩ := ((wf.step action).resolves_run_iff hcleared hg later).1 ⟨found, hf⟩
  obtain ⟨after, hafter, -, hvalue⟩ := (wf.step action).exists_slot_run hcleared later
  obtain ⟨-, hfound⟩ := (resolve_eq_ok_iff_of_slot hafter).1 hf
  refine Nat.le_of_dvd (List.length_pos_iff.2 ?_) hdvd
  intro hempty
  rw [hempty, hfound] at hvalue
  rcases hvalue with hnone | hnone <;> cases hnone

/-- What a handle finds after a run is what was entered into its slot last. -/
theorem WellFormed.eq_of_resolves_run (wf : t.WellFormed) {h : Handle} {slot : Slot α} {value : α}
    (hs : t.slots[h.index]? = some slot) (hv : slot.value = some value) {actions : List (Action α)}
    {found : α} (hf : (t.run actions).2.resolve h = .ok found) :
    found = ((t.fillings h.index actions).getLast?.map (·.2)).getD value := by
  obtain ⟨after, ha, -, hvalue⟩ := wf.exists_slot_run hs actions
  obtain ⟨-, hfound⟩ := (resolve_eq_ok_iff_of_slot ha).1 hf
  rw [hfound, hv, Option.or_some] at hvalue
  exact Option.some.inj (hvalue.resolve_left (Option.some_ne_none _))

/-- A handle that a run issues is neither zero nor of generation zero, and its word is made of the
index and the generation of the slot. After any further actions it resolves if and only if
the slot has a value and the number of values entered into it since is a multiple of
`2 ^ 32 - 1`, and then it finds the value entered last. Once its value was taken out, it takes that
many to make it resolve again. -/
theorem issued_resolves_iff (before : List (Action α)) (value : α) (after : List (Action α))
    (hfit : (empty.run (before ++ .register value :: after)).2.slots.size ≤ 0x100000000) :
    let t : HandleTable α := (empty.run before).2
    let h := (t.register value).1
    let issued := (t.register value).2
    let final := (empty.run (before ++ .register value :: after)).2
    ((∃ found, final.resolve h = .ok found) ↔
      final.IsOccupied h.index ∧ 0xFFFFFFFF ∣ (issued.fillings h.index after).length) ∧
    (∀ found, final.resolve h = .ok found →
      found = ((issued.fillings h.index after).getLast?.map (·.2)).getD value) ∧
    (∀ earlier action later, after = earlier ++ action :: later → action.TakesOut h →
      (∃ found, (issued.run earlier).2.resolve h = .ok found) →
      (∃ found, final.resolve h = .ok found) →
      0xFFFFFFFF ≤ (((issued.run earlier).2.step action).2.fillings h.index later).length) ∧
    h.generation ≠ 0 ∧ h.raw ≠ 0 ∧
    ∃ slot, issued.slots[h.index]? = some slot ∧ slot.value = some value ∧
      h.index = t.nextIndex ∧ h.generation = slot.generation.val.toNat ∧
      h.raw.toNat = slot.generation.val.toNat * 0x100000000 + t.nextIndex := by
  intro t h issued final
  have wf : t.WellFormed := wellFormed_empty.run before
  have hfinal : final = (issued.run after).2 :=
    snd_run_append empty before (.register value :: after)
  have hnext : t.nextIndex < 0x100000000 := by
    have hlt : t.nextIndex < issued.slots.size := wf.nextIndex_lt value
    have hle : issued.slots.size ≤ final.slots.size := hfinal ▸ size_slots_le_run issued after
    exact Nat.lt_of_lt_of_le hlt (Nat.le_trans hle hfit)
  have hpack : h = .pack t.nextIndex (t.nextGeneration t.nextIndex) := fst_register t value
  have hindex : h.index = t.nextIndex := by rw [hpack, Handle.index_pack _ hnext]
  have hgeneration : h.generation = (t.nextGeneration t.nextIndex).val.toNat := by
    rw [hpack, Handle.generation_pack]
  have hslot : issued.slots[h.index]? = some ⟨t.nextGeneration t.nextIndex, some value⟩ := by
    rw [slots_register wf, if_pos hindex]
  have wf' : issued.WellFormed := wf.register value
  refine ⟨?resolves, ?finds, ?again, ?generation, h.raw_ne_zero, _, hslot, rfl, hindex,
    hgeneration, ?raw⟩
  case resolves =>
    rw [hfinal]
    exact wf'.resolves_run_iff hslot hgeneration.symm after
  case finds =>
    rw [hfinal]
    exact fun found hf => wf'.eq_of_resolves_run hslot rfl hf
  case again =>
    rintro earlier action later rfl ha ⟨_, hv⟩ ⟨_, hf⟩
    rw [hfinal, snd_run_append] at hf
    exact (wf'.run earlier).le_length_fillings hv ha hf
  case generation =>
    rw [hgeneration]
    exact Nat.ne_of_gt (Generation.toNat_pos _)
  case raw =>
    rw [hpack, Handle.toNat_raw_pack, Handle.packNat, Nat.mod_eq_of_lt hnext]

/-- Two values, of which the second is taken out. -/
def secondOut : List (Action Nat) := [.register 5, .register 6, .release (.pack 1 .first)]

def secondHandle : Handle := .pack 1 Generation.first.next

def thirdIn : List (Action Nat) := [.take secondHandle, .register 8]

/-- A slot in its second use: its handle resolves, and no longer once the slot is used again. -/
theorem issued_resolves_iff_reused :
    (empty.run (secondOut ++ .register 7 :: [])).2.slots.size ≤ 0x100000000 ∧
      (∃ found, (empty.run (secondOut ++ .register 7 :: [])).2.resolve secondHandle = .ok found) ∧
      (empty.run (secondOut ++ .register 7 :: thirdIn)).2.slots.size ≤ 0x100000000 ∧
      (empty.run (secondOut ++ .register 7 :: thirdIn)).2.IsOccupied 1 ∧
      ¬∃ found, (empty.run (secondOut ++ .register 7 :: thirdIn)).2.resolve secondHandle =
        .ok found := by
  have hfit : (empty.run (secondOut ++ .register 7 :: [])).2.slots.size ≤ 0x100000000 := by decide
  have hfit' : (empty.run (secondOut ++ .register 7 :: thirdIn)).2.slots.size ≤ 0x100000000 := by
    decide
  have hlive := (issued_resolves_iff secondOut 7 [] hfit).1
  have hstale := (issued_resolves_iff secondOut 7 thirdIn hfit').1
  refine ⟨hfit, hlive.2 ⟨⟨_, 7, rfl, rfl⟩, by decide⟩, hfit', ⟨_, 8, rfl, rfl⟩, fun hfound => ?_⟩
  exact absurd (hstale.1 hfound).2 (by decide)

end HandleTable

end RtpBridge

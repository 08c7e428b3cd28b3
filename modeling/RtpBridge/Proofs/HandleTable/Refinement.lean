-- SUMMARY: A handle table answers every history as a map from handles to values does that issues each handle once.
import RtpBridge.Proofs.HandleTable.Ledger
import RtpBridge.Proofs.HandleTable.Representation

/-!
# Tables as maps

`Represents` ties a table to the ledger of what it holds. Each action keeps the tie
and answers as the ledger does, as long as no generation has been counted around.
A generation counts the values that its slot has had, so it cannot be greater than
the number of handles issued, and the bound on that number is all that is needed.
-/

namespace RtpBridge.HandleTable

variable {α : Type} {t : HandleTable α} {L : Ledger α}

structure Represents (t : HandleTable α) (L : Ledger α) : Prop where
  wellFormed : t.WellFormed
  lookup : ∀ h, L.live.lookup h = t.resolve? h
  card : L.live.keys.card + t.free.length = t.slots.size
  /-- The handles of a slot are from its generations up to now. -/
  slot_of_issued : ∀ h ∈ L.issued, ∃ slot : Slot α,
    t.slots[h.index]? = some slot ∧ h.generation ≤ slot.generation.val.toNat
  generation_le : ∀ (i : Nat) (slot : Slot α), t.slots[i]? = some slot →
    slot.generation.val.toNat ≤ L.issued.card
  size_le : t.slots.size ≤ L.issued.card

theorem represents_empty : Represents (empty : HandleTable α) .empty where
  wellFormed := wellFormed_empty
  lookup h := by simp [empty, Ledger.empty, resolve?]
  card := by simp [empty, Ledger.empty]
  slot_of_issued h hh := by simp [Ledger.empty] at hh
  generation_le i slot hs := by simp [empty] at hs
  size_le := Nat.zero_le _

/-! ## Registering -/

theorem Represents.nextIndex_le (r : Represents t L) : t.nextIndex ≤ L.issued.card := by
  refine Nat.le_trans ?_ r.size_le
  rcases r.wellFormed.slot_nextIndex with ⟨slot, hs, -⟩ | ⟨-, hsize⟩
  · exact Nat.le_of_lt (Array.getElem?_eq_some_iff.1 hs).1
  · exact Nat.le_of_eq hsize

/-- The next generation of a slot is above all that the slot has had. -/
theorem Represents.toNat_nextGeneration (r : Represents t L) (hfit : L.issued.card < 0xFFFFFFFF)
    {i : Nat} {slot : Slot α} (hs : t.slots[i]? = some slot) :
    (t.nextGeneration i).val.toNat = slot.generation.val.toNat + 1 := by
  simp only [nextGeneration, hs]
  exact Generation.toNat_next (Nat.lt_of_le_of_lt (r.generation_le i slot hs) hfit)

theorem Represents.nextGeneration_le (r : Represents t L) (hfit : L.issued.card < 0xFFFFFFFF)
    (i : Nat) : (t.nextGeneration i).val.toNat ≤ L.issued.card + 1 := by
  cases hs : t.slots[i]? with
  | none =>
    simp only [nextGeneration, hs, Generation.toNat_first]
    exact Nat.le_add_left _ _
  | some slot =>
    rw [r.toNat_nextGeneration hfit hs]
    exact Nat.succ_le_succ (r.generation_le i slot hs)

theorem Represents.fst_register_fresh (r : Represents t L) (hfit : L.issued.card < 0xFFFFFFFF)
    (value : α) : (t.register value).1 ∉ L.issued := by
  intro hi
  obtain ⟨slot, hs, hle⟩ := r.slot_of_issued _ hi
  have hn : t.nextIndex < 0x100000000 := by
    have := r.nextIndex_le
    omega
  rw [fst_register, Handle.index_pack _ hn] at hs
  rw [fst_register, Handle.generation_pack, r.toNat_nextGeneration hfit hs] at hle
  omega

theorem Represents.register (r : Represents t L) (hfit : L.issued.card < 0xFFFFFFFF) (value : α) :
    Represents (t.register value).2 (L.issue (t.register value).1 value) := by
  have hn : t.nextIndex < 0x100000000 := by
    have := r.nextIndex_le
    omega
  have hfresh := r.fst_register_fresh hfit value
  have hcard : (insert (t.register value).1 L.issued).card = L.issued.card + 1 :=
    Finset.card_insert_of_notMem hfresh
  have hslots := slots_register r.wellFormed value
  refine ⟨r.wellFormed.register value, ?lookup, ?card, ?issued, ?generation, ?size⟩
  case lookup =>
    intro k
    rw [resolve?_register r.wellFormed hn]
    split
    · next hk => rw [hk]; exact Finmap.lookup_insert _
    · next hk => rw [← r.lookup]; exact Finmap.lookup_insert_of_ne _ hk
  case card =>
    have hdead : (t.register value).1 ∉ L.live := fun hm => hfresh (L.issued_of_live _ hm)
    have hsize := size_slots_register t value
    have hold := r.card
    simp only [Ledger.issue, Ledger.card_keys, Finmap.entries_insert_of_notMem hdead,
      Multiset.card_cons] at hold ⊢
    omega
  case issued =>
    intro k hk
    rw [hslots]
    rcases Finset.mem_insert.1 hk with rfl | hk
    · rw [fst_register, Handle.index_pack _ hn, if_pos rfl, Handle.generation_pack]
      exact ⟨_, rfl, Nat.le_refl _⟩
    · obtain ⟨slot, hs, hle⟩ := r.slot_of_issued k hk
      split
      · next hi =>
        refine ⟨_, rfl, ?_⟩
        rw [← hi, r.toNat_nextGeneration hfit hs]
        exact Nat.le_succ_of_le hle
      · exact ⟨slot, hs, hle⟩
  case generation =>
    intro i slot hs
    simp only [Ledger.issue, hcard]
    rw [hslots] at hs
    split at hs
    · cases hs
      exact r.nextGeneration_le hfit _
    · exact Nat.le_succ_of_le (r.generation_le i slot hs)
  case size =>
    simp only [Ledger.issue, hcard]
    have hsize := size_slots_register t value
    have hold := r.size_le
    have hfree : (t.register value).2.free.length ≤ t.free.length := by
      rw [free_register, List.length_tail]
      exact Nat.sub_le _ _
    omega

/-! ## Releasing -/

theorem erase_of_resolve?_eq_none (r : Represents t L) {h : Handle} (hn : t.resolve? h = none) :
    L.erase h = L := by
  rw [← r.lookup] at hn
  cases L
  simp only [Ledger.erase, Ledger.erase_eq_of_lookup_eq_none hn]

theorem Represents.release (r : Represents t L) (h : Handle) :
    Represents (t.release h).2 (L.erase h) := by
  cases hv : t.resolve? h with
  | none =>
    rw [release_of_resolve?_eq_none hv, erase_of_resolve?_eq_none r hv]
    exact r
  | some value =>
    have hslots := slots_release hv
    refine ⟨r.wellFormed.release h, ?lookup, ?card, ?issued, ?generation, ?size⟩
    case lookup =>
      intro k
      rw [resolve?_release hv]
      split
      · next hk => rw [hk]; exact Finmap.lookup_erase _ _
      · next hk => rw [← r.lookup]; exact Finmap.lookup_erase_ne hk
    case card =>
      have hl := (r.lookup h).trans hv
      have hold := r.card
      rw [size_slots_release, free_release hv, List.length_cons]
      simp only [Ledger.erase, Ledger.card_keys, Ledger.entries_eq_cons_erase hl,
        Multiset.card_cons] at hold ⊢
      omega
    case issued =>
      intro k hk
      obtain ⟨slot, hs, hle⟩ := r.slot_of_issued k hk
      rw [hslots]
      split
      · rw [hs]
        exact ⟨_, rfl, hle⟩
      · exact ⟨slot, hs, hle⟩
    case generation =>
      intro i slot hs
      rw [hslots] at hs
      split at hs
      · obtain ⟨old, ho, rfl⟩ := Option.map_eq_some_iff.1 hs
        exact r.generation_le i old ho
      · exact r.generation_le i slot hs
    case size =>
      rw [size_slots_release]
      exact r.size_le

/-! ## Histories -/

def Action.isRegister : Action α → Bool
  | .register _ => true
  | _ => false

/-- How many values a history registers. -/
def registrations (actions : List (Action α)) : Nat := actions.countP (·.isRegister)

theorem registrations_cons (action : Action α) (actions : List (Action α)) :
    registrations (action :: actions) = registrations [action] + registrations actions := by
  simp only [registrations, List.countP_cons, List.countP_nil]
  omega

theorem Represents.resolve_eq_find (r : Represents t L) (h : Handle) : t.resolve h = L.find h := by
  cases hr : t.resolve? h <;> simp only [resolve, Ledger.find, r.lookup, hr]

theorem fst_take (t : HandleTable α) (h : Handle) : (t.take h).1 = t.resolve h := by
  unfold take resolve release
  cases t.resolve? h <;> rfl

theorem Represents.size_eq_card (r : Represents t L) : t.size = L.live.keys.card := by
  have := r.card
  simp only [size]
  omega

/-- A table answers an action as its ledger may, and goes on representing it. -/
theorem Represents.step (r : Represents t L) (action : Action α)
    (hfit : L.issued.card + registrations [action] ≤ 0xFFFFFFFF) :
    ∃ M, L.Step action (t.step action).1 M ∧ Represents (t.step action).2 M ∧
      M.issued.card = L.issued.card + registrations [action] := by
  cases action with
  | register value =>
    have hlt : L.issued.card < 0xFFFFFFFF := hfit
    have hfresh := r.fst_register_fresh hlt value
    exact ⟨_, .register value hfresh, r.register hlt value, Finset.card_insert_of_notMem hfresh⟩
  | resolve h =>
    refine ⟨L, ?_, r, rfl⟩
    simp only [HandleTable.step, r.resolve_eq_find]
    exact .resolve L h
  | release h =>
    refine ⟨L.erase h, ?_, r.release h, rfl⟩
    simp only [HandleTable.step, fst_release, ← r.lookup]
    exact .release L h
  | take h =>
    refine ⟨L.erase h, ?_, ?_, rfl⟩
    · simp only [HandleTable.step, fst_take, r.resolve_eq_find]
      exact .take L h
    · simp only [HandleTable.step, snd_take]
      exact r.release h
  | size =>
    refine ⟨L, ?_, r, rfl⟩
    simp only [HandleTable.step, r.size_eq_card]
    exact .size L

theorem Represents.run (r : Represents t L) (actions : List (Action α))
    (hfit : L.issued.card + registrations actions ≤ 0xFFFFFFFF) :
    ∃ N, L.Run actions (t.run actions).1 N ∧ Represents (t.run actions).2 N := by
  induction actions generalizing t L with
  | nil => exact ⟨L, .nil L, r⟩
  | cons action actions ih =>
    have hsplit := registrations_cons action actions
    obtain ⟨M, hs, rM, hM⟩ := r.step action (by omega)
    obtain ⟨N, hr, rN⟩ := ih rM (by omega)
    exact ⟨N, .cons hs hr, rN⟩

/-- The answers to a history that registers fewer than `2 ^ 32` values are those of a map from
handles to values: registering enters a value under a handle that is new, resolving looks a handle
up, releasing and taking strike it out and return its value, and the size is the number of
handles. No handle is issued twice and none is zero, none is found again after its value was
returned, and each value entered is in the map at the end or was returned, once. -/
theorem run_refines_map (actions : List (Action α)) (hfit : registrations actions ≤ 0xFFFFFFFF) :
    ∃ final : Ledger α,
      let answers := ((empty : HandleTable α).run actions).1
      let exchanges := actions.zip answers
      let entered := exchanges.filterMap Ledger.entered?
      Ledger.empty.Run actions answers final ∧
      (entered.map (·.1)).Nodup ∧ (∀ h ∈ entered.map (·.1), h.raw ≠ 0) ∧
      (exchanges.Pairwise fun earlier later => ∀ h value value',
        Ledger.returned? earlier = some ⟨h, value⟩ → Ledger.found? later ≠ some ⟨h, value'⟩) ∧
      (entered : Multiset (Holding α)) =
        final.live.entries + exchanges.filterMap Ledger.returned? := by
  have hzero : (Ledger.empty : Ledger α).issued.card + registrations actions ≤ 0xFFFFFFFF := by
    rw [Ledger.empty, Finset.card_empty, Nat.zero_add]
    exact hfit
  obtain ⟨final, hr, -⟩ := represents_empty.run actions hzero
  refine ⟨final, hr, hr.nodup_entered, ?_, hr.returned_not_found, ?_⟩
  · intro h _
    exact h.raw_ne_zero
  · rw [← hr.conserves]
    exact (zero_add _).symm

/-- A slot that is used twice: the first handle finds nothing any more, the second its value. -/
def reuse : List (Action Nat) :=
  [.register 5, .release (.pack 0 .first), .register 7, .resolve (.pack 0 .first),
    .take (.pack 0 Generation.first.next), .size]

theorem run_refines_map_reuse :
    registrations reuse ≤ 0xFFFFFFFF ∧
    (empty.run reuse).1 =
      [.issued (.pack 0 .first), .released (some 5), .issued (.pack 0 Generation.first.next),
        .value (.error ⟨0x100000000⟩), .value (.ok 7), .size 0] ∧
    ∃ final : Ledger Nat, Ledger.empty.Run reuse (empty.run reuse).1 final := by
  have hfit : registrations reuse ≤ 0xFFFFFFFF := by decide
  obtain ⟨final, hr, -⟩ := run_refines_map reuse hfit
  exact ⟨hfit, rfl, final, hr⟩

end RtpBridge.HandleTable

-- SUMMARY: A handle table has as many slots as it ever had values at once.
import Mathlib.Order.Bounds.Basic
import RtpBridge.Proofs.HandleTable.History

/-!
# How far a table grows

A slot is added only when all are in use, so there are as many slots as there were values at the
busiest moment of the run (`size_slots_isGreatest`), however long it goes on. A handle that finds
nothing changes nothing when it is released.
-/

namespace RtpBridge

theorem Handle.index_pack_le (index : Nat) (g : Generation) : (pack index g).index ≤ index := by
  simp only [Handle.index, toNat_raw_pack, packNat]
  omega

namespace HandleTable

variable {α : Type} {t : HandleTable α}

/-! ## The busiest moment -/

-- The states of a run so far are those after its beginnings; the induction is on its last action,
-- which adds one state to them.
theorem size_slots_isGreatest (actions : List (Action α)) :
    IsGreatest {n | ∃ done, done <+: actions ∧ (empty.run done).2.size = n}
      (empty.run actions).2.slots.size := by
  induction actions using List.reverseRecOn with
  | nil =>
    refine ⟨⟨[], List.prefix_rfl, rfl⟩, ?_⟩
    rintro n ⟨done, hdone, rfl⟩
    rw [List.prefix_nil.1 hdone]
    exact Nat.le_refl _
  | append_singleton actions action ih =>
    obtain ⟨⟨busiest, hbusiest, hsize⟩, hbound⟩ := ih
    have hstep := size_slots_step (empty.run actions).2 action
    rw [← snd_run_concat] at hstep
    rw [hstep]
    constructor
    · rcases Nat.le_total (empty.run actions).2.slots.size
        (empty.run (actions ++ [action])).2.size with hle | hle
      · exact ⟨_, List.prefix_rfl, (Nat.max_eq_right hle).symm⟩
      · refine ⟨busiest, hbusiest.trans (List.prefix_append _ _), ?_⟩
        rw [hsize, Nat.max_eq_left hle]
    · rintro n ⟨done, hdone, rfl⟩
      rcases List.prefix_concat_iff.1 hdone with rfl | hearlier
      · exact Nat.le_max_right _ _
      · exact Nat.le_trans (hbound ⟨done, hearlier, rfl⟩) (Nat.le_max_left _ _)

/-! ## The handles issued -/

theorem index_lt_of_issued {h : Handle} {action : Action α} (wf : t.WellFormed)
    (hi : (t.step action).1 = .issued h) : h.index < (t.step action).2.slots.size := by
  cases action with
  | register value =>
    have hh : (t.register value).1 = h := Answer.issued.inj hi
    rw [← hh, fst_register]
    exact Nat.lt_of_le_of_lt (Handle.index_pack_le _ _) (wf.nextIndex_lt value)
  | resolve | release | take | size => cases hi

theorem index_lt_of_mem_run (wf : t.WellFormed) {h : Handle} {actions : List (Action α)}
    (hi : .issued h ∈ (t.run actions).1) : h.index < (t.run actions).2.slots.size := by
  induction actions generalizing t with
  | nil => cases hi
  | cons action actions ih =>
    rcases List.mem_cons.1 hi with heq | hlater
    · exact Nat.lt_of_lt_of_le (index_lt_of_issued wf heq.symm)
        (size_slots_le_run (t.step action).2 actions)
    · exact ih (wf.step action) hlater

/-! ## Releasing in vain -/

theorem resolve?_release_self (t : HandleTable α) (h : Handle) :
    (t.release h).2.resolve? h = none := by
  cases hv : t.resolve? h with
  | none => rw [release_of_resolve?_eq_none hv, hv]
  | some value => rw [resolve?_release hv, if_pos rfl]

theorem snd_step_of_resolve?_eq_none {h : Handle} {action : Action α} (ha : action.TakesOut h)
    (hn : t.resolve? h = none) : (t.step action).2 = t := by
  rw [snd_step_of_takesOut t ha, release_of_resolve?_eq_none hn]

/-- A table has exactly as many slots as it has had values at once, every handle that it issued
names one of them, and each of them has a value or is free. Taking a value out adds no slot, and
where there is none to take out, because the handle finds nothing or has been used for it before,
nothing changes at all. -/
theorem size_slots_eq_peak (actions : List (Action α)) :
    let t : HandleTable α := (empty.run actions).2
    IsGreatest {n | ∃ done, done <+: actions ∧ (empty.run done).2.values.length = n}
      t.slots.size ∧
    (∀ bound, (∀ done, done <+: actions → (empty.run done).2.values.length ≤ bound) →
      t.slots.size ≤ bound) ∧
    (∀ h, .issued h ∈ (empty.run actions).1 → h.index < t.slots.size) ∧
    t.values.length + t.free.length = t.slots.size ∧
    ∀ h action, Action.TakesOut h action →
      (t.step action).2.slots.size = t.slots.size ∧
      (t.resolve? h = none → (t.step action).2 = t) ∧
      ∀ again, Action.TakesOut h again → ((t.step action).2.step again).2 = (t.step action).2 := by
  intro t
  have wf : t.WellFormed := wellFormed_empty.run actions
  have hpeak : IsGreatest {n | ∃ done, done <+: actions ∧ (empty.run done).2.values.length = n}
      t.slots.size := by
    have hvalues : ∀ done : List (Action α),
        (empty.run done).2.values.length = (empty.run done).2.size :=
      fun done => (wellFormed_empty.run done).size_eq.symm
    simp only [hvalues]
    exact size_slots_isGreatest actions
  refine ⟨hpeak, ?bounded, fun h => index_lt_of_mem_run wellFormed_empty, wf.length_values_add,
    ?release⟩
  case bounded =>
    intro bound hbound
    obtain ⟨busiest, hbusiest, hlength⟩ := hpeak.1
    exact hlength ▸ hbound busiest hbusiest
  case release =>
    intro h action ha
    refine ⟨?_, snd_step_of_resolve?_eq_none ha, fun again hagain => ?_⟩
    · rw [snd_step_of_takesOut t ha, size_slots_release]
    · apply snd_step_of_resolve?_eq_none hagain
      rw [snd_step_of_takesOut t ha]
      exact resolve?_release_self t h

/-- Two values at a time, and a handle that is used again after its value has gone. -/
def busy : List (Action Nat) :=
  [.register 5, .register 6, .take (.pack 0 .first), .release (.pack 0 .first), .register 7,
    .release (.pack 1 .first), .register 8]

/-- Releasing the first handle a third time changes nothing. -/
theorem size_slots_eq_peak_busy :
    Action.TakesOut (.pack 0 .first) (.release (.pack 0 .first) : Action Nat) ∧
      (empty.run busy).2.resolve? (.pack 0 .first) = none ∧
      ((empty.run busy).2.step (.release (.pack 0 .first))).2 = (empty.run busy).2 ∧
      (empty.run busy).2.values.length + (empty.run busy).2.free.length = 2 := by
  have ha : Action.TakesOut (.pack 0 .first) (.release (.pack 0 .first) : Action Nat) := .release
  have hn : (empty.run busy).2.resolve? (.pack 0 .first) = none := by decide
  obtain ⟨-, -, -, hlength, hrelease⟩ := size_slots_eq_peak busy
  exact ⟨ha, hn, (hrelease _ _ ha).2.1 hn, hlength⟩

end HandleTable

end RtpBridge

-- SUMMARY: Trimming commutes with cutting a text short, and does not see blanks at the ends.
import Mathlib.Data.List.DropRight
import RtpBridge.Text.Blank

/-!
# Trimming: laws

`trim_isPrefix` says what trimming makes of a text that is cut short;
`trim_append_left` and `trim_append_right` that blanks around a text do not matter, and
`exists_eq_append_trim` that nothing but blanks goes.
-/

namespace RtpBridge.Text

/-! ## Dropping an end -/

/-- Dropping an end from a text cut short leaves a beginning of what it leaves of the whole. -/
theorem rdropWhile_isPrefix {α : Type} {p : α → Bool} {s t : List α} (h : s <+: t) :
    s.rdropWhile p <+: t.rdropWhile p := by
  obtain ⟨u, rfl⟩ := h
  induction u using List.reverseRecOn with
  | nil => exact (List.append_nil s).symm ▸ List.prefix_rfl
  | append_singleton u c ih =>
    rw [← List.append_assoc, List.rdropWhile_concat]
    split
    · exact ih
    · rw [List.append_assoc]
      exact (List.rdropWhile_prefix p s).trans (List.prefix_append s _)

theorem rdropWhile_append_of_pos {α : Type} {p : α → Bool} {s w : List α} (hw : ∀ c ∈ w, p c) :
    (s ++ w).rdropWhile p = s.rdropWhile p := by
  have hr : ∀ c ∈ w.reverse, p c := fun c hc => hw c (List.mem_reverse.1 hc)
  simp only [List.rdropWhile, List.reverse_append, List.dropWhile_append_of_pos hr]

theorem rdropWhile_eq_self_of_getLast? {α : Type} {p : α → Bool} {s : List α}
    (h : ∀ c ∈ s.getLast?, ¬p c) : s.rdropWhile p = s :=
  List.rdropWhile_eq_self_iff.2 fun hs => h _ (List.getLast?_eq_getLast_of_ne_nil hs)

/-- What an end is dropped from is what is left with that end behind it. -/
theorem exists_eq_rdropWhile_append {α : Type} (p : α → Bool) (s : List α) :
    ∃ w, s = s.rdropWhile p ++ w ∧ (∀ c ∈ w, p c) ∧ ∀ c ∈ (s.rdropWhile p).getLast?, ¬p c := by
  refine ⟨s.rtakeWhile p, List.rdropWhile_append_rtakeWhile.symm,
    fun c hc => List.mem_rtakeWhile_imp hc, fun c hc => ?_⟩
  have hne : s.rdropWhile p ≠ [] := List.ne_nil_of_mem (List.mem_of_getLast? hc)
  rw [List.getLast?_eq_some_getLast hne] at hc
  cases hc
  exact List.rdropWhile_last_not p s hne

theorem dropEndWhile_eq_rdropWhile (p : Char → Bool) (s : List Char) :
    dropEndWhile p s = s.rdropWhile p := rfl

/-! ## Trimming -/

theorem trim_isPrefix {s t : List Char} (h : s <+: t) : trim s <+: trim t := by
  obtain ⟨u, rfl⟩ := h
  simp only [trim, dropEndWhile_eq_rdropWhile, List.dropWhile_append]
  split
  · next he =>
    rw [List.isEmpty_iff.1 he, List.rdropWhile_nil]
    exact List.nil_prefix
  · exact rdropWhile_isPrefix (List.prefix_append _ u)

theorem trim_append_left {w s : List Char} (hw : ∀ c ∈ w, isBlank c) : trim (w ++ s) = trim s := by
  simp only [trim, List.dropWhile_append_of_pos hw]

theorem trim_append_right {s w : List Char} (hw : ∀ c ∈ w, isBlank c) :
    trim (s ++ w) = trim s := by
  simp only [trim, dropEndWhile_eq_rdropWhile, List.dropWhile_append]
  split
  · next he =>
    rw [List.isEmpty_iff.1 he, List.dropWhile_eq_nil_iff.2 hw]
  · exact rdropWhile_append_of_pos hw

/-- A text that neither begins nor ends with a blank. -/
structure IsTrimmed (s : List Char) : Prop where
  head : ∀ c ∈ s.head?, ¬isBlank c
  last : ∀ c ∈ s.getLast?, ¬isBlank c

theorem IsTrimmed.trim_eq {s : List Char} (h : IsTrimmed s) : trim s = s := by
  have hd : s.dropWhile isBlank = s := by
    cases s with
    | nil => rfl
    | cons c s => exact List.dropWhile_cons_of_neg (h.head c rfl)
  rw [trim, hd]
  exact rdropWhile_eq_self_of_getLast? h.last

theorem IsTrimmed.trim_append {w t w' : List Char} (ht : IsTrimmed t) (hw : ∀ c ∈ w, isBlank c)
    (hw' : ∀ c ∈ w', isBlank c) : trim (w ++ (t ++ w')) = t := by
  rw [trim_append_left hw, trim_append_right hw', ht.trim_eq]

/-- A text is its trimmed middle with blanks around it. -/
theorem exists_eq_append_trim (s : List Char) :
    ∃ w w', s = w ++ (trim s ++ w') ∧ (∀ c ∈ w, isBlank c) ∧ (∀ c ∈ w', isBlank c) ∧
      IsTrimmed (trim s) := by
  obtain ⟨w', hs, hw', hlast⟩ := exists_eq_rdropWhile_append isBlank (s.dropWhile isBlank)
  refine ⟨s.takeWhile isBlank, w', ?_, fun c hc => List.mem_takeWhile_imp hc, hw', ⟨?_, hlast⟩⟩
  · rw [trim, dropEndWhile_eq_rdropWhile, ← hs]
    exact List.takeWhile_append_dropWhile.symm
  · intro c hc
    have hhead := List.head?_dropWhile_not isBlank s
    have hc' : (s.dropWhile isBlank).head? = some c := by
      rw [hs, List.head?_append]
      rw [trim, dropEndWhile_eq_rdropWhile] at hc
      rw [hc]
      rfl
    rw [hc'] at hhead
    simp only [hhead, Bool.false_eq_true, not_false_eq_true]

/-- Visible ASCII is not blank. -/
theorem not_isBlank_of_visible {c : Char} (hl : 0x20 < c.toNat) (hu : c.toNat < 0x7F) :
    ¬isBlank c := by
  simp only [isBlank, Bool.or_eq_true, Bool.and_eq_true, decide_eq_true_eq, beq_iff_eq]
  omega

end RtpBridge.Text

-- SUMMARY: Where a pattern stands in a text whose parts are joined by a separator.
import Mathlib.Data.List.Basic
import RtpBridge.Text.Lines

/-!
# Patterns in joined texts

A pattern without the separator stands in a joined text just when it stands in one of the parts
(`infix_intercalate_iff`): a join hides none and makes none. A pattern with one separator stands
there just when two neighbours meet in it (`infix_intercalate_iff_of_across`).
-/

namespace RtpBridge.Text

theorem contains_iff {p s : List Char} : contains p s ↔ p <:+: s := by
  induction s with
  | nil => rw [contains, List.isEmpty_iff, List.infix_nil]
  | cons d s ih =>
    rw [contains, Bool.or_eq_true, List.isPrefixOf_iff_prefix, ih, List.infix_cons_iff]

variable {α : Type} {c : α} {a b p s t : List α}

/-! ## Parts and their joins -/

theorem intercalate_cons_cons (c : α) (s t : List α) (rest : List (List α)) :
    [c].intercalate (s :: t :: rest) = s ++ c :: [c].intercalate (t :: rest) := by
  rw [List.intercalate_cons_cons, List.append_assoc, List.singleton_append]

theorem infix_append_cons (s : List α) (c : α) (t : List α) : t <:+: s ++ c :: t :=
  ((List.suffix_cons c t).trans (List.suffix_append s _)).isInfix

theorem not_pair_infix_singleton {x y z : α} : ¬[x, y] <:+: [z] :=
  fun h => absurd h.length_le (Nat.not_succ_le_self 1)

/-- Two neighbours are the first two, or stand behind the first. -/
theorem pair_infix_cons_cons {x y u v : α} {rest : List α} :
    [x, y] <:+: u :: v :: rest ↔ x = u ∧ y = v ∨ [x, y] <:+: v :: rest := by
  rw [List.infix_cons_iff, List.cons_prefix_cons, List.cons_prefix_cons]
  simp only [List.nil_prefix, and_true]

/-! ## Patterns without the separator -/

theorem eq_nil_of_prefix_cons (h : c ∉ p) (hp : p <+: c :: t) : p = [] := by
  rcases List.prefix_cons_iff.1 hp with rfl | ⟨_, rfl, -⟩
  · rfl
  · exact absurd List.mem_cons_self h

theorem prefix_append_cons_iff (h : c ∉ p) : p <+: s ++ c :: t ↔ p <+: s := by
  refine ⟨fun hp => ?_, fun hp => hp.trans (List.prefix_append s _)⟩
  rcases List.prefix_or_prefix_of_prefix hp (List.prefix_append s (c :: t)) with hp' | ⟨q, rfl⟩
  · exact hp'
  · have hq : q = [] := eq_nil_of_prefix_cons (fun hc => h (List.mem_append_right s hc))
      ((List.prefix_append_right_inj s).1 hp)
    simp only [hq, List.append_nil, List.prefix_rfl]

theorem infix_append_cons_iff (h : c ∉ p) : p <:+: s ++ c :: t ↔ p <:+: s ∨ p <:+: t := by
  constructor
  · intro hp
    rcases List.infix_append_iff.1 hp with hs | hct | ⟨q, r, rfl, hq, hr⟩
    · exact .inl hs
    · rcases List.infix_cons_iff.1 hct with hct | ht
      · rw [eq_nil_of_prefix_cons h hct]
        exact .inl List.nil_infix
      · exact .inr ht
    · have hr : r = [] := eq_nil_of_prefix_cons (fun hc => h (List.mem_append_right q hc)) hr
      rw [hr, List.append_nil]
      exact .inl hq.isInfix
  · rintro (hs | ht)
    · exact hs.trans (List.prefix_append s _).isInfix
    · exact ht.trans (infix_append_cons s c t)

theorem infix_intercalate_iff (h : c ∉ p) (hne : p ≠ []) {parts : List (List α)} :
    p <:+: [c].intercalate parts ↔ ∃ s ∈ parts, p <:+: s := by
  induction parts with
  | nil => simp [hne]
  | cons s rest ih =>
    cases rest with
    | nil => simp
    | cons t rest =>
      rw [intercalate_cons_cons, infix_append_cons_iff h, ih, List.exists_mem_cons_iff (a := s)]

/-- A pattern at the front of a join stands at the front of its first part. -/
theorem prefix_intercalate_iff (h : c ∉ p) {rest : List (List α)} :
    p <+: [c].intercalate (s :: rest) ↔ p <+: s := by
  cases rest with
  | nil => rw [List.intercalate_singleton]
  | cons t rest => rw [intercalate_cons_cons, prefix_append_cons_iff h]

/-! ## Patterns with one separator -/

/-- A pattern across a separator ends the part before the first one and goes on behind it, or
stands behind it as a whole. -/
theorem across_infix_append_cons_iff (ha : c ∉ a) (hb : c ∉ b) (hs : c ∉ s) :
    a ++ c :: b <:+: s ++ c :: t ↔ a <:+ s ∧ b <+: t ∨ a ++ c :: b <:+: t := by
  have hmem : c ∈ a ++ c :: b := List.mem_append_right a List.mem_cons_self
  constructor
  · intro hp
    rcases List.infix_append_iff.1 hp with hs' | hct | ⟨q, r, heq, hq, hr⟩
    · exact absurd (hs'.subset hmem) hs
    · rcases List.infix_cons_iff.1 hct with hct | ht
      · rcases List.prefix_cons_iff.1 hct with hnil | ⟨u, hu, ht⟩
        · exact absurd hnil (List.append_ne_nil_of_right_ne_nil a (List.cons_ne_nil c b))
        · have hcons : a ++ c :: b = [] ++ c :: u := hu
          obtain ⟨rfl, -, rfl⟩ := (List.append_cons_inj_of_notMem ha hb).1 hcons
          exact .inl ⟨List.nil_suffix, ht⟩
      · exact .inr ht
    · rcases List.prefix_cons_iff.1 hr with rfl | ⟨u, rfl, hu⟩
      · rw [List.append_nil] at heq
        exact absurd (hq.subset (heq ▸ hmem)) hs
      · obtain ⟨rfl, -, rfl⟩ := (List.append_cons_inj_of_notMem ha hb).1 heq
        exact .inl ⟨hq, hu⟩
  · rintro (⟨⟨u, rfl⟩, v, rfl⟩ | ht)
    · exact ⟨u, v, by simp only [List.append_assoc, List.cons_append]⟩
    · exact ht.trans (infix_append_cons s c t)

theorem infix_intercalate_iff_of_across (ha : c ∉ a) (hb : c ∉ b) {parts : List (List α)}
    (hparts : ∀ s ∈ parts, c ∉ s) :
    a ++ c :: b <:+: [c].intercalate parts ↔
      ∃ s t, [s, t] <:+: parts ∧ a <:+ s ∧ b <+: t := by
  have hmem : c ∈ a ++ c :: b := List.mem_append_right a List.mem_cons_self
  induction parts with
  | nil => simp
  | cons s rest ih =>
    have hs : c ∉ s := hparts s List.mem_cons_self
    have hrest : ∀ t ∈ rest, c ∉ t := fun t ht => hparts t (List.mem_cons_of_mem s ht)
    cases rest with
    | nil =>
      rw [List.intercalate_singleton]
      refine ⟨fun h => absurd (h.subset hmem) hs, fun ⟨x, y, h, _⟩ => ?_⟩
      exact absurd h not_pair_infix_singleton
    | cons t rest =>
      rw [intercalate_cons_cons, across_infix_append_cons_iff ha hb hs, prefix_intercalate_iff hb]
      refine (or_congr_right (ih hrest)).trans ?_
      constructor
      · rintro (h | ⟨x, y, hxy, h⟩)
        · exact ⟨s, t, pair_infix_cons_cons.2 (.inl ⟨rfl, rfl⟩), h⟩
        · exact ⟨x, y, pair_infix_cons_cons.2 (.inr hxy), h⟩
      · rintro ⟨x, y, hxy, h⟩
        rcases pair_infix_cons_cons.1 hxy with ⟨rfl, rfl⟩ | hbehind
        · exact .inl h
        · exact .inr ⟨x, y, hbehind, h⟩

end RtpBridge.Text

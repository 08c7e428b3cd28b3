-- SUMMARY: The lines of a text are those that it is made up of, whatever ends each of them.
import Mathlib.Algebra.BigOperators.Group.List.Basic
import RtpBridge.Text.Lines

/-!
# Lines: laws

`IsMadeOf` says without a reader which lines a text is made up of: each has an end of its own, and
the last one may be without. What is summed up over the lines of a text is then the sum over these
lines, if it does not see a carriage return at a line's end (`IsMadeOf.sum_lines`), and a text that
stops at the end of a line may be cut off there (`lines_append`).
-/

namespace RtpBridge.Text

/-- Characters none of which is a line feed. -/
structure Line where
  chars : List Char
  unbroken : '\n' ∉ chars

inductive LineEnd where
  | feed
  | returnFeed
deriving DecidableEq

def LineEnd.chars : LineEnd → List Char
  | .feed => ['\n']
  | .returnFeed => ['\r', '\n']

/-- That a text is made up of lines, each with either end; only the last may have none. -/
inductive IsMadeOf : List Line → List Char → Prop where
  | nil : IsMadeOf [] []
  | last (l : Line) : IsMadeOf [l] l.chars
  | ended (l : Line) (e : LineEnd) {ls : List Line} {t : List Char} (h : IsMadeOf ls t) :
      IsMadeOf (l :: ls) (l.chars ++ (e.chars ++ t))

/-! ## Carriage returns -/

theorem dropReturn_concat (s : List Char) : dropReturn (s ++ ['\r']) = s := by
  rw [dropReturn, if_pos List.getLast?_concat, List.dropLast_concat]

/-- A carriage return goes if it is the last character, and nothing else does. -/
theorem eq_dropReturn_or (s : List Char) : s = dropReturn s ∨ s = dropReturn s ++ ['\r'] := by
  by_cases h : s.getLast? = some '\r'
  · obtain ⟨t, rfl⟩ := List.getLast?_eq_some_iff.1 h
    exact .inr (by rw [dropReturn_concat])
  · exact .inl (by rw [dropReturn, if_neg h])

/-! ## Where lines end -/

theorem linesFrom_append_of_notMem {l : List Char} (h : '\n' ∉ l) (line t : List Char) :
    linesFrom line (l ++ t) = linesFrom (l.reverse ++ line) t := by
  induction l generalizing line with
  | nil => rfl
  | cons c l ih =>
    have hc : c ≠ '\n' := fun hc => h (hc ▸ List.mem_cons_self)
    rw [List.cons_append, linesFrom, if_neg hc, ih fun hl => h (List.mem_cons_of_mem c hl),
      List.reverse_cons, List.append_assoc, List.singleton_append]

theorem lines_append_feed {l : List Char} (h : '\n' ∉ l) (t : List Char) :
    lines (l ++ '\n' :: t) = dropReturn l :: lines t := by
  rw [lines, linesFrom_append_of_notMem h, linesFrom, if_pos rfl, List.append_nil,
    List.reverse_reverse, lines]

theorem lines_of_notMem {l : List Char} (h : '\n' ∉ l) :
    lines l = if l.isEmpty then [] else [l] := by
  have hlines := linesFrom_append_of_notMem h [] []
  rw [List.append_nil, List.append_nil, linesFrom, List.isEmpty_reverse,
    List.reverse_reverse] at hlines
  exact hlines

theorem linesFrom_append {t : List Char} (h : t.getLast? = some '\n') (line u : List Char) :
    linesFrom line (t ++ u) = linesFrom line t ++ lines u := by
  induction t generalizing line with
  | nil => cases h
  | cons c t ih =>
    rw [List.cons_append, linesFrom, linesFrom]
    cases t with
    | nil =>
      obtain rfl : c = '\n' := Option.some.inj h
      rfl
    | cons d t =>
      rw [List.getLast?_cons_cons] at h
      split
      · rw [ih h, List.cons_append]
      · exact ih h _

/-- A text that stops at the end of a line has its lines before those of what follows. -/
theorem lines_append {t : List Char} (h : ∀ c ∈ t.getLast?, c = '\n') (u : List Char) :
    lines (t ++ u) = lines t ++ lines u := by
  cases ht : t.getLast? with
  | none =>
    rw [List.getLast?_eq_none_iff.1 ht]
    rfl
  | some c =>
    obtain rfl := h c ht
    exact linesFrom_append ht [] u

/-! ## The lines that a text is made up of -/

/-- What is summed up over the lines of a text. -/
theorem IsMadeOf.sum_lines {M : Type} [AddMonoid M] {f : List Char → M} (hnil : f [] = 0)
    (hreturn : ∀ s, f (dropReturn s) = f s) {ls : List Line} {t : List Char}
    (h : IsMadeOf ls t) : ((lines t).map f).sum = (ls.map fun l => f l.chars).sum := by
  induction h with
  | nil => rfl
  | last l =>
    rw [lines_of_notMem l.unbroken]
    split
    · next hempty =>
      have hchars : f l.chars = 0 := (congrArg f (List.isEmpty_iff.1 hempty)).trans hnil
      simp only [List.map_nil, List.map_cons, List.sum_nil, List.sum_cons, hchars, add_zero]
    · rfl
  | @ended l e ls t _ ih =>
    have hlines : ∃ s, lines (l.chars ++ (e.chars ++ t)) = s :: lines t ∧ f s = f l.chars := by
      cases e with
      | feed => exact ⟨_, lines_append_feed l.unbroken t, hreturn l.chars⟩
      | returnFeed =>
        have hunbroken : '\n' ∉ l.chars ++ ['\r'] := by
          simp only [List.mem_append, l.unbroken, false_or, List.mem_singleton]
          decide
        have hfeed := lines_append_feed hunbroken t
        rw [List.append_assoc, dropReturn_concat] at hfeed
        exact ⟨_, hfeed, rfl⟩
    obtain ⟨s, hs, hf⟩ := hlines
    rw [hs, List.map_cons, List.sum_cons, hf, ih, List.map_cons, List.sum_cons]

end RtpBridge.Text

-- SUMMARY: The lexeme readers take exactly what the grammar writes.
import Mathlib.Data.List.TakeWhile
import RtpBridge.Json.Skip
import RtpBridge.Proofs.Json.Grammar
import RtpBridge.Proofs.Text.Utf8

/-!
# Lexemes: laws

For each reader of a lexeme, what it takes off the front of the octets is what the
grammar writes. Where a lexeme shows its own end this is one equivalence, named
`…_eq_ok`. A number does not: `readNumeral_append` asks that nothing follows that
would prolong it.
-/

namespace RtpBridge.Json

/-! ## Blanks -/

theorem blanks_nil : Blanks [] := fun _ hb => absurd hb List.not_mem_nil

theorem blanks_singleton {b : UInt8} (h : isBlank b) : Blanks [b] := by
  intro c hc
  rw [List.mem_singleton.1 hc]
  exact h

theorem Blanks.append {w w' : List UInt8} (hw : Blanks w) (hw' : Blanks w') :
    Blanks (w ++ w') := by
  intro b hb
  rcases List.mem_append.1 hb with hb | hb
  · exact hw b hb
  · exact hw' b hb

theorem Blanks.eq_nil_of_cons {w s t : List UInt8} {b : UInt8} (hw : Blanks w)
    (hb : isBlank b = false) (h : b :: t = w ++ s) : w = [] := by
  cases w with
  | nil => rfl
  | cons c w =>
    cases h
    have hc := hw b List.mem_cons_self
    rw [hb] at hc
    cases hc

theorem Blanks.delimited_append {w r : List UInt8} (hw : Blanks w) (hr : Delimited r) :
    Delimited (w ++ r) := by
  cases w with
  | nil => exact hr
  | cons b w =>
    intro c hc
    cases hc
    exact .inl (hw b List.mem_cons_self)

theorem skipBlanks_append {w : List UInt8} (hw : Blanks w) (s : List UInt8) :
    skipBlanks (w ++ s) = skipBlanks s :=
  List.dropWhile_append_of_pos hw

theorem skipBlanks_cons {b : UInt8} (hb : isBlank b = false) (s : List UInt8) :
    skipBlanks (b :: s) = b :: s :=
  List.dropWhile_cons_of_neg (by rw [hb]; exact Bool.false_ne_true)

theorem skipBlanks_append_cons {w : List UInt8} {b : UInt8} (hw : Blanks w)
    (hb : isBlank b = false) (s : List UInt8) : skipBlanks (w ++ b :: s) = b :: s := by
  rw [skipBlanks_append hw, skipBlanks_cons hb]

theorem skipBlanks_eq_nil {s : List UInt8} : skipBlanks s = [] ↔ Blanks s :=
  List.dropWhile_eq_nil_iff

theorem skipBlanks_eq_cons {s r : List UInt8} {b : UInt8} :
    skipBlanks s = b :: r ↔ ∃ w, Blanks w ∧ isBlank b = false ∧ s = w ++ b :: r := by
  constructor
  · intro h
    have hb : isBlank b = false := by
      have := List.head?_dropWhile_not isBlank s
      rw [show s.dropWhile isBlank = b :: r from h] at this
      exact this
    refine ⟨s.takeWhile isBlank, fun c hc => List.mem_takeWhile_imp hc, hb, ?_⟩
    rw [← h]
    exact List.takeWhile_append_dropWhile.symm
  · rintro ⟨w, hw, hb, rfl⟩
    exact skipBlanks_append_cons hw hb r

/-! ## Words -/

theorem readWord_eq_ok {word s r : List UInt8} : readWord word s = .ok r ↔ s = word ++ r := by
  fun_induction readWord word s with
  | case1 s => rw [Except.ok.injEq, List.nil_append]
  | case2 =>
    constructor
    · intro h
      cases h
    · intro h
      cases h
  | case3 w word s ih =>
    rw [ih, List.cons_append, List.cons.injEq]
    exact (and_iff_right rfl).symm
  | case4 w word b s hb =>
    constructor
    · intro h
      cases h
    · intro h
      rw [List.cons_append, List.cons.injEq] at h
      exact absurd h.1 hb

/-! ## Numbers -/

/-- That the first octet of `r`, if there is one, is none that `p` admits. -/
def HeadNot (p : UInt8 → Bool) (r : List UInt8) : Prop := ∀ b ∈ r.head?, p b = false

theorem headNot_cons {p : UInt8 → Bool} {b : UInt8} (h : p b = false) (r : List UInt8) :
    HeadNot p (b :: r) := by
  intro c hc
  cases hc
  exact h

/-- An octet that may stand in a number behind its first digit. -/
def prolongs (b : UInt8) : Bool := isDigit b || b == 0x2E || isExponentMark b

theorem Delimited.headNot {r : List UInt8} (h : Delimited r) : HeadNot prolongs r := by
  intro b hb
  rcases h b hb with h | rfl | rfl | rfl
  · simp only [isBlank, Bool.or_eq_true, beq_iff_eq] at h
    rcases h with ((rfl | rfl) | rfl) | rfl <;> rfl
  · rfl
  · rfl
  · rfl

theorem HeadNot.mono {p q : UInt8 → Bool} {r : List UInt8} (h : HeadNot q r)
    (hpq : ∀ b, p b = true → q b = true) : HeadNot p r := by
  intro b hb
  cases hp : p b with
  | false => rfl
  | true => exact absurd (hpq b hp) (by rw [h b hb]; exact Bool.false_ne_true)

theorem readDigits_append (atEnd : Fault) {ds r : List UInt8} (hds : Digits ds)
    (hr : HeadNot isDigit r) : readDigits atEnd (ds ++ r) = .ok (ds, r) := by
  obtain ⟨hne, hall⟩ := hds
  have htake : (ds ++ r).takeWhile isDigit = ds := by
    rw [List.takeWhile_append_of_pos hall]
    cases r with
    | nil => rw [List.takeWhile_nil, List.append_nil]
    | cons b r => rw [List.takeWhile_cons_of_neg (by simp [hr b rfl]), List.append_nil]
  have hdrop : (ds ++ r).dropWhile isDigit = r := by
    rw [List.dropWhile_append_of_pos hall]
    cases r with
    | nil => rfl
    | cons b r => rw [List.dropWhile_cons_of_neg (by simp [hr b rfl])]
  cases ds with
  | nil => exact absurd rfl hne
  | cons d ds =>
    rw [List.cons_append] at htake hdrop ⊢
    rw [readDigits, if_pos (hall d List.mem_cons_self), htake, hdrop]

theorem readDigits_eq_ok {atEnd : Fault} {s ds r : List UInt8}
    (h : readDigits atEnd s = .ok (ds, r)) : s = ds ++ r ∧ Digits ds := by
  cases s with
  | nil => cases h
  | cons b t =>
    rw [readDigits] at h
    split at h
    · next hb =>
      cases h
      refine ⟨List.takeWhile_append_dropWhile.symm, ?_, fun d hd => List.mem_takeWhile_imp hd⟩
      rw [List.takeWhile_cons_of_pos hb]
      exact List.cons_ne_nil b _
    · cases h

theorem readWhole_append {atEnd : Fault} {ds r : List UInt8} (hds : Whole ds)
    (hr : HeadNot isDigit r) : readWhole atEnd (ds ++ r) = .ok (ds, r) := by
  cases hds with
  | zero =>
    have hany : r.head?.any isDigit = false := by
      cases r with
      | nil => rfl
      | cons b r => exact hr b rfl
    simp only [List.singleton_append, readWhole, hany, Bool.false_eq_true, if_false]
  | digits hds hhead =>
    have hne := hds.1
    rw [← readDigits_append atEnd hds hr]
    cases ds with
    | nil => exact absurd rfl hne
    | cons d ds =>
      have hd : d ≠ 0x30 := fun hd => hhead (by rw [hd]; rfl)
      unfold readWhole
      split
      · next heq =>
        cases heq
        exact absurd rfl hd
      · rfl

theorem readWhole_eq_ok {atEnd : Fault} {s ds r : List UInt8}
    (h : readWhole atEnd s = .ok (ds, r)) : s = ds ++ r ∧ Whole ds := by
  unfold readWhole at h
  split at h
  · split at h
    · cases h
    · cases h
      exact ⟨rfl, .zero⟩
  · next hs =>
    obtain ⟨rfl, hds⟩ := readDigits_eq_ok h
    refine ⟨rfl, .digits hds fun hhead => ?_⟩
    cases ds with
    | nil => cases hhead
    | cons d ds =>
      cases hhead
      exact hs (ds ++ r) rfl

theorem readFraction_append {atEnd : Fault} {ds o r : List UInt8} (ho : Fraction ds o)
    (hr : HeadNot (fun b => isDigit b || b == 0x2E) r) :
    readFraction atEnd (o ++ r) = .ok (ds, r) := by
  cases ho with
  | absent =>
    rw [List.nil_append]
    unfold readFraction
    split
    · exact absurd (hr _ rfl) (by decide)
    · rfl
  | present hds =>
    rw [List.cons_append, readFraction]
    exact readDigits_append atEnd hds (hr.mono fun b hb => by simp [hb])

theorem readFraction_eq_ok {atEnd : Fault} {s ds r : List UInt8}
    (h : readFraction atEnd s = .ok (ds, r)) : ∃ o, s = o ++ r ∧ Fraction ds o := by
  unfold readFraction at h
  split at h
  · obtain ⟨rfl, hds⟩ := readDigits_eq_ok h
    exact ⟨0x2E :: ds, rfl, .present hds⟩
  · cases h
    exact ⟨[], rfl, .absent⟩

theorem readSign_append {isNegative : Bool} {o r : List UInt8} {d : UInt8}
    (ho : Sign isNegative o) (hd : isDigit d) :
    readSign (o ++ d :: r) = (isNegative, d :: r) := by
  cases ho with
  | plus => rfl
  | minus => rfl
  | absent =>
    rw [List.nil_append]
    unfold readSign
    split
    · next heq =>
      cases heq
      exact absurd hd (by decide)
    · next heq =>
      cases heq
      exact absurd hd (by decide)
    · rfl

theorem sign_readSign (s : List UInt8) :
    ∃ o, s = o ++ (readSign s).2 ∧ Sign (readSign s).1 o := by
  unfold readSign
  split
  · exact ⟨[0x2B], rfl, .plus⟩
  · exact ⟨[0x2D], rfl, .minus⟩
  · exact ⟨[], rfl, .absent⟩

theorem readExponent_append {atEnd : Fault} {isNegative : Bool} {ds o r : List UInt8}
    (ho : Exponent isNegative ds o) (hr : HeadNot (fun b => isDigit b || isExponentMark b) r) :
    readExponent atEnd (o ++ r) = .ok ((isNegative, ds), r) := by
  cases ho with
  | absent =>
    cases r with
    | nil => rfl
    | cons b r =>
      have hb : isExponentMark b = false := by
        have := hr b rfl
        simp only [Bool.or_eq_false_iff] at this
        exact this.2
      simp only [List.nil_append, readExponent, hb, Bool.false_eq_true, if_false]
  | present hmark hsign hds =>
    have hdigits := readDigits_append atEnd hds (hr.mono fun b hb => by simp [hb])
    obtain ⟨hne, hall⟩ := hds
    cases ds with
    | nil => exact absurd rfl hne
    | cons d ds =>
      rw [List.cons_append, List.append_assoc, readExponent, if_pos hmark, List.cons_append,
        readSign_append hsign (hall d List.mem_cons_self)]
      rw [List.cons_append] at hdigits
      simp only [hdigits]

theorem readExponent_eq_ok {atEnd : Fault} {isNegative : Bool} {s ds r : List UInt8}
    (h : readExponent atEnd s = .ok ((isNegative, ds), r)) :
    ∃ o, s = o ++ r ∧ Exponent isNegative ds o := by
  cases s with
  | nil =>
    cases h
    exact ⟨[], rfl, .absent⟩
  | cons b t =>
    rw [readExponent] at h
    split at h
    · next hb =>
      split at h
      · cases h
      · next ds' r' hds =>
        cases h
        obtain ⟨hs, hds⟩ := readDigits_eq_ok hds
        obtain ⟨o, ho, hsign⟩ := sign_readSign t
        refine ⟨b :: (o ++ ds), ?_, .present hb hsign hds⟩
        rw [List.cons_append, List.append_assoc, ← hs, ← ho]
    · cases h
      exact ⟨[], rfl, .absent⟩

theorem HeadNot.append_exponent {isNegative : Bool} {ds o r : List UInt8}
    (hr : HeadNot prolongs r) (ho : Exponent isNegative ds o) :
    HeadNot (fun b => isDigit b || b == 0x2E) (o ++ r) := by
  cases ho with
  | absent => exact hr.mono fun b hb => by simp only [prolongs, hb, Bool.true_or]
  | present hmark hsign hds =>
    refine headNot_cons ?_ _
    simp only [isExponentMark, Bool.or_eq_true, beq_iff_eq] at hmark
    rcases hmark with rfl | rfl <;> rfl

theorem HeadNot.append_fraction {ds o r : List UInt8}
    (hr : HeadNot (fun b => isDigit b || b == 0x2E) r) (ho : Fraction ds o) :
    HeadNot isDigit (o ++ r) := by
  cases ho with
  | absent => exact hr.mono fun b hb => by simp only [hb, Bool.true_or]
  | present hds => exact headNot_cons rfl _

theorem readNumeral_append {atEnd : Fault} {n : Numeral} {o r : List UInt8} (h : n.Written o)
    (hr : Delimited r) : readNumeral atEnd (o ++ r) = .ok (n, r) := by
  cases h with
  | mk hwhole hfraction hexponent =>
    have hr := hr.headNot
    have hf := hr.append_exponent hexponent
    have hw := hf.append_fraction hfraction
    rw [List.append_assoc, List.append_assoc]
    simp only [readNumeral, readWhole_append hwhole hw, readFraction_append hfraction hf]
    rw [readExponent_append hexponent (hr.mono fun b hb => ?_)]
    simp only [prolongs, Bool.or_eq_true] at hb ⊢
    exact hb.imp_left .inl

theorem readNumeral_eq_ok {atEnd : Fault} {n : Numeral} {s r : List UInt8}
    (h : readNumeral atEnd s = .ok (n, r)) : ∃ o, s = o ++ r ∧ n.Written o := by
  simp only [readNumeral] at h
  split at h
  · cases h
  · next whole r₁ hw =>
    split at h
    · cases h
    · next fraction r₂ hf =>
      split at h
      · cases h
      · next isNegative exponent r₃ he =>
        cases h
        obtain ⟨rfl, hwhole⟩ := readWhole_eq_ok hw
        obtain ⟨f, rfl, hfraction⟩ := readFraction_eq_ok hf
        obtain ⟨e, rfl, hexponent⟩ := readExponent_eq_ok he
        refine ⟨whole ++ (f ++ e), ?_, .mk hwhole hfraction hexponent⟩
        rw [List.append_assoc, List.append_assoc]

theorem skipNumeral_append {n : Numeral} {o r : List UInt8} (h : n.Written o)
    (hr : Delimited r) : skipNumeral (o ++ r) = .ok r := by
  simp only [skipNumeral, readNumeral_append h hr]

theorem skipNumeral_eq_ok {s r : List UInt8} (h : skipNumeral s = .ok r) :
    ∃ n o, s = o ++ r ∧ Numeral.Written n o := by
  simp only [skipNumeral] at h
  split at h
  · cases h
  · next n r' hn =>
    cases h
    exact ⟨n, readNumeral_eq_ok hn⟩

theorem Whole.head {ds : List UInt8} (h : Whole ds) : ∃ d t, ds = d :: t ∧ isDigit d := by
  cases h with
  | zero => exact ⟨0x30, [], rfl, rfl⟩
  | digits hds hhead =>
    obtain ⟨hne, hall⟩ := hds
    cases ds with
    | nil => exact absurd rfl hne
    | cons d t => exact ⟨d, t, rfl, hall d List.mem_cons_self⟩

theorem Numeral.Written.head {n : Numeral} {o : List UInt8} (h : n.Written o) :
    ∃ d t, o = d :: t ∧ isDigit d := by
  cases h with
  | mk hwhole hfraction hexponent =>
    obtain ⟨d, t, rfl, hd⟩ := hwhole.head
    exact ⟨d, _, rfl, hd⟩

/-! ## Colons -/

theorem readColon_eq_ok {s r : List UInt8} :
    readColon s = .ok r ↔ ∃ w, Blanks w ∧ s = w ++ colon :: r := by
  constructor
  · intro h
    unfold readColon at h
    split at h
    · cases h
    · next b t hs =>
      split at h
      · next hb =>
        cases h
        obtain ⟨w, hw, -, rfl⟩ := skipBlanks_eq_cons.1 hs
        exact ⟨w, hw, by rw [hb]⟩
      · cases h
  · rintro ⟨w, hw, rfl⟩
    rw [readColon, skipBlanks_append_cons hw rfl]
    rfl

end RtpBridge.Json

-- SUMMARY: What the readers of flags, naturals, options and lists take.
import RtpBridge.Proofs.Json.Reader

/-!
# Flags, naturals, options and lists: laws

Each of these readers takes what the grammar writes of its type. An option asks of its values
that none begins like `null`, and a list that each of its elements is taken. None of them answers
but by taking octets, provided the same holds of the readers that they are built from.
-/

namespace RtpBridge.Json

variable {α : Type}

/-! ## Flags -/

theorem FlagText.value {b : Bool} {o : List UInt8} (h : FlagText b o) : Value o := by
  cases h with
  | true => exact .scalar .true
  | false => exact .scalar .false

theorem FlagText.takes {b : Bool} {o : List UInt8} (h : FlagText b o) : flag.Takes o b where
  begins := h.value.begins
  read w r hw _ := by
    cases h with
    | true =>
      have hword : readWord trueTail (trueTail ++ r) = .ok r := readWord_eq_ok.2 rfl
      simp only [flag, readFlag, List.cons_append, skipBlanks_append_cons hw (b := 0x74) rfl,
        if_true, hword]
    | false =>
      have hword : readWord falseTail (falseTail ++ r) = .ok r := readWord_eq_ok.2 rfl
      have hne : (0x66 : UInt8) ≠ 0x74 := by decide
      simp only [flag, readFlag, List.cons_append, skipBlanks_append_cons hw (b := 0x66) rfl, hne,
        if_false, if_true, hword]

theorem flag_isExact : flag.IsExact := by
  intro s r b h
  simp only [flag, readFlag] at h
  split at h
  · cases h
  · next c t hs =>
    obtain ⟨w, hw, -, rfl⟩ := skipBlanks_eq_cons.1 hs
    split at h
    · next hc =>
      split at h
      · cases h
      · next ht =>
        cases h
        exact ⟨w, _, by rw [hc, readWord_eq_ok.1 ht]; rfl, hw, FlagText.true.takes⟩
    · split at h
      · next hc =>
        split at h
        · cases h
        · next ht =>
          cases h
          exact ⟨w, _, by rw [hc, readWord_eq_ok.1 ht]; rfl, hw, FlagText.false.takes⟩
      · cases h

/-! ## Naturals -/

theorem le_foldl_digits (ds : List UInt8) (n : Nat) :
    n ≤ ds.foldl (fun n d => n * 10 + digitValue d) n := by
  induction ds generalizing n with
  | nil => exact Nat.le_refl n
  | cons d ds ih =>
    have hnext : n ≤ n * 10 + digitValue d := by omega
    exact hnext.trans (ih _)

/-- Digits are gathered to the last one if what they denote is not too large. -/
theorem gather_of_le {ds : List UInt8} {n : Nat}
    (h : ds.foldl (fun n d => n * 10 + digitValue d) n ≤ greatestSignificand) :
    gather n ds = (ds.foldl (fun n d => n * 10 + digitValue d) n, []) := by
  induction ds generalizing n with
  | nil => rfl
  | cons d ds ih =>
    have hnext : n * 10 + digitValue d ≤ greatestSignificand := (le_foldl_digits ds _).trans h
    rw [gather, if_pos hnext]
    exact ih h

/-- Digits that are gathered to the last one denote what is gathered. -/
theorem gather_eq {ds : List UInt8} {n m : Nat} (hn : n ≤ greatestSignificand)
    (h : gather n ds = (m, [])) :
    ds.foldl (fun n d => n * 10 + digitValue d) n = m ∧ m ≤ greatestSignificand := by
  induction ds generalizing n with
  | nil =>
    cases h
    exact ⟨rfl, hn⟩
  | cons d ds ih =>
    rw [gather] at h
    split at h
    · next hnext => exact ih hnext h
    · cases h

/-- The number that is written as digits and nothing else. -/
theorem NaturalText.written {n : Nat} {o : List UInt8} (h : NaturalText n o) :
    Numeral.Written ⟨o, [], false, false, []⟩ o := by
  have hwritten := Numeral.Written.mk h.whole .absent .absent
  rwa [List.append_nil, List.append_nil] at hwritten

theorem NaturalText.value {n : Nat} {o : List UInt8} (h : NaturalText n o) : Value o :=
  .scalar (.natural h.written)

theorem NaturalText.takes {n : Nat} {o : List UInt8} (h : NaturalText n o)
    (hn : n ≤ greatestSignificand) : natural.Takes o n where
  begins := h.value.begins
  read w r hw hr := by
    have hle : decimal o ≤ greatestSignificand := h.denotes ▸ hn
    have hgather : gather 0 o = (n, []) := (gather_of_le hle).trans (congrArg (·, []) h.denotes)
    have hvalue : Numeral.value false ⟨o, [], false, false, []⟩ = .ok (.natural n) := by
      simp only [Numeral.value, hgather, List.isEmpty_nil, Bool.not_true, Bool.not_false,
        Bool.or_self, Bool.false_eq_true, if_false, if_true]
    have hnumeral : readNumeral .endInValue (o ++ r) = .ok (⟨o, [], false, false, []⟩, r) :=
      readNumeral_append h.written hr
    obtain ⟨d, t, rfl, hd⟩ := h.written.head
    have hminus : d ≠ minus := ne_of_isDigit hd rfl
    have hnumber : readNumber d (t ++ r) = .ok (.natural n, r) := by
      rw [List.cons_append] at hnumeral
      simp only [readNumber, hminus, if_false, hnumeral, beq_eq_false_iff_ne.2 hminus, hvalue]
    simp only [natural, readNatural, List.cons_append,
      skipBlanks_append_cons hw (isBlank_of_isDigit hd), hd, Bool.or_true, if_true, hnumber]

/-- Only digits without a sign, a fraction and an exponent have a natural for their value. -/
theorem Numeral.value_eq_natural {x : Numeral} {isNegative : Bool} {n : Nat}
    (h : x.value isNegative = .ok (.natural n)) :
    isNegative = false ∧ x.isFloat = false ∧ gather 0 x.whole = (n, []) := by
  simp only [Numeral.value] at h
  split at h
  · split at h <;> cases h
  · next hexact =>
    obtain ⟨hpoint, hrest⟩ : x.isFloat = false ∧ (gather 0 x.whole).2 = [] := by
      simpa using hexact
    split at h
    · next hsign =>
      cases h
      exact ⟨by simpa using hsign, hpoint, Prod.ext rfl hrest⟩
    · split at h
      · split at h <;> cases h
      · cases h

theorem Numeral.Written.eq_whole {x : Numeral} {o : List UInt8} (h : x.Written o)
    (hfloat : x.isFloat = false) : o = x.whole ∧ Whole o := by
  obtain ⟨hwhole, hfraction, hexponent⟩ := h
  obtain ⟨hf, he⟩ := Bool.or_eq_false_iff.1 hfloat
  cases hfraction with
  | absent =>
    cases hexponent with
    | absent =>
      rw [List.append_nil, List.append_nil]
      exact ⟨rfl, hwhole⟩
    | present _ _ hds => exact absurd (List.isEmpty_iff.1 (by simpa using he)) hds.1
  | present hds => exact absurd (List.isEmpty_iff.1 (by simpa using hf)) hds.1

theorem natural_isExact : natural.IsExact := by
  intro s r n h
  simp only [natural, readNatural] at h
  split at h
  · cases h
  · next b t hs =>
    obtain ⟨w, hw, -, rfl⟩ := skipBlanks_eq_cons.1 hs
    split at h
    · split at h
      · cases h
      · next hnumber =>
        cases h
        simp only [readNumber] at hnumber
        split at hnumber
        · cases hnumber
        · next x u hnumeral =>
          split at hnumber
          · cases hnumber
          · next hvalue =>
            cases hnumber
            obtain ⟨hsign, hfloat, hgather⟩ := Numeral.value_eq_natural hvalue
            rw [if_neg (beq_eq_false_iff_ne.1 hsign)] at hnumeral
            obtain ⟨o, hs, ho⟩ := readNumeral_eq_ok hnumeral
            obtain ⟨rfl, hwhole⟩ := ho.eq_whole hfloat
            obtain ⟨hdenotes, hn⟩ := gather_eq (Nat.zero_le _) hgather
            have htext : NaturalText n x.whole := ⟨hwhole, hdenotes⟩
            exact ⟨w, x.whole, by rw [hs], hw, htext.takes hn⟩
      · cases h
      · cases h
    · cases h

/-! ## Options -/

theorem option_takes_none (R : Reader α) : R.option.Takes (0x6E :: nullTail) none where
  begins := (Value.scalar .null).begins
  read w r hw _ := by
    have hword : readWord nullTail (nullTail ++ r) = .ok r := readWord_eq_ok.2 rfl
    simp only [Reader.option, readOption, List.cons_append,
      skipBlanks_append_cons hw (b := 0x6E) rfl, if_true, hword]

theorem Reader.Takes.option {R : Reader α} {o : List UInt8} {a : α} (h : R.Takes o a)
    (hnull : o.head? ≠ some 0x6E) : R.option.Takes o (some a) where
  begins := h.begins
  read w r hw hr := by
    have hread := h.read [] r blanks_nil hr
    obtain ⟨b, t, rfl, hb, -, -⟩ := h.begins
    have hne : b ≠ 0x6E := fun heq => hnull (heq ▸ rfl)
    rw [List.nil_append, List.cons_append] at hread
    simp only [Reader.option, readOption, List.cons_append, skipBlanks_append_cons hw hb, hne,
      if_false, hread]

theorem Reader.IsExact.option {R : Reader α} (hR : R.IsExact) : R.option.IsExact := by
  intro s r x h
  simp only [Reader.option, readOption] at h
  split at h
  · cases h
  · next b t hs =>
    obtain ⟨w, hw, hb, rfl⟩ := skipBlanks_eq_cons.1 hs
    split at h
    · next hnull =>
      split at h
      · cases h
      · next ht =>
        cases h
        exact ⟨w, _, by rw [hnull, readWord_eq_ok.1 ht]; rfl, hw, option_takes_none R⟩
    · next hnull =>
      split at h
      · cases h
      · next ha =>
        cases h
        obtain ⟨w', o, heq, hw', ho⟩ := hR _ _ _ ha
        obtain rfl := hw'.eq_nil_of_cons hb heq
        refine ⟨w, o, by rw [heq]; rfl, hw, ho.option fun hhead => hnull ?_⟩
        obtain ⟨c, u, rfl, -⟩ := ho.begins
        exact (List.cons.inj heq).1.trans (Option.some.inj hhead)

theorem OptionText.takes {R : Reader α} {P : α → List UInt8 → Prop} {x : Option α}
    (hP : ∀ a ∈ x, ∀ o, P a o → R.Takes o a ∧ o.head? ≠ Option.some 0x6E) {o : List UInt8}
    (h : OptionText P x o) : R.option.Takes o x := by
  cases h with
  | null => exact option_takes_none R
  | @some a o h =>
    obtain ⟨htakes, hnull⟩ := hP a rfl o h
    exact htakes.option hnull

theorem Literal.head_ne_null {x : String} {o : List UInt8} (h : Literal x o) :
    o.head? ≠ some 0x6E := by
  cases h
  exact fun heq => absurd (Option.some.inj heq) (by decide)

theorem NaturalText.head_ne_null {n : Nat} {o : List UInt8} (h : NaturalText n o) :
    o.head? ≠ some 0x6E := by
  obtain ⟨d, t, rfl, hd⟩ := h.whole.head
  exact fun heq => ne_of_isDigit hd rfl (Option.some.inj heq)

/-! ## Lists -/

theorem readElements_append {R : Reader α} {as : List α} {vs : List (List UInt8)}
    (h : List.Forall₂ (fun a v => R.Takes v a) as vs) {isFirst : Bool} {o : List UInt8}
    (ho : Listing closeBracket isFirst vs o) (r : List UInt8) :
    readElements R isFirst (o ++ r) = .ok (as, r) := by
  induction h generalizing isFirst o with
  | nil =>
    cases ho with
    | nil hw =>
      have hclose : nextElement isFirst (_ ++ closeBracket :: r) = .ok (false, r) :=
        nextElement_close hw r
      rw [List.append_assoc, List.singleton_append, readElements]
      split
      · next heq => rw [hclose] at heq; cases heq
      · next heq => rw [hclose] at heq; cases heq; rfl
      · next heq => rw [hclose] at heq; cases heq
  | @cons a v as vs hv h ih =>
    cases ho with
    | @cons _ l _ o _ hl ho =>
      have hnext := nextElement_lead hl hv.begins (o ++ r)
      have hread : R.read (v ++ (o ++ r)) = .ok (a, o ++ r) :=
        hv.read [] _ blanks_nil (ho.delimited (.inl rfl) r)
      have hrest := ih ho
      simp only [List.append_assoc]
      rw [readElements]
      split
      · next heq => rw [hnext] at heq; cases heq
      · next heq => rw [hnext] at heq; cases heq
      · next heq =>
        rw [hnext] at heq
        cases heq
        split
        · next heq => rw [hread] at heq; cases heq
        · next heq =>
          rw [hread] at heq
          cases heq
          rw [hrest]

theorem readElements_eq_ok {R : Reader α} (hR : R.IsExact) {isFirst : Bool} {s r : List UInt8}
    {as : List α} (h : readElements R isFirst s = .ok (as, r)) :
    ∃ vs o, List.Forall₂ (fun a v => R.Takes v a) as vs ∧ Listing closeBracket isFirst vs o ∧
      s = o ++ r := by
  fun_induction readElements R isFirst s generalizing as r with
  | case1 => cases h
  | case2 isFirst s t ht =>
    cases h
    obtain ⟨w, hw, rfl⟩ := nextElement_eq_false ht
    refine ⟨[], w ++ [closeBracket], .nil, .nil hw, ?_⟩
    rw [List.append_assoc, List.singleton_append]
  | case3 => cases h
  | case4 => cases h
  | case5 isFirst s t ht a u hu _ as' v hv ih =>
    cases h
    obtain ⟨l, b, t', hl, rfl, rfl, hb⟩ := nextElement_eq_true ht
    obtain ⟨w, item, heq, hw, hitem⟩ := hR _ _ _ hu
    obtain rfl := hw.eq_nil_of_cons hb heq
    obtain ⟨vs, o, hvs, ho, rfl⟩ := ih hv
    refine ⟨item :: vs, l ++ (item ++ o), .cons hitem hvs, .cons hl ho, ?_⟩
    rw [heq]
    simp only [List.append_assoc, List.nil_append]

theorem ListText.takes {R : Reader α} {P : α → List UInt8 → Prop}
    (hP : ∀ a o, P a o → R.Takes o a) {as : List α} {o : List UInt8} (h : ListText P as o) :
    R.list.Takes o as := by
  cases h with
  | mk hvs ho =>
    refine ⟨⟨_, _, rfl, rfl, by decide, by decide⟩, fun w r hw _ => ?_⟩
    have hread := readElements_append (hvs.imp hP) ho r
    simp only [Reader.list, readList, List.cons_append,
      skipBlanks_append_cons hw (b := openBracket) rfl, if_true, hread]

theorem Reader.IsExact.list {R : Reader α} (hR : R.IsExact) : R.list.IsExact := by
  intro s r as h
  simp only [Reader.list, readList] at h
  split at h
  · cases h
  · next b t hs =>
    obtain ⟨w, hw, -, rfl⟩ := skipBlanks_eq_cons.1 hs
    split at h
    · next hb =>
      obtain ⟨vs, o, hvs, ho, rfl⟩ := readElements_eq_ok hR h
      have htext : ListText (fun a v => R.Takes v a) as (openBracket :: o) := .mk hvs ho
      exact ⟨w, openBracket :: o, by rw [hb]; rfl, hw, htext.takes fun _ _ => id⟩
    · cases h

end RtpBridge.Json

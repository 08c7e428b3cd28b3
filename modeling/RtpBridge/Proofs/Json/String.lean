-- SUMMARY: Reading or skipping a string takes exactly what the grammar writes between quotation marks.
import RtpBridge.Proofs.Json.Lexeme

/-!
# Strings: laws

A string shows its own end, so each reader is described by one equivalence:
`readString_eq_ok` for a string that is asked for, `skipString_eq_ok` for one that is
passed over.
-/

namespace RtpBridge.Json

/-! ## Hexadecimal digits -/

theorem hexValue?_eq_some {b : UInt8} {n : Nat} : hexValue? b = some n ↔ HexDigit n b := by
  simp only [hexValue?, isDigit, digitValue, HexDigit, Bool.and_eq_true, decide_eq_true_eq,
    UInt8.le_iff_toNat_le, UInt8.toNat_ofNat, Nat.reduceMod, Nat.reducePow, Char.reduceToNat]
  split
  · rw [Option.some.injEq]
    omega
  · split
    · rw [Option.some.injEq]
      omega
    · split
      · rw [Option.some.injEq]
        omega
      · refine iff_of_false (fun h => nomatch h) ?_
        omega

theorem hexUnit?_eq_some {a b c d : UInt8} {n : Nat} :
    hexUnit? a b c d = some n ↔ HexUnit n [a, b, c, d] := by
  simp only [hexUnit?, Option.bind_eq_bind, Option.bind_eq_some_iff, hexValue?_eq_some]
  constructor
  · rintro ⟨w, hw, x, hx, y, hy, z, hz, hn⟩
    cases hn
    exact .mk hw hx hy hz
  · intro h
    cases h with
    | @mk w x y z _ _ _ _ hw hx hy hz => exact ⟨w, hw, x, hx, y, hy, z, hz, rfl⟩

theorem readHexUnit_eq_ok {s r : List UInt8} {n : Nat} :
    readHexUnit s = .ok (n, r) ↔ ∃ u, HexUnit n u ∧ s = u ++ r := by
  constructor
  · intro h
    unfold readHexUnit at h
    split at h
    · next a b c d t =>
      split at h
      · next m hm =>
        cases h
        exact ⟨[a, b, c, d], hexUnit?_eq_some.1 hm, rfl⟩
      · cases h
    · cases h
  · rintro ⟨u, hu, rfl⟩
    cases hu with
    | mk ha hb hc hd =>
      have h := hexUnit?_eq_some.2 (.mk ha hb hc hd)
      simp only [List.cons_append, List.nil_append, readHexUnit, h]

/-! ## Escapes -/

theorem shortEscape?_eq_some {b : UInt8} {c : Char} :
    shortEscape? b = some c ↔ (c, b) ∈ shortEscapes := by
  simp only [shortEscape?, shortEscapes, List.mem_cons, Prod.mk.injEq, List.not_mem_nil, or_false]
  grind

theorem shortEscape?_hexEscape : shortEscape? hexEscape = none := rfl

theorem ne_hexEscape_of_mem {b : UInt8} {c : Char} (h : (c, b) ∈ shortEscapes) :
    b ≠ hexEscape := by
  rintro rfl
  rw [← shortEscape?_eq_some, shortEscape?_hexEscape] at h
  cases h

theorem toNat_pairedCharacter {high low : Nat} (hh : isHighSurrogate high)
    (hl : isLowSurrogate low) :
    (pairedCharacter high low).toNat = 0x10000 + (high - 0xD800) * 0x400 + (low - 0xDC00) := by
  simp only [isHighSurrogate, isLowSurrogate, Bool.and_eq_true, decide_eq_true_eq] at hh hl
  have hv := Utf8.val_ofNat (v := (high - 0xD800) * 0x400 + (low - 0xDC00) + 0x10000) (by omega)
  rw [pairedCharacter, ← Char.toNat_val, hv]
  omega

theorem readPartnerMark_eq_ok {b : UInt8} {s r : List UInt8} :
    readPartnerMark b s = .ok r ↔ s = b :: r := by
  constructor
  · intro h
    cases s with
    | nil => cases h
    | cons c t =>
      rw [readPartnerMark] at h
      split at h
      · next hc =>
        cases h
        rw [hc]
      · cases h
  · rintro rfl
    rw [readPartnerMark, if_pos rfl]

theorem readPartner_eq_ok {high : Nat} {s r : List UInt8} {c : Char} :
    readPartner high s = .ok (c, r) ↔ ∃ low v, HexUnit low v ∧ isLowSurrogate low ∧
      c = pairedCharacter high low ∧ s = backslash :: hexEscape :: (v ++ r) := by
  constructor
  · intro h
    simp only [readPartner] at h
    split at h
    · cases h
    · next r₁ h₁ =>
      split at h
      · cases h
      · next r₂ h₂ =>
        split at h
        · cases h
        · next low r₃ h₃ =>
          split at h
          · next hlow =>
            rw [Except.ok.injEq, Prod.mk.injEq] at h
            obtain ⟨v, hv, hs⟩ := readHexUnit_eq_ok.1 h₃
            refine ⟨low, v, hv, hlow, h.1.symm, ?_⟩
            rw [readPartnerMark_eq_ok.1 h₁, readPartnerMark_eq_ok.1 h₂, hs, h.2]
          · cases h
  · rintro ⟨low, v, hv, hlow, hc, hs⟩
    have hr : readHexUnit (v ++ r) = .ok (low, r) := readHexUnit_eq_ok.2 ⟨v, hv, rfl⟩
    rw [hc, hs]
    simp only [readPartner, readPartnerMark_eq_ok.2 rfl, hr, hlow, if_true]

theorem toNat_ofNat_unit {n : Nat} (hn : n ≤ 0xFFFF) (hh : ¬isHighSurrogate n)
    (hl : ¬isLowSurrogate n) : (Char.ofNat n).toNat = n := by
  simp only [isHighSurrogate, isLowSurrogate, Bool.and_eq_true, decide_eq_true_eq] at hh hl
  exact Utf8.val_ofNat (by omega)

/-- No character is one half of a surrogate pair. -/
theorem not_isSurrogate_toNat (c : Char) :
    ¬isHighSurrogate c.toNat ∧ ¬isLowSurrogate c.toNat := by
  have hc : c.toNat < 0xD800 ∨ 0xDFFF < c.toNat ∧ c.toNat < 0x110000 := c.valid
  simp only [isHighSurrogate, isLowSurrogate, Bool.and_eq_true, decide_eq_true_eq]
  omega

theorem not_isLowSurrogate_of_isHighSurrogate {n : Nat} (h : isHighSurrogate n) :
    ¬isLowSurrogate n := by
  simp only [isHighSurrogate, isLowSurrogate, Bool.and_eq_true, decide_eq_true_eq] at h ⊢
  omega

theorem HexUnit.le {n : Nat} {u : List UInt8} (h : HexUnit n u) : n ≤ 0xFFFF := by
  cases h with
  | mk ha hb hc hd =>
    simp only [HexDigit] at ha hb hc hd
    omega

theorem readEscape_eq_ok {s r : List UInt8} {c : Char} :
    readEscape s = .ok (c, r) ↔ ∃ e, Escape c e ∧ s = e ++ r := by
  constructor
  · intro h
    cases s with
    | nil => cases h
    | cons b t =>
      simp only [readEscape] at h
      split at h
      · next hb =>
        split at h
        · cases h
        · next n u hn =>
          obtain ⟨v, hv, rfl⟩ := readHexUnit_eq_ok.1 hn
          split at h
          · cases h
          · next hlow =>
            split at h
            · next hhigh =>
              obtain ⟨low, x, hx, hl, hc, hs⟩ := readPartner_eq_ok.1 h
              rw [hc, hb, hs]
              refine ⟨_, .pair hv hx hhigh hl (toNat_pairedCharacter hhigh hl), ?_⟩
              simp only [List.cons_append, List.append_assoc]
            · next hhigh =>
              cases h
              have hn := toNat_ofNat_unit hv.le hhigh hlow
              refine ⟨_, .unit (by rw [hn]; exact hv), ?_⟩
              rw [hb, List.cons_append]
      · split at h
        · next c' hc =>
          cases h
          exact ⟨[b], .short (shortEscape?_eq_some.1 hc), rfl⟩
        · cases h
  · rintro ⟨e, he, rfl⟩
    cases he with
    | short h =>
      rw [List.singleton_append, readEscape, if_neg (ne_hexEscape_of_mem h)]
      simp only [shortEscape?_eq_some.2 h]
    | @unit u h =>
      have hu : readHexUnit (u ++ r) = .ok (c.toNat, r) := readHexUnit_eq_ok.2 ⟨u, h, rfl⟩
      obtain ⟨hhigh, hlow⟩ := not_isSurrogate_toNat c
      simp only [List.cons_append, readEscape, if_true, hu, hlow, hhigh,
        Bool.false_eq_true, if_false, Char.ofNat_toNat]
    | @pair high low u v hu hv hhigh hlow hc =>
      have hu' : readHexUnit (u ++ (backslash :: hexEscape :: (v ++ r))) =
          .ok (high, backslash :: hexEscape :: (v ++ r)) := readHexUnit_eq_ok.2 ⟨u, hu, rfl⟩
      have hc' : c = pairedCharacter high low :=
        Char.toNat_inj.1 (hc.trans (toNat_pairedCharacter hhigh hlow).symm)
      simp only [List.cons_append, List.append_assoc, readEscape, if_true, hu',
        not_isLowSurrogate_of_isHighSurrogate hhigh,
        Bool.false_eq_true, if_false, hhigh]
      exact readPartner_eq_ok.2 ⟨low, v, hv, hlow, hc', rfl⟩

/-! ## Strings that are read -/

theorem isPlain_iff {b : UInt8} :
    isPlain b ↔ b ≠ quotationMark ∧ b ≠ backslash ∧ ¬b < 0x20 := by
  simp only [isPlain, Bool.and_eq_true, decide_eq_true_eq, bne_iff_ne, UInt8.not_lt]
  tauto

theorem readOctets_append {x o : List UInt8} (h : Content x o) (r : List UInt8) :
    readOctets (o ++ quotationMark :: r) = .ok (x, r) := by
  induction h with
  | nil =>
    rw [List.nil_append, readOctets, if_pos rfl]
  | plain hb h ih =>
    obtain ⟨hquote, hslash, hcontrol⟩ := isPlain_iff.1 hb
    rw [List.cons_append, readOctets, if_neg hquote, if_neg hslash, if_neg hcontrol, ih]
  | @escape c e x o he h ih =>
    have hread : readEscape (e ++ (o ++ quotationMark :: r)) =
        .ok (c, o ++ quotationMark :: r) := readEscape_eq_ok.2 ⟨e, he, rfl⟩
    rw [List.cons_append, List.append_assoc, readOctets, if_neg (by decide), if_pos rfl]
    split
    · next heq => rw [hread] at heq; cases heq
    · next heq =>
      rw [hread] at heq
      cases heq
      rw [ih]

theorem readOctets_eq_ok {s x r : List UInt8} :
    readOctets s = .ok (x, r) ↔ ∃ o, Content x o ∧ s = o ++ quotationMark :: r := by
  constructor
  · intro h
    fun_induction readOctets s generalizing x r with
    | case1 => cases h
    | case2 t =>
      cases h
      exact ⟨[], .nil, rfl⟩
    | case3 => cases h
    | case4 => cases h
    | case5 t c u hu _ octets v hv _ ih =>
      cases h
      obtain ⟨e, he, rfl⟩ := readEscape_eq_ok.1 hu
      obtain ⟨o, ho, rfl⟩ := ih hv
      refine ⟨_, .escape he ho, ?_⟩
      rw [List.cons_append, List.append_assoc]
    | case6 => cases h
    | case7 => cases h
    | case8 b t hquote hslash hcontrol octets u hu ih =>
      cases h
      obtain ⟨o, ho, rfl⟩ := ih hu
      exact ⟨_, .plain (isPlain_iff.2 ⟨hquote, hslash, hcontrol⟩) ho, rfl⟩
  · rintro ⟨o, ho, rfl⟩
    exact readOctets_append ho r

theorem readString_eq_ok {s r : List UInt8} {x : String} :
    readString s = .ok (x, r) ↔
      ∃ o, Content (Utf8.encode x.toList) o ∧ s = o ++ quotationMark :: r := by
  constructor
  · intro h
    simp only [readString] at h
    split at h
    · cases h
    · next octets t ht =>
      split at h
      · cases h
      · next cs hcs =>
        cases h
        obtain ⟨o, ho, rfl⟩ := readOctets_eq_ok.1 ht
        refine ⟨o, ?_, rfl⟩
        rw [String.toList_ofList, ← Utf8.decode_eq_ok.1 hcs]
        exact ho
  · rintro ⟨o, ho, rfl⟩
    simp only [readString, readOctets_append ho, Utf8.decode_encode, String.ofList_toList]

/-! ## Strings that are passed over -/

theorem skipEscape_short {c : Char} {b : UInt8} (h : (c, b) ∈ shortEscapes) (r : List UInt8) :
    skipEscape (b :: r) = .ok r := by
  rw [skipEscape, if_neg (ne_hexEscape_of_mem h), shortEscape?_eq_some.2 h]
  rfl

theorem skipEscape_unit {n : Nat} {u : List UInt8} (h : HexUnit n u) (r : List UInt8) :
    skipEscape (hexEscape :: (u ++ r)) = .ok r := by
  have hu : readHexUnit (u ++ r) = .ok (n, r) := readHexUnit_eq_ok.2 ⟨u, h, rfl⟩
  rw [skipEscape, if_pos rfl, hu]
  rfl

theorem skipEscape_eq_ok {s r : List UInt8} (h : skipEscape s = .ok r) :
    (∃ c b, (c, b) ∈ shortEscapes ∧ s = b :: r) ∨
      ∃ n u, HexUnit n u ∧ s = hexEscape :: (u ++ r) := by
  cases s with
  | nil => cases h
  | cons b t =>
    rw [skipEscape] at h
    split at h
    · next hb =>
      obtain ⟨⟨n, r'⟩, hn, hr⟩ := Utf8.map_eq_ok h
      cases hr
      obtain ⟨u, hu, rfl⟩ := readHexUnit_eq_ok.1 hn
      exact .inr ⟨n, u, hu, by rw [hb]⟩
    · split at h
      · next hb =>
        cases h
        obtain ⟨c, hc⟩ := Option.isSome_iff_exists.1 hb
        exact .inl ⟨c, b, shortEscape?_eq_some.1 hc, rfl⟩
      · cases h

theorem skipString_backslash {s r : List UInt8} (h : skipEscape s = .ok r) :
    skipString (backslash :: s) = skipString r := by
  rw [skipString, if_neg (by decide), if_pos rfl]
  split
  · next heq => rw [h] at heq; cases heq
  · next heq =>
    rw [h] at heq
    cases heq
    rfl

theorem skipString_append {o : List UInt8} (h : LooseContent o) (r : List UInt8) :
    skipString (o ++ quotationMark :: r) = .ok r := by
  induction h with
  | nil => rw [List.nil_append, skipString, if_pos rfl]
  | plain hb h ih =>
    obtain ⟨hquote, hslash, hcontrol⟩ := isPlain_iff.1 hb
    rw [List.cons_append, skipString, if_neg hquote, if_neg hslash, if_neg hcontrol, ih]
  | short hb h ih =>
    rw [List.cons_append, List.cons_append, skipString_backslash (skipEscape_short hb _), ih]
  | unit hu h ih =>
    rw [List.cons_append, List.cons_append, List.append_assoc,
      skipString_backslash (skipEscape_unit hu _), ih]

theorem skipString_eq_ok {s r : List UInt8} :
    skipString s = .ok r ↔ ∃ o, LooseContent o ∧ s = o ++ quotationMark :: r := by
  constructor
  · intro h
    fun_induction skipString s with
    | case1 => cases h
    | case2 t =>
      cases h
      exact ⟨[], .nil, rfl⟩
    | case3 => cases h
    | case4 t u hu _ _ ih =>
      obtain ⟨o, ho, rfl⟩ := ih h
      rcases skipEscape_eq_ok hu with ⟨c, b, hb, rfl⟩ | ⟨n, x, hx, rfl⟩
      · exact ⟨_, .short hb ho, rfl⟩
      · refine ⟨_, .unit hx ho, ?_⟩
        rw [List.cons_append, List.cons_append, List.append_assoc]
    | case5 => cases h
    | case6 b t hquote hslash hcontrol ih =>
      obtain ⟨o, ho, rfl⟩ := ih h
      exact ⟨_, .plain (isPlain_iff.2 ⟨hquote, hslash, hcontrol⟩) ho, rfl⟩
  · rintro ⟨o, ho, rfl⟩
    exact skipString_append ho r

/-! ## Literals -/

theorem Literal.read {x : String} {o : List UInt8} (h : Literal x o) :
    ∃ t, o = quotationMark :: t ∧ ∀ r, readString (t ++ r) = .ok (x, r) := by
  cases h with
  | @mk body h =>
    refine ⟨_, rfl, fun r => readString_eq_ok.2 ⟨body, h, ?_⟩⟩
    rw [List.append_assoc, List.singleton_append]

theorem Literal.of_readString {s r : List UInt8} {x : String} (h : readString s = .ok (x, r)) :
    ∃ o, Literal x o ∧ quotationMark :: s = o ++ r := by
  obtain ⟨o, ho, rfl⟩ := readString_eq_ok.1 h
  refine ⟨_, .mk ho, ?_⟩
  rw [List.cons_append, List.append_assoc, List.singleton_append]

/-- A literal on its own is known by reading it. -/
theorem Literal.of_readString_tail {o : List UInt8} {x : String}
    (h : o.head? = some quotationMark ∧ readString o.tail = .ok (x, [])) : Literal x o := by
  obtain ⟨hhead, hread⟩ := h
  cases o with
  | nil => cases hhead
  | cons b s =>
    cases hhead
    obtain ⟨o, ho, hs⟩ := Literal.of_readString hread
    rw [List.tail_cons, List.append_nil] at hs
    rw [hs]
    exact ho

theorem Content.loose {x o : List UInt8} (h : Content x o) : LooseContent o := by
  induction h with
  | nil => exact .nil
  | plain hb h ih => exact .plain hb ih
  | escape he h ih =>
    cases he with
    | short hc => exact .short hc ih
    | unit hu => exact .unit hu ih
    | pair hu hv hhigh hlow hc =>
      rw [List.cons_append, List.append_assoc]
      exact .unit hu (.unit hv ih)

/-- Whatever a literal denotes, it has the shape of one. -/
theorem Literal.loose {x : String} {o : List UInt8} (h : Literal x o) : LooseLiteral o := by
  cases h with
  | mk h => exact .mk h.loose

theorem LooseLiteral.skip {o : List UInt8} (h : LooseLiteral o) :
    ∃ t, o = quotationMark :: t ∧ ∀ r, skipString (t ++ r) = .ok r := by
  cases h with
  | @mk body h =>
    refine ⟨_, rfl, fun r => skipString_eq_ok.2 ⟨body, h, ?_⟩⟩
    rw [List.append_assoc, List.singleton_append]

theorem LooseLiteral.of_skipString {s r : List UInt8} (h : skipString s = .ok r) :
    ∃ o, LooseLiteral o ∧ quotationMark :: s = o ++ r := by
  obtain ⟨o, ho, rfl⟩ := skipString_eq_ok.1 h
  refine ⟨_, .mk ho, ?_⟩
  rw [List.cons_append, List.append_assoc, List.singleton_append]

end RtpBridge.Json

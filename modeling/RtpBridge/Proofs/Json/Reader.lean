-- SUMMARY: What a typed reader takes, stated once for all readers and proved for texts and variants.
import RtpBridge.Json.Reader
import RtpBridge.Proofs.Json.Skip

/-!
# Typed readers: laws

`R.Takes o a` says that the reader `R` makes `a` of the octets `o` wherever a value may
stand. A reader that never answers but by taking such octets is exact
(`Reader.IsExact`). Texts and variants come with what their octets are; lists share how
they go on from one element to the next.
-/

namespace RtpBridge.Json

variable {α : Type}

/-- That `o` is a whole value to the reader and makes `a`. -/
structure Reader.Takes (R : Reader α) (o : List UInt8) (a : α) : Prop where
  begins : Begins o
  read : ∀ w r, Blanks w → Delimited r → R.read (w ++ (o ++ r)) = .ok (a, r)

/-- That all the reader answers comes from octets that it takes. -/
def Reader.IsExact (R : Reader α) : Prop :=
  ∀ s r a, R.read s = .ok (a, r) → ∃ w o, s = w ++ (o ++ r) ∧ Blanks w ∧ R.Takes o a

theorem Begins.eq_of_blanks {w o o' : List UInt8} (ho : Begins o) (hw : Blanks w)
    (h : o = w ++ (o' ++ [])) : o = o' := by
  obtain ⟨b, t, rfl, hb, -, -⟩ := ho
  obtain rfl := hw.eq_nil_of_cons hb h
  rwa [List.nil_append, List.append_nil] at h

theorem Reader.Takes.read_self {R : Reader α} {o : List UInt8} {a : α} (h : R.Takes o a) :
    R.read o = .ok (a, []) := by
  have hread := h.read [] [] blanks_nil (fun _ hb => nomatch hb)
  rwa [List.nil_append, List.append_nil] at hread

/-- A document is read if it holds just what the reader takes. -/
theorem Reader.Takes.document {R : Reader α} {a : α} {w o w' : List UInt8} (h : R.Takes o a)
    (hw : Blanks w) (hw' : Blanks w') : R.document (w ++ (o ++ w')) = .ok a := by
  have hdelimited : Delimited w' := fun b hb => .inl (hw' b (List.mem_of_mem_head? hb))
  simp only [Reader.document, h.read w w' hw hdelimited, skipBlanks_eq_nil.2 hw',
    List.isEmpty_nil, if_true]

/-! ## Texts -/

theorem Literal.begins {x : String} {o : List UInt8} (h : Literal x o) : Begins o := by
  obtain ⟨t, rfl, -⟩ := h.read
  exact ⟨_, t, rfl, rfl, by decide, by decide⟩

theorem Literal.value {x : String} {o : List UInt8} (h : Literal x o) : Value o :=
  .scalar (.string h.loose)

theorem Literal.takes {x : String} {o : List UInt8} (h : Literal x o) : text.Takes o x where
  begins := h.begins
  read w r hw _ := by
    obtain ⟨t, rfl, ht⟩ := h.read
    have hskip : skipBlanks (w ++ quotationMark :: (t ++ r)) = quotationMark :: (t ++ r) :=
      skipBlanks_append_cons hw rfl _
    simp only [text, readText, List.cons_append, hskip, if_true, ht]

theorem exists_literal_of_text {s r : List UInt8} {x : String} (h : text.read s = .ok (x, r)) :
    ∃ w o, s = w ++ (o ++ r) ∧ Blanks w ∧ Literal x o := by
  simp only [text, readText] at h
  split at h
  · cases h
  · next b t hs =>
    obtain ⟨w, hw, -, rfl⟩ := skipBlanks_eq_cons.1 hs
    split at h
    · next hb =>
      obtain ⟨o, ho, hs⟩ := Literal.of_readString h
      exact ⟨w, o, by rw [hb, hs], hw, ho⟩
    · cases h

theorem text_isExact : text.IsExact := by
  intro s r x h
  obtain ⟨w, o, hs, hw, ho⟩ := exists_literal_of_text h
  exact ⟨w, o, hs, hw, ho.takes⟩

theorem text_takes {x : String} {o : List UInt8} : text.Takes o x ↔ Literal x o := by
  refine ⟨fun h => ?_, Literal.takes⟩
  obtain ⟨w, o', ho, hw, hx⟩ := exists_literal_of_text h.read_self
  rwa [h.begins.eq_of_blanks hw ho]

/-! ## Variants -/

theorem readVariantName_append {variants : List (String × α)} {name : String} {a : α}
    {t r : List UInt8} (ha : variantOf variants name = .ok a)
    (ht : readString (t ++ r) = .ok (name, r)) :
    readVariantName variants (t ++ r) = .ok (a, r) := by
  simp only [readVariantName, ht, ha]

theorem readVariantName_eq_ok {variants : List (String × α)} {a : α} {s r : List UInt8}
    (h : readVariantName variants s = .ok (a, r)) :
    ∃ name o, variantOf variants name = .ok a ∧ Literal name o ∧ quotationMark :: s = o ++ r := by
  simp only [readVariantName] at h
  split at h
  · cases h
  · next name t ht =>
    split at h
    · cases h
    · next ha =>
      cases h
      obtain ⟨o, ho, hs⟩ := Literal.of_readString ht
      exact ⟨name, o, ha, ho, hs⟩

theorem readNull_eq_ok {s r : List UInt8} :
    readNull s = .ok r ↔ ∃ w, Blanks w ∧ s = w ++ 0x6E :: (nullTail ++ r) := by
  constructor
  · intro h
    unfold readNull at h
    split at h
    · cases h
    · next b t hs =>
      obtain ⟨w, hw, -, rfl⟩ := skipBlanks_eq_cons.1 hs
      split at h
      · next hb => exact ⟨w, hw, by rw [hb, readWord_eq_ok.1 h]⟩
      · cases h
  · rintro ⟨w, hw, rfl⟩
    rw [readNull, skipBlanks_append_cons hw rfl]
    exact readWord_eq_ok.2 rfl

theorem readVariantEnd_eq_ok {s r : List UInt8} :
    readVariantEnd s = .ok r ↔ ∃ w, Blanks w ∧ s = w ++ closeBrace :: r := by
  constructor
  · intro h
    unfold readVariantEnd at h
    split at h
    · cases h
    · next b t hs =>
      obtain ⟨w, hw, -, rfl⟩ := skipBlanks_eq_cons.1 hs
      split at h
      · next hb =>
        cases h
        exact ⟨w, hw, by rw [hb]⟩
      · cases h
  · rintro ⟨w, hw, rfl⟩
    rw [readVariantEnd, skipBlanks_append_cons hw rfl]
    rfl

theorem readVariantTail_eq_ok {s r : List UInt8} :
    readVariantTail s = .ok r ↔ ∃ w₁ w₂ w₃, Blanks w₁ ∧ Blanks w₂ ∧ Blanks w₃ ∧
      s = w₁ ++ colon :: (w₂ ++ 0x6E :: (nullTail ++ (w₃ ++ closeBrace :: r))) := by
  constructor
  · intro h
    simp only [readVariantTail] at h
    split at h
    · cases h
    · next s₁ hs₁ =>
      split at h
      · cases h
      · next s₂ hs₂ =>
        obtain ⟨w₁, hw₁, rfl⟩ := readColon_eq_ok.1 hs₁
        obtain ⟨w₂, hw₂, rfl⟩ := readNull_eq_ok.1 hs₂
        obtain ⟨w₃, hw₃, rfl⟩ := readVariantEnd_eq_ok.1 h
        exact ⟨w₁, w₂, w₃, hw₁, hw₂, hw₃, rfl⟩
  · rintro ⟨w₁, w₂, w₃, hw₁, hw₂, hw₃, rfl⟩
    simp only [readVariantTail, readColon_eq_ok.2 ⟨w₁, hw₁, rfl⟩,
      readNull_eq_ok.2 ⟨w₂, hw₂, rfl⟩]
    exact readVariantEnd_eq_ok.2 ⟨w₃, hw₃, rfl⟩

theorem readVariantKey_append {variants : List (String × α)} {name : String} {a : α}
    {w key : List UInt8} (ha : variantOf variants name = .ok a) (hw : Blanks w)
    (hkey : Literal name key) (r : List UInt8) :
    readVariantKey variants (w ++ (key ++ r)) = .ok (a, r) := by
  obtain ⟨t, rfl, ht⟩ := hkey.read
  rw [List.cons_append, readVariantKey, skipBlanks_append_cons hw rfl]
  exact readVariantName_append ha (ht r)

theorem VariantText.begins {name : String} {o : List UInt8} (h : VariantText name o) :
    Begins o := by
  cases h with
  | string h => exact h.begins
  | object hw hkey hw₁ hw₂ hw₃ => exact ⟨_, _, rfl, rfl, by decide, by decide⟩

theorem VariantText.value {name : String} {o : List UInt8} (h : VariantText name o) :
    Value o := by
  cases h with
  | string h => exact h.value
  | @object w key w₁ w₂ w₃ hw hkey hw₁ hw₂ hw₃ =>
    have hlisting : Listing closeBrace true
        ([⟨key, w₁, w₂, 0x6E :: nullTail⟩].map Member.octets) _ :=
      .cons (.first hw) (.nil hw₃)
    simp only [Member.octets, List.append_assoc, List.cons_append] at hlisting
    refine .object (fun m hm => ?_) (fun m hm => ?_) hlisting
    · rw [List.mem_singleton.1 hm]
      exact ⟨⟨hw₁, hw₂⟩, hkey.loose⟩
    · rw [List.mem_singleton.1 hm]
      exact .scalar .null

theorem readVariant_append {variants : List (String × α)} {name : String} {a : α}
    {w o : List UInt8} (ha : variantOf variants name = .ok a) (hw : Blanks w)
    (h : VariantText name o) (r : List UInt8) :
    readVariant variants (w ++ (o ++ r)) = .ok (a, r) := by
  cases h with
  | string h =>
    obtain ⟨t, rfl, ht⟩ := h.read
    rw [List.cons_append, readVariant, skipBlanks_append_cons hw rfl]
    exact readVariantName_append ha (ht r)
  | @object w₀ key w₁ w₂ w₃ hw₀ hkey hw₁ hw₂ hw₃ =>
    have htail : readVariantTail (w₁ ++ colon :: (w₂ ++ 0x6E :: (nullTail ++ (w₃ ++
        closeBrace :: r)))) = .ok r :=
      readVariantTail_eq_ok.2 ⟨w₁, w₂, w₃, hw₁, hw₂, hw₃, rfl⟩
    have hbrace : openBrace ≠ quotationMark := by decide
    simp only [List.append_assoc, List.cons_append, List.nil_append]
    rw [readVariant, skipBlanks_append_cons hw rfl]
    simp only [hbrace, if_false, if_true, readVariantKey_append ha hw₀ hkey, htail]

theorem readVariant_eq_ok {variants : List (String × α)} {a : α} {s r : List UInt8}
    (h : readVariant variants s = .ok (a, r)) :
    ∃ name w o, variantOf variants name = .ok a ∧ s = w ++ (o ++ r) ∧ Blanks w ∧
      VariantText name o := by
  unfold readVariant at h
  split at h
  · cases h
  · next b t hs =>
    obtain ⟨w, hw, -, rfl⟩ := skipBlanks_eq_cons.1 hs
    split at h
    · next hb =>
      obtain ⟨name, o, ha, ho, hs⟩ := readVariantName_eq_ok h
      exact ⟨name, w, o, ha, by rw [hb, hs], hw, .string ho⟩
    · split at h
      · next hb =>
        split at h
        · cases h
        · next a' t' hk =>
          split at h
          · cases h
          · next ht =>
            cases h
            unfold readVariantKey at hk
            split at hk
            · cases hk
            · next c u hu =>
              obtain ⟨w₀, hw₀, -, rfl⟩ := skipBlanks_eq_cons.1 hu
              split at hk
              · next hc =>
                obtain ⟨name, key, ha, hkey, hs⟩ := readVariantName_eq_ok hk
                obtain ⟨w₁, w₂, w₃, hw₁, hw₂, hw₃, rfl⟩ := readVariantTail_eq_ok.1 ht
                refine ⟨name, w, _, ha, ?_, hw, .object hw₀ hkey hw₁ hw₂ hw₃⟩
                rw [hb, hc, hs]
                simp only [List.append_assoc, List.cons_append, List.nil_append]
              · cases hk
      · cases h

theorem VariantText.takes {variants : List (String × α)} {name : String} {a : α}
    {o : List UInt8} (h : VariantText name o) (ha : variantOf variants name = .ok a) :
    (variant variants).Takes o a where
  begins := h.begins
  read _ r hw _ := readVariant_append ha hw h r

theorem variant_isExact (variants : List (String × α)) : (variant variants).IsExact := by
  intro s r a h
  obtain ⟨name, w, o, ha, hs, hw, ho⟩ := readVariant_eq_ok h
  exact ⟨w, o, hs, hw, ho.takes ha⟩

theorem variant_takes {variants : List (String × α)} {a : α} {o : List UInt8} :
    (variant variants).Takes o a ↔
      ∃ name, variantOf variants name = .ok a ∧ VariantText name o := by
  constructor
  · intro h
    obtain ⟨name, w, o', ha, ho, hw, hname⟩ := readVariant_eq_ok h.read_self
    refine ⟨name, ha, ?_⟩
    rwa [h.begins.eq_of_blanks hw ho]
  · rintro ⟨name, ha, ho⟩
    exact ho.takes ha

/-! ## From element to element -/

theorem nextElement_close {isFirst : Bool} {w : List UInt8} (hw : Blanks w) (r : List UInt8) :
    nextElement isFirst (w ++ closeBracket :: r) = .ok (false, r) := by
  rw [nextElement, skipBlanks_append_cons hw rfl]
  rfl

theorem nextElement_lead {isFirst : Bool} {l item : List UInt8} (hl : Lead isFirst l)
    (hitem : Begins item) (r : List UInt8) :
    nextElement isFirst (l ++ (item ++ r)) = .ok (true, item ++ r) := by
  obtain ⟨b, t, rfl, hb, hbracket, -⟩ := hitem
  cases hl with
  | first hw =>
    rw [List.cons_append, nextElement, skipBlanks_append_cons hw hb]
    simp only [hbracket, if_false, if_true]
  | next hw hw' =>
    have hcomma : comma ≠ closeBracket := by decide
    simp only [List.append_assoc, List.cons_append]
    rw [nextElement, skipBlanks_append_cons hw rfl]
    simp only [hcomma, if_false, if_true, Bool.false_eq_true, skipBlanks_append_cons hw' hb,
      hbracket]

theorem nextElement_eq_false {isFirst : Bool} {s r : List UInt8}
    (h : nextElement isFirst s = .ok (false, r)) : ∃ w, Blanks w ∧ s = w ++ closeBracket :: r := by
  unfold nextElement at h
  split at h
  · cases h
  · next b t hs =>
    obtain ⟨w, hw, -, rfl⟩ := skipBlanks_eq_cons.1 hs
    split at h
    · next hb =>
      cases h
      exact ⟨w, hw, by rw [hb]⟩
    · split at h
      · cases h
      · split at h
        · split at h
          · cases h
          · split at h <;> cases h
        · cases h

theorem nextElement_eq_true {isFirst : Bool} {s r : List UInt8}
    (h : nextElement isFirst s = .ok (true, r)) :
    ∃ l b t, Lead isFirst l ∧ s = l ++ r ∧ r = b :: t ∧ isBlank b = false := by
  unfold nextElement at h
  split at h
  · cases h
  · next b t hs =>
    obtain ⟨w, hw, hb, rfl⟩ := skipBlanks_eq_cons.1 hs
    split at h
    · cases h
    · split at h
      · next hfirst =>
        cases h
        rw [hfirst]
        exact ⟨w, b, t, .first hw, rfl, rfl, hb⟩
      · next hfirst =>
        split at h
        · next hcomma =>
          split at h
          · cases h
          · next c u hu =>
            split at h
            · cases h
            · cases h
              obtain ⟨w', hw', hc, rfl⟩ := skipBlanks_eq_cons.1 hu
              rw [Bool.eq_false_iff.2 hfirst, hcomma]
              refine ⟨_, c, u, .next hw hw', ?_, rfl, hc⟩
              rw [List.append_assoc, List.cons_append]
        · cases h

end RtpBridge.Json

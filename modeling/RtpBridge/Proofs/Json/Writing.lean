-- SUMMARY: Every text, natural number, option and list can be written as JSON.
import RtpBridge.Proofs.Json.Typed

/-!
# Writing values

The grammar leaves no value of these types out: each has octets that write it. A text is
written with the octets of its characters where they may stand for themselves, and with
hexadecimal escapes where they may not.
-/

namespace RtpBridge.Json

variable {α : Type}

/-! ## Texts -/

theorem exists_hexDigit {n : Nat} (h : n < 16) : ∃ b, HexDigit n b := by
  have hzero : '0'.toNat = 48 := rfl
  have hlower : 'a'.toNat = 97 := rfl
  rcases Nat.lt_or_ge n 10 with hten | hten
  · refine ⟨UInt8.ofNat (48 + n), .inl ⟨hten, ?_⟩⟩
    rw [UInt8.toNat_ofNat', hzero]
    omega
  · refine ⟨UInt8.ofNat (97 + (n - 10)), .inr ⟨hten, h, .inr ?_⟩⟩
    rw [UInt8.toNat_ofNat', hlower]
    omega

theorem exists_hexUnit {n : Nat} (h : n < 0x80) : ∃ u, HexUnit n u := by
  obtain ⟨zero, hzero⟩ := exists_hexDigit (n := 0) (by decide)
  obtain ⟨high, hhigh⟩ := exists_hexDigit (n := n / 16) (by omega)
  obtain ⟨low, hlow⟩ := exists_hexDigit (n := n % 16) (by omega)
  have hn : 0 * 4096 + 0 * 256 + n / 16 * 16 + n % 16 = n := by omega
  have hunit := HexUnit.mk hzero hzero hhigh hlow
  rw [hn] at hunit
  exact ⟨_, hunit⟩

theorem isPlain_of_le {b : UInt8} (h : 0x80 ≤ b.toNat) : isPlain b := by
  have hquote : b ≠ quotationMark := by
    rintro rfl
    exact absurd h (by decide)
  have hbackslash : b ≠ backslash := by
    rintro rfl
    exact absurd h (by decide)
  have hcontrol : 0x20 ≤ b := UInt8.le_iff_toNat_le.2 (Nat.le_trans (by decide) h)
  simp only [isPlain, hcontrol, decide_true, bne_iff_ne.2 hquote, bne_iff_ne.2 hbackslash,
    Bool.and_self]

/-- Octets that are plain stand for themselves. -/
theorem Content.append_plain {s x o : List UInt8} (hs : ∀ b ∈ s, isPlain b) (h : Content x o) :
    Content (s ++ x) (s ++ o) := by
  induction s with
  | nil => exact h
  | cons b s ih =>
    exact .plain (hs b List.mem_cons_self) (ih fun c hc => hs c (List.mem_cons_of_mem b hc))

theorem exists_content (cs : List Char) : ∃ o, Content (Utf8.encode cs) o := by
  induction cs with
  | nil => exact ⟨[], .nil⟩
  | cons c cs ih =>
    obtain ⟨o, ho⟩ := ih
    rw [Utf8.encode_cons]
    rcases Nat.lt_or_ge c.toNat 0x80 with hc | hc
    · obtain ⟨u, hu⟩ := exists_hexUnit hc
      exact ⟨_, .escape (.unit hu) ho⟩
    · have hplain : ∀ b ∈ String.utf8EncodeChar c, isPlain b :=
        fun b hb => isPlain_of_le (Utf8.le_of_mem_utf8EncodeChar hc b hb)
      exact ⟨_, .append_plain hplain ho⟩

theorem exists_literal (x : String) : ∃ o, Literal x o := by
  obtain ⟨body, hbody⟩ := exists_content x.toList
  exact ⟨_, .mk hbody⟩

/-! ## Naturals -/

theorem exists_digit {n : Nat} (h : n < 10) : ∃ d, isDigit d ∧ digitValue d = n := by
  have hd : (UInt8.ofNat (0x30 + n)).toNat = 0x30 + n := by
    rw [UInt8.toNat_ofNat']
    omega
  refine ⟨UInt8.ofNat (0x30 + n), ?_, ?_⟩
  · simp only [isDigit, UInt8.le_iff_toNat_le, hd, Bool.and_eq_true, decide_eq_true_eq,
      UInt8.toNat_ofNat]
    omega
  · rw [digitValue, hd]
    omega

theorem decimal_concat (ds : List UInt8) (d : UInt8) :
    decimal (ds ++ [d]) = decimal ds * 10 + digitValue d := by
  rw [decimal, List.foldl_append]
  rfl

theorem exists_digits {n : Nat} (h : n ≠ 0) :
    ∃ ds, Digits ds ∧ ds.head? ≠ some 0x30 ∧ decimal ds = n := by
  -- all digits but the last one write a tenth of the number
  induction n using Nat.strongRecOn with
  | ind n ih =>
    obtain ⟨d, hd, hvalue⟩ := exists_digit (n := n % 10) (by omega)
    rcases Nat.lt_or_ge n 10 with hten | hten
    · refine ⟨[d], ⟨List.cons_ne_nil d [], List.forall_mem_singleton.2 hd⟩, ?_, ?_⟩
      · intro hzero
        obtain rfl := Option.some.inj hzero
        exact h (by rw [← Nat.mod_eq_of_lt hten, ← hvalue]; rfl)
      · rw [decimal, List.foldl_cons, List.foldl_nil, hvalue]
        omega
    · obtain ⟨ds, ⟨hne, hds⟩, hhead, hdecimal⟩ := ih (n / 10) (by omega) (by omega)
      refine ⟨ds ++ [d], ⟨List.append_ne_nil_of_left_ne_nil hne _, ?_⟩, ?_, ?_⟩
      · intro b hb
        rcases List.mem_append.1 hb with hb | hb
        · exact hds b hb
        · rwa [List.mem_singleton.1 hb]
      · rwa [List.head?_append_of_ne_nil _ hne]
      · rw [decimal_concat, hdecimal, hvalue]
        omega

theorem exists_naturalText (n : Nat) : ∃ o, NaturalText n o := by
  by_cases h : n = 0
  · exact ⟨[0x30], .zero, h.symm⟩
  · obtain ⟨ds, hds, hhead, hdecimal⟩ := exists_digits h
    exact ⟨ds, .digits hds hhead, hdecimal⟩

/-! ## Flags, options and lists -/

theorem exists_flagText (b : Bool) : ∃ o, FlagText b o := by
  cases b with
  | true => exact ⟨_, .true⟩
  | false => exact ⟨_, .false⟩

theorem exists_optionText {P : α → List UInt8 → Prop} (hP : ∀ a, ∃ o, P a o) (x : Option α) :
    ∃ o, OptionText P x o := by
  cases x with
  | none => exact ⟨_, .null⟩
  | some a =>
    obtain ⟨o, ho⟩ := hP a
    exact ⟨o, .some ho⟩

theorem exists_listing (close : UInt8) (isFirst : Bool) (items : List (List UInt8)) :
    ∃ o, Listing close isFirst items o := by
  induction items generalizing isFirst with
  | nil => exact ⟨_, .nil blanks_nil⟩
  | cons item items ih =>
    obtain ⟨o, ho⟩ := ih false
    cases isFirst with
    | true => exact ⟨_, .cons (.first blanks_nil) ho⟩
    | false => exact ⟨_, .cons (.next blanks_nil blanks_nil) ho⟩

theorem exists_listText {P : α → List UInt8 → Prop} (hP : ∀ a, ∃ o, P a o) (as : List α) :
    ∃ o, ListText P as o := by
  have hvs : ∃ vs, List.Forall₂ P as vs := by
    induction as with
    | nil => exact ⟨[], .nil⟩
    | cons a as ih =>
      obtain ⟨v, hv⟩ := hP a
      obtain ⟨vs, hvs⟩ := ih
      exact ⟨v :: vs, .cons hv hvs⟩
  obtain ⟨vs, hvs⟩ := hvs
  obtain ⟨o, ho⟩ := exists_listing closeBracket true vs
  exact ⟨_, .mk hvs ho⟩

/-! ## Members -/

/-- The member of a name and a value that are written as they may be. -/
theorem exists_member {P : List UInt8 → Prop} (name : String) (h : ∃ o, P o) :
    ∃ m : Member, m.Bears name P ∧ m.IsSpaced := by
  obtain ⟨key, hkey⟩ := exists_literal name
  obtain ⟨value, hvalue⟩ := h
  exact ⟨⟨key, [], [], value⟩, ⟨hkey, hvalue⟩, blanks_nil, blanks_nil⟩

end RtpBridge.Json

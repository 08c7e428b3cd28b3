-- SUMMARY: Decoding inverts encoding, goes on where it stopped, and ASCII stands for itself.
import Mathlib.Data.List.Basic
import RtpBridge.Text.Utf8

/-!
# UTF-8: laws

`decode_eq_ok` says that octets decode to a text just when they are its encoding, and
`decode_isPrefix` that text cut short decodes to the beginning of the whole text, if it
decodes at all.
-/

namespace RtpBridge.Utf8

/-! ## The octets of one character -/

theorem utf8EncodeChar_of_lt {c : Char} (h : c.toNat < 0x80) :
    String.utf8EncodeChar c = [UInt8.ofNat c.toNat] := by
  have hv : c.val.toNat ≤ 0x7f := Nat.le_of_lt_succ h
  simp only [String.utf8EncodeChar, hv, if_true]
  rfl

/-- The octets of a character beyond ASCII are beyond ASCII. -/
theorem le_of_mem_utf8EncodeChar {c : Char} (h : 0x80 ≤ c.toNat) :
    ∀ b ∈ String.utf8EncodeChar c, 0x80 ≤ b.toNat := by
  have hv : ¬c.val.toNat ≤ 0x7f := Nat.not_le.2 h
  intro b hb
  simp only [String.utf8EncodeChar, hv, if_false] at hb
  split at hb
  · simp only [List.mem_cons, List.not_mem_nil, or_false] at hb
    rcases hb with rfl | rfl <;> simp only [UInt8.toNat_ofNat'] <;> omega
  · split at hb
    · simp only [List.mem_cons, List.not_mem_nil, or_false] at hb
      rcases hb with rfl | rfl | rfl <;> simp only [UInt8.toNat_ofNat'] <;> omega
    · simp only [List.mem_cons, List.not_mem_nil, or_false] at hb
      rcases hb with rfl | rfl | rfl | rfl <;> simp only [UInt8.toNat_ofNat'] <;> omega

/-! ## First octets -/

theorem ofLead?_two (o : Nat) {b : UInt8} (hl : 0xC2 ≤ b.toNat) (hu : b.toNat ≤ 0xDF) :
    Partial.ofLead? o b = some ⟨o, 1, b.toNat % 32, 0x80, 0xBF, 0⟩ := by
  have hb : 0xC2 ≤ b ∧ b ≤ 0xDF := ⟨UInt8.le_iff_toNat_le.2 hl, UInt8.le_iff_toNat_le.2 hu⟩
  simp only [Partial.ofLead?, hb, and_self, if_true]

/-- Overlong forms and surrogates are shut out by the second octet. -/
theorem ofLead?_three (o : Nat) {b : UInt8} (hl : 0xE0 ≤ b.toNat) (hu : b.toNat ≤ 0xEF) :
    Partial.ofLead? o b = some ⟨o, 1, b.toNat % 16, if b.toNat = 0xE0 then 0xA0 else 0x80,
      if b.toNat = 0xED then 0x9F else 0xBF, 1⟩ := by
  have heq (n : UInt8) : b = n ↔ b.toNat = n.toNat := UInt8.toNat_inj.symm
  simp only [Partial.ofLead?, UInt8.le_iff_toNat_le, heq, UInt8.toNat_ofNat, Nat.reduceMod,
    Nat.reducePow]
  grind

/-- Overlong forms and values above `0x10ffff` are shut out by the second octet. -/
theorem ofLead?_four (o : Nat) {b : UInt8} (hl : 0xF0 ≤ b.toNat) (hu : b.toNat ≤ 0xF4) :
    Partial.ofLead? o b = some ⟨o, 1, b.toNat % 8, if b.toNat = 0xF0 then 0x90 else 0x80,
      if b.toNat = 0xF4 then 0x8F else 0xBF, 2⟩ := by
  have heq (n : UInt8) : b = n ↔ b.toNat = n.toNat := UInt8.toNat_inj.symm
  simp only [Partial.ofLead?, UInt8.le_iff_toNat_le, heq, UInt8.toNat_ofNat, Nat.reduceMod,
    Nat.reducePow]
  grind

/-! ## One character -/

/-- The octet of the last six bits of `n` behind a character's first octet. -/
def tail (n : Nat) : UInt8 := UInt8.ofNat (n % 64 + 0x80)

theorem toNat_tail (n : Nat) : (tail n).toNat = n % 64 + 0x80 := by
  simp only [tail, UInt8.toNat_ofNat']
  omega

theorem extend_tail (p : Partial) (n : Nat) : p.extend (tail n) = p.value * 64 + n % 64 := by
  rw [Partial.extend, toNat_tail]
  omega

theorem decodeFrom_ascii {o : Nat} {b : UInt8} (hb : b < 0x80) (s : List UInt8) :
    decodeFrom o none (b :: s) = (Char.ofNat b.toNat :: ·) <$> decodeFrom (o + 1) none s := by
  simp only [decodeFrom, hb, if_true]

theorem decodeFrom_lead {o : Nat} {b : UInt8} {p : Partial} (hb : 0x80 ≤ b.toNat)
    (hp : Partial.ofLead? o b = some p) (s : List UInt8) :
    decodeFrom o none (b :: s) = decodeFrom (o + 1) (some p) s := by
  have hnot : ¬b < 0x80 := UInt8.not_lt.2 (UInt8.le_iff_toNat_le.2 hb)
  simp only [decodeFrom, hnot, if_false, hp]

theorem decodeFrom_tail_more {o offset taken value owed n : Nat} {low high : UInt8}
    (hl : low.toNat ≤ n % 64 + 0x80) (hu : n % 64 + 0x80 ≤ high.toNat) (s : List UInt8) :
    decodeFrom o (some ⟨offset, taken, value, low, high, owed + 1⟩) (tail n :: s) =
      decodeFrom (o + 1) (some ⟨offset, taken + 1, value * 64 + n % 64, 0x80, 0xBF, owed⟩) s := by
  have hb : low ≤ tail n ∧ tail n ≤ high := by
    rw [UInt8.le_iff_toNat_le, UInt8.le_iff_toNat_le, toNat_tail]
    exact ⟨hl, hu⟩
  simp only [decodeFrom, hb, and_self, if_true, Nat.succ_ne_zero, if_false, Partial.push,
    extend_tail, Nat.add_sub_cancel]

theorem decodeFrom_tail_last {o offset taken value n : Nat} {low high : UInt8}
    (hl : low.toNat ≤ n % 64 + 0x80) (hu : n % 64 + 0x80 ≤ high.toNat) (s : List UInt8) :
    decodeFrom o (some ⟨offset, taken, value, low, high, 0⟩) (tail n :: s) =
      (Char.ofNat (value * 64 + n % 64) :: ·) <$> decodeFrom (o + 1) none s := by
  have hb : low ≤ tail n ∧ tail n ≤ high := by
    rw [UInt8.le_iff_toNat_le, UInt8.le_iff_toNat_le, toNat_tail]
    exact ⟨hl, hu⟩
  simp only [decodeFrom, hb, and_self, if_true, extend_tail]

/-- Behind the second octet nothing is shut out any more. -/
theorem tail_within (n : Nat) :
    (0x80 : UInt8).toNat ≤ n % 64 + 0x80 ∧ n % 64 + 0x80 ≤ (0xBF : UInt8).toNat := by
  simp only [UInt8.toNat_ofNat]
  omega

theorem decodeFrom_two (o : Nat) {v : Nat} (hl : 0x80 ≤ v) (hu : v ≤ 0x7FF) (s : List UInt8) :
    decodeFrom o none (UInt8.ofNat (v / 64 % 32 + 0xC0) :: tail v :: s) =
      (Char.ofNat v :: ·) <$> decodeFrom (o + 2) none s := by
  have hlead : (UInt8.ofNat (v / 64 % 32 + 0xC0)).toNat = v / 64 + 0xC0 := by
    rw [UInt8.toNat_ofNat']
    omega
  have hv : (v / 64 + 0xC0) % 32 * 64 + v % 64 = v := by omega
  rw [decodeFrom_lead (by omega) (ofLead?_two o (by omega) (by omega)),
    decodeFrom_tail_last (tail_within v).1 (tail_within v).2, hlead, hv]

theorem decodeFrom_three (o : Nat) {v : Nat} (hl : 0x800 ≤ v) (hu : v ≤ 0xFFFF)
    (hs : v < 0xD800 ∨ 0xDFFF < v) (s : List UInt8) :
    decodeFrom o none (UInt8.ofNat (v / 4096 % 16 + 0xE0) :: tail (v / 64) :: tail v :: s) =
      (Char.ofNat v :: ·) <$> decodeFrom (o + 3) none s := by
  have hlead : (UInt8.ofNat (v / 4096 % 16 + 0xE0)).toNat = v / 4096 + 0xE0 := by
    rw [UInt8.toNat_ofNat']
    omega
  have hlow : (if v / 4096 + 0xE0 = 0xE0 then (0xA0 : UInt8) else 0x80).toNat ≤
      v / 64 % 64 + 0x80 := by
    split <;> simp only [UInt8.toNat_ofNat] <;> omega
  have hhigh : v / 64 % 64 + 0x80 ≤
      (if v / 4096 + 0xE0 = 0xED then (0x9F : UInt8) else 0xBF).toNat := by
    split <;> simp only [UInt8.toNat_ofNat] <;> omega
  have hv : ((v / 4096 + 0xE0) % 16 * 64 + v / 64 % 64) * 64 + v % 64 = v := by omega
  rw [decodeFrom_lead (by omega) (ofLead?_three o (by omega) (by omega)), hlead,
    decodeFrom_tail_more hlow hhigh, decodeFrom_tail_last (tail_within v).1 (tail_within v).2, hv]

theorem decodeFrom_four (o : Nat) {v : Nat} (hl : 0x10000 ≤ v) (hu : v < 0x110000)
    (s : List UInt8) :
    decodeFrom o none (UInt8.ofNat (v / 262144 % 8 + 0xF0) :: tail (v / 4096) :: tail (v / 64)
      :: tail v :: s) = (Char.ofNat v :: ·) <$> decodeFrom (o + 4) none s := by
  have hlead : (UInt8.ofNat (v / 262144 % 8 + 0xF0)).toNat = v / 262144 + 0xF0 := by
    rw [UInt8.toNat_ofNat']
    omega
  have hlow : (if v / 262144 + 0xF0 = 0xF0 then (0x90 : UInt8) else 0x80).toNat ≤
      v / 4096 % 64 + 0x80 := by
    split <;> simp only [UInt8.toNat_ofNat] <;> omega
  have hhigh : v / 4096 % 64 + 0x80 ≤
      (if v / 262144 + 0xF0 = 0xF4 then (0x8F : UInt8) else 0xBF).toNat := by
    split <;> simp only [UInt8.toNat_ofNat] <;> omega
  have hv : (((v / 262144 + 0xF0) % 8 * 64 + v / 4096 % 64) * 64 + v / 64 % 64) * 64 + v % 64
      = v := by
    omega
  rw [decodeFrom_lead (by omega) (ofLead?_four o (by omega) (by omega)), hlead,
    decodeFrom_tail_more hlow hhigh,
    decodeFrom_tail_more (tail_within (v / 64)).1 (tail_within (v / 64)).2,
    decodeFrom_tail_last (tail_within v).1 (tail_within v).2, hv]

/-- A character's octets give the character back, whatever follows them. -/
theorem decodeFrom_utf8EncodeChar (o : Nat) (c : Char) (s : List UInt8) :
    ∃ o', decodeFrom o none (String.utf8EncodeChar c ++ s) =
      (c :: ·) <$> decodeFrom o' none s := by
  have hc : Char.ofNat c.val.toNat = c := Char.ofNat_toNat c
  have hvalid : c.val.toNat < 0xD800 ∨ 0xDFFF < c.val.toNat ∧ c.val.toNat < 0x110000 := c.valid
  simp only [String.utf8EncodeChar]
  split
  · next h1 =>
    have hb : UInt8.ofNat c.val.toNat < 0x80 := by
      rw [UInt8.lt_iff_toNat_lt, UInt8.toNat_ofNat']
      simp only [UInt8.toNat_ofNat]
      omega
    have hv : (UInt8.ofNat c.val.toNat).toNat = c.val.toNat := by
      rw [UInt8.toNat_ofNat']
      omega
    refine ⟨o + 1, ?_⟩
    rw [List.singleton_append, decodeFrom_ascii hb, hv, hc]
  · split
    · next h1 h2 =>
      refine ⟨o + 2, ?_⟩
      have h := decodeFrom_two o (Nat.not_le.1 h1) h2 s
      rw [hc] at h
      exact h
    · split
      · next h1 h2 h3 =>
        refine ⟨o + 3, ?_⟩
        have h := decodeFrom_three o (Nat.not_le.1 h2) h3 (by omega) s
        rw [hc] at h
        exact h
      · next h1 h2 h3 =>
        refine ⟨o + 4, ?_⟩
        have h := decodeFrom_four o (Nat.not_le.1 h3) (by omega) s
        rw [hc] at h
        exact h

/-! ## Whole texts -/

theorem decodeFrom_encode (o : Nat) (cs : List Char) : decodeFrom o none (encode cs) = .ok cs := by
  induction cs generalizing o with
  | nil => rfl
  | cons c cs ih =>
    obtain ⟨o', h⟩ := decodeFrom_utf8EncodeChar o c (encode cs)
    rw [encode_cons, h, ih]
    rfl

theorem decode_encode (cs : List Char) : decode (encode cs) = .ok cs := decodeFrom_encode 0 cs

theorem map_eq_ok {ε α β : Type} {f : α → β} {x : Except ε α} {b : β} (h : f <$> x = .ok b) :
    ∃ a, x = .ok a ∧ f a = b := by
  cases x with
  | error e => cases h
  | ok a => cases h; exact ⟨a, rfl, rfl⟩

/-- Octets that decode are decoded the same way when more follow. -/
theorem decodeFrom_append {o : Nat} {under : Option Partial} {p : List UInt8} {cs : List Char}
    (h : decodeFrom o under p = .ok cs) (s : List UInt8) :
    decodeFrom o under (p ++ s) = (cs ++ ·) <$> decodeFrom (o + p.length) none s := by
  induction p generalizing o under cs with
  | nil =>
    cases under with
    | some p => cases h
    | none =>
      cases h
      exact (id_map (decodeFrom o none s)).symm
  | cons b p ih =>
    have hlen : o + (b :: p).length = o + 1 + p.length := by
      rw [List.length_cons]
      omega
    rw [List.cons_append, hlen]
    cases under with
    | none =>
      simp only [decodeFrom] at h ⊢
      split at h
      · next hb =>
        obtain ⟨es, he, rfl⟩ := map_eq_ok h
        rw [if_pos hb, ih he]
        exact (comp_map _ _ _).symm
      · next hb =>
        rw [if_neg hb]
        split at h
        · cases h
        · next q hq => exact ih h
    | some q =>
      simp only [decodeFrom] at h ⊢
      split at h
      · next hb =>
        rw [if_pos hb]
        split at h
        · next ho =>
          obtain ⟨es, he, rfl⟩ := map_eq_ok h
          rw [if_pos ho, ih he]
          exact (comp_map _ _ _).symm
        · next ho =>
          rw [if_neg ho]
          exact ih h
      · cases h

theorem decode_isPrefix {p s : List UInt8} {cs ds : List Char} (hp : p <+: s)
    (hc : decode p = .ok cs) (hd : decode s = .ok ds) : cs <+: ds := by
  obtain ⟨t, rfl⟩ := hp
  rw [decode, decodeFrom_append hc] at hd
  cases ht : decodeFrom (0 + p.length) none t with
  | error e => rw [ht] at hd; cases hd
  | ok es =>
    rw [ht] at hd
    cases hd
    exact List.prefix_append cs es

/-! ## Only encoded text decodes -/

/-- The character in front of octets that decode, by the number of its octets. -/
theorem decodeFrom_cons_eq_ok {o : Nat} {b : UInt8} {s : List UInt8} {cs : List Char}
    (h : decodeFrom o none (b :: s) = .ok cs) :
    (b.toNat < 0x80 ∧ ∃ ds, cs = Char.ofNat b.toNat :: ds ∧ decodeFrom (o + 1) none s = .ok ds) ∨
      ∃ p, 0x80 ≤ b.toNat ∧ Partial.ofLead? o b = some p ∧
        decodeFrom (o + 1) (some p) s = .ok cs := by
  simp only [decodeFrom] at h
  split at h
  · next hb =>
    obtain ⟨ds, hds, rfl⟩ := map_eq_ok h
    exact .inl ⟨UInt8.lt_iff_toNat_lt.1 hb, ds, rfl, hds⟩
  · next hb =>
    split at h
    · cases h
    · next p hp => exact .inr ⟨p, UInt8.le_iff_toNat_le.1 (UInt8.not_lt.1 hb), hp, h⟩

/-- Inside a character the next octet is in its range, and is read as six bits. -/
theorem decodeFrom_some_eq_ok {o : Nat} {p : Partial} {s : List UInt8} {cs : List Char}
    (h : decodeFrom o (some p) s = .ok cs) :
    ∃ b t, s = b :: t ∧ p.low.toNat ≤ b.toNat ∧ b.toNat ≤ p.high.toNat ∧
      if p.owed = 0 then
        ∃ ds, cs = Char.ofNat (p.extend b) :: ds ∧ decodeFrom (o + 1) none t = .ok ds
      else decodeFrom (o + 1) (some (p.push b)) t = .ok cs := by
  cases s with
  | nil => cases h
  | cons b t =>
    simp only [decodeFrom] at h
    split at h
    · next hb =>
      refine ⟨b, t, rfl, UInt8.le_iff_toNat_le.1 hb.1, UInt8.le_iff_toNat_le.1 hb.2, ?_⟩
      split at h
      · next ho =>
        obtain ⟨ds, hds, rfl⟩ := map_eq_ok h
        rw [if_pos ho]
        exact ⟨ds, rfl, hds⟩
      · next ho =>
        rw [if_neg ho]
        exact h
    · cases h

theorem ofLead?_eq_some {o : Nat} {b : UInt8} {p : Partial} (h : Partial.ofLead? o b = some p) :
    0xC2 ≤ b.toNat ∧ b.toNat ≤ 0xF4 := by
  have heq (n : UInt8) : b = n ↔ b.toNat = n.toNat := UInt8.toNat_inj.symm
  simp only [Partial.ofLead?, UInt8.le_iff_toNat_le, heq, UInt8.toNat_ofNat, Nat.reduceMod,
    Nat.reducePow] at h
  grind

theorem val_ofNat {v : Nat} (h : v < 0xD800 ∨ 0xDFFF < v ∧ v < 0x110000) :
    (Char.ofNat v).val.toNat = v := by
  have hv : v.isValidChar := h
  rw [Char.ofNat, dif_pos hv]
  rfl

theorem utf8EncodeChar_two {v : Nat} (hl : 0x80 ≤ v) (hu : v ≤ 0x7FF) :
    String.utf8EncodeChar (Char.ofNat v) = [UInt8.ofNat (v / 64 % 32 + 0xC0), tail v] := by
  have hvalid : v < 0xD800 ∨ 0xDFFF < v ∧ v < 0x110000 := by omega
  have h1 : ¬v ≤ 0x7f := by omega
  simp only [String.utf8EncodeChar, val_ofNat hvalid, if_neg h1, if_pos hu]
  rfl

theorem utf8EncodeChar_three {v : Nat} (hl : 0x800 ≤ v) (hu : v ≤ 0xFFFF)
    (hs : v < 0xD800 ∨ 0xDFFF < v) :
    String.utf8EncodeChar (Char.ofNat v) =
      [UInt8.ofNat (v / 4096 % 16 + 0xE0), tail (v / 64), tail v] := by
  have hvalid : v < 0xD800 ∨ 0xDFFF < v ∧ v < 0x110000 := by omega
  have h1 : ¬v ≤ 0x7f := by omega
  have h2 : ¬v ≤ 0x7ff := by omega
  simp only [String.utf8EncodeChar, val_ofNat hvalid, if_neg h1, if_neg h2,
    if_pos hu]
  rfl

theorem utf8EncodeChar_four {v : Nat} (hl : 0x10000 ≤ v) (hu : v < 0x110000) :
    String.utf8EncodeChar (Char.ofNat v) =
      [UInt8.ofNat (v / 262144 % 8 + 0xF0), tail (v / 4096), tail (v / 64), tail v] := by
  have hvalid : v < 0xD800 ∨ 0xDFFF < v ∧ v < 0x110000 := by omega
  have h1 : ¬v ≤ 0x7f := by omega
  have h2 : ¬v ≤ 0x7ff := by omega
  have h3 : ¬v ≤ 0xffff := by omega
  simp only [String.utf8EncodeChar, val_ofNat hvalid, if_neg h1, if_neg h2,
    if_neg h3]
  rfl

/-- An octet behind the first is the tail of every number that ends in its six bits. -/
theorem tail_eq {b : UInt8} {v : Nat} (hl : 0x80 ≤ b.toNat) (hu : b.toNat ≤ 0xBF)
    (hv : v % 64 = b.toNat % 64) : tail v = b := by
  rw [tail, hv, show b.toNat % 64 + 0x80 = b.toNat by omega, UInt8.ofNat_toNat]

theorem lead_eq (b : UInt8) {n : Nat} (h : n = b.toNat) : UInt8.ofNat n = b := by
  rw [h, UInt8.ofNat_toNat]

/-- The octets of the character under way, from its first octet on. -/
theorem exists_of_decodeFrom_lead {o : Nat} {b : UInt8} {p : Partial} {s : List UInt8}
    {cs : List Char} (hp : Partial.ofLead? o b = some p)
    (h : decodeFrom (o + 1) (some p) s = .ok cs) :
    ∃ c ds t o', cs = c :: ds ∧ b :: s = String.utf8EncodeChar c ++ t ∧
      decodeFrom o' none t = .ok ds := by
  obtain ⟨hl, hu⟩ := ofLead?_eq_some hp
  obtain ⟨b₁, s₁, rfl, hl₁, hu₁, h₁⟩ := decodeFrom_some_eq_ok h
  by_cases h2 : b.toNat ≤ 0xDF
  · cases (ofLead?_two o hl h2).symm.trans hp
    obtain ⟨ds, rfl, hds⟩ := h₁
    refine ⟨_, ds, s₁, _, rfl, ?_, hds⟩
    simp only [Partial.extend, UInt8.toNat_ofNat, Nat.reduceMod, Nat.reducePow] at hl₁ hu₁ ⊢
    rw [utf8EncodeChar_two (by omega) (by omega), tail_eq hl₁ hu₁ (by omega),
      lead_eq b (by omega)]
    rfl
  by_cases h3 : b.toNat ≤ 0xEF
  · cases (ofLead?_three o (Nat.not_le.1 h2) h3).symm.trans hp
    obtain ⟨b₂, s₂, rfl, hl₂, hu₂, ds, rfl, hds⟩ := decodeFrom_some_eq_ok h₁
    refine ⟨_, ds, s₂, _, rfl, ?_, hds⟩
    dsimp only at hl₁ hu₁
    have hlow : 0x80 ≤ b₁.toNat ∧ (b.toNat = 0xE0 → 0xA0 ≤ b₁.toNat) := by
      revert hl₁
      split <;> simp only [UInt8.toNat_ofNat, Nat.reduceMod, Nat.reducePow] <;> omega
    have hhigh : b₁.toNat ≤ 0xBF ∧ (b.toNat = 0xED → b₁.toNat ≤ 0x9F) := by
      revert hu₁
      split <;> simp only [UInt8.toNat_ofNat, Nat.reduceMod, Nat.reducePow] <;> omega
    simp only [Partial.extend, Partial.push, UInt8.toNat_ofNat, Nat.reduceMod,
      Nat.reducePow, Nat.reduceSub] at hl₂ hu₂ ⊢
    rw [utf8EncodeChar_three (by omega) (by omega) (by omega),
      tail_eq hlow.1 hhigh.1 (by omega), tail_eq hl₂ hu₂ (by omega),
      lead_eq b (by omega)]
    rfl
  · cases (ofLead?_four o (Nat.not_le.1 h3) hu).symm.trans hp
    obtain ⟨b₂, s₂, rfl, hl₂, hu₂, h₂⟩ := decodeFrom_some_eq_ok h₁
    obtain ⟨b₃, s₃, rfl, hl₃, hu₃, ds, rfl, hds⟩ := decodeFrom_some_eq_ok h₂
    refine ⟨_, ds, s₃, _, rfl, ?_, hds⟩
    dsimp only at hl₁ hu₁
    have hlow : 0x80 ≤ b₁.toNat ∧ (b.toNat = 0xF0 → 0x90 ≤ b₁.toNat) := by
      revert hl₁
      split <;> simp only [UInt8.toNat_ofNat, Nat.reduceMod, Nat.reducePow] <;> omega
    have hhigh : b₁.toNat ≤ 0xBF ∧ (b.toNat = 0xF4 → b₁.toNat ≤ 0x8F) := by
      revert hu₁
      split <;> simp only [UInt8.toNat_ofNat, Nat.reduceMod, Nat.reducePow] <;> omega
    simp only [Partial.extend, Partial.push, UInt8.toNat_ofNat, Nat.reduceMod,
      Nat.reducePow, Nat.reduceSub] at hl₂ hu₂ hl₃ hu₃ ⊢
    rw [utf8EncodeChar_four (by omega) (by omega), tail_eq hlow.1 hhigh.1 (by omega),
      tail_eq hl₂ hu₂ (by omega), tail_eq hl₃ hu₃ (by omega), lead_eq b (by omega)]
    rfl

theorem eq_encode_of_decodeFrom {o : Nat} {s : List UInt8} {cs : List Char}
    (h : decodeFrom o none s = .ok cs) : s = encode cs := by
  -- The recursion is on the characters, each of which takes several octets.
  induction cs generalizing o s with
  | nil =>
    cases s with
    | nil => rfl
    | cons b s =>
      rcases decodeFrom_cons_eq_ok h with ⟨-, ds, hds, -⟩ | ⟨p, -, hp, hs⟩
      · cases hds
      · obtain ⟨c, ds, t, o', hc, -⟩ := exists_of_decodeFrom_lead hp hs
        cases hc
  | cons c cs ih =>
    cases s with
    | nil => cases h
    | cons b s =>
      rcases decodeFrom_cons_eq_ok h with ⟨hb, ds, hds, hs⟩ | ⟨p, -, hp, hs⟩
      · cases hds
        have hlt : (Char.ofNat b.toNat).toNat = b.toNat := val_ofNat (Or.inl (by omega))
        rw [encode_cons, utf8EncodeChar_of_lt (by omega), hlt, UInt8.ofNat_toNat, ← ih hs]
        rfl
      · obtain ⟨c', ds, t, o', hc, hb, ht⟩ := exists_of_decodeFrom_lead hp hs
        cases hc
        rw [hb, ih ht, encode_cons]

theorem decode_eq_ok {s : List UInt8} {cs : List Char} : decode s = .ok cs ↔ s = encode cs := by
  constructor
  · intro h
    exact eq_encode_of_decodeFrom h
  · rintro rfl
    exact decode_encode cs

/-! ## ASCII -/

/-- The character of an octet below `0x80`. -/
def ascii (b : UInt8) : Char := Char.ofNat b.toNat

theorem toNat_ascii {b : UInt8} (hb : b.toNat < 0x80) : (ascii b).toNat = b.toNat := by
  have hvalid : b.toNat.isValidChar := Or.inl (by omega)
  rw [ascii, Char.ofNat, dif_pos hvalid]
  rfl

theorem utf8EncodeChar_ascii {b : UInt8} (hb : b.toNat < 0x80) :
    String.utf8EncodeChar (ascii b) = [b] := by
  have hlt : (ascii b).toNat < 0x80 := by
    rw [toNat_ascii hb]
    exact hb
  rw [utf8EncodeChar_of_lt hlt, toNat_ascii hb, UInt8.ofNat_toNat]

theorem encode_map_ascii {s : List UInt8} (hs : ∀ b ∈ s, b.toNat < 0x80) :
    encode (s.map ascii) = s := by
  induction s with
  | nil => rfl
  | cons b s ih =>
    rw [List.map_cons, encode_cons, utf8EncodeChar_ascii (hs b List.mem_cons_self),
      ih fun c hc => hs c (List.mem_cons_of_mem b hc)]
    rfl

/-- A character that has an octet in ASCII is that octet's. -/
theorem eq_ascii_of_mem {c : Char} {b : UInt8} (hb : b.toNat < 0x80)
    (hm : b ∈ String.utf8EncodeChar c) : c = ascii b := by
  by_cases hc : c.toNat < 0x80
  · rw [utf8EncodeChar_of_lt hc, List.mem_singleton] at hm
    have hn : b.toNat = c.toNat := by
      rw [hm, UInt8.toNat_ofNat']
      omega
    rw [ascii, hn]
    exact (Char.ofNat_toNat c).symm
  · have := le_of_mem_utf8EncodeChar (Nat.not_lt.1 hc) b hm
    omega

theorem exists_of_encode_eq_cons {cs : List Char} {b : UInt8} {s : List UInt8}
    (hb : b.toNat < 0x80) (h : encode cs = b :: s) :
    ∃ ds, cs = ascii b :: ds ∧ encode ds = s := by
  cases cs with
  | nil => cases h
  | cons c cs =>
    rw [encode_cons] at h
    have hm : b ∈ String.utf8EncodeChar c := by
      cases hc : String.utf8EncodeChar c with
      | nil => exact absurd hc String.utf8EncodeChar_ne_nil
      | cons a as =>
        rw [hc, List.cons_append, List.cons.injEq] at h
        rw [h.1]
        exact List.mem_cons_self
    have hc := eq_ascii_of_mem hb hm
    rw [hc, utf8EncodeChar_ascii hb, List.singleton_append, List.cons.injEq] at h
    exact ⟨cs, by rw [hc], h.2⟩

theorem exists_of_encode_eq_concat {cs : List Char} {b : UInt8} {s : List UInt8}
    (hb : b.toNat < 0x80) (h : encode cs = s ++ [b]) :
    ∃ ds, cs = ds ++ [ascii b] ∧ encode ds = s := by
  rcases List.eq_nil_or_concat' cs with rfl | ⟨ds, c, rfl⟩
  · simp at h
  · rw [encode_append, encode_cons, encode_nil, List.append_nil] at h
    have hm : b ∈ String.utf8EncodeChar c := by
      rcases List.eq_nil_or_concat' (String.utf8EncodeChar c) with hc | ⟨as, a, hc⟩
      · exact absurd hc String.utf8EncodeChar_ne_nil
      · rw [hc, ← List.append_assoc] at h
        have hab := List.append_inj_right' h rfl
        rw [hc, ← List.singleton_inj.1 hab]
        exact List.mem_append_right as List.mem_cons_self
    have hc := eq_ascii_of_mem hb hm
    rw [hc, utf8EncodeChar_ascii hb] at h
    exact ⟨ds, by rw [hc], List.append_cancel_right h⟩

/-- ASCII at the beginning of a text's octets is the beginning of the text. -/
theorem exists_of_encode_eq_append_left {cs : List Char} {w s : List UInt8}
    (hw : ∀ b ∈ w, b.toNat < 0x80) (h : encode cs = w ++ s) :
    ∃ ds, cs = w.map ascii ++ ds ∧ encode ds = s := by
  induction w generalizing cs with
  | nil => exact ⟨cs, rfl, h⟩
  | cons b w ih =>
    obtain ⟨ds, rfl, hd⟩ := exists_of_encode_eq_cons (hw b List.mem_cons_self) h
    obtain ⟨es, rfl, he⟩ := ih (fun c hc => hw c (List.mem_cons_of_mem b hc)) hd
    exact ⟨es, rfl, he⟩

/-- ASCII at the end of a text's octets is the end of the text. -/
theorem exists_of_encode_eq_append_right {cs : List Char} {w s : List UInt8}
    (hw : ∀ b ∈ w, b.toNat < 0x80) (h : encode cs = s ++ w) :
    ∃ ds, cs = ds ++ w.map ascii ∧ encode ds = s := by
  induction w generalizing s with
  | nil => exact ⟨cs, (List.append_nil cs).symm, by rw [h, List.append_nil]⟩
  | cons b w ih =>
    rw [List.append_cons] at h
    obtain ⟨ds, rfl, hd⟩ := ih (fun c hc => hw c (List.mem_cons_of_mem b hc)) h
    obtain ⟨es, rfl, he⟩ := exists_of_encode_eq_concat (hw b List.mem_cons_self) hd
    exact ⟨es, by simp, he⟩

end RtpBridge.Utf8

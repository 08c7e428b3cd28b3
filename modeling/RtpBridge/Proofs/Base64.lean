-- SUMMARY: Decoding base64 takes encoded text and nothing else, and a text cut short holds the beginning of what the whole holds.
import RtpBridge.Base64

/-!
# Base64: laws

`decode_encode` says that decoding inverts encoding for octets of every length, and
`decode_eq_ok` that there is no second way to write them.
`decode_isPrefix` says what a text cut short can hold: since a group is whole or
padded, and padding ends a text, nothing but a beginning of what the whole holds.
-/

namespace RtpBridge.Base64

/-! ## Symbols -/

theorem readSymbol_eq_ok {o : Nat} {b : UInt8} {n : Nat} :
    readSymbol o b = .ok n ↔ bits? b = some n := by
  unfold readSymbol
  split
  · next m hm => rw [hm, Except.ok.injEq, Option.some.injEq]
  · next hn => rw [hn]; exact ⟨nofun, nofun⟩

theorem ne_padding_of_bits? {b : UInt8} {n : Nat} (h : bits? b = some n) : b ≠ padding := by
  rintro rfl
  cases h

/-- Symbols and padding are visible ASCII below the opening brace. -/
theorem toNat_symbol_bounds {n : Nat} (h : n < 64) :
    0x20 < (symbol n).toNat ∧ (symbol n).toNat < 0x7B := by
  have : ∀ m : Fin 64, 0x20 < (symbol m.val).toNat ∧ (symbol m.val).toNat < 0x7B := by decide
  exact this ⟨n, h⟩

/-! ## Encoded text -/

theorem toNat_bounds_of_mem_encode {s : List UInt8} :
    ∀ b ∈ encode s, 0x20 < b.toNat ∧ b.toNat < 0x7B := by
  have hpad : 0x20 < padding.toNat ∧ padding.toNat < 0x7B := by decide
  induction s using encode.induct with
  | case1 a b c rest ih =>
    have := a.toNat_lt
    have := b.toNat_lt
    have := c.toNat_lt
    intro x hx
    simp only [encode, List.mem_cons] at hx
    rcases hx with rfl | rfl | rfl | rfl | hx
    · exact toNat_symbol_bounds (by omega)
    · exact toNat_symbol_bounds (by omega)
    · exact toNat_symbol_bounds (by omega)
    · exact toNat_symbol_bounds (by omega)
    · exact ih x hx
  | case2 a b =>
    have := a.toNat_lt
    have := b.toNat_lt
    intro x hx
    simp only [encode, List.mem_cons, List.not_mem_nil, or_false] at hx
    rcases hx with rfl | rfl | rfl | rfl
    · exact toNat_symbol_bounds (by omega)
    · exact toNat_symbol_bounds (by omega)
    · exact toNat_symbol_bounds (by omega)
    · exact hpad
  | case3 a =>
    have := a.toNat_lt
    intro x hx
    simp only [encode, List.mem_cons, List.not_mem_nil, or_false] at hx
    rcases hx with rfl | rfl | rfl | rfl
    · exact toNat_symbol_bounds (by omega)
    · exact toNat_symbol_bounds (by omega)
    · exact hpad
    · exact hpad
  | case4 => intro x hx; cases hx

theorem length_encode_mod (s : List UInt8) : (encode s).length % 4 = 0 := by
  induction s using encode.induct with
  | case1 a b c rest ih =>
    simp only [encode, List.length_cons]
    omega
  | case2 a b => simp only [encode, List.length_cons, List.length_nil]
  | case3 a => simp only [encode, List.length_cons, List.length_nil]
  | case4 => rfl

theorem eq_nil_of_encode_eq_nil {s : List UInt8} (h : encode s = []) : s = [] := by
  unfold encode at h
  split at h
  · cases h
  · cases h
  · cases h
  · rfl

/-! ## Groups -/

/-- The octets that four symbols with these bits hold. -/
def groupOctets (p q r s : Nat) : List UInt8 :=
  [UInt8.ofNat (p * 4 + q / 16), UInt8.ofNat (q % 16 * 16 + r / 4), UInt8.ofNat (r % 4 * 64 + s)]

theorem readGroup_eq_ok {o : Nat} {a b c d : UInt8} {octets : List UInt8} :
    readGroup o a b c d = .ok octets ↔ ∃ p q r s, bits? a = some p ∧ bits? b = some q ∧
      bits? c = some r ∧ bits? d = some s ∧ octets = groupOctets p q r s := by
  simp only [readGroup]
  constructor
  · intro h
    cases ha : readSymbol o a with
    | error e => rw [ha] at h; cases h
    | ok p =>
      cases hb : readSymbol (o + 1) b with
      | error e => rw [ha, hb] at h; cases h
      | ok q =>
        cases hc : readSymbol (o + 2) c with
        | error e => rw [ha, hb, hc] at h; cases h
        | ok r =>
          cases hd : readSymbol (o + 3) d with
          | error e => rw [ha, hb, hc, hd] at h; cases h
          | ok s =>
            rw [ha, hb, hc, hd] at h
            cases h
            exact ⟨p, q, r, s, readSymbol_eq_ok.1 ha, readSymbol_eq_ok.1 hb, readSymbol_eq_ok.1 hc,
              readSymbol_eq_ok.1 hd, rfl⟩
  · rintro ⟨p, q, r, s, ha, hb, hc, hd, rfl⟩
    rw [readSymbol_eq_ok.2 ha, readSymbol_eq_ok.2 hb, readSymbol_eq_ok.2 hc, readSymbol_eq_ok.2 hd]
    rfl

theorem readTail_symbol {o n : Nat} {b : UInt8} (hb : bits? b = some n)
    (symbols : List (UInt8 × Nat)) (s : List UInt8) :
    readTail o ⟨symbols, 0⟩ (b :: s) = readTail o ⟨symbols ++ [(b, n)], 0⟩ s := by
  simp only [readTail, ne_padding_of_bits? hb, hb, ne_eq, not_true_eq_false, if_false]

theorem readTail_padding {o : Nat} {symbols : List (UInt8 × Nat)} (h : 2 ≤ symbols.length)
    (n : Nat) (s : List UInt8) :
    readTail o ⟨symbols, n⟩ (padding :: s) = readTail o ⟨symbols, n + 1⟩ s := by
  simp only [readTail, Nat.not_lt.2 h, if_true, if_false]

/-- A whole last group holds what it would hold before another group. -/
theorem decodeFrom_four {o p q r s : Nat} {a b c d : UInt8} (ha : bits? a = some p)
    (hb : bits? b = some q) (hc : bits? c = some r) (hd : bits? d = some s) :
    decodeFrom o [a, b, c, d] = .ok (groupOctets p q r s) := by
  simp only [decodeFrom]
  rw [readTail_symbol ha, readTail_symbol hb, readTail_symbol hc, readTail_symbol hd]
  rfl

theorem decodeFrom_three {o p q r : Nat} {a b c : UInt8} (ha : bits? a = some p)
    (hb : bits? b = some q) (hc : bits? c = some r) (hr : r % 4 = 0) :
    decodeFrom o [a, b, c, padding] =
      .ok [UInt8.ofNat (p * 4 + q / 16), UInt8.ofNat (q % 16 * 16 + r / 4)] := by
  simp only [decodeFrom]
  rw [readTail_symbol ha, readTail_symbol hb, readTail_symbol hc,
    readTail_padding (by simp)]
  simp [readTail, bind, Except.bind, finish, hr]

theorem decodeFrom_two {o p q : Nat} {a b : UInt8} (ha : bits? a = some p)
    (hb : bits? b = some q) (hq : q % 16 = 0) :
    decodeFrom o [a, b, padding, padding] = .ok [UInt8.ofNat (p * 4 + q / 16)] := by
  simp only [decodeFrom]
  rw [readTail_symbol ha, readTail_symbol hb, readTail_padding (by simp),
    readTail_padding (by simp)]
  simp [readTail, bind, Except.bind, finish, hq]

/-! ## Decoding what was encoded -/

theorem ofNat_eq {n : Nat} {b : UInt8} (h : n = b.toNat) : UInt8.ofNat n = b := by
  rw [h, UInt8.ofNat_toNat]

theorem groupOctets_eq (a b c : UInt8) :
    groupOctets (a.toNat / 4) (a.toNat % 4 * 16 + b.toNat / 16)
      (b.toNat % 16 * 4 + c.toNat / 64) (c.toNat % 64) = [a, b, c] := by
  have := a.toNat_lt
  have := b.toNat_lt
  have := c.toNat_lt
  rw [groupOctets, ofNat_eq (b := a) (by omega), ofNat_eq (b := b) (by omega),
    ofNat_eq (b := c) (by omega)]

theorem decodeFrom_encode (o : Nat) (s : List UInt8) : decodeFrom o (encode s) = .ok s := by
  induction s using encode.induct generalizing o with
  | case1 a b c rest ih =>
    have := a.toNat_lt
    have := b.toNat_lt
    have := c.toNat_lt
    have hp : bits? (symbol (a.toNat / 4)) = some (a.toNat / 4) := bits?_symbol (by omega)
    have hq := bits?_symbol (n := a.toNat % 4 * 16 + b.toNat / 16) (by omega)
    have hr := bits?_symbol (n := b.toNat % 16 * 4 + c.toNat / 64) (by omega)
    have hs : bits? (symbol (c.toNat % 64)) = some (c.toNat % 64) := bits?_symbol (by omega)
    cases he : encode rest with
    | nil =>
      rw [encode, he, decodeFrom_four hp hq hr hs, groupOctets_eq, eq_nil_of_encode_eq_nil he]
    | cons e es =>
      have hrest := ih (o + 4)
      rw [he] at hrest
      have hgroup := (readGroup_eq_ok (o := o)).2 ⟨_, _, _, _, hp, hq, hr, hs, rfl⟩
      simp only [encode, he, decodeFrom, hrest, hgroup, groupOctets_eq]
      rfl
  | case2 a b =>
    have := a.toNat_lt
    have := b.toNat_lt
    rw [encode, decodeFrom_three (bits?_symbol (by omega)) (bits?_symbol (by omega))
      (bits?_symbol (by omega)) (by omega), ofNat_eq (b := a) (by omega),
      ofNat_eq (b := b) (by omega)]
  | case3 a =>
    have := a.toNat_lt
    rw [encode, decodeFrom_two (bits?_symbol (by omega)) (bits?_symbol (by omega)) (by omega),
      ofNat_eq (b := a) (by omega)]
  | case4 => rfl

theorem decode_encode (s : List UInt8) : decode (encode s) = .ok s := by
  have hstray : strayEnd? (encode s) = none := by
    rw [strayEnd?, length_encode_mod]
    rfl
  rw [decode, hstray]
  exact decodeFrom_encode 0 s

/-! ## Decoding a text cut short -/

/-- Each octet of the last group is a symbol or padding, and the symbols stay. -/
theorem length_readTail {o : Nat} {tail t : Tail} {s : List UInt8}
    (h : readTail o tail s = .ok t) :
    t.symbols.length + t.padding = tail.symbols.length + tail.padding + s.length ∧
      tail.symbols.length ≤ t.symbols.length := by
  fun_induction readTail o tail s with
  | case1 tail => cases h; exact ⟨rfl, Nat.le_refl _⟩
  | case2 => cases h
  | case3 tail rest n hn ih =>
    obtain ⟨hlen, hle⟩ := ih h
    simp only [List.length_cons] at hlen ⊢
    exact ⟨by omega, hle⟩
  | case4 => cases h
  | case5 => cases h
  | case6 tail b rest hb hp v hv ih =>
    obtain ⟨hlen, hle⟩ := ih h
    simp only [List.length_append, List.length_cons, List.length_nil] at hlen hle ⊢
    exact ⟨by omega, by omega⟩

theorem readTail_cons_ne_nil {o : Nat} {b : UInt8} {s : List UInt8} {t : Tail}
    (h : readTail o ⟨[], 0⟩ (b :: s) = .ok t) : 0 < t.symbols.length := by
  simp only [readTail] at h
  split at h
  · cases h
  · split at h
    · next h0 => exact absurd rfl h0
    · split at h
      · cases h
      · exact (length_readTail h).2

theorem length_of_finish {o : Nat} {t : Tail} {octets : List UInt8}
    (h : finish o t = .ok octets) : t.symbols.length = 0 ∨ t.symbols.length + t.padding = 4 := by
  simp only [finish] at h
  split at h
  · cases h
  · split at h
    · cases h
    · omega

/-- A last group is empty or whole. -/
theorem length_of_last {o : Nat} {s octets : List UInt8} (hs : s.length ≤ 4)
    (h : decodeFrom o s = .ok octets) : s = [] ∨ s.length = 4 := by
  cases s with
  | nil => exact .inl rfl
  | cons b s =>
    right
    have hlast : decodeFrom o (b :: s) = readTail o ⟨[], 0⟩ (b :: s) >>= finish o := by
      unfold decodeFrom
      split
      · next heq =>
        rw [heq] at hs
        simp only [List.length_cons] at hs
        omega
      · rfl
    rw [hlast] at h
    cases ht : readTail o ⟨[], 0⟩ (b :: s) with
    | error e => rw [ht] at h; cases h
    | ok t =>
      rw [ht] at h
      have hpos := readTail_cons_ne_nil ht
      have hlen := (length_readTail ht).1
      have hfin := length_of_finish h
      simp only [List.length_nil] at hlen
      omega

theorem decodeFrom_cons_eq_ok {o : Nat} {a b c d e : UInt8} {s octets : List UInt8} :
    decodeFrom o (a :: b :: c :: d :: e :: s) = .ok octets ↔
      ∃ group rest, readGroup o a b c d = .ok group ∧ decodeFrom (o + 4) (e :: s) = .ok rest ∧
        octets = group ++ rest := by
  simp only [decodeFrom]
  constructor
  · intro h
    cases hg : readGroup o a b c d with
    | error f => rw [hg] at h; cases h
    | ok group =>
      cases hr : decodeFrom (o + 4) (e :: s) with
      | error f => rw [hg, hr] at h; cases h
      | ok rest => rw [hg, hr] at h; cases h; exact ⟨group, rest, rfl, rfl, rfl⟩
  · rintro ⟨group, rest, hg, hr, rfl⟩
    rw [hg, hr]
    rfl

theorem decodeFrom_isPrefix {o : Nat} {p s x y : List UInt8} (hp : p <+: s)
    (hx : decodeFrom o p = .ok x) (hy : decodeFrom o s = .ok y) : x <+: y := by
  obtain ⟨u, rfl⟩ := hp
  induction o, p using decodeFrom.induct generalizing x y with
  | case1 o a b c d e rest ih =>
    obtain ⟨g, x', hg, hx', rfl⟩ := decodeFrom_cons_eq_ok.1 hx
    obtain ⟨g', y', hg', hy', rfl⟩ := decodeFrom_cons_eq_ok.1 hy
    rw [hg, Except.ok.injEq] at hg'
    rw [← hg']
    exact (List.prefix_append_right_inj g).2 (ih hx' hy')
  | case2 o last hlast =>
    have hshort : last.length ≤ 4 := by
      match last, hlast with
      | [], _ | [_], _ | [_, _], _ | [_, _, _], _ | [_, _, _, _], _ => simp
      | a :: b :: c :: d :: e :: rest, hlast => exact absurd rfl (hlast a b c d e rest)
    rcases length_of_last hshort hx with rfl | hfour
    · cases hx
      exact List.nil_prefix
    · match last, hfour with
      | [a, b, c, d], _ =>
        cases u with
        | nil =>
          rw [List.append_nil, hx, Except.ok.injEq] at hy
          exact hy ▸ List.prefix_rfl
        | cons e u =>
          -- The group was the last one of the short text, and is not of the long one.
          obtain ⟨g, rest, hg, -, rfl⟩ := decodeFrom_cons_eq_ok.1 hy
          obtain ⟨p, q, r, s, ha, hb, hc, hd, rfl⟩ := readGroup_eq_ok.1 hg
          rw [decodeFrom_four ha hb hc hd, Except.ok.injEq] at hx
          rw [← hx]
          exact List.prefix_append _ rest

theorem decodeFrom_of_decode {s octets : List UInt8} (h : decode s = .ok octets) :
    decodeFrom 0 s = .ok octets := by
  unfold decode at h
  split at h
  · cases h
  · exact h

theorem decode_isPrefix {p s x y : List UInt8} (hp : p <+: s) (hx : decode p = .ok x)
    (hy : decode s = .ok y) : x <+: y :=
  decodeFrom_isPrefix hp (decodeFrom_of_decode hx) (decodeFrom_of_decode hy)

/-! ## Decoding takes nothing but encoded text -/

theorem eq_symbol_of_bits? {b : UInt8} {n : Nat} (h : bits? b = some n) :
    b = symbol n ∧ n < 64 := by
  simp only [bits?, UInt8.le_iff_toNat_le, UInt8.toNat_ofNat, Nat.reduceMod, Nat.reducePow] at h
  simp only [symbol]
  split at h
  · cases h
    rw [if_pos (by omega)]
    exact ⟨(ofNat_eq (by omega)).symm, by omega⟩
  · split at h
    · cases h
      rw [if_neg (by omega), if_pos (by omega)]
      exact ⟨(ofNat_eq (by omega)).symm, by omega⟩
    · split at h
      · cases h
        rw [if_neg (by omega), if_neg (by omega), if_pos (by omega)]
        exact ⟨(ofNat_eq (by omega)).symm, by omega⟩
      · split at h
        · next hb =>
          cases h
          exact ⟨hb, by decide⟩
        · split at h
          · next hb =>
            cases h
            exact ⟨hb, by decide⟩
          · cases h

theorem toNat_ofNat_of_le {n : Nat} (h : n ≤ 0xFF) : (UInt8.ofNat n).toNat = n :=
  UInt8.toNat_ofNat_of_lt' (Nat.lt_succ_of_le h)

/-- Four symbols are the encoding of the octets that they hold. -/
theorem encode_groupOctets {p q r s : Nat} (hp : p < 64) (hq : q < 64) (hr : r < 64) (hs : s < 64)
    (rest : List UInt8) :
    encode (groupOctets p q r s ++ rest) =
      symbol p :: symbol q :: symbol r :: symbol s :: encode rest := by
  have hx : (UInt8.ofNat (p * 4 + q / 16)).toNat = p * 4 + q / 16 := toNat_ofNat_of_le (by omega)
  have hy : (UInt8.ofNat (q % 16 * 16 + r / 4)).toNat = q % 16 * 16 + r / 4 :=
    toNat_ofNat_of_le (by omega)
  have hz : (UInt8.ofNat (r % 4 * 64 + s)).toNat = r % 4 * 64 + s := toNat_ofNat_of_le (by omega)
  have hp' : (p * 4 + q / 16) / 4 = p := by omega
  have hq' : (p * 4 + q / 16) % 4 * 16 + (q % 16 * 16 + r / 4) / 16 = q := by omega
  have hr' : (q % 16 * 16 + r / 4) % 16 * 4 + (r % 4 * 64 + s) / 64 = r := by omega
  have hs' : (r % 4 * 64 + s) % 64 = s := by omega
  simp only [groupOctets, List.cons_append, List.nil_append, encode, hx, hy, hz, hp', hq', hr',
    hs']

theorem encode_three {p q r : Nat} (hp : p < 64) (hq : q < 64) (hr : r < 64) (hzero : r % 4 = 0) :
    encode [UInt8.ofNat (p * 4 + q / 16), UInt8.ofNat (q % 16 * 16 + r / 4)] =
      [symbol p, symbol q, symbol r, padding] := by
  have hx : (UInt8.ofNat (p * 4 + q / 16)).toNat = p * 4 + q / 16 := toNat_ofNat_of_le (by omega)
  have hy : (UInt8.ofNat (q % 16 * 16 + r / 4)).toNat = q % 16 * 16 + r / 4 :=
    toNat_ofNat_of_le (by omega)
  have hp' : (p * 4 + q / 16) / 4 = p := by omega
  have hq' : (p * 4 + q / 16) % 4 * 16 + (q % 16 * 16 + r / 4) / 16 = q := by omega
  have hr' : (q % 16 * 16 + r / 4) % 16 * 4 = r := by omega
  simp only [encode, hx, hy, hp', hq', hr']

theorem encode_two {p q : Nat} (hp : p < 64) (hq : q < 64) (hzero : q % 16 = 0) :
    encode [UInt8.ofNat (p * 4 + q / 16)] = [symbol p, symbol q, padding, padding] := by
  have hx : (UInt8.ofNat (p * 4 + q / 16)).toNat = p * 4 + q / 16 := toNat_ofNat_of_le (by omega)
  have hp' : (p * 4 + q / 16) / 4 = p := by omega
  have hq' : (p * 4 + q / 16) % 4 * 16 = q := by omega
  simp only [encode, hx, hp', hq']

/-- The text that a last group was read from. -/
def Tail.text (t : Tail) : List UInt8 :=
  t.symbols.map (·.1) ++ List.replicate t.padding Base64.padding

/-- That a tail holds symbols with their bits, and padding only behind two of them. -/
structure Tail.IsRead (t : Tail) : Prop where
  bits : ∀ b n, (b, n) ∈ t.symbols → bits? b = some n
  padding : t.padding ≠ 0 → 2 ≤ t.symbols.length

theorem readTail_eq_ok {o : Nat} {tail t : Tail} {s : List UInt8} (htail : tail.IsRead)
    (h : readTail o tail s = .ok t) : t.IsRead ∧ t.text = tail.text ++ s := by
  fun_induction readTail o tail s with
  | case1 tail =>
    cases h
    exact ⟨htail, (List.append_nil _).symm⟩
  | case2 => cases h
  | case3 tail rest n hn ih =>
    have hread : Tail.IsRead { tail with padding := tail.padding + 1 } :=
      ⟨htail.bits, fun _ => Nat.not_lt.1 hn⟩
    obtain ⟨ht, htext⟩ := ih hread h
    refine ⟨ht, htext.trans ?_⟩
    simp only [Tail.text, List.replicate_succ', List.append_assoc, List.singleton_append]
  | case4 => cases h
  | case5 => cases h
  | case6 tail b rest hb hpadding v hv ih =>
    have hzero : tail.padding = 0 := Decidable.not_not.1 hpadding
    have hread : Tail.IsRead { tail with symbols := tail.symbols ++ [(b, v)] } := by
      refine ⟨fun c m hc => ?_, fun hne => absurd hzero hne⟩
      rcases List.mem_append.1 hc with hc | hc
      · exact htail.bits c m hc
      · cases List.mem_singleton.1 hc
        exact hv
    obtain ⟨ht, htext⟩ := ih hread h
    refine ⟨ht, htext.trans ?_⟩
    simp only [Tail.text, hzero, List.replicate_zero, List.append_nil, List.map_append,
      List.map_cons, List.map_nil, List.append_assoc, List.singleton_append]

/-- A last group that can be read is the encoding of what it holds. -/
theorem text_of_finish {o : Nat} {t : Tail} {octets : List UInt8} (ht : t.IsRead)
    (h : finish o t = .ok octets) : t.text = encode octets := by
  have hlen := length_of_finish h
  have hbits (b : UInt8) (n : Nat) (hb : (b, n) ∈ t.symbols) := eq_symbol_of_bits? (ht.bits b n hb)
  obtain ⟨symbols, pads⟩ := t
  simp only [finish] at h
  split at h
  · cases h
  · next hshort =>
    split at h
    · cases h
    · split at h
      · next a p b q _ =>
        obtain rfl : pads = 2 := by simp only [List.length_cons, List.length_nil] at hlen; omega
        obtain ⟨rfl, hp⟩ := hbits a p (by simp)
        obtain ⟨rfl, hq⟩ := hbits b q (by simp)
        split at h
        · cases h
        · next hzero =>
          cases h
          exact (encode_two hp hq (Decidable.not_not.1 hzero)).symm
      · next a p b q c r _ =>
        obtain rfl : pads = 1 := by simp only [List.length_cons, List.length_nil] at hlen; omega
        obtain ⟨rfl, hp⟩ := hbits a p (by simp)
        obtain ⟨rfl, hq⟩ := hbits b q (by simp)
        obtain ⟨rfl, hr⟩ := hbits c r (by simp)
        split at h
        · cases h
        · next hzero =>
          cases h
          exact (encode_three hp hq hr (Decidable.not_not.1 hzero)).symm
      · next a p b q c r d s _ =>
        obtain rfl : pads = 0 := by simpa using hlen
        obtain ⟨rfl, hp⟩ := hbits a p (by simp)
        obtain ⟨rfl, hq⟩ := hbits b q (by simp)
        obtain ⟨rfl, hr⟩ := hbits c r (by simp)
        obtain ⟨rfl, hs⟩ := hbits d s (by simp)
        cases h
        exact (encode_groupOctets hp hq hr hs []).symm
      · next h₂ h₃ h₄ =>
        -- No other number of symbols is left but none at all, and then there is no padding.
        cases h
        match symbols, ht, hlen, hshort with
        | [], ht, _, _ =>
          have hzero : pads = 0 := Decidable.not_not.1 fun hne => nomatch ht.padding hne
          rw [hzero]
          rfl
        | [_], _, _, hshort => exact absurd ⟨Nat.one_lt_two, Nat.one_ne_zero⟩ hshort
        | [(a, p), (b, q)], _, _, _ => exact absurd rfl (h₂ a p b q)
        | [(a, p), (b, q), (c, r)], _, _, _ => exact absurd rfl (h₃ a p b q c r)
        | [(a, p), (b, q), (c, r), (d, s)], _, _, _ => exact absurd rfl (h₄ a p b q c r d s)
        | _ :: _ :: _ :: _ :: _ :: _, _, hlen, _ =>
          simp only [List.length_cons] at hlen
          omega

theorem eq_encode_of_decodeFrom {o : Nat} {s octets : List UInt8}
    (h : decodeFrom o s = .ok octets) : s = encode octets := by
  induction o, s using decodeFrom.induct generalizing octets with
  | case1 o a b c d e rest ih =>
    obtain ⟨g, octets, hg, hrest, rfl⟩ := decodeFrom_cons_eq_ok.1 h
    obtain ⟨p, q, r, s, ha, hb, hc, hd, rfl⟩ := readGroup_eq_ok.1 hg
    obtain ⟨rfl, hp⟩ := eq_symbol_of_bits? ha
    obtain ⟨rfl, hq⟩ := eq_symbol_of_bits? hb
    obtain ⟨rfl, hr⟩ := eq_symbol_of_bits? hc
    obtain ⟨rfl, hs⟩ := eq_symbol_of_bits? hd
    rw [encode_groupOctets hp hq hr hs, ← ih hrest]
  | case2 o last hlast =>
    have hread : Tail.IsRead ⟨[], 0⟩ := ⟨nofun, fun hne => absurd rfl hne⟩
    rw [decodeFrom] at h
    · cases ht : readTail o ⟨[], 0⟩ last with
      | error e => rw [ht] at h; cases h
      | ok t =>
        rw [ht] at h
        obtain ⟨ht, htext⟩ := readTail_eq_ok hread ht
        exact htext.symm.trans (text_of_finish ht h)
    · exact hlast

/-- A text is decoded to octets just when it is what they are encoded as. -/
theorem decode_eq_ok {s octets : List UInt8} : decode s = .ok octets ↔ s = encode octets := by
  constructor
  · intro h
    exact eq_encode_of_decodeFrom (decodeFrom_of_decode h)
  · rintro rfl
    exact decode_encode octets

end RtpBridge.Base64

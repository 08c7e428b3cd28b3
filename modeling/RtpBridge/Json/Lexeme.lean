-- SUMMARY: The lexical parts of JSON text over octets: blanks, words, numbers and strings.
import RtpBridge.Json.Fault
import RtpBridge.Text.Utf8

/-!
# Lexemes of JSON

Blanks, the three words, numbers and strings, each read off the front of the
octets that are left. Reading never takes more than the lexeme, and the lemmas
named `length_…` say that what is left is shorter.
-/

namespace RtpBridge.Json

/-- Why a lexeme could not be read, or the lexeme and the octets after it. -/
abbrev Lexed (α : Type) := Except Fault (α × List UInt8)

-- ---------------------------------------------------------------------------
-- Single octets
-- ---------------------------------------------------------------------------

def quotationMark : UInt8 := 0x22
def backslash : UInt8 := 0x5C
def comma : UInt8 := 0x2C
def colon : UInt8 := 0x3A
def openBracket : UInt8 := 0x5B
def closeBracket : UInt8 := 0x5D
def openBrace : UInt8 := 0x7B
def closeBrace : UInt8 := 0x7D
def minus : UInt8 := 0x2D

/-- Space, tab, line feed and carriage return. -/
def isBlank (b : UInt8) : Bool := b == 0x20 || b == 0x09 || b == 0x0A || b == 0x0D

def isDigit (b : UInt8) : Bool := 0x30 ≤ b && b ≤ 0x39

def digitValue (b : UInt8) : Nat := b.toNat - 0x30

/-- The value of a hexadecimal digit of either case. -/
def hexValue? (b : UInt8) : Option Nat :=
  if isDigit b then some (digitValue b)
  else if 0x41 ≤ b ∧ b ≤ 0x46 then some (b.toNat - 0x37)
  else if 0x61 ≤ b ∧ b ≤ 0x66 then some (b.toNat - 0x57)
  else none

def skipBlanks (s : List UInt8) : List UInt8 := s.dropWhile isBlank

theorem length_dropWhile_le (p : UInt8 → Bool) (s : List UInt8) :
    (s.dropWhile p).length ≤ s.length := (List.dropWhile_sublist p).length_le

theorem length_skipBlanks_le (s : List UInt8) : (skipBlanks s).length ≤ s.length :=
  length_dropWhile_le _ s

theorem length_lt_of_skipBlanks {s r : List UInt8} {b : UInt8} (h : skipBlanks s = b :: r) :
    r.length < s.length := by
  have := length_skipBlanks_le s
  simp [h] at this
  omega

-- ---------------------------------------------------------------------------
-- Words
-- ---------------------------------------------------------------------------

/-- Reads the octets of `word`, of which the first has been seen already. -/
def readWord (word : List UInt8) (s : List UInt8) : Except Fault (List UInt8) :=
  match word, s with
  | [], s => .ok s
  | _ :: _, [] => .error .endInValue
  | w :: word, b :: s => if b = w then readWord word s else .error .expectedIdent

theorem length_readWord_le {word s r : List UInt8} (h : readWord word s = .ok r) :
    r.length ≤ s.length := by
  fun_induction readWord word s with
  | case1 s => cases h; exact Nat.le_refl _
  | case2 => cases h
  | case3 w word s ih => exact Nat.le_succ_of_le (ih h)
  | case4 => cases h

/-- What follows the `n` of `null`. -/
def nullTail : List UInt8 := [0x75, 0x6C, 0x6C]
/-- What follows the `t` of `true`. -/
def trueTail : List UInt8 := [0x72, 0x75, 0x65]
/-- What follows the `f` of `false`. -/
def falseTail : List UInt8 := [0x61, 0x6C, 0x73, 0x65]

-- ---------------------------------------------------------------------------
-- Numbers
-- ---------------------------------------------------------------------------

/-- A number without its sign: the digits before the point, those after it, and the exponent. -/
structure Numeral where
  whole : List UInt8
  fraction : List UInt8
  /-- Whether there is a fraction or an exponent. -/
  isFloat : Bool
  exponentIsNegative : Bool
  exponent : List UInt8
deriving Repr, DecidableEq

/-- The longest run of digits at the front; `atEnd` is the fault of there being none and
nothing else either. -/
def readDigits (atEnd : Fault) (s : List UInt8) : Lexed (List UInt8) :=
  match s with
  | [] => .error atEnd
  | b :: _ =>
    if isDigit b then .ok (s.takeWhile isDigit, s.dropWhile isDigit) else .error .invalidNumber

theorem length_readDigits_lt {atEnd : Fault} {s r ds : List UInt8}
    (h : readDigits atEnd s = .ok (ds, r)) : r.length < s.length := by
  match s with
  | [] => cases h
  | b :: t =>
    simp only [readDigits] at h
    split at h
    · next hb =>
      cases h
      simp only [List.dropWhile_cons, hb, if_true, List.length_cons]
      exact Nat.lt_succ_of_le (length_dropWhile_le _ _)
    · cases h

/-- The digits before the point; only a lone zero begins with zero. -/
def readWhole (atEnd : Fault) (s : List UInt8) : Lexed (List UInt8) :=
  match s with
  | 0x30 :: r => if (r.head?.any isDigit) then .error .invalidNumber else .ok ([0x30], r)
  | s => readDigits atEnd s

theorem length_readWhole_lt {atEnd : Fault} {s r ds : List UInt8}
    (h : readWhole atEnd s = .ok (ds, r)) : r.length < s.length := by
  unfold readWhole at h
  split at h
  · split at h
    · cases h
    · cases h; exact Nat.lt_succ_self _
  · exact length_readDigits_lt h

/-- The point and the digits after it, if there is a point. -/
def readFraction (atEnd : Fault) (s : List UInt8) : Lexed (List UInt8) :=
  match s with
  | 0x2E :: r => readDigits atEnd r
  | s => .ok ([], s)

theorem length_readFraction_le {atEnd : Fault} {s r ds : List UInt8}
    (h : readFraction atEnd s = .ok (ds, r)) : r.length ≤ s.length := by
  unfold readFraction at h
  split at h
  · exact Nat.le_succ_of_le (Nat.le_of_lt (length_readDigits_lt h))
  · cases h; exact Nat.le_refl _

def isExponentMark (b : UInt8) : Bool := b == 0x65 || b == 0x45

/-- The sign of an exponent and what follows it. -/
def readSign (s : List UInt8) : Bool × List UInt8 :=
  match s with
  | 0x2B :: r => (false, r)
  | 0x2D :: r => (true, r)
  | s => (false, s)

theorem length_readSign_le (s : List UInt8) : (readSign s).2.length ≤ s.length := by
  unfold readSign
  split <;> simp

/-- The mark, the sign and the digits of an exponent, if there is a mark. -/
def readExponent (atEnd : Fault) (s : List UInt8) : Lexed (Bool × List UInt8) :=
  match s with
  | [] => .ok ((false, []), [])
  | b :: r =>
    if isExponentMark b then
      match readDigits atEnd (readSign r).2 with
      | .error e => .error e
      | .ok (ds, t) => .ok (((readSign r).1, ds), t)
    else .ok ((false, []), b :: r)

theorem length_readExponent_le {atEnd : Fault} {s r : List UInt8} {x : Bool × List UInt8}
    (h : readExponent atEnd s = .ok (x, r)) : r.length ≤ s.length := by
  match s with
  | [] => cases h; exact Nat.le_refl _
  | b :: t =>
    simp only [readExponent] at h
    split at h
    · split at h
      · cases h
      · next ds u hd =>
        cases h
        have := length_readDigits_lt hd
        have := length_readSign_le t
        simp only [List.length_cons]
        omega
    · cases h; exact Nat.le_refl _

/-- A number after its sign. At the end of the text, where a digit is due, `atEnd` is the fault. -/
def readNumeral (atEnd : Fault) (s : List UInt8) : Lexed Numeral :=
  match readWhole atEnd s with
  | .error e => .error e
  | .ok (whole, r) =>
    match readFraction atEnd r with
    | .error e => .error e
    | .ok (fraction, t) =>
      match readExponent atEnd t with
      | .error e => .error e
      | .ok ((negative, exponent), u) =>
        .ok (⟨whole, fraction, !fraction.isEmpty || !exponent.isEmpty, negative, exponent⟩, u)

theorem length_readNumeral_lt {atEnd : Fault} {s r : List UInt8} {n : Numeral}
    (h : readNumeral atEnd s = .ok (n, r)) : r.length < s.length := by
  simp only [readNumeral] at h
  split at h
  · cases h
  · next whole r₁ hw =>
    split at h
    · cases h
    · next fraction r₂ hf =>
      split at h
      · cases h
      · next negative exponent r₃ he =>
        cases h
        have := length_readWhole_lt hw
        have := length_readFraction_le hf
        have := length_readExponent_le he
        omega

-- ---------------------------------------------------------------------------
-- Escapes
-- ---------------------------------------------------------------------------

/-- The character of a short escape. -/
def shortEscape? (b : UInt8) : Option Char :=
  if b = 0x22 then some '"'
  else if b = 0x5C then some '\\'
  else if b = 0x2F then some '/'
  else if b = 0x62 then some '\x08'
  else if b = 0x66 then some '\x0c'
  else if b = 0x6E then some '\n'
  else if b = 0x72 then some '\r'
  else if b = 0x74 then some '\t'
  else none

/-- The letter that begins an escape of four hexadecimal digits. -/
def hexEscape : UInt8 := 0x75

/-- The number that four hexadecimal digits denote. -/
def hexUnit? (a b c d : UInt8) : Option Nat := do
  let w ← hexValue? a
  let x ← hexValue? b
  let y ← hexValue? c
  let z ← hexValue? d
  return w * 4096 + x * 256 + y * 16 + z

/-- The four digits of an escape. -/
def readHexUnit (s : List UInt8) : Lexed Nat :=
  match s with
  | a :: b :: c :: d :: r =>
    match hexUnit? a b c d with
    | some n => .ok (n, r)
    | none => .error .invalidEscape
  | _ => .error .endInString

theorem length_readHexUnit_lt {s r : List UInt8} {n : Nat} (h : readHexUnit s = .ok (n, r)) :
    r.length < s.length := by
  unfold readHexUnit at h
  split at h
  · split at h
    · cases h; simp only [List.length_cons]; omega
    · cases h
  · cases h

def isHighSurrogate (n : Nat) : Bool := 0xD800 ≤ n && n ≤ 0xDBFF

def isLowSurrogate (n : Nat) : Bool := 0xDC00 ≤ n && n ≤ 0xDFFF

/-- The character of a surrogate pair. -/
def pairedCharacter (high low : Nat) : Char :=
  Char.ofNat ((high - 0xD800) * 0x400 + (low - 0xDC00) + 0x10000)

/-- Reads the octet `b`, where anything else is a high surrogate without its partner. -/
def readPartnerMark (b : UInt8) (s : List UInt8) : Except Fault (List UInt8) :=
  match s with
  | [] => .error .endInString
  | c :: r => if c = b then .ok r else .error .endOfHexEscape

/-- The escape of a low surrogate that must follow the escape of `high`. -/
def readPartner (high : Nat) (s : List UInt8) : Lexed Char :=
  match readPartnerMark backslash s with
  | .error e => .error e
  | .ok r =>
    match readPartnerMark hexEscape r with
    | .error e => .error e
    | .ok t =>
      match readHexUnit t with
      | .error e => .error e
      | .ok (low, u) =>
        if isLowSurrogate low then .ok (pairedCharacter high low, u) else .error .loneSurrogate

/-- The rest of an escape after its backslash. -/
def readEscape (s : List UInt8) : Lexed Char :=
  match s with
  | [] => .error .endInString
  | b :: r =>
    if b = hexEscape then
      match readHexUnit r with
      | .error e => .error e
      | .ok (n, t) =>
        if isLowSurrogate n then .error .loneSurrogate
        else if isHighSurrogate n then readPartner n t
        else .ok (Char.ofNat n, t)
    else match shortEscape? b with
      | some c => .ok (c, r)
      | none => .error .invalidEscape

theorem length_readPartnerMark_lt {b : UInt8} {s r : List UInt8}
    (h : readPartnerMark b s = .ok r) : r.length < s.length := by
  unfold readPartnerMark at h
  split at h
  · cases h
  · split at h
    · cases h; exact Nat.lt_succ_self _
    · cases h

theorem length_readPartner_lt {high : Nat} {s r : List UInt8} {c : Char}
    (h : readPartner high s = .ok (c, r)) : r.length < s.length := by
  simp only [readPartner] at h
  split at h
  · cases h
  · next r₁ h₁ =>
    split at h
    · cases h
    · next r₂ h₂ =>
      split at h
      · cases h
      · next low r₃ h₃ =>
        have := length_readPartnerMark_lt h₁
        have := length_readPartnerMark_lt h₂
        have := length_readHexUnit_lt h₃
        split at h
        · simp only [Except.ok.injEq, Prod.mk.injEq] at h
          rw [← h.2]
          omega
        · cases h

theorem length_readEscape_lt {s r : List UInt8} {c : Char} (h : readEscape s = .ok (c, r)) :
    r.length < s.length := by
  match s with
  | [] => cases h
  | b :: t =>
    simp only [readEscape] at h
    split at h
    · split at h
      · cases h
      · next n u hu =>
        have := length_readHexUnit_lt hu
        simp only [List.length_cons]
        split at h
        · cases h
        · split at h
          · have := length_readPartner_lt h
            omega
          · cases h; omega
    · split at h
      · cases h; exact Nat.lt_succ_self _
      · cases h

-- ---------------------------------------------------------------------------
-- Strings
-- ---------------------------------------------------------------------------

/-- The octets of a string after its opening quotation mark, with escapes resolved. -/
def readOctets (s : List UInt8) : Lexed (List UInt8) :=
  match s with
  | [] => .error .endInString
  | b :: r =>
    if b = quotationMark then .ok ([], r)
    else if b = backslash then
      match h : readEscape r with
      | .error e => .error e
      | .ok (c, t) =>
        have := length_readEscape_lt h
        match readOctets t with
        | .error e => .error e
        | .ok (octets, u) => .ok (String.utf8EncodeChar c ++ octets, u)
    else if b < 0x20 then .error .controlCharacter
    else match readOctets r with
      | .error e => .error e
      | .ok (octets, t) => .ok (b :: octets, t)
termination_by s.length

theorem length_readOctets_lt {s r octets : List UInt8} (h : readOctets s = .ok (octets, r)) :
    r.length < s.length := by
  fun_induction readOctets s generalizing octets r with
  | case1 => cases h
  | case2 => cases h; exact Nat.lt_succ_self _
  | case3 => cases h
  | case4 => cases h
  | case5 r₀ c t ht _ octets' u hu _ ih =>
    cases h
    have := ih hu
    simp only [List.length_cons]
    omega
  | case6 => cases h
  | case7 => cases h
  | case8 b r₀ _ _ _ octets' t ht ih =>
    cases h
    exact Nat.lt_succ_of_lt (ih ht)

/-- A string after its opening quotation mark. -/
def readString (s : List UInt8) : Lexed String :=
  match readOctets s with
  | .error e => .error e
  | .ok (octets, r) =>
    match Utf8.decode octets with
    | .error _ => .error .invalidCodePoint
    | .ok cs => .ok (String.ofList cs, r)

theorem length_readString_lt {s r : List UInt8} {x : String} (h : readString s = .ok (x, r)) :
    r.length < s.length := by
  simp only [readString] at h
  split at h
  · cases h
  · next octets r₁ h₁ =>
    split at h
    · cases h
    · cases h; exact length_readOctets_lt h₁

/-- Skips an escape after its backslash; surrogates need not be paired. -/
def skipEscape (s : List UInt8) : Except Fault (List UInt8) :=
  match s with
  | [] => .error .endInString
  | b :: r =>
    if b = hexEscape then (·.2) <$> readHexUnit r
    else if (shortEscape? b).isSome then .ok r
    else .error .invalidEscape

theorem length_skipEscape_lt {s r : List UInt8} (h : skipEscape s = .ok r) :
    r.length < s.length := by
  match s with
  | [] => cases h
  | b :: t =>
    simp only [skipEscape] at h
    split at h
    · match hu : readHexUnit t with
      | .error e => rw [hu] at h; cases h
      | .ok (n, u) =>
        rw [hu] at h
        cases h
        exact Nat.lt_succ_of_lt (length_readHexUnit_lt hu)
    · split at h
      · cases h; exact Nat.lt_succ_self _
      · cases h

/-- Skips a string after its opening quotation mark; its octets need not be UTF-8. -/
def skipString (s : List UInt8) : Except Fault (List UInt8) :=
  match s with
  | [] => .error .endInString
  | b :: r =>
    if b = quotationMark then .ok r
    else if b = backslash then
      match h : skipEscape r with
      | .error e => .error e
      | .ok t =>
        have := length_skipEscape_lt h
        skipString t
    else if b < 0x20 then .error .controlCharacter
    else skipString r
termination_by s.length

theorem length_skipString_lt {s r : List UInt8} (h : skipString s = .ok r) :
    r.length < s.length := by
  fun_induction skipString s with
  | case1 => cases h
  | case2 => cases h; exact Nat.lt_succ_self _
  | case3 => cases h
  | case4 r₀ t ht _ _ ih =>
    have := ih h
    simp only [List.length_cons]
    omega
  | case5 => cases h
  | case6 b r₀ _ _ _ ih => exact Nat.lt_succ_of_lt (ih h)

end RtpBridge.Json

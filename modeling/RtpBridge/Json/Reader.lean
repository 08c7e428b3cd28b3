-- SUMMARY: Reading JSON values of a given type: text, flags, 64-bit naturals, options, lists and variants.
import RtpBridge.Json.Number
import RtpBridge.Json.Skip

/-!
# Typed readers

A reader knows the type of the value that is due and takes it off the front of the
octets. It goes from left to right and stops at the first offence, be that an
offence against JSON or against the type. A value of another type is looked at
only as far as it takes to say what it is.
-/

namespace RtpBridge.Json

/-- Takes a value off the front of the octets, leaving fewer of them. -/
structure Reader (α : Type) where
  read : List UInt8 → Lexed α
  shrinks : ∀ {s r : List UInt8} {a : α}, read s = .ok (a, r) → r.length < s.length

/-- Reads a whole document: a value with nothing but blanks after it. -/
def Reader.document (R : Reader α) (s : List UInt8) : Except Fault α :=
  match R.read s with
  | .error e => .error e
  | .ok (a, r) => if (skipBlanks r).isEmpty then .ok a else .error .trailingCharacters

-- ---------------------------------------------------------------------------
-- Values of another type
-- ---------------------------------------------------------------------------

/-- The value that begins with the octet `b`; of a list or an object only the opening is read. -/
def foundAt (b : UInt8) (r : List UInt8) : Except Fault Found :=
  if b = 0x6E then (fun _ => .null) <$> readWord nullTail r
  else if b = 0x74 then (fun _ => .boolean true) <$> readWord trueTail r
  else if b = 0x66 then (fun _ => .boolean false) <$> readWord falseTail r
  else if b = minus || isDigit b then
    match readNumber b r with
    | .error e => .error e
    | .ok (n, _) => .ok (.number n)
  else if b = quotationMark then
    match readString r with
    | .error e => .error e
    | .ok (x, _) => .ok (.string x)
  else if b = openBracket then .ok .sequence
  else if b = openBrace then .ok .map
  else .error .expectedValue

/-- The fault of a value that begins with `b` where `expected` is due. -/
def mismatch (expected : String) (b : UInt8) (r : List UInt8) : Fault :=
  match foundAt b r with
  | .error e => e
  | .ok found => .invalidType found expected

-- ---------------------------------------------------------------------------
-- Scalars
-- ---------------------------------------------------------------------------

/-- A string where `expected` is due. -/
def readText (expected : String) (s : List UInt8) : Lexed String :=
  match skipBlanks s with
  | [] => .error .endInValue
  | b :: r => if b = quotationMark then readString r else .error (mismatch expected b r)

theorem length_readText_lt {expected x : String} {s r : List UInt8}
    (h : readText expected s = .ok (x, r)) : r.length < s.length := by
  unfold readText at h
  split at h
  · cases h
  · next b t hs =>
    split at h
    · exact Nat.lt_trans (length_readString_lt h) (length_lt_of_skipBlanks hs)
    · cases h

def text : Reader String := ⟨readText "a string", length_readText_lt⟩

def readFlag (s : List UInt8) : Lexed Bool :=
  match skipBlanks s with
  | [] => .error .endInValue
  | b :: r =>
    if b = 0x74 then
      match readWord trueTail r with
      | .error e => .error e
      | .ok t => .ok (true, t)
    else if b = 0x66 then
      match readWord falseTail r with
      | .error e => .error e
      | .ok t => .ok (false, t)
    else .error (mismatch "a boolean" b r)

theorem length_readFlag_lt {s r : List UInt8} {x : Bool} (h : readFlag s = .ok (x, r)) :
    r.length < s.length := by
  unfold readFlag at h
  split at h
  · cases h
  · next b t hs =>
    have := length_lt_of_skipBlanks hs
    split at h
    · split at h
      · cases h
      · next hw => cases h; exact Nat.lt_of_le_of_lt (length_readWord_le hw) this
    · split at h
      · split at h
        · cases h
        · next hw => cases h; exact Nat.lt_of_le_of_lt (length_readWord_le hw) this
      · cases h

def flag : Reader Bool := ⟨readFlag, length_readFlag_lt⟩

/-- A natural below `2 ^ 64`. -/
def readNatural (s : List UInt8) : Lexed Nat :=
  match skipBlanks s with
  | [] => .error .endInValue
  | b :: r =>
    if b = minus || isDigit b then
      match readNumber b r with
      | .error e => .error e
      | .ok (.natural n, t) => .ok (n, t)
      | .ok (.negative n, _) => .error (.invalidValue (.number (.negative n)) "u64")
      | .ok (n, _) => .error (.invalidType (.number n) "u64")
    else .error (mismatch "u64" b r)

theorem length_readNatural_lt {s r : List UInt8} {n : Nat} (h : readNatural s = .ok (n, r)) :
    r.length < s.length := by
  unfold readNatural at h
  split at h
  · cases h
  · next b t hs =>
    have := length_lt_of_skipBlanks hs
    split at h
    · split at h
      · cases h
      · next hn => cases h; exact Nat.lt_of_le_of_lt (length_readNumber_le hn) this
      · cases h
      · cases h
    · cases h

def natural : Reader Nat := ⟨readNatural, length_readNatural_lt⟩

-- ---------------------------------------------------------------------------
-- Options
-- ---------------------------------------------------------------------------

def readOption (R : Reader α) (s : List UInt8) : Lexed (Option α) :=
  match skipBlanks s with
  | [] => .error .endInValue
  | b :: r =>
    if b = 0x6E then
      match readWord nullTail r with
      | .error e => .error e
      | .ok t => .ok (none, t)
    else match R.read (b :: r) with
      | .error e => .error e
      | .ok (a, t) => .ok (some a, t)

theorem length_readOption_lt {R : Reader α} {s r : List UInt8} {x : Option α}
    (h : readOption R s = .ok (x, r)) : r.length < s.length := by
  unfold readOption at h
  split at h
  · cases h
  · next b t hs =>
    have := length_lt_of_skipBlanks hs
    split at h
    · split at h
      · cases h
      · next hw => cases h; exact Nat.lt_of_le_of_lt (length_readWord_le hw) this
    · split at h
      · cases h
      · next hr =>
        cases h
        have := R.shrinks hr
        simp only [List.length_cons] at this
        omega

/-- A value or `null`. -/
def Reader.option (R : Reader α) : Reader (Option α) := ⟨readOption R, length_readOption_lt⟩

-- ---------------------------------------------------------------------------
-- Lists
-- ---------------------------------------------------------------------------

/-- Whether a list goes on, and the octets from the element on or after the end. -/
def nextElement (isFirst : Bool) (s : List UInt8) : Lexed Bool :=
  match skipBlanks s with
  | [] => .error .endInList
  | b :: r =>
    if b = closeBracket then .ok (false, r)
    else if isFirst then .ok (true, b :: r)
    else if b = comma then
      match skipBlanks r with
      | [] => .error .endInValue
      | c :: t => if c = closeBracket then .error .trailingComma else .ok (true, c :: t)
    else .error .expectedListCommaOrEnd

theorem length_nextElement_le {isFirst x : Bool} {s r : List UInt8}
    (h : nextElement isFirst s = .ok (x, r)) : r.length ≤ s.length := by
  unfold nextElement at h
  split at h
  · cases h
  · next b t hs =>
    have := length_lt_of_skipBlanks hs
    split at h
    · cases h; omega
    · split at h
      · cases h; simp only [List.length_cons]; omega
      · split at h
        · split at h
          · cases h
          · next c u hu =>
            have := length_lt_of_skipBlanks hu
            split at h
            · cases h
            · cases h; simp only [List.length_cons]; omega
        · cases h

/-- The elements of a list from behind its opening or behind an element on. -/
def readElements (R : Reader α) (isFirst : Bool) (s : List UInt8) : Lexed (List α) :=
  match h : nextElement isFirst s with
  | .error e => .error e
  | .ok (false, r) => .ok ([], r)
  | .ok (true, r) =>
    match hr : R.read r with
    | .error e => .error e
    | .ok (a, t) =>
      have : t.length < s.length := Nat.lt_of_lt_of_le (R.shrinks hr) (length_nextElement_le h)
      match readElements R false t with
      | .error e => .error e
      | .ok (as, u) => .ok (a :: as, u)
termination_by s.length

theorem length_readElements_le {R : Reader α} {isFirst : Bool} {s r : List UInt8} {as : List α}
    (h : readElements R isFirst s = .ok (as, r)) : r.length ≤ s.length := by
  fun_induction readElements R isFirst s generalizing as r with
  | case1 => cases h
  | case2 isFirst s t ht => cases h; exact length_nextElement_le ht
  | case3 => cases h
  | case4 => cases h
  | case5 isFirst s t ht a u hu hlt as' v hv ih =>
    cases h
    have := ih hv
    omega

def readList (R : Reader α) (s : List UInt8) : Lexed (List α) :=
  match skipBlanks s with
  | [] => .error .endInValue
  | b :: r =>
    if b = openBracket then readElements R true r else .error (mismatch "a sequence" b r)

theorem length_readList_lt {R : Reader α} {s r : List UInt8} {as : List α}
    (h : readList R s = .ok (as, r)) : r.length < s.length := by
  unfold readList at h
  split at h
  · cases h
  · next b t hs =>
    split at h
    · exact Nat.lt_of_le_of_lt (length_readElements_le h) (length_lt_of_skipBlanks hs)
    · cases h

def Reader.list (R : Reader α) : Reader (List α) := ⟨readList R, length_readList_lt⟩

-- ---------------------------------------------------------------------------
-- Variants
-- ---------------------------------------------------------------------------

/-- The variant of a name. -/
def variantOf (variants : List (String × α)) (name : String) : Except Fault α :=
  match variants.lookup name with
  | some a => .ok a
  | none => .error (.unknownVariant name (variants.map (·.1)))

/-- The value `null`. -/
def readNull (s : List UInt8) : Except Fault (List UInt8) :=
  match skipBlanks s with
  | [] => .error .endInValue
  | b :: r => if b = 0x6E then readWord nullTail r else .error (mismatch "unit" b r)

/-- The end of an object that holds no further member. -/
def readVariantEnd (s : List UInt8) : Except Fault (List UInt8) :=
  match skipBlanks s with
  | [] => .error .endInObject
  | b :: r => if b = closeBrace then .ok r else .error .expectedValue

/-- The variant that a string names, behind its opening quotation mark. -/
def readVariantName (variants : List (String × α)) (s : List UInt8) : Lexed α :=
  match readString s with
  | .error e => .error e
  | .ok (name, r) =>
    match variantOf variants name with
    | .error e => .error e
    | .ok a => .ok (a, r)

/-- The key of an object whose only member is a variant. -/
def readVariantKey (variants : List (String × α)) (s : List UInt8) : Lexed α :=
  match skipBlanks s with
  | [] => .error .endInValue
  | b :: r =>
    if b = quotationMark then readVariantName variants r
    else .error (mismatch "variant identifier" b r)

/-- What follows the key: a colon, `null` and the end of the object. -/
def readVariantTail (s : List UInt8) : Except Fault (List UInt8) :=
  match readColon s with
  | .error e => .error e
  | .ok r =>
    match readNull r with
    | .error e => .error e
    | .ok t => readVariantEnd t

def readVariant (variants : List (String × α)) (s : List UInt8) : Lexed α :=
  match skipBlanks s with
  | [] => .error .endInValue
  | b :: r =>
    if b = quotationMark then readVariantName variants r
    else if b = openBrace then
      match readVariantKey variants r with
      | .error e => .error e
      | .ok (a, t) =>
        match readVariantTail t with
        | .error e => .error e
        | .ok u => .ok (a, u)
    else .error .expectedValue

theorem length_readNull_le {s r : List UInt8} (h : readNull s = .ok r) : r.length ≤ s.length := by
  unfold readNull at h
  split at h
  · cases h
  · next b t hs =>
    have := length_lt_of_skipBlanks hs
    split at h
    · have := length_readWord_le h; omega
    · cases h

theorem length_readVariantEnd_le {s r : List UInt8} (h : readVariantEnd s = .ok r) :
    r.length ≤ s.length := by
  unfold readVariantEnd at h
  split at h
  · cases h
  · next b t hs =>
    have := length_lt_of_skipBlanks hs
    split at h
    · cases h; omega
    · cases h

theorem length_readVariantName_lt {variants : List (String × α)} {s r : List UInt8} {a : α}
    (h : readVariantName variants s = .ok (a, r)) : r.length < s.length := by
  simp only [readVariantName] at h
  split at h
  · cases h
  · next hn =>
    split at h
    · cases h
    · cases h; exact length_readString_lt hn

theorem length_readVariantKey_lt {variants : List (String × α)} {s r : List UInt8} {a : α}
    (h : readVariantKey variants s = .ok (a, r)) : r.length < s.length := by
  unfold readVariantKey at h
  split at h
  · cases h
  · next b t hs =>
    split at h
    · exact Nat.lt_trans (length_readVariantName_lt h) (length_lt_of_skipBlanks hs)
    · cases h

theorem length_readVariantTail_le {s r : List UInt8} (h : readVariantTail s = .ok r) :
    r.length ≤ s.length := by
  simp only [readVariantTail] at h
  split at h
  · cases h
  · next hc =>
    split at h
    · cases h
    · next hn =>
      have := length_readColon_lt hc
      have := length_readNull_le hn
      have := length_readVariantEnd_le h
      omega

theorem length_readVariant_lt {variants : List (String × α)} {s r : List UInt8} {a : α}
    (h : readVariant variants s = .ok (a, r)) : r.length < s.length := by
  unfold readVariant at h
  split at h
  · cases h
  · next b t hs =>
    have := length_lt_of_skipBlanks hs
    split at h
    · exact Nat.lt_trans (length_readVariantName_lt h) this
    · split at h
      · split at h
        · cases h
        · next hk =>
          split at h
          · cases h
          · next hu =>
            cases h
            have := length_readVariantKey_lt hk
            have := length_readVariantTail_le hu
            omega
      · cases h

/-- One of several names, as a string or as the key of an object with `null` as its value. -/
def variant (variants : List (String × α)) : Reader α :=
  ⟨readVariant variants, length_readVariant_lt⟩

end RtpBridge.Json

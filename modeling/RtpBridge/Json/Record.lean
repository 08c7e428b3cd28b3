-- SUMMARY: Reading records, written as objects with the members in any order or as arrays in a fixed order.
import RtpBridge.Json.Reader

/-!
# Records

A record is built from a draft in which each member is set when it is read. In an
object the members come in any order, a name that the record does not know is
passed over with its value, and a known one must not come twice. In an array the
members come in the order in which the record lists them.
-/

namespace RtpBridge.Json

/-- A member of a record whose draft is a `σ`. -/
structure Field (σ : Type) where
  name : String
  isSet : σ → Bool
  /-- Reads the member's value and says how it changes the draft. -/
  reader : Reader (σ → σ)

/-- A record of type `α` with drafts of type `σ`. -/
structure Record (σ α : Type) where
  /-- What messages call the record. -/
  title : String
  empty : σ
  /-- The members in their order. -/
  fields : List (Field σ)
  /-- Whether an array may leave out members at its end. -/
  mayStopEarly : Bool
  /-- The record of a draft, unless a member is missing. -/
  finish : σ → Except Fault α

/-- Changes what a reader answers. -/
def Reader.map (f : α → β) (R : Reader α) : Reader β where
  read s :=
    match R.read s with
    | .error e => .error e
    | .ok (a, r) => .ok (f a, r)
  shrinks {s r b} h := by
    split at h
    · cases h
    · next ha => cases h; exact R.shrinks ha

namespace Record

variable {σ α : Type}

-- ---------------------------------------------------------------------------
-- Objects
-- ---------------------------------------------------------------------------

/-- The key of the next member, or nothing and the octets after the object's end. -/
def nextKey (isFirst : Bool) (s : List UInt8) : Lexed (Option String) :=
  match skipBlanks s with
  | [] => .error .endInObject
  | b :: r =>
    if b = closeBrace then .ok (none, r)
    else if isFirst then
      if b = quotationMark then readKey r else .error .keyNotString
    else if b = comma then
      match skipBlanks r with
      | [] => .error .endInValue
      | c :: t =>
        if c = quotationMark then readKey t
        else if c = closeBrace then .error .trailingComma
        else .error .keyNotString
    else .error .expectedObjectCommaOrEnd
where
  readKey (s : List UInt8) : Lexed (Option String) :=
    match readString s with
    | .error e => .error e
    | .ok (key, r) => .ok (some key, r)

theorem length_readKey_lt {s r : List UInt8} {x : Option String}
    (h : nextKey.readKey s = .ok (x, r)) : r.length < s.length := by
  simp only [nextKey.readKey] at h
  split at h
  · cases h
  · next hk => cases h; exact length_readString_lt hk

theorem length_nextKey_lt {isFirst : Bool} {s r : List UInt8} {x : Option String}
    (h : nextKey isFirst s = .ok (x, r)) : r.length < s.length := by
  unfold nextKey at h
  split at h
  · cases h
  · next b t hs =>
    have := length_lt_of_skipBlanks hs
    split at h
    · cases h; exact this
    · split at h
      · split at h
        · exact Nat.lt_trans (length_readKey_lt h) this
        · cases h
      · split at h
        · split at h
          · cases h
          · next c u hu =>
            have := length_lt_of_skipBlanks hu
            split at h
            · have := length_readKey_lt h; omega
            · split at h <;> cases h
        · cases h

/-- Reads the rest of a member whose key is read. -/
def readMember (R : Record σ α) (key : String) (draft : σ) (s : List UInt8) : Lexed σ :=
  match R.fields.find? (·.name == key) with
  | some field =>
    if field.isSet draft then .error (.duplicateField key)
    else match readColon s with
      | .error e => .error e
      | .ok r =>
        match field.reader.read r with
        | .error e => .error e
        | .ok (change, t) => .ok (change draft, t)
  | none =>
    match readColon s with
    | .error e => .error e
    | .ok r =>
      match skipValue r with
      | .error e => .error e
      | .ok t => .ok (draft, t)

theorem length_readMember_lt {R : Record σ α} {key : String} {draft next : σ}
    {s r : List UInt8} (h : R.readMember key draft s = .ok (next, r)) : r.length < s.length := by
  unfold readMember at h
  split at h
  · split at h
    · cases h
    · split at h
      · cases h
      · next t ht =>
        split at h
        · cases h
        · next hu =>
          cases h
          exact Nat.lt_trans (Reader.shrinks _ hu) (length_readColon_lt ht)
  · split at h
    · cases h
    · next t ht =>
      split at h
      · cases h
      · next hu => cases h; exact Nat.lt_trans (length_skipValue_lt hu) (length_readColon_lt ht)

/-- The members of an object from behind its opening or behind a member on. -/
def readMembers (R : Record σ α) (isFirst : Bool) (draft : σ) (s : List UInt8) : Lexed σ :=
  match h : nextKey isFirst s with
  | .error e => .error e
  | .ok (none, r) => .ok (draft, r)
  | .ok (some key, r) =>
    match hm : R.readMember key draft r with
    | .error e => .error e
    | .ok (next, t) =>
      have : t.length < s.length := Nat.lt_trans (length_readMember_lt hm) (length_nextKey_lt h)
      R.readMembers false next t
termination_by s.length

theorem length_readMembers_lt {R : Record σ α} {isFirst : Bool} {draft next : σ}
    {s r : List UInt8} (h : R.readMembers isFirst draft s = .ok (next, r)) :
    r.length < s.length := by
  fun_induction readMembers R isFirst draft s with
  | case1 => cases h
  | case2 isFirst draft s t ht => cases h; exact length_nextKey_lt ht
  | case3 => cases h
  | case4 isFirst draft s key t ht next' u hu hlt ih => exact Nat.lt_trans (ih h) hlt

-- ---------------------------------------------------------------------------
-- Arrays
-- ---------------------------------------------------------------------------

/-- The end of an array behind the element of the last member. -/
def readArrayEnd (s : List UInt8) : Except Fault (List UInt8) :=
  match skipBlanks s with
  | [] => .error .endInList
  | b :: r =>
    if b = closeBracket then .ok r
    else if b = comma then
      match skipBlanks r with
      | c :: _ => .error (if c = closeBracket then .trailingComma else .trailingCharacters)
      | [] => .error .trailingCharacters
    else .error .trailingCharacters

theorem length_readArrayEnd_lt {s r : List UInt8} (h : readArrayEnd s = .ok r) :
    r.length < s.length := by
  unfold readArrayEnd at h
  split at h
  · cases h
  · next b t hs =>
    split at h
    · cases h; exact length_lt_of_skipBlanks hs
    · split at h
      · split at h <;> cases h
      · cases h

/-- Reads an element for each field; `read` counts those read before. The answer holds how many
there were. -/
def readPositions (fields : List (Field σ)) (read : Nat) (draft : σ) (s : List UInt8) :
    Lexed (σ × Nat) :=
  match fields with
  | [] =>
    match readArrayEnd s with
    | .error e => .error e
    | .ok r => .ok ((draft, read), r)
  | field :: fields =>
    match nextElement (read == 0) s with
    | .error e => .error e
    | .ok (false, r) => .ok ((draft, read), r)
    | .ok (true, r) =>
      match field.reader.read r with
      | .error e => .error e
      | .ok (change, t) => readPositions fields (read + 1) (change draft) t

theorem length_readPositions_le {fields : List (Field σ)} {read : Nat} {draft : σ}
    {s r : List UInt8} {x : σ × Nat} (h : readPositions fields read draft s = .ok (x, r)) :
    r.length ≤ s.length := by
  induction fields generalizing read draft s with
  | nil =>
    simp only [readPositions] at h
    split at h
    · cases h
    · next hr => cases h; exact Nat.le_of_lt (length_readArrayEnd_lt hr)
  | cons field fields ih =>
    simp only [readPositions] at h
    split at h
    · cases h
    · next hn => cases h; exact length_nextElement_le hn
    · next t hn =>
      split at h
      · cases h
      · next hu =>
        have := ih h
        have := field.reader.shrinks hu
        have := length_nextElement_le hn
        omega

/-- The record of a draft of which an array gave the first `read` members. -/
def finishArray (R : Record σ α) (draft : σ) (read : Nat) : Except Fault α :=
  if read < R.fields.length ∧ !R.mayStopEarly then
    .error (.invalidLength read (R.title ++ s!" with {R.fields.length} elements"))
  else R.finish draft

-- ---------------------------------------------------------------------------
-- Either form
-- ---------------------------------------------------------------------------

def readRecord (R : Record σ α) (s : List UInt8) : Lexed α :=
  match skipBlanks s with
  | [] => .error .endInValue
  | b :: r =>
    if b = openBracket then
      match readPositions R.fields 0 R.empty r with
      | .error e => .error e
      | .ok ((draft, read), t) =>
        match R.finishArray draft read with
        | .error e => .error e
        | .ok a => .ok (a, t)
    else if b = openBrace then
      match R.readMembers true R.empty r with
      | .error e => .error e
      | .ok (draft, t) =>
        match R.finish draft with
        | .error e => .error e
        | .ok a => .ok (a, t)
    else .error (mismatch R.title b r)

theorem length_readRecord_lt {R : Record σ α} {s r : List UInt8} {a : α}
    (h : R.readRecord s = .ok (a, r)) : r.length < s.length := by
  unfold readRecord at h
  split at h
  · cases h
  · next b t hs =>
    have := length_lt_of_skipBlanks hs
    split at h
    · split at h
      · cases h
      · next hp =>
        have := length_readPositions_le hp
        split at h
        · cases h
        · cases h; omega
    · split at h
      · split at h
        · cases h
        · next hm =>
          have := length_readMembers_lt hm
          split at h
          · cases h
          · cases h; omega
      · cases h

def reader (R : Record σ α) : Reader α := ⟨R.readRecord, length_readRecord_lt⟩

end Record

end RtpBridge.Json

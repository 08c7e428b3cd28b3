-- SUMMARY: JSON text as a grammar over octets, apart from any reader of it.
import Mathlib.Data.List.Forall2
import RtpBridge.Json.Lexeme

/-!
# Grammar of JSON text

Which octets write a number, a string, a list of items or a whole value. A relation
that takes a value and octets says that the octets write the value; blanks stand
between tokens only, never at the ends of what a relation describes.

Strings come twice. A `Literal` writes a text, so each of its escapes denotes a
character. A `LooseLiteral` only has the shape of a string: half a surrogate pair or an
octet that is no UTF-8 may stand in it. Every literal is a loose one, hence every JSON
value is a `Value`.
-/

namespace RtpBridge.Json

/-! ## Between tokens -/

/-- Any number of blanks. -/
def Blanks (w : List UInt8) : Prop := ∀ b ∈ w, isBlank b

/-- What may follow a value inside a document: nothing, a blank, a comma or an end. -/
def Delimited (r : List UInt8) : Prop :=
  ∀ b ∈ r.head?, isBlank b ∨ b = comma ∨ b = closeBracket ∨ b = closeBrace

/-! ## Numbers -/

/-- One digit or more. -/
def Digits (ds : List UInt8) : Prop := ds ≠ [] ∧ ∀ d ∈ ds, isDigit d

/-- The digits before the point. -/
inductive Whole : List UInt8 → Prop where
  | zero : Whole [0x30]
  | digits {ds : List UInt8} (hds : Digits ds) (hhead : ds.head? ≠ some 0x30) : Whole ds

inductive Fraction : List UInt8 → List UInt8 → Prop where
  | absent : Fraction [] []
  | present {ds : List UInt8} (hds : Digits ds) : Fraction ds (0x2E :: ds)

inductive Sign : Bool → List UInt8 → Prop where
  | absent : Sign false []
  | plus : Sign false [0x2B]
  | minus : Sign true [0x2D]

inductive Exponent : Bool → List UInt8 → List UInt8 → Prop where
  | absent : Exponent false [] []
  | present {mark : UInt8} {isNegative : Bool} {sign ds : List UInt8}
      (hmark : isExponentMark mark) (hsign : Sign isNegative sign) (hds : Digits ds) :
      Exponent isNegative ds (mark :: (sign ++ ds))

/-- A number without its sign. -/
inductive Numeral.Written : Numeral → List UInt8 → Prop where
  | mk {whole fraction exponent f e : List UInt8} {isNegative : Bool}
      (hwhole : Whole whole) (hfraction : Fraction fraction f)
      (hexponent : Exponent isNegative exponent e) :
      Numeral.Written
        ⟨whole, fraction, !fraction.isEmpty || !exponent.isEmpty, isNegative, exponent⟩
        (whole ++ (f ++ e))

/-! ## Strings -/

def HexDigit (n : Nat) (b : UInt8) : Prop :=
  n < 10 ∧ b.toNat = '0'.toNat + n ∨
    10 ≤ n ∧ n < 16 ∧ (b.toNat = 'A'.toNat + (n - 10) ∨ b.toNat = 'a'.toNat + (n - 10))

/-- Four hexadecimal digits. -/
inductive HexUnit : Nat → List UInt8 → Prop where
  | mk {w x y z : Nat} {a b c d : UInt8} (ha : HexDigit w a) (hb : HexDigit x b)
      (hc : HexDigit y c) (hd : HexDigit z d) :
      HexUnit (w * 4096 + x * 256 + y * 16 + z) [a, b, c, d]

/-- The characters with an escape of their own, and the octet behind its backslash. -/
def shortEscapes : List (Char × UInt8) :=
  [('"', 0x22), ('\\', 0x5C), ('/', 0x2F), ('\x08', 0x62), ('\x0c', 0x66), ('\n', 0x6E),
    ('\r', 0x72), ('\t', 0x74)]

/-- What follows the backslash of an escape. -/
inductive Escape : Char → List UInt8 → Prop where
  | short {c : Char} {b : UInt8} (h : (c, b) ∈ shortEscapes) : Escape c [b]
  | unit {c : Char} {u : List UInt8} (h : HexUnit c.toNat u) : Escape c (hexEscape :: u)
  | pair {c : Char} {high low : Nat} {u v : List UInt8} (hu : HexUnit high u)
      (hv : HexUnit low v) (hhigh : isHighSurrogate high) (hlow : isLowSurrogate low)
      (hc : c.toNat = 0x10000 + (high - 0xD800) * 0x400 + (low - 0xDC00)) :
      Escape c (hexEscape :: (u ++ backslash :: hexEscape :: v))

/-- An octet that stands for itself in a string. -/
def isPlain (b : UInt8) : Bool := 0x20 ≤ b && b != quotationMark && b != backslash

/-- How the octets of a text may stand between quotation marks. -/
inductive Content : List UInt8 → List UInt8 → Prop where
  | nil : Content [] []
  | plain {b : UInt8} {x o : List UInt8} (hb : isPlain b) (h : Content x o) :
      Content (b :: x) (b :: o)
  | escape {c : Char} {e x o : List UInt8} (he : Escape c e) (h : Content x o) :
      Content (String.utf8EncodeChar c ++ x) (backslash :: (e ++ o))

/-- A string literal that writes `x`. -/
inductive Literal (x : String) : List UInt8 → Prop where
  | mk {body : List UInt8} (h : Content (Utf8.encode x.toList) body) :
      Literal x (quotationMark :: (body ++ [quotationMark]))

/-- What may stand between quotation marks when nobody asks what it denotes. -/
inductive LooseContent : List UInt8 → Prop where
  | nil : LooseContent []
  | plain {b : UInt8} {o : List UInt8} (hb : isPlain b) (h : LooseContent o) :
      LooseContent (b :: o)
  | short {c : Char} {b : UInt8} {o : List UInt8} (hb : (c, b) ∈ shortEscapes)
      (h : LooseContent o) : LooseContent (backslash :: b :: o)
  | unit {n : Nat} {u o : List UInt8} (hu : HexUnit n u) (h : LooseContent o) :
      LooseContent (backslash :: hexEscape :: (u ++ o))

inductive LooseLiteral : List UInt8 → Prop where
  | mk {body : List UInt8} (h : LooseContent body) :
      LooseLiteral (quotationMark :: (body ++ [quotationMark]))

/-! ## Lists and objects -/

/-- What stands before an item: a comma, unless it is the first. -/
inductive Lead : Bool → List UInt8 → Prop where
  | first {w : List UInt8} (hw : Blanks w) : Lead true w
  | next {w w' : List UInt8} (hw : Blanks w) (hw' : Blanks w') : Lead false (w ++ comma :: w')

/-- Items and the octet that ends them: from behind the opening on if `isFirst`, else from behind
an item on. -/
inductive Listing (close : UInt8) : Bool → List (List UInt8) → List UInt8 → Prop where
  | nil {isFirst : Bool} {w : List UInt8} (hw : Blanks w) :
      Listing close isFirst [] (w ++ [close])
  | cons {isFirst : Bool} {l item o : List UInt8} {items : List (List UInt8)}
      (hl : Lead isFirst l) (h : Listing close false items o) :
      Listing close isFirst (item :: items) (l ++ (item ++ o))

/-- A member of an object as it stands in the text. -/
structure Member where
  key : List UInt8
  beforeColon : List UInt8
  afterColon : List UInt8
  value : List UInt8

namespace Member

def octets (m : Member) : List UInt8 :=
  m.key ++ (m.beforeColon ++ colon :: (m.afterColon ++ m.value))

/-- Nothing but blanks around the colon. -/
structure IsSpaced (m : Member) : Prop where
  before : Blanks m.beforeColon
  after : Blanks m.afterColon

end Member

/-! ## Values -/

inductive Scalar : List UInt8 → Prop where
  | null : Scalar (0x6E :: nullTail)
  | true : Scalar (0x74 :: trueTail)
  | false : Scalar (0x66 :: falseTail)
  | string {o : List UInt8} (h : LooseLiteral o) : Scalar o
  | natural {n : Numeral} {o : List UInt8} (h : n.Written o) : Scalar o
  | negative {n : Numeral} {o : List UInt8} (h : n.Written o) : Scalar (minus :: o)

inductive Value : List UInt8 → Prop where
  | scalar {o : List UInt8} (h : Scalar o) : Value o
  | list {vs : List (List UInt8)} {o : List UInt8} (hvs : ∀ v ∈ vs, Value v)
      (ho : Listing closeBracket true vs o) : Value (openBracket :: o)
  | object {ms : List Member} {o : List UInt8}
      (hkeys : ∀ m ∈ ms, m.IsSpaced ∧ LooseLiteral m.key) (hvalues : ∀ m ∈ ms, Value m.value)
      (ho : Listing closeBrace true (ms.map Member.octets) o) : Value (openBrace :: o)

/-- A variant that holds nothing: its name, or an object with the name as its only key. -/
inductive VariantText (name : String) : List UInt8 → Prop where
  | string {o : List UInt8} (h : Literal name o) : VariantText name o
  | object {w key w₁ w₂ w₃ : List UInt8} (hw : Blanks w) (hkey : Literal name key)
      (hw₁ : Blanks w₁) (hw₂ : Blanks w₂) (hw₃ : Blanks w₃) :
      VariantText name (openBrace :: (w ++ (key ++ (w₁ ++ colon :: (w₂ ++
        0x6E :: (nullTail ++ (w₃ ++ [closeBrace])))))))

/-! ## Values of a type -/

inductive FlagText : Bool → List UInt8 → Prop where
  | true : FlagText Bool.true (0x74 :: trueTail)
  | false : FlagText Bool.false (0x66 :: falseTail)

/-- The number that decimal digits denote. -/
def decimal (ds : List UInt8) : Nat := ds.foldl (fun n d => n * 10 + digitValue d) 0

structure NaturalText (n : Nat) (o : List UInt8) : Prop where
  whole : Whole o
  denotes : decimal o = n

/-- A value that is there is written as `P` says, one that is not as `null`. -/
inductive OptionText {α : Type} (P : α → List UInt8 → Prop) : Option α → List UInt8 → Prop where
  | null : OptionText P none (0x6E :: nullTail)
  | some {a : α} {o : List UInt8} (h : P a o) : OptionText P (some a) o

/-- A list with each of its elements written as `P` says. -/
inductive ListText {α : Type} (P : α → List UInt8 → Prop) (as : List α) : List UInt8 → Prop where
  | mk {vs : List (List UInt8)} {o : List UInt8} (hvs : List.Forall₂ P as vs)
      (ho : Listing closeBracket true vs o) : ListText P as (openBracket :: o)

/-! ## Members of a record -/

/-- That a member has a name and a value that is written as `P` says. -/
structure Member.Bears (m : Member) (name : String) (P : List UInt8 → Prop) : Prop where
  key : Literal name m.key
  value : P m.value

/-- The members that write one entry of a record: just one, or none if it may be left out. -/
inductive Entry (name : String) (mayLack : Prop) (P : List UInt8 → Prop) : List Member → Prop where
  | absent (h : mayLack) : Entry name mayLack P []
  | present {m : Member} (h : m.Bears name P) : Entry name mayLack P [m]

/-- That a member has none of the names, and any value. -/
structure Member.IsForeign (m : Member) (names : List String) : Prop where
  key : ∃ name, Literal name m.key ∧ name ∉ names
  value : Value m.value

/-! ## Documents -/

/-- A document: one value with nothing but blanks around it. -/
inductive DocumentText : List UInt8 → Prop where
  | mk {w o w' : List UInt8} (hw : Blanks w) (ho : Value o) (hw' : Blanks w') :
      DocumentText (w ++ (o ++ w'))

/-- A document that is an object with the members `ms`. -/
inductive ObjectText (ms : List Member) : List UInt8 → Prop where
  | mk {w o w' : List UInt8} (hw : Blanks w) (hms : ∀ m ∈ ms, m.IsSpaced)
      (ho : Listing closeBrace true (ms.map Member.octets) o) (hw' : Blanks w') :
      ObjectText ms (w ++ openBrace :: (o ++ w'))

end RtpBridge.Json

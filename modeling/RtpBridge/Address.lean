-- SUMMARY: The texts of IP addresses.

/-!
# IP addresses

An IPv4 address is four decimal numbers with dots between. An IPv6 address is eight
hexadecimal pieces with colons between; a double colon stands for one or more zero
pieces, and the last two pieces may be written as an IPv4 address.
-/

namespace RtpBridge.Address

/-- The value of a digit in bases up to sixteen. -/
def digitIn? (base : Nat) (c : Char) : Option Nat :=
  let v :=
    if '0' ≤ c ∧ c ≤ '9' then c.toNat - 48
    else if 'a' ≤ c ∧ c ≤ 'f' then c.toNat - 87
    else if 'A' ≤ c ∧ c ≤ 'F' then c.toNat - 55
    else 16
  if v < base then some v else none

def numberIn? (base : Nat) (s : List Char) : Option Nat :=
  s.foldlM (fun n c => (n * base + ·) <$> digitIn? base c) 0

/-- Whether the text is four decimal numbers of at most 255 with no leading zeros. -/
def isDottedQuad (s : List Char) : Bool :=
  let parts := s.splitOn '.'
  parts.length == 4 && parts.all fun p =>
    !p.isEmpty && (p.length == 1 || p.head? != some '0') && (numberIn? 10 p).any (· ≤ 255)

def isPiece (p : List Char) : Bool :=
  1 ≤ p.length && p.length ≤ 4 && (numberIn? 16 p).isSome

/-- How many 16-bit pieces the text spells out, if it does so; a dotted quad at the end is two. -/
def pieces? (mayEndInQuad : Bool) (s : List Char) : Option Nat :=
  if s.isEmpty then some 0
  else
    let parts := s.splitOn ':'
    let last := parts.getLast?.getD []
    if parts.all isPiece then some parts.length
    else if mayEndInQuad ∧ parts.dropLast.all isPiece ∧ isDottedQuad last then
      some (parts.length + 1)
    else none

/-- Cuts the text at the first double colon. -/
def splitDoubleColon? : List Char → Option (List Char × List Char)
  | ':' :: ':' :: rest => some ([], rest)
  | c :: rest => (splitDoubleColon? rest).map fun (l, r) => (c :: l, r)
  | [] => none

def isIpv6 (s : List Char) : Bool :=
  match splitDoubleColon? s with
  | none => pieces? true s == some 8
  | some (l, r) =>
    match pieces? false l, pieces? true r with
    | some m, some n => m + n < 8
    | _, _ => false

/-- Whether the text is an address of either kind. -/
def isAddress (s : List Char) : Bool := isDottedQuad s || isIpv6 s

example : isAddress "127.0.0.1".toList ∧ isAddress "::1".toList := by decide
example : ¬isAddress "127.1".toList ∧ ¬isAddress "[::1]".toList := by decide

end RtpBridge.Address

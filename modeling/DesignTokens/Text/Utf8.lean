/-! # UTF-8

Decoding of octets, with the place and the reason of the first fault. A fault spans the octets of
the longest prefix of a character that could still have been completed. -/
namespace DesignTokens.Text.Utf8

inductive Reason
  | start
  | continuation
  | truncated
  deriving DecidableEq, Repr

/-- The first `length` octets from `position` on are no character; `octet` is the first of them. -/
structure Fault where
  octet : Nat
  position : Nat
  length : Nat
  reason : Reason
  deriving DecidableEq, Repr

def Reason.message : Reason → String
  | .start => "invalid start byte"
  | .continuation => "invalid continuation byte"
  | .truncated => "unexpected end of data"

def hexDigit (n : Nat) : Char :=
  if n < 10 then Char.ofNat (48 + n) else Char.ofNat (87 + n)

/-- Two lower case hexadecimal digits. -/
def hexOctet (n : Nat) : String := String.ofList [hexDigit (n / 16 % 16), hexDigit (n % 16)]

def Fault.message (f : Fault) : String :=
  if f.length = 1 then
    "'utf-8' codec can't decode byte 0x" ++ hexOctet f.octet ++ " in position " ++
      toString f.position ++ ": " ++ f.reason.message
  else
    "'utf-8' codec can't decode bytes in position " ++ toString f.position ++ "-" ++
      toString (f.position + f.length - 1) ++ ": " ++ f.reason.message

/-- What a first octet promises: its payload, and the range of each octet that must follow. -/
def lead (b : Nat) : Option (Nat × List (Nat × Nat)) :=
  if b < 0x80 then some (b, [])
  else if b < 0xC2 then none
  else if b < 0xE0 then some (b - 0xC0, [(0x80, 0xBF)])
  else if b = 0xE0 then some (0, [(0xA0, 0xBF), (0x80, 0xBF)])
  else if b = 0xED then some (0xD, [(0x80, 0x9F), (0x80, 0xBF)])
  else if b < 0xF0 then some (b - 0xE0, [(0x80, 0xBF), (0x80, 0xBF)])
  else if b = 0xF0 then some (0, [(0x90, 0xBF), (0x80, 0xBF), (0x80, 0xBF)])
  else if b < 0xF4 then some (b - 0xF0, [(0x80, 0xBF), (0x80, 0xBF), (0x80, 0xBF)])
  else if b = 0xF4 then some (4, [(0x80, 0x8F), (0x80, 0xBF), (0x80, 0xBF)])
  else none

/-- Reads the octets that must follow; a fault tells how many of them were right. -/
def tail (code : Nat) (seen : Nat) :
    List (Nat × Nat) → List Nat → Except (Nat × Reason) (Nat × List Nat)
  | [], rest => .ok (code, rest)
  | _ :: _, [] => .error (seen, .truncated)
  | (low, high) :: more, b :: rest =>
    if low ≤ b ∧ b ≤ high then tail (code * 64 + b % 64) (seen + 1) more rest
    else .error (seen, .continuation)

/-- Decodes with at most `fuel` characters; one per octet is always enough. -/
def decodeFrom : Nat → Nat → List Nat → List Char → Except Fault (List Char)
  | 0, _, _, done => .ok done.reverse
  | _ + 1, _, [], done => .ok done.reverse
  | fuel + 1, position, b :: rest, done =>
    match lead b with
    | none => .error ⟨b, position, 1, .start⟩
    | some (code, ranges) =>
      match tail code 0 ranges rest with
      | .error (seen, reason) => .error ⟨b, position, seen + 1, reason⟩
      | .ok (code, rest) =>
        decodeFrom fuel (position + 1 + ranges.length) rest (Char.ofNat code :: done)

def decode (octets : List UInt8) : Except Fault (List Char) :=
  decodeFrom octets.length 0 (octets.map UInt8.toNat) []

/-- The octets of one character. -/
def encodeChar (c : Char) : List UInt8 :=
  let n := c.toNat
  if n < 0x80 then [n.toUInt8]
  else if n < 0x800 then [(0xC0 + n / 64).toUInt8, (0x80 + n % 64).toUInt8]
  else if n < 0x10000 then
    [(0xE0 + n / 4096).toUInt8, (0x80 + n / 64 % 64).toUInt8, (0x80 + n % 64).toUInt8]
  else
    [(0xF0 + n / 262144).toUInt8, (0x80 + n / 4096 % 64).toUInt8, (0x80 + n / 64 % 64).toUInt8,
      (0x80 + n % 64).toUInt8]

def encode (cs : List Char) : List UInt8 := cs.flatMap encodeChar

end DesignTokens.Text.Utf8

/-!
UTF-8, strictly: `encode` writes the shortest form of each character, and `decode` accepts nothing else.
A refusal says which bytes were at fault and why.
-/

namespace BrowserFlow.Utf8

inductive Reason
  | invalidStart
  | invalidContinuation
  | unexpectedEnd
  deriving DecidableEq, Repr

def Reason.text : Reason → String
  | .invalidStart => "invalid start byte"
  | .invalidContinuation => "invalid continuation byte"
  | .unexpectedEnd => "unexpected end of data"

/-- The bytes at positions `first` to `last`, of which the first is `byte`, cannot be decoded. -/
structure Refusal where
  byte : UInt8
  first : Nat
  last : Nat
  reason : Reason
  deriving DecidableEq, Repr

def hexDigit (n : Nat) : Char := Nat.digitChar n

def hex2 (n : Nat) : String := String.ofList [hexDigit (n / 16 % 16), hexDigit (n % 16)]

def Refusal.message (r : Refusal) : String :=
  let place :=
    if r.first == r.last then s!"byte 0x{hex2 r.byte.toNat} in position {r.first}"
    else s!"bytes in position {r.first}-{r.last}"
  s!"'utf-8' codec can't decode {place}: {r.reason.text}"

def encodeChar (c : Char) : List UInt8 :=
  let n := c.toNat
  if n < 0x80 then [n.toUInt8]
  else if n < 0x800 then [(0xC0 + n / 64).toUInt8, (0x80 + n % 64).toUInt8]
  else if n < 0x10000 then
    [(0xE0 + n / 4096).toUInt8, (0x80 + n / 64 % 64).toUInt8, (0x80 + n % 64).toUInt8]
  else
    [(0xF0 + n / 262144).toUInt8, (0x80 + n / 4096 % 64).toUInt8, (0x80 + n / 64 % 64).toUInt8,
      (0x80 + n % 64).toUInt8]

def encode (cs : List Char) : List UInt8 := cs.flatMap encodeChar

def size (s : String) : Nat := (encode s.toList).length

def isContinuation (b : UInt8) : Bool := 0x80 ≤ b && b < 0xC0

/-- May `second` follow the lead byte `lead`? Overlong forms, surrogates and numbers above U+10FFFF are
    refused here. -/
def mayFollow (lead second : UInt8) : Bool :=
  isContinuation second &&
    !(lead == 0xE0 && second < 0xA0) && !(lead == 0xED && 0xA0 ≤ second) &&
    !(lead == 0xF0 && second < 0x90) && !(lead == 0xF4 && 0x90 ≤ second)

def low6 (b : UInt8) : Nat := b.toNat % 64

def decodeFrom (pos : Nat) : List UInt8 → Except Refusal (List Char)
  | [] => .ok []
  | b :: rest =>
    let fail (last : Nat) (reason : Reason) : Except Refusal (List Char) :=
      .error ⟨b, pos, pos + last, reason⟩
    if b < 0x80 then (decodeFrom (pos + 1) rest).map (Char.ofNat b.toNat :: ·)
    else if b < 0xC2 then fail 0 .invalidStart
    else if b < 0xE0 then
      match rest with
      | [] => fail 0 .unexpectedEnd
      | c :: rest =>
        if isContinuation c then
          (decodeFrom (pos + 2) rest).map (Char.ofNat (b.toNat % 32 * 64 + low6 c) :: ·)
        else fail 0 .invalidContinuation
    else if b < 0xF0 then
      match rest with
      | [] => fail 0 .unexpectedEnd
      | c :: rest =>
        if !mayFollow b c then fail 0 .invalidContinuation
        else match rest with
          | [] => fail 1 .unexpectedEnd
          | d :: rest =>
            if isContinuation d then
              (decodeFrom (pos + 3) rest).map
                (Char.ofNat (b.toNat % 16 * 4096 + low6 c * 64 + low6 d) :: ·)
            else fail 1 .invalidContinuation
    else if b < 0xF5 then
      match rest with
      | [] => fail 0 .unexpectedEnd
      | c :: rest =>
        if !mayFollow b c then fail 0 .invalidContinuation
        else match rest with
          | [] => fail 1 .unexpectedEnd
          | d :: rest =>
            if !isContinuation d then fail 1 .invalidContinuation
            else match rest with
              | [] => fail 2 .unexpectedEnd
              | e :: rest =>
                if isContinuation e then
                  (decodeFrom (pos + 4) rest).map
                    (Char.ofNat (b.toNat % 8 * 262144 + low6 c * 4096 + low6 d * 64 + low6 e) :: ·)
                else fail 2 .invalidContinuation
    else fail 0 .invalidStart

def decode (bytes : List UInt8) : Except Refusal (List Char) := decodeFrom 0 bytes

end BrowserFlow.Utf8

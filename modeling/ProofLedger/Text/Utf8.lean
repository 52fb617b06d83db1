import ProofLedger.Text.Basic

/-!
# The eight-bit form of text

`encode` writes each code point in one to four octets; `decode` reads
octets back and names the first place where they stop being a shortest
form. A reader may be asked to let encoded surrogates pass: JSON
documents written by other tools hold them. A text has an eight-bit form
of its own (`utf8?`) exactly when it is `Scalar`.
-/

namespace ProofLedger.Text.Utf8

/-- Why a run of octets is no code point. -/
inductive Reason where
  | start
  | continuation
  | truncated
  deriving DecidableEq, Repr

/-- The octets from `start` up to `stop` that cannot be read. -/
structure Fault where
  first : UInt8
  start : Nat
  stop : Nat
  reason : Reason
  deriving DecidableEq, Repr

def Reason.message : Reason → Text
  | .start => "invalid start byte"
  | .continuation => "invalid continuation byte"
  | .truncated => "unexpected end of data"

/-- One hexadecimal digit, lower case. -/
def hexDigit (n : Nat) : Nat := if n < 10 then 48 + n else 87 + n

def Fault.message (f : Fault) : Text :=
  if f.stop = f.start + 1 then
    "'utf-8' codec can't decode byte 0x" ++
      [hexDigit (f.first.toNat / 16), hexDigit (f.first.toNat % 16)] ++
      " in position " ++ ofNat f.start ++ ": " ++ f.reason.message
  else
    "'utf-8' codec can't decode bytes in position " ++ ofNat f.start ++ "-" ++
      ofNat (f.stop - 1) ++ ": " ++ f.reason.message

/-- The octets of one code point. -/
def encodePoint (c : Nat) : Bytes :=
  if c < 0x80 then [.ofNat c]
  else if c < 0x800 then [.ofNat (0xC0 + c / 64), .ofNat (0x80 + c % 64)]
  else if c < 0x10000 then
    [.ofNat (0xE0 + c / 4096), .ofNat (0x80 + c / 64 % 64), .ofNat (0x80 + c % 64)]
  else
    [.ofNat (0xF0 + c / 262144), .ofNat (0x80 + c / 4096 % 64),
      .ofNat (0x80 + c / 64 % 64), .ofNat (0x80 + c % 64)]

/-- The octets of a text, each code point on its own. -/
def encode (t : Text) : Bytes := t.flatMap encodePoint

/-- Octets that continue a code point. -/
def isTail (b : UInt8) : Bool := 0x80 ≤ b.toNat && b.toNat ≤ 0xBF

/-- The least and the greatest second octet after a lead octet: the bounds
exclude longer forms than needed, values past U+10FFFF and, unless they
may pass, surrogates. -/
def secondBounds (passSurrogates : Bool) (lead : Nat) : Nat × Nat :=
  if lead = 0xE0 then (0xA0, 0xBF)
  else if lead = 0xED && !passSurrogates then (0x80, 0x9F)
  else if lead = 0xF0 then (0x90, 0xBF)
  else if lead = 0xF4 then (0x80, 0x8F)
  else (0x80, 0xBF)

/-- Whether `b` may follow the lead octet. -/
def isSecond (passSurrogates : Bool) (lead : Nat) (b : UInt8) : Bool :=
  (secondBounds passSurrogates lead).1 ≤ b.toNat && b.toNat ≤ (secondBounds passSurrogates lead).2

/-- How far a form reaches before it breaks, and why. -/
abbrev Broken := Nat × Reason

/-- The value of one more octet of a form. -/
def tailValue (high : Nat) (b : UInt8) : Nat := high * 64 + (b.toNat - 0x80)

/-- Reads the code point at the head of a list of octets and returns it with
the octets after it. -/
def decodePoint (passSurrogates : Bool) : Bytes → Except Broken (Nat × Bytes)
  | [] => .error (0, .truncated)
  | b :: r =>
    let lead := b.toNat
    if lead < 0x80 then .ok (lead, r)
    else if lead < 0xC2 then .error (1, .start)
    else if 0xF5 ≤ lead then .error (1, .start)
    else match r with
      | [] => .error (1, .truncated)
      | b₂ :: r₂ =>
        if !isSecond passSurrogates lead b₂ then .error (1, .continuation)
        else if lead < 0xE0 then .ok (tailValue (lead - 0xC0) b₂, r₂)
        else match r₂ with
          | [] => .error (2, .truncated)
          | b₃ :: r₃ =>
            if !isTail b₃ then .error (2, .continuation)
            else if lead < 0xF0 then .ok (tailValue (tailValue (lead - 0xE0) b₂) b₃, r₃)
            else match r₃ with
              | [] => .error (3, .truncated)
              | b₄ :: r₄ =>
                if !isTail b₄ then .error (3, .continuation)
                else .ok (tailValue (tailValue (tailValue (lead - 0xF0) b₂) b₃) b₄, r₄)

/-- Reads code points until the octets end; `done` holds the ones read so
far, last first. Each code point takes at least one octet, so the number of
octets bounds the number of steps. -/
def decodeFrom (passSurrogates : Bool) : Nat → Nat → Bytes → Text → Except Fault Text
  | _, _, [], done => .ok done.reverse
  | 0, _, _ :: _, done => .ok done.reverse
  | fuel + 1, position, b :: r, done =>
    match decodePoint passSurrogates (b :: r) with
    | .error (width, reason) => .error ⟨b, position, position + width, reason⟩
    | .ok (c, rest) =>
      decodeFrom passSurrogates fuel (position + (encodePoint c).length) rest (c :: done)

/-- Reads octets as text. -/
def decode (passSurrogates : Bool) (bytes : Bytes) : Except Fault Text :=
  decodeFrom passSurrogates bytes.length 0 bytes []

end ProofLedger.Text.Utf8

namespace ProofLedger.Text

/-- The first lone surrogate of a text that has no octets, and the places from it
up to the next code point of another kind. -/
structure Unencodable where
  first : Nat
  start : Nat
  stop : Nat
  deriving DecidableEq, Repr

namespace Unencodable

/-- The lone surrogates of a text, from a place on. -/
def locate (place : Nat) : Text → Unencodable
  | [] => ⟨0, place, place⟩
  | c :: r =>
    if isSurrogate c then ⟨c, place, place + ((c :: r).takeWhile isSurrogate).length⟩
    else locate (place + 1) r

/-- A code point of four hexadecimal digits as an escape. -/
def escape (c : Nat) : Text :=
  92 :: 117 :: [12, 8, 4, 0].map fun shift => Utf8.hexDigit (c / 2 ^ shift % 16)

def message (u : Unencodable) : Text :=
  if u.stop = u.start + 1 then
    "'utf-8' codec can't encode character '" ++ escape u.first ++ "' in position " ++
      ofNat u.start ++ ": surrogates not allowed"
  else
    "'utf-8' codec can't encode characters in position " ++ ofNat u.start ++ "-" ++
      ofNat (u.stop - 1) ++ ": surrogates not allowed"

end Unencodable

/-- The octets of a text that holds no lone surrogate. -/
def utf8? (t : Text) : Option Bytes := if t.Scalar then some (Utf8.encode t) else none

/-- The octets of a text, or the lone surrogates that keep it from having any. -/
def octets (t : Text) : Except Unencodable Bytes :=
  if t.Scalar then .ok (Utf8.encode t) else .error (.locate 0 t)

/-- Reads octets strictly. -/
def ofUtf8 (bytes : Bytes) : Except Utf8.Fault Text := Utf8.decode false bytes

/-- The text that is left when the octets of lone surrogates are replaced, each by
U+FFFD. -/
def lossy (t : Text) : Text :=
  t.flatMap fun c => if isSurrogate c then [0xFFFD, 0xFFFD, 0xFFFD] else [c]

end ProofLedger.Text

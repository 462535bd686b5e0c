/-!
# UTF-8

`Utf8.decode` reads bytes as text and, where they are not text, says where the first fault lies:
how many bytes before it are well formed, and how many bytes the faulty piece has. `Utf8.lossy`
replaces every faulty piece by U+FFFD instead. Both cut faulty pieces the same way: a piece is the
longest start of a well-formed sequence, and at least one byte.

`decode_toUTF8` says that the bytes of a text read back as that text.
-/

namespace GatewayDesk

/-- Where bytes stop being text. -/
structure Utf8.Fault where
  /-- How many bytes before the fault are well formed. -/
  validUpTo : Nat
  /-- How many bytes the faulty piece has; none when the bytes end inside a character. -/
  length : Option Nat
  deriving DecidableEq, Repr

/-- The sentence that reports a fault. -/
def Utf8.Fault.message (fault : Utf8.Fault) : String :=
  match fault.length with
  | some n => s!"invalid utf-8 sequence of {n} bytes from index {fault.validUpTo}"
  | none => s!"incomplete utf-8 byte sequence from index {fault.validUpTo}"

namespace Utf8

/-! ## One character -/

/-- What stands at the front of a byte sequence. -/
inductive Piece where
  /-- A whole character of this many bytes. -/
  | character (c : Char) (length : Nat)
  /-- A faulty piece of this many bytes. -/
  | faulty (length : Nat)
  /-- The bytes end inside a character. -/
  | unfinished
  deriving Repr

/-- Whether a byte continues a character. -/
def isTail (b : UInt8) : Bool := 0x80 ≤ b && b ≤ 0xBF

/-- Whether `b` may be the second byte after the leading byte `lead`. -/
def maySecond (lead b : UInt8) : Bool :=
  if lead == 0xE0 then 0xA0 ≤ b && b ≤ 0xBF
  else if lead == 0xED then 0x80 ≤ b && b ≤ 0x9F
  else if lead == 0xF0 then 0x90 ≤ b && b ≤ 0xBF
  else if lead == 0xF4 then 0x80 ≤ b && b ≤ 0x8F
  else isTail b

/-- The six low bits of a continuing byte. -/
def tailBits (b : UInt8) : Nat := b.toNat % 64

/-- The piece at the front of a nonempty byte sequence. -/
def piece (lead : UInt8) (rest : List UInt8) : Piece :=
  if lead < 0x80 then .character (Char.ofNat lead.toNat) 1
  else if 0xC2 ≤ lead && lead ≤ 0xDF then
    match rest with
    | [] => .unfinished
    | b :: _ =>
      if isTail b then .character (Char.ofNat (lead.toNat % 32 * 64 + tailBits b)) 2
      else .faulty 1
  else if 0xE0 ≤ lead && lead ≤ 0xEF then
    match rest with
    | [] => .unfinished
    | b :: rest =>
      if maySecond lead b then
        match rest with
        | [] => .unfinished
        | c :: _ =>
          if isTail c then
            .character (Char.ofNat (lead.toNat % 16 * 4096 + tailBits b * 64 + tailBits c)) 3
          else .faulty 2
      else .faulty 1
  else if 0xF0 ≤ lead && lead ≤ 0xF4 then
    match rest with
    | [] => .unfinished
    | b :: rest =>
      if maySecond lead b then
        match rest with
        | [] => .unfinished
        | c :: rest =>
          if isTail c then
            match rest with
            | [] => .unfinished
            | d :: _ =>
              if isTail d then
                .character (Char.ofNat
                  (lead.toNat % 8 * 262144 + tailBits b * 4096 + tailBits c * 64 + tailBits d)) 4
              else .faulty 3
          else .faulty 2
      else .faulty 1
  else .faulty 1

/-! ## Whole texts -/

/-- The bytes of a text. -/
def encode (cs : List Char) : List UInt8 := cs.flatMap String.utf8EncodeChar

/-- The first fault of a byte sequence, with `skip` bytes of a piece still to pass. -/
def firstFault (bytes : List UInt8) (skip offset : Nat) : Option Fault :=
  match bytes, skip with
  | [], _ => none
  | _ :: rest, skip + 1 => firstFault rest skip (offset + 1)
  | b :: rest, 0 =>
    match piece b rest with
    | .character _ n => firstFault rest (n - 1) (offset + 1)
    | .faulty n => some ⟨offset, some n⟩
    | .unfinished => some ⟨offset, none⟩

/-- The bytes as text, or their first fault. -/
def decode (bytes : ByteArray) : Except Fault String :=
  match String.fromUTF8? bytes with
  | some text => .ok text
  | none => .error ((firstFault bytes.toList 0 0).getD ⟨0, none⟩)

/-- The bytes of a text read back as that text. -/
theorem decode_toUTF8 (text : String) : decode text.toUTF8 = .ok text := by
  simp [decode, String.fromUTF8?, text.isValidUTF8, String.fromUTF8]

/-- The characters of a byte sequence, every faulty piece being one U+FFFD; `skip` bytes of a
piece are still to pass. -/
def lossyChars (bytes : List UInt8) (skip : Nat) : List Char :=
  match bytes, skip with
  | [], _ => []
  | _ :: rest, skip + 1 => lossyChars rest skip
  | b :: rest, 0 =>
    match piece b rest with
    | .character c n => c :: lossyChars rest (n - 1)
    | .faulty n => '\uFFFD' :: lossyChars rest (n - 1)
    | .unfinished => ['\uFFFD']

/-- The bytes as text, every faulty piece being one U+FFFD. -/
def lossy (bytes : ByteArray) : String :=
  String.ofList (lossyChars bytes.toList 0)

end Utf8

end GatewayDesk

/-!
# UTF-8

Bytes of a text, and the text of bytes. A misread says where the first ill-formed sequence
starts and how many of its bytes rule it out; no length means that the bytes end too early.
-/

namespace Parley.Text.Utf8

/-- Where the first ill-formed sequence starts and how many bytes of it show that it is one.
`length` is absent when the input ends inside a sequence that is well formed so far. -/
structure Misread where
  index : Nat
  length : Option Nat
deriving DecidableEq, Repr

def Misread.message (misread : Misread) : String :=
  match misread.length with
  | some length =>
      s!"invalid utf-8 sequence of {length} bytes from index {misread.index}"
  | none => s!"incomplete utf-8 byte sequence from index {misread.index}"

def encode (text : List Char) : List UInt8 :=
  text.flatMap String.utf8EncodeChar

def size (text : List Char) : Nat :=
  text.foldl (fun total character => total + character.utf8Size) 0

/-- The byte continues a sequence: `10xxxxxx`. -/
def isContinuation (byte : UInt8) : Bool :=
  0x80 ≤ byte && byte ≤ 0xBF

/-- The six payload bits of a continuation byte. -/
def payload (byte : UInt8) : Nat :=
  byte.toNat % 64

/-- How many continuation bytes the first byte of a sequence asks for, and the bounds of the
first of them. The bounds leave out overlong forms, surrogates and what lies past U+10FFFF. -/
def lead? (byte : UInt8) : Option (Nat × UInt8 × UInt8) :=
  if 0xC2 ≤ byte ∧ byte ≤ 0xDF then some (1, 0x80, 0xBF)
  else if byte = 0xE0 then some (2, 0xA0, 0xBF)
  else if byte = 0xED then some (2, 0x80, 0x9F)
  else if 0xE1 ≤ byte ∧ byte ≤ 0xEF then some (2, 0x80, 0xBF)
  else if byte = 0xF0 then some (3, 0x90, 0xBF)
  else if 0xF1 ≤ byte ∧ byte ≤ 0xF3 then some (3, 0x80, 0xBF)
  else if byte = 0xF4 then some (3, 0x80, 0x8F)
  else none

/-- One character from the front of the bytes, and how many bytes it took. On failure the
number of bytes that rule the sequence out, or nothing at the end of the input. -/
def first : List UInt8 → Except (Option Nat) (Char × Nat)
  | [] => .error none
  | byte :: rest =>
      if byte < 0x80 then .ok (Char.ofNat byte.toNat, 1)
      else
        match lead? byte, rest with
        | none, _ => .error (some 1)
        | some _, [] => .error none
        | some (count, low, high), second :: rest =>
            if second < low ∨ high < second then .error (some 1)
            else
              match count, rest with
              | 1, _ =>
                  .ok (Char.ofNat ((byte.toNat % 32) * 64 + payload second), 2)
              | _, [] => .error none
              | 2, third :: _ =>
                  if isContinuation third then
                    .ok (Char.ofNat ((byte.toNat % 16) * 4096 + payload second * 64 +
                      payload third), 3)
                  else .error (some 2)
              | _, third :: rest =>
                  if isContinuation third then
                    match rest with
                    | [] => .error none
                    | fourth :: _ =>
                        if isContinuation fourth then
                          .ok (Char.ofNat ((byte.toNat % 8) * 262144 +
                            payload second * 4096 + payload third * 64 +
                            payload fourth), 4)
                        else .error (some 3)
                  else .error (some 2)

/-- Characters of the bytes that follow the first `index` ones; `skip` of them belong to the
character read last. -/
def decodeFrom (index skip : Nat) (read : List Char) :
    List UInt8 → Except Misread (List Char)
  | [] => .ok read.reverse
  | byte :: rest =>
      match skip with
      | skip + 1 => decodeFrom (index + 1) skip read rest
      | 0 =>
          match first (byte :: rest) with
          | .ok (character, count) =>
              decodeFrom (index + 1) (count - 1) (character :: read) rest
          | .error length => .error ⟨index, length⟩

/-- The text of the bytes, or the first misread. -/
def decode (bytes : List UInt8) : Except Misread (List Char) :=
  decodeFrom 0 0 [] bytes

end Parley.Text.Utf8

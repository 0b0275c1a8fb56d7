import Parley.Url.Domain
import Parley.Url.Percent

/-!
# Hosts

A host is a domain name in ASCII form, an IPv4 address, which may be written with fewer than four
parts and in octal or hexadecimal, or an IPv6 address in brackets.
-/

namespace Parley.Url

/-- Why a text is no URL. -/
inductive Defect where
  | emptyHost
  | domain
  | port
  | ipv4
  | ipv6
deriving DecidableEq, Repr

def Defect.message : Defect → String
  | .emptyHost => "empty host"
  | .domain => "invalid international domain name"
  | .port => "invalid port number"
  | .ipv4 => "invalid IPv4 address"
  | .ipv6 => "invalid IPv6 address"

inductive Host where
  | domain (name : List Char)
  | ipv4 (address : Nat)
  | ipv6 (pieces : List Nat)
deriving DecidableEq, Repr

/-! ## IPv4 -/

/-- The number that a part writes: hexadecimal after `0x`, octal after another leading zero. -/
def ipv4Number? (part : List Char) : Option Nat :=
  let (base, digits) :=
    match part with
    | '0' :: 'x' :: digits => (16, digits)
    | '0' :: 'X' :: digits => (16, digits)
    | '0' :: digit :: digits => (8, digit :: digits)
    | _ => (10, part)
  if part.isEmpty then none
  else if digits.all fun digit => (Text.digitValue? base digit).isSome then
    some (Text.numeral base digits)
  else none

/-- The last part of a domain name, before a full stop that ends it, is a number. -/
def endsInNumber (name : List Char) : Bool :=
  let last :=
    match (name.splitOn '.').reverse with
    | [] :: before :: _ => before
    | last :: _ => last
    | [] => []
  (! last.isEmpty && last.all Char.isDigit) || (ipv4Number? last).isSome

/-- The address of numbers, of which the last one fills the bytes that are left. -/
def ipv4Address? : Nat → List Nat → Option Nat
  | _, [] => none
  | bytes, [last] => if last < Nat.pow 256 bytes then some last else none
  | bytes, number :: rest =>
      if number < 256 then
        (ipv4Address? (bytes - 1) rest).map (number * Nat.pow 256 (bytes - 1) + ·)
      else none

/-- The IPv4 address that a name ending in a number writes. -/
def readIpv4 (name : List Char) : Except Defect Nat :=
  let parts := name.splitOn '.'
  let parts := if parts.getLast? = some [] then parts.dropLast else parts
  if parts.length > 4 then .error .ipv4
  else
    match (parts.mapM ipv4Number?).bind (ipv4Address? 4) with
    | some address => .ok address
    | none => .error .ipv4

/-- Four decimal bytes with full stops between them. -/
def renderIpv4 (address : Nat) : List Char :=
  let byte (place : Nat) := Nat.toDigits 10 (address / Nat.pow 256 place % 256)
  byte 3 ++ '.' :: (byte 2 ++ '.' :: (byte 1 ++ '.' :: byte 0))

/-! ## IPv6 -/

/-- The pieces read so far and where among them the run of zeros is left out. -/
structure Ipv6Draft where
  pieces : List Nat
  gap : Option Nat

/-- A decimal byte without leading zeros. -/
def ipv4Byte? (digits : List Char) : Option Nat :=
  match digits with
  | [] => none
  | '0' :: _ :: _ => none
  | _ =>
      let value := Text.numeral 10 digits
      if digits.all Char.isDigit ∧ value ≤ 255 then some value else none

/-- The last two pieces, written as an IPv4 address. -/
def embeddedIpv4? (text : List Char) : Option (List Nat) :=
  match (text.splitOn '.').mapM ipv4Byte? with
  | some [one, two, three, four] => some [one * 256 + two, three * 256 + four]
  | _ => none

/-- Reads pieces up to the end of the text. `fuel` bounds their number. -/
def readPieces : Nat → Ipv6Draft → List Char → Option Ipv6Draft
  | _, draft, [] => some draft
  | 0, _, _ => none
  | fuel + 1, draft, ':' :: rest =>
      if draft.gap.isSome then none
      else readPieces fuel { draft with gap := some draft.pieces.length } rest
  | fuel + 1, draft, text =>
      let isDigit (character : Char) := (Text.hexValue? character).isSome
      let digits := (text.takeWhile isDigit).take 4
      let rest := text.drop digits.length
      match rest with
      | '.' :: _ =>
          if digits.isEmpty then none
          else
            match embeddedIpv4? text with
            | some pieces => some { draft with pieces := draft.pieces ++ pieces }
            | none => none
      | [] => some { draft with pieces := draft.pieces ++ [Text.numeral 16 digits] }
      | ':' :: [] => none
      | ':' :: rest =>
          readPieces fuel { draft with pieces := draft.pieces ++ [Text.numeral 16 digits] }
            rest
      | _ => none

/-- The eight pieces of the address that a text without its brackets writes. -/
def readIpv6 (text : List Char) : Except Defect (List Nat) :=
  let draft? :=
    match text with
    | ':' :: ':' :: rest => readPieces 9 ⟨[], some 0⟩ rest
    | ':' :: _ => none
    | [] => none
    | _ => readPieces 9 ⟨[], none⟩ text
  match draft? with
  | some ⟨pieces, some gap⟩ =>
      if pieces.length ≤ 7 then
        .ok (pieces.take gap ++ List.replicate (8 - pieces.length) 0 ++ pieces.drop gap)
      else .error .ipv6
  | some ⟨pieces, none⟩ => if pieces.length = 8 then .ok pieces else .error .ipv6
  | none => .error .ipv6

def zeroRun (pieces : List Nat) : Nat :=
  (pieces.takeWhile (· == 0)).length

/-- The first longest run of at least two zeros: its place and its length. -/
def longestZeroRun? (pieces : List Nat) : Option (Nat × Nat) :=
  (List.range pieces.length).foldl (fun best? place =>
    let run := zeroRun (pieces.drop place)
    if run < 2 then best?
    else
      match best? with
      | none => some (place, run)
      | some (_, longest) => if longest < run then some (place, run) else best?) none

/-- Pieces in hexadecimal with colons between them. -/
def renderPieces : List Nat → List Char
  | [] => []
  | [piece] => Nat.toDigits 16 piece
  | piece :: rest => Nat.toDigits 16 piece ++ ':' :: renderPieces rest

/-- An IPv6 address with its longest run of zeros left out. -/
def renderIpv6 (pieces : List Nat) : List Char :=
  match longestZeroRun? pieces with
  | none => renderPieces pieces
  | some (place, run) =>
      renderPieces (pieces.take place) ++ ':' :: ':' ::
        renderPieces (pieces.drop (place + run))

/-! ## Hosts -/

namespace Host

def read (text : List Char) : Except Defect Host :=
  match text with
  | [] => .error .emptyHost
  | '[' :: rest =>
      if rest.getLast? = some ']' then do .ok (.ipv6 (← readIpv6 rest.dropLast))
      else .error .ipv6
  | _ =>
      match Text.Utf8.decode (percentDecode text) with
      | .error _ => .error .domain
      | .ok name =>
          match Domain.toAscii? name with
          | none => .error .domain
          | some [] => .error .emptyHost
          | some ascii =>
              if endsInNumber ascii then do .ok (.ipv4 (← readIpv4 ascii))
              else .ok (.domain ascii)

def render : Host → List Char
  | .domain name => name
  | .ipv4 address => renderIpv4 address
  | .ipv6 pieces => '[' :: (renderIpv6 pieces ++ [']'])

end Host

end Parley.Url

import Parley.Text.Blank

/-!
# Moments

Instants of universal time with nanoseconds, as dates and times of day. A text may write an
instant with an offset and with blanks between its parts; what is written has no offset. A second
numbered 60 is the second before it with a thousand million nanoseconds more.
-/

namespace Parley.Token

/-- A day of the Gregorian calendar, also before it was introduced. -/
structure Date where
  year : Int
  month : Nat
  day : Nat
deriving DecidableEq, Repr

/-- An instant of universal time. -/
structure Moment where
  date : Date
  /-- Minutes since midnight. -/
  minute : Nat
  second : Nat
  nanosecond : Nat
deriving DecidableEq, Repr

namespace Date

def isLeapYear (year : Int) : Bool :=
  year % 4 = 0 ∧ (year % 100 ≠ 0 ∨ year % 400 = 0)

def daysIn (year : Int) (month : Nat) : Nat :=
  if month = 2 then (if isLeapYear year then 29 else 28)
  else if month = 4 ∨ month = 6 ∨ month = 9 ∨ month = 11 then 30
  else 31

/-- The years that a date may have. -/
def leastYear : Int := -262143

def greatestYear : Int := 262142

def isValid (date : Date) : Bool :=
  leastYear ≤ date.year && date.year ≤ greatestYear && 1 ≤ date.month && date.month ≤ 12 &&
    1 ≤ date.day && date.day ≤ daysIn date.year date.month

def next (date : Date) : Date :=
  if date.day < daysIn date.year date.month then { date with day := date.day + 1 }
  else if date.month < 12 then ⟨date.year, date.month + 1, 1⟩
  else ⟨date.year + 1, 1, 1⟩

def previous (date : Date) : Date :=
  if 1 < date.day then { date with day := date.day - 1 }
  else if 1 < date.month then
    ⟨date.year, date.month - 1, daysIn date.year (date.month - 1)⟩
  else ⟨date.year - 1, 12, 31⟩

/-- The day so many days after the first of January 1970. -/
def ofDays (days : Nat) : Date :=
  let shifted := days + 719468
  let era := shifted / 146097
  let dayOfEra := shifted % 146097
  let yearOfEra :=
    (dayOfEra - dayOfEra / 1460 + dayOfEra / 36524 - dayOfEra / 146096) / 365
  let dayOfYear := dayOfEra - (365 * yearOfEra + yearOfEra / 4 - yearOfEra / 100)
  let shiftedMonth := (5 * dayOfYear + 2) / 153
  let day := dayOfYear - (153 * shiftedMonth + 2) / 5 + 1
  let month := if shiftedMonth < 10 then shiftedMonth + 3 else shiftedMonth - 9
  let year := yearOfEra + era * 400 + if month ≤ 2 then 1 else 0
  ⟨year, month, day⟩

end Date

namespace Moment

/-- The instant so many nanoseconds after the start of the first of January 1970. -/
def ofNanoseconds (nanoseconds : Nat) : Moment :=
  let seconds := nanoseconds / 1000000000
  ⟨.ofDays (seconds / 86400), seconds % 86400 / 60, seconds % 60,
    nanoseconds % 1000000000⟩

/-! ## Writing -/

/-- A number in decimal with leading zeros up to a width. -/
def padded (width value : Nat) : List Char :=
  let digits := Nat.toDigits 10 value
  List.replicate (width - digits.length) '0' ++ digits

/-- A year: four digits, or a sign and at least four outside of the years that four digits hold. -/
def renderYear (year : Int) : List Char :=
  if 0 ≤ year ∧ year ≤ 9999 then padded 4 year.toNat
  else (if year < 0 then '-' else '+') :: padded 4 year.natAbs

/-- A fraction of a second with no digits, or with three, six or nine. -/
def renderFraction (nanosecond : Nat) : List Char :=
  if nanosecond = 0 then []
  else if nanosecond % 1000000 = 0 then '.' :: padded 3 (nanosecond / 1000000)
  else if nanosecond % 1000 = 0 then '.' :: padded 6 (nanosecond / 1000)
  else '.' :: padded 9 nanosecond

/-- The date and the time, without an offset. -/
def renderLocal (moment : Moment) : List Char :=
  renderYear moment.date.year ++ '-' :: (padded 2 moment.date.month ++ '-' ::
    (padded 2 moment.date.day ++ 'T' :: (padded 2 (moment.minute / 60) ++ ':' ::
      (padded 2 (moment.minute % 60) ++ ':' ::
        (padded 2 (moment.second + moment.nanosecond / 1000000000) ++
          renderFraction (moment.nanosecond % 1000000000))))))

/-- The text that is stored. -/
def render (moment : Moment) : String :=
  String.ofList (moment.renderLocal ++ ['Z'])

/-- The text that is shown, with the offset in digits. -/
def renderWithOffset (moment : Moment) : String :=
  String.ofList (moment.renderLocal ++ ['+', '0', '0', ':', '0', '0'])

/-! ## Reading -/

/-- The number that at least one and at most `width` digits write, and the text after them. -/
def readNumber? (width : Nat) (text : List Char) : Option (Nat × List Char) :=
  let digits := (text.takeWhile Char.isDigit).take width
  if digits.isEmpty then none
  else
    some (digits.foldl (fun value digit => value * 10 + (digit.toNat - 48)) 0,
      text.drop digits.length)

/-- A number after blanks. -/
def readField? (width : Nat) (text : List Char) : Option (Nat × List Char) :=
  readNumber? width (Text.trimLeft text)

/-- A year after blanks: four digits at most, or any number of them after a sign. -/
def readYear? (text : List Char) : Option (Int × List Char) :=
  match Text.trimLeft text with
  | '-' :: rest => (readNumber? rest.length rest).map fun (year, rest) => (-(year : Int), rest)
  | '+' :: rest => (readNumber? rest.length rest).map fun (year, rest) => ((year : Int), rest)
  | rest => (readNumber? 4 rest).map fun (year, rest) => ((year : Int), rest)

/-- The text after blanks and a character that has to follow them. -/
def expect? (wanted : Char) (text : List Char) : Option (List Char) :=
  match Text.trimLeft text with
  | character :: rest => if character = wanted then some rest else none
  | [] => none

/-- The text after the mark between date and time. -/
def expectTimeMark? : List Char → Option (List Char)
  | 'T' :: rest => some rest
  | 't' :: rest => some rest
  | ' ' :: rest => some rest
  | _ => none

/-- The nanoseconds of a fraction; digits after the ninth are dropped. -/
def readFraction? : List Char → Option (Nat × List Char)
  | '.' :: rest =>
      (readNumber? 9 rest).map fun (value, after) =>
        (value * Nat.pow 10 (9 - (rest.length - after.length)), after.dropWhile Char.isDigit)
  | text => some (0, text)

/-- An offset in minutes: hours and minutes of two digits each, with colons or blanks between. -/
def readOffsetDigits? (text : List Char) : Option (Nat × List Char) :=
  match text with
  | one :: two :: rest =>
      let rest := rest.dropWhile fun character => character == ':' || Text.isBlank character
      match rest with
      | three :: four :: rest =>
          if [one, two, three, four].all Char.isDigit ∧ three ≤ '5' then
            some (((one.toNat - 48) * 10 + (two.toNat - 48)) * 60 +
              (three.toNat - 48) * 10 + (four.toNat - 48), rest)
          else none
      | _ => none
  | _ => none

/-- An offset from universal time in minutes, after blanks. -/
def readOffset? (text : List Char) : Option (Int × List Char) :=
  match Text.trimLeft text with
  | '+' :: rest => (readOffsetDigits? rest).map fun (minutes, rest) => ((minutes : Int), rest)
  | '-' :: rest => (readOffsetDigits? rest).map fun (minutes, rest) => (-(minutes : Int), rest)
  | '\u2212' :: rest =>
      (readOffsetDigits? rest).map fun (minutes, rest) => (-(minutes : Int), rest)
  | one :: rest =>
      if one = 'Z' ∨ one = 'z' then some (0, rest)
      else
        match rest with
        | two :: three :: rest =>
            if [one, two, three].map Char.toLower = ['u', 't', 'c'] then some (0, rest)
            else none
        | _ => none
  | [] => none

/-- The instant of a local date and time at an offset of less than a day. -/
def atOffset? (date : Date) (minute second nanosecond : Nat) (offset : Int) :
    Option Moment :=
  let shifted := (minute : Int) - offset
  if ! date.isValid ∨ offset.natAbs ≥ 1440 then none
  else
    let (date, minute) :=
      if shifted < 0 then (date.previous, shifted + 1440)
      else if 1440 ≤ shifted then (date.next, shifted - 1440)
      else (date, shifted)
    if date.isValid then some ⟨date, minute.toNat, second, nanosecond⟩ else none

def parse? (text : String) : Option Moment := do
  let (year, rest) ← readYear? text.toList
  let (month, rest) ← readField? 2 (← expect? '-' rest)
  let (day, rest) ← readField? 2 (← expect? '-' rest)
  let (hour, rest) ← readField? 2 (← expectTimeMark? rest)
  let (minute, rest) ← readField? 2 (← expect? ':' rest)
  let (second, rest) ← readField? 2 (← expect? ':' rest)
  let (nanosecond, rest) ← readFraction? rest
  let (offset, rest) ← readOffset? rest
  if ! Text.isBlankText rest ∨ 24 ≤ hour ∨ 60 ≤ minute ∨ 60 < second then none
  else if second = 60 then
    atOffset? ⟨year, month, day⟩ (hour * 60 + minute) 59 (nanosecond + 1000000000) offset
  else atOffset? ⟨year, month, day⟩ (hour * 60 + minute) second nanosecond offset

end Moment

end Parley.Token

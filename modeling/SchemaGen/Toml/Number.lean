import SchemaGen.Text.Number
import SchemaGen.Toml.Value

namespace SchemaGen.Toml

open Text

/-- A scanner takes what it finds from the front of the characters and gives back the rest. -/
abbrev Scanner (α : Type) := List Char → Option (α × List Char)

/-- Takes one given character. -/
def symbol? (c : Char) : List Char → Option (List Char)
  | first :: rest => if first = c then some rest else none
  | [] => none

/-- The digits that continue a number. A single underscore may stand before each. -/
def moreDigits (inBase : Char → Bool) : List Char → List Char × List Char
  | '_' :: c :: rest =>
    if inBase c then
      let (digits, last) := moreDigits inBase rest
      (c :: digits, last)
    else ([], '_' :: c :: rest)
  | c :: rest =>
    if inBase c then
      let (digits, last) := moreDigits inBase rest
      (c :: digits, last)
    else ([], c :: rest)
  | [] => ([], [])

/-- One digit or more, with underscores between them. -/
def digits? (inBase : Char → Bool) : Scanner (List Char)
  | c :: rest =>
    if inBase c then
      let (digits, last) := moreDigits inBase rest
      some (c :: digits, last)
    else none
  | [] => none

/-- An optional sign; `true` for a minus. -/
def sign : List Char → Bool × List Char
  | '-' :: rest => (true, rest)
  | '+' :: rest => (false, rest)
  | rest => (false, rest)

/-- The digits of a whole number. A number of several digits starts with no zero. -/
def wholeDigits? : Scanner (List Char)
  | '0' :: rest => some (['0'], rest)
  | rest => digits? isDigit rest

/-- The value of a digit in a base up to sixteen. -/
def digitValue (c : Char) : Nat :=
  if isDigit c then c.toNat - '0'.toNat
  else if 'a' ≤ c && c ≤ 'f' then c.toNat - 'a'.toNat + 10
  else if 'A' ≤ c && c ≤ 'F' then c.toNat - 'A'.toNat + 10
  else 16

/-- 2^63, the least whole number that 64 bits with a sign cannot hold. -/
def wholeLimit : Nat := 0x8000000000000000

/-- A number in a base other than ten, after its mark. -/
def based? (base : Nat) : Scanner Value := fun rest => do
  let (digits, last) ← digits? (fun c => digitValue c < base) rest
  let value := digits.foldl (fun value c => base * value + digitValue c) 0
  if value < wholeLimit then some (.integer value, last) else none

/-- A whole number in the range of 64 bits with a sign. -/
def integer? : Scanner Value := fun rest => do
  match rest with
  | '0' :: 'x' :: rest => based? 16 rest
  | '0' :: 'o' :: rest => based? 8 rest
  | '0' :: 'b' :: rest => based? 2 rest
  | _ =>
    let (negative, rest) := sign rest
    let (digits, last) ← wholeDigits? rest
    let value : Int := if negative then -digitsValue digits else digitsValue digits
    if -wholeLimit ≤ value ∧ value < wholeLimit then some (.integer value, last) else none

/-- The fraction of a number, empty if it has none. -/
def fraction? : Scanner (List Char)
  | '.' :: rest => digits? isDigit rest
  | rest => some ([], rest)

/-- The power of ten that scales a number, zero if none is given. -/
def exponent? : Scanner Int
  | c :: rest =>
    if c = 'e' ∨ c = 'E' then do
      let (negative, rest) := sign rest
      let (digits, last) ← digits? isDigit rest
      some (if negative then -digitsValue digits else digitsValue digits, last)
    else some (0, c :: rest)
  | [] => some (0, [])

/-- The value `mantissa * 10 ^ exponent` is too large for a double: it is at or above the midpoint
between the largest one and the next power of two. -/
def overflows (mantissa : Nat) (exponent : Int) : Bool :=
  let limit := Nat.pow 2 1024 - Nat.pow 2 970
  let size : Int := (toString mantissa).length + exponent
  if mantissa = 0 ∨ size < 300 then false
  else if 400 < size then true
  else if 0 ≤ exponent then limit ≤ mantissa * Nat.pow 10 exponent.toNat
  else limit * Nat.pow 10 (-exponent).toNat ≤ mantissa

/-- What a scanner has taken. -/
def taken (before after : List Char) : String :=
  String.ofList (before.take (before.length - after.length))

/-- A number with a fraction or an exponent, or one of the words for infinity and no number. A
positive number has to be in the range of a double. -/
def float? : Scanner Value := fun start => do
  let (negative, rest) := sign start
  match rest with
  | 'i' :: 'n' :: 'f' :: last | 'n' :: 'a' :: 'n' :: last => some (.float (taken start last), last)
  | _ =>
    let (whole, afterWhole) ← wholeDigits? rest
    let (fraction, afterFraction) ← fraction? afterWhole
    let (exponent, last) ← exponent? afterFraction
    if last.length = afterWhole.length then none
    else if !negative && overflows (digitsValue (whole ++ fraction)) (exponent - fraction.length)
    then none
    else some (.float (taken start last), last)

/-- A number of exactly so many digits, within bounds. -/
def field? (count low high : Nat) : Scanner Nat := fun rest =>
  let digits := rest.take count
  let value := digitsValue digits
  if digits.length = count && digits.all isDigit && low ≤ value && value ≤ high then
    some (value, rest.drop count)
  else none

/-- How many days a month has. -/
def daysIn (year month : Nat) : Nat :=
  if month = 2 then
    if year % 4 = 0 ∧ (year % 100 ≠ 0 ∨ year % 400 = 0) then 29 else 28
  else if month = 4 ∨ month = 6 ∨ month = 9 ∨ month = 11 then 30
  else 31

/-- A day of the calendar, as `YYYY-MM-DD`. -/
def date? (rest : List Char) : Option (List Char) := do
  let (year, rest) ← field? 4 0 9999 rest
  let rest ← symbol? '-' rest
  let (month, rest) ← field? 2 1 12 rest
  let rest ← symbol? '-' rest
  let (_, rest) ← field? 2 1 (daysIn year month) rest
  return rest

/-- A time of day, as `HH:MM:SS` with an optional fraction. A leap second is allowed. -/
def time? (rest : List Char) : Option (List Char) := do
  let (_, rest) ← field? 2 0 23 rest
  let rest ← symbol? ':' rest
  let (_, rest) ← field? 2 0 59 rest
  let rest ← symbol? ':' rest
  let (_, rest) ← field? 2 0 60 rest
  match rest with
  | '.' :: fraction =>
    match fraction.takeWhile isDigit with
    | [] => none
    | _ => some (fraction.dropWhile isDigit)
  | _ => some rest

/-- An offset from universal time, if one is there: `Z`, or hours and minutes such as `+01:30`. -/
def offset? (rest : List Char) : Option (List Char) :=
  match rest with
  | c :: next =>
    if c = 'Z' ∨ c = 'z' then some next
    else if c = '+' ∨ c = '-' then do
      let (_, next) ← field? 2 0 23 next
      let next ← symbol? ':' next
      let (_, next) ← field? 2 0 59 next
      return next
    else some rest
  | [] => some rest

/-- A time after a date, and its offset. -/
def timeOfDay? (rest : List Char) : Option (List Char) :=
  match rest with
  | c :: next =>
    if c = 'T' ∨ c = 't' ∨ c = ' ' then
      match time? next with
      | some last => offset? last
      | none => some rest
    else some rest
  | [] => some rest

/-- A date, a time, or both. -/
def dateTime? : Scanner Value := fun start => do
  let last ← match date? start with
    | some rest => timeOfDay? rest
    | none => time? start
  return (.dateTime (taken start last), last)

/-- Whatever starts like a number. Dates and times are tried first, for they start with digits as
well. -/
def number? : Scanner Value := fun rest =>
  dateTime? rest <|> float? rest <|> integer? rest

end SchemaGen.Toml

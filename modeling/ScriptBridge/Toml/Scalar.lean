import ScriptBridge.Number.Text
import ScriptBridge.Toml.Quoted
import ScriptBridge.Toml.Value

/-!
# Scalars

Numbers, truth values, dates and times.  Which of them a text spells is decided by trying
in turn, the longest spelling first: a date begins like an integer, and so does a float.
-/

namespace ScriptBridge.Toml

/-! ## Numbers -/

/-- Reads the digits behind a first one.  An underscore may stand between two digits. -/
def moreDigits (base : Nat) : List Char → List Nat × List Char
  | [] => ([], [])
  | '_' :: character :: rest =>
      match digitValue? base character with
      | some digit =>
          let (digits, rest) := moreDigits base rest
          (digit :: digits, rest)
      | none => ([], '_' :: character :: rest)
  | character :: rest =>
      match digitValue? base character with
      | some digit =>
          let (digits, rest) := moreDigits base rest
          (digit :: digits, rest)
      | none => ([], character :: rest)

/-- Reads one or more digits. -/
def readDigits (base : Nat) : Reader (List Nat)
  | [] => none
  | character :: rest =>
      (digitValue? base character).map fun digit =>
        let (digits, rest) := moreDigits base rest
        (digit :: digits, rest)

/-- Reads the digits of a decimal integer, which has no zeros in front. -/
def readWhole : Reader (List Nat)
  | '0' :: rest => some ([0], rest)
  | text => readDigits 10 text

/-- The integers that a document can hold. -/
def isStorable (value : Int) : Bool :=
  decide (-9223372036854775808 ≤ value) && decide (value ≤ 9223372036854775807)

/-- Reads an integer: in decimal with or without a sign, or without a sign in base
sixteen, eight or two. -/
def readInteger : Reader Int := fun text =>
  let spelled? : Option (Int × List Char) := match text with
    | '0' :: 'x' :: rest =>
        (readDigits 16 rest).map fun (digits, rest) => (ofDigits 16 digits, rest)
    | '0' :: 'o' :: rest =>
        (readDigits 8 rest).map fun (digits, rest) => (ofDigits 8 digits, rest)
    | '0' :: 'b' :: rest =>
        (readDigits 2 rest).map fun (digits, rest) => (ofDigits 2 digits, rest)
    | text =>
        let (negative, rest) := Number.splitSign text
        (readWhole rest).map fun (digits, rest) =>
          let value : Int := ofDigits 10 digits
          (if negative then -value else value, rest)
  spelled?.filter fun spelled => isStorable spelled.1

/-- Reads a point and the digits of a fraction. -/
def readFraction : Reader (List Nat) := fun text =>
  (after? '.' text).bind (readDigits 10)

/-- Reads an exponent with its mark. -/
def readExponent : Reader Int
  | [] => none
  | mark :: rest =>
      if mark = 'e' ∨ mark = 'E' then
        let (negative, rest) := Number.splitSign rest
        (readDigits 10 rest).map fun (digits, rest) =>
          let value : Int := ofDigits 10 digits
          (if negative then -value else value, rest)
      else none

/-- Reads a finite float, which has a fraction, an exponent, or both. -/
def readFinite (negative : Bool) : Reader Number := fun text =>
  (readWhole text).bind fun (whole, rest) =>
    match readFraction rest with
    | some (fraction, rest) =>
        let (exponent, rest) := (readExponent rest).getD (0, rest)
        some (Decimal.toNumber negative
          ⟨ofDigits 10 (whole ++ fraction), exponent - fraction.length⟩, rest)
    | none =>
        (readExponent rest).map fun (exponent, rest) =>
          (Decimal.toNumber negative ⟨ofDigits 10 whole, exponent⟩, rest)

/-- Reads a float.  A positive one that is too large for a number is refused, a negative
one becomes infinite. -/
def readFloat : Reader Number := fun text =>
  let (negative, unsigned) := Number.splitSign text
  match (readFinite negative unsigned).filter fun spelled => spelled.1 != .infinite false with
  | some spelled => some spelled
  | none => either (word "inf" (.infinite negative)) (word "nan" .nan) unsigned

/-! ## Dates and times -/

/-- Reads a number of exactly so many digits. -/
def readPlaces : Nat → Nat → Reader Nat
  | 0, value, text => some (value, text)
  | _ + 1, _, [] => none
  | places + 1, value, character :: rest =>
      (digitValue? 10 character).bind fun digit => readPlaces places (value * 10 + digit) rest

/-- Reads a number of exactly so many digits between two bounds. -/
def readField (places low high : Nat) : Reader Nat := fun text =>
  (readPlaces places 0 text).filter fun field => low ≤ field.1 && field.1 ≤ high

/-- The number of days of a month. -/
def daysIn (year month : Nat) : Nat :=
  if month = 2 then
    if year % 4 = 0 ∧ (year % 100 ≠ 0 ∨ year % 400 = 0) then 29 else 28
  else if month ∈ [4, 6, 9, 11] then 30
  else 31

/-- The text behind a date. -/
def afterDate? (text : List Char) : Option (List Char) := do
  let (year, text) ← readField 4 0 9999 text
  let text ← after? '-' text
  let (month, text) ← readField 2 1 12 text
  let text ← after? '-' text
  let (_, text) ← readField 2 1 (daysIn year month) text
  return text

/-- The text behind the hours and minutes of a clock. -/
def afterClock? (text : List Char) : Option (List Char) := do
  let (_, text) ← readField 2 0 23 text
  let text ← after? ':' text
  let (_, text) ← readField 2 0 59 text
  return text

/-- The text behind a point and digits, if they are there. -/
def skipFraction (text : List Char) : List Char :=
  match after? '.' text with
  | none => text
  | some rest =>
      match spanDigits 10 rest with
      | ([], _) => text
      | (_ :: _, rest) => rest

/-- The text behind a time of day.  A minute may have a leap second. -/
def afterTime? (text : List Char) : Option (List Char) := do
  let text ← afterClock? text
  let text ← after? ':' text
  let (_, text) ← readField 2 0 60 text
  return skipFraction text

/-- The text behind a distance from universal time, if it is there. -/
def skipOffset : List Char → List Char
  | [] => []
  | character :: rest =>
      if character = 'Z' ∨ character = 'z' then rest
      else if character = '+' ∨ character = '-' then (afterClock? rest).getD (character :: rest)
      else character :: rest

/-- The text behind the time that goes with a date, if it is there. -/
def skipTimeOfDate : List Char → List Char
  | [] => []
  | character :: rest =>
      if character = 'T' ∨ character = 't' ∨ character = ' ' then
        match afterTime? rest with
        | some rest => skipOffset rest
        | none => character :: rest
      else character :: rest

/-- The text behind a date with or without a time, or behind a time. -/
def afterDateTime? (text : List Char) : Option (List Char) :=
  match afterDate? text with
  | some rest => some (skipTimeOfDate rest)
  | none => afterTime? text

/-- Reads a date, a time or both as it is written. -/
def readDateTime : Reader String := fun text =>
  (afterDateTime? text).map fun rest =>
    (String.ofList (text.take (text.length - rest.length)), rest)

/-! ## All scalars -/

/-- Reads a scalar.  A text that begins like several of them is the first one that it
spells in full: a time before a float, and a float before an integer. -/
def readScalar : Reader Value := fun text =>
  (readString text).map (fun (text, rest) => (.string text, rest))
    |>.or ((readDateTime text).map fun (text, rest) => (.dateTime text, rest))
    |>.or ((readFloat text).map fun (number, rest) => (.float number, rest))
    |>.or ((readInteger text).map fun (value, rest) => (.integer value, rest))
    |>.or (word "true" (.boolean true) text)
    |>.or (word "false" (.boolean false) text)

end ScriptBridge.Toml

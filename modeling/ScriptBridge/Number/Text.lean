import ScriptBridge.Number.Decimal
import ScriptBridge.Text.Blank
import ScriptBridge.Text.ByteString

/-!
# The text of numbers

`Number.render` writes a number as scripts print it: whole numbers below `10 ^ 15` as
integers, all others with the fewest digits that identify them, always positionally.
`Number.parse?` reads a string as scripts coerce it: blanks around it are ignored, then
follows a sign and either a hexadecimal integer or a decimal literal, and nothing else.
-/

namespace ScriptBridge

/-! ## Digits -/

/-- The value of a character as a digit of a base up to sixteen. -/
def digitValue? (base : Nat) (character : Char) : Option Nat :=
  let value? :=
    if '0' ≤ character ∧ character ≤ '9' then some (character.toNat - '0'.toNat)
    else if 'a' ≤ character ∧ character ≤ 'f' then some (character.toNat - 'a'.toNat + 10)
    else if 'A' ≤ character ∧ character ≤ 'F' then some (character.toNat - 'A'.toNat + 10)
    else none
  value?.filter (· < base)

/-- The digits of the given base that a text starts with, and the rest of the text. -/
def spanDigits (base : Nat) : List Char → List Nat × List Char
  | [] => ([], [])
  | character :: rest =>
      match digitValue? base character with
      | some digit =>
          let (digits, tail) := spanDigits base rest
          (digit :: digits, tail)
      | none => ([], character :: rest)

/-- The natural that digits spell in a base, the most significant one first. -/
def ofDigits (base : Nat) (digits : List Nat) : Nat :=
  digits.foldl (fun value digit => value * base + digit) 0

/-- Reads a text of digits, at least one, as a natural. -/
def readNatural? (base : Nat) (text : List Char) : Option Nat :=
  match spanDigits base text with
  | (digit :: digits, []) => some (ofDigits base (digit :: digits))
  | _ => none

namespace Decimal

/-- Reads an exponent with its mark; at the end of the text the exponent is zero. -/
def readExponent? : List Char → Option Int
  | [] => some 0
  | mark :: rest =>
      if mark = 'e' ∨ mark = 'E' then
        let (negative, rest) : Bool × List Char := match rest with
          | '-' :: tail => (true, tail)
          | '+' :: tail => (false, tail)
          | tail => (false, tail)
        (readNatural? 10 rest).map fun (exponent : Nat) =>
          if negative then -(exponent : Int) else exponent
      else none

/-- Reads a decimal literal without a sign: digits with at most one point among them, at
least one digit, and perhaps an exponent. -/
def read? (text : List Char) : Option Decimal :=
  let (whole, rest) := spanDigits 10 text
  let (fraction, rest) : List Nat × List Char := match rest with
    | '.' :: tail => spanDigits 10 tail
    | tail => ([], tail)
  if whole.isEmpty && fraction.isEmpty then none
  else (readExponent? rest).map fun exponent =>
    ⟨ofDigits 10 (whole ++ fraction), exponent - fraction.length⟩

end Decimal

namespace Number

/-- A sign in front of a text, and the text after it. -/
def splitSign : List Char → Bool × List Char
  | '-' :: rest => (true, rest)
  | '+' :: rest => (false, rest)
  | text => (false, text)

/-- The text after a hexadecimal mark, if it starts with one. -/
def afterHexMark? : List Char → Option (List Char)
  | '0' :: 'x' :: rest => some rest
  | '0' :: 'X' :: rest => some rest
  | _ => none

/-- Reads the digits of a hexadecimal integer below `2 ^ 64`.  One plus sign may stand
before them. -/
def readHex? (text : List Char) : Option Nat :=
  let text := match text with
    | '+' :: rest => rest
    | rest => rest
  (readNatural? 16 text).filter (· < Nat.pow 2 64)

/-- Reads a text without blanks around it as a number. -/
def readTrimmed? (text : List Char) : Option Number :=
  let (negative, unsigned) := splitSign text
  match afterHexMark? unsigned with
  | some hex => (readHex? hex).map fun value => ofRatio negative value 1
  | none => (Decimal.read? unsigned).map (·.toNumber negative)

/-- Reads a text as a number, ignoring the blanks around it. -/
def readText? (text : List Char) : Option Number :=
  readTrimmed? (Text.trim text)

/-- Reads a script string as a number.  Bytes that spell no text are no number. -/
def parse? (string : ByteString) : Option Number :=
  (Text.Utf8.decode? string.bytes).bind readText?

/-! ## Writing -/

/-- The decimal digits of a natural. -/
def digitsOf (value : Nat) : List Char :=
  Nat.toDigits 10 value

/-- Writes a decimal positionally.  Zeros fill up to the point on either side; zeros at the
end of a fraction are left out, and so is a fraction without digits. -/
def positional (decimal : Decimal) : List Char :=
  let digits := digitsOf decimal.digits
  match decimal.exponent with
  | .ofNat zeros => digits ++ List.replicate zeros '0'
  | .negSucc places =>
      let places := places + 1
      let padded := List.replicate (places + 1 - digits.length) '0' ++ digits
      let whole := padded.length - places
      let fraction := ((padded.drop whole).reverse.dropWhile (· == '0')).reverse
      if fraction.isEmpty then padded.take whole
      else padded.take whole ++ '.' :: fraction

/-- The sign in front of a written number. -/
def signText (negative : Bool) : List Char :=
  if negative then ['-'] else []

/-- Whole numbers below this bound are written as integers. -/
def integerBound : Nat := Nat.pow 10 15

/-- The text of a number, as characters. -/
def renderChars : Number → List Char
  | .nan => ['n', 'a', 'n']
  | .infinite negative => signText negative ++ ['i', 'n', 'f']
  | .finite negative quanta _ =>
      let whole := quanta / BinaryFormat.one
      if quanta % BinaryFormat.one = 0 ∧ whole < integerBound then
        signText (negative && whole != 0) ++ digitsOf whole
      else
        signText negative ++ positional (Decimal.shortest quanta)

/-- The text of a number, as scripts print it. -/
def render (number : Number) : String :=
  String.ofList (renderChars number)

end Number

end ScriptBridge

import ScriptBridge.Number.Text
import ScriptBridge.Toml.Reader

/-!
# Quoted strings

A string is quoted by single quotes, which take every character as it is, or by double
quotes, which allow escapes.  Either kind tripled may run over several lines.  Inside
double quotes the reader is a machine over characters (`Inside`), since an escape takes
from one character to any number of blanks.
-/

namespace ScriptBridge.Toml

/-- Puts a character in front of what a reader finds. -/
def prepend (character : Char) (found : Option (List Char × List Char)) :
    Option (List Char × List Char) :=
  found.map fun (content, rest) => (character :: content, rest)

/-- Reads the rest of a single-quoted string. -/
def readLiteral : Reader (List Char)
  | [] => none
  | character :: rest =>
      if character = '\'' then some ([], rest)
      else if isPlain character then prepend character (readLiteral rest)
      else none

/-- Up to two quotes in front of a text.  Behind three quotes they still belong to the
string that the three of them end, since the last three of five quotes are the end. -/
def spareQuotes (quote : Char) : List Char → List Char × List Char
  | first :: second :: rest =>
      if first = quote then
        if second = quote then ([quote, quote], rest) else ([quote], second :: rest)
      else ([], first :: second :: rest)
  | [only] => if only = quote then ([quote], []) else ([], [only])
  | [] => ([], [])

/-- The text behind the two quotes that make an opening or closing quote triple. -/
def afterTwo? (quote : Char) (text : List Char) : Option (List Char) :=
  (after? quote text).bind (after? quote)

/-- Reads the rest of a string between tripled single quotes. -/
def readLiteralLines : Reader (List Char)
  | [] => none
  | character :: rest =>
      match if character = '\'' then afterTwo? '\'' rest else none with
      | some rest => some (spareQuotes '\'' rest)
      | none =>
          if isPlain character || character == '\n' then
            prepend character (readLiteralLines rest)
          else none

/-! ## Escapes -/

/-- What the character behind a backslash starts. -/
inductive Escape where
  /-- The escape is complete and stands for a character. -/
  | character (meaning : Char)
  /-- The number of a character follows in so many hexadecimal digits. -/
  | number (digits : Nat)

/-- The escape that a character starts. -/
def Escape.ofChar? : Char → Option Escape
  | 'b' => some (character '\x08')
  | 't' => some (character '\t')
  | 'n' => some (character '\n')
  | 'f' => some (character '\x0c')
  | 'r' => some (character '\r')
  | '"' => some (character '"')
  | '\\' => some (character '\\')
  | 'u' => some (number 4)
  | 'U' => some (number 8)
  | _ => none

/-- The character with a number, if it has one; surrogates are no characters. -/
def character? (point : Nat) : Option Char :=
  if point.isValidChar then some (Char.ofNat point) else none

/-- Where a reader stands inside a double-quoted string. -/
inductive Inside where
  /-- Between two characters. -/
  | content
  /-- Behind an escaped line end, where blanks and line ends are passed over. -/
  | blanks
  /-- Behind a backslash. -/
  | escape
  /-- Behind a backslash and spaces, where only a line end may follow. -/
  | lineEnd
  /-- Inside the number of a character: the digits owed and the value so far. -/
  | number (owed value : Nat)

/-- Takes a character between two others: it ends the string, or the string goes on, as
`goOn` reads it, from the place where the character leaves the reader. -/
def takeCharacter (lines : Bool) (character : Char) (rest : List Char)
    (goOn : Inside → Option (List Char × List Char)) : Option (List Char × List Char) :=
  if character = '\\' then goOn .escape
  else if character = '"' then
    if !lines then some ([], rest)
    else
      match afterTwo? '"' rest with
      | some rest => some (spareQuotes '"' rest)
      | none => prepend '"' (goOn .content)
  else if isPlain character || (lines && character == '\n') then
    prepend character (goOn .content)
  else none

/-- Reads the rest of a double-quoted string, or of one between tripled double quotes. -/
def readBasic (lines : Bool) : Inside → Reader (List Char)
  | _, [] => none
  | .content, character :: rest =>
      takeCharacter lines character rest fun place => readBasic lines place rest
  | .blanks, character :: rest =>
      if isSpace character || character == '\n' then readBasic lines .blanks rest
      else takeCharacter lines character rest fun place => readBasic lines place rest
  | .escape, character :: rest =>
      match Escape.ofChar? character with
      | some (.character meaning) => prepend meaning (readBasic lines .content rest)
      | some (.number digits) => readBasic lines (.number digits 0) rest
      | none =>
          if !lines then none
          else if character == '\n' then readBasic lines .blanks rest
          else if isSpace character then readBasic lines .lineEnd rest
          else none
  | .lineEnd, character :: rest =>
      if character == '\n' then readBasic lines .blanks rest
      else if isSpace character then readBasic lines .lineEnd rest
      else none
  | .number owed value, character :: rest =>
      match digitValue? 16 character with
      | none => none
      | some digit =>
          let value := value * 16 + digit
          if owed ≤ 1 then
            (character? value).bind fun meaning =>
              prepend meaning (readBasic lines .content rest)
          else readBasic lines (.number (owed - 1) value) rest
termination_by structural _ text => text

/-- The text without a line end at its front. -/
def skipLineEnd : List Char → List Char
  | '\n' :: rest => rest
  | text => text

/-- Reads a string that stays on its line, as keys do. -/
def readLineString : Reader String := fun text =>
  let content? := match text with
    | '"' :: rest => readBasic false .content rest
    | '\'' :: rest => readLiteral rest
    | _ => none
  content?.map fun (content, rest) => (String.ofList content, rest)

/-- Reads a string of any kind.  A line end right behind the opening quotes does not
belong to it. -/
def readString : Reader String := fun text =>
  match text with
  | '"' :: '"' :: '"' :: rest =>
      (readBasic true .content (skipLineEnd rest)).map fun (content, rest) =>
        (String.ofList content, rest)
  | '\'' :: '\'' :: '\'' :: rest =>
      (readLiteralLines (skipLineEnd rest)).map fun (content, rest) =>
        (String.ofList content, rest)
  | text => readLineString text

end ScriptBridge.Toml

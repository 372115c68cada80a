/-!
# Reading text by pieces

A reader takes a piece off the front of a text and gives what the piece stands for and the
text behind it, or fails.  This file has the combinators, and the pieces that stand for
nothing: spaces, comments and line ends.
-/

namespace ScriptBridge.Toml

/-- Reads a piece off the front of a text. -/
abbrev Reader (Piece : Type) := List Char → Option (Piece × List Char)

variable {Piece : Type}

/-- The text behind a character that has to come next. -/
def after? (character : Char) : List Char → Option (List Char)
  | [] => none
  | first :: rest => if first = character then some rest else none

/-- The text behind a word that has to come next. -/
def afterWord? : List Char → List Char → Option (List Char)
  | [], text => some text
  | character :: word, text => (after? character text).bind (afterWord? word)

/-- Reads a word that stands for a piece. -/
def word (spelling : String) (piece : Piece) : Reader Piece :=
  fun text => (afterWord? spelling.toList text).map fun rest => (piece, rest)

/-- Reads one of two pieces, the first that is there. -/
def either (first second : Reader Piece) : Reader Piece :=
  fun text => (first text).or (second text)

/-- Reads pieces one after the other for as long as there is one.  A piece has to use up
some of the text, so the text behind it is shorter and the reading ends. -/
def many (read : Reader Piece) (text : List Char) : List Piece × List Char :=
  match read text with
  | none => ([], text)
  | some (piece, rest) =>
      if rest.length < text.length then
        let (pieces, rest) := many read rest
        (piece :: pieces, rest)
      else ([], text)
termination_by text.length

/-- Reads one or more pieces with a separator between every two. -/
def separated (separator : Char) (read : Reader Piece) : Reader (List Piece) :=
  fun text =>
    (read text).map fun (first, rest) =>
      let (others, rest) := many (fun text => (after? separator text).bind read) rest
      (first :: others, rest)

/-! ## Pieces without a meaning -/

/-- The characters that may stand between the pieces of a line. -/
def isSpace (character : Char) : Bool :=
  character == ' ' || character == '\t'

/-- The characters that comments and strings take as they are: tabs, and all characters
but the control characters of ASCII. -/
def isPlain (character : Char) : Bool :=
  character == '\t' || (0x20 ≤ character.toNat && character.toNat != 0x7f)

/-- The text without the spaces at its front. -/
def skipSpaces (text : List Char) : List Char :=
  text.dropWhile isSpace

/-- The text without a comment at its front. -/
def skipComment : List Char → List Char
  | '#' :: rest => rest.dropWhile isPlain
  | text => text

/-- The text without the spaces, line ends and comments at its front. -/
def skipLayout (inComment : Bool) : List Char → List Char
  | [] => []
  | character :: rest =>
      if character == '\n' then skipLayout false rest
      else if inComment then
        if isPlain character then skipLayout true rest else character :: rest
      else if isSpace character then skipLayout false rest
      else if character == '#' then skipLayout true rest
      else character :: rest

/-- The text behind the end of a line, where spaces and a comment may come first.  The end
of the text ends the last line. -/
def afterLine? (text : List Char) : Option (List Char) :=
  match skipComment (skipSpaces text) with
  | [] => some []
  | '\n' :: rest => some rest
  | _ :: _ => none

/-- The text with one character for every line end: a return belongs to the line feed
behind it.  Returns that stand alone stay, and nothing takes them. -/
def unifyLineEnds : List Char → List Char
  | '\r' :: '\n' :: rest => '\n' :: unifyLineEnds rest
  | character :: rest => character :: unifyLineEnds rest
  | [] => []

end ScriptBridge.Toml

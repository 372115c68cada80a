import ScriptBridge.Toml.Scalar
import ScriptBridge.Toml.Table

/-!
# Documents

A document is a sequence of lines: headers, and pairs that belong to the header above
them.  `Document.read?` reads the lines and `Document.toTable` puts the tables together,
which fails for a document that defines something twice.  Keys, arrays and inline
tables that are nested too deeply are refused.
-/

namespace ScriptBridge.Toml

/-- The least number of parts of a key, and the least number of arrays and inline tables
inside one another, that is too deep. -/
def nestingLimit : Nat := 80

/-! ## Keys -/

/-- The characters of keys without quotes. -/
def isBare (character : Char) : Bool :=
  character.isAlphanum || character == '_' || character == '-'

/-- Reads one part of a key, with or without quotes. -/
def readKeyPart : Reader String := fun text =>
  match text.span isBare with
  | ([], _) => readLineString text
  | (bare@(_ :: _), rest) => some (String.ofList bare, rest)

/-- Reads a key with its dots and the spaces around its parts. -/
def readKey : Reader KeyPath := fun text =>
  let spaced : Reader String := fun text =>
    (readKeyPart (skipSpaces text)).map fun (part, rest) => (part, skipSpaces rest)
  (separated '.' spaced text).bind fun (parts, rest) =>
    if nestingLimit ≤ parts.length then none
    else parts.getLast?.map fun last => (⟨parts.dropLast, last⟩, rest)

/-- Reads a key, the sign behind it, and its value. -/
def readPair (readValue : Reader Value) : Reader Pair := fun text => do
  let (key, text) ← readKey text
  let text ← after? '=' text
  let (value, text) ← readValue (skipSpaces text)
  return (⟨key, value⟩, text)

/-! ## Values -/

/-- Reads the items of an array and the bracket that closes it.  Spaces, line ends and
comments may stand around the items, and a comma behind the last one. -/
def readItems (readValue : Reader Value) : Reader (List Value) := fun text =>
  let item : Reader Value := fun text =>
    (readValue (skipLayout false text)).map fun (value, rest) => (value, skipLayout false rest)
  match separated ',' item text with
  | none => (after? ']' (skipLayout false text)).map fun rest => ([], rest)
  | some (items, rest) =>
      let rest := skipLayout false ((after? ',' rest).getD rest)
      (after? ']' rest).map fun rest => (items, rest)

/-- Reads the pairs of an inline table and the brace that closes it. -/
def readInlinePairs (readValue : Reader Value) : Reader (List Pair) := fun text =>
  let pair : Reader Pair := fun text =>
    (readPair readValue text).map fun (pair, rest) => (pair, skipSpaces rest)
  let (pairs, rest) := (separated ',' pair text).getD ([], skipSpaces text)
  (after? '\x7d' rest).map fun rest => (pairs, rest)

/-- Reads a value with at most so many arrays and inline tables inside one another. -/
def readValue : Nat → Reader Value
  | 0, text => readScalar text
  | depth + 1, text =>
      match text with
      | '[' :: rest =>
          (readItems (readValue depth) rest).map fun (items, rest) => (.array items, rest)
      | '\x7b' :: rest => do
          let (pairs, rest) ← readInlinePairs (readValue depth) rest
          let table ← Table.insertPairs pairs (Table.empty .header)
          return (.table table.toEntries, rest)
      | text => readScalar text

/-! ## Lines and sections -/

/-- A header, which says where the pairs below it belong. -/
inductive Header where
  | table (path : KeyPath)
  /-- A table in an array of tables. -/
  | element (path : KeyPath)

/-- A line that says something. -/
inductive Line where
  | pair (pair : Pair)
  | header (header : Header)

/-- Reads a header. -/
def readHeader : Reader Header := fun text => do
  let text ← after? '[' text
  match after? '[' text with
  | some text =>
      let (path, text) ← readKey text
      let text ← (after? ']' text).bind (after? ']')
      return (.element path, text)
  | none =>
      let (path, text) ← readKey text
      let text ← after? ']' text
      return (.table path, text)

/-- Reads what a line says, if it says something. -/
def readLine : Reader (Option Line) := fun text =>
  match afterLine? text with
  | some rest => some (none, rest)
  | none =>
      let text := skipSpaces text
      let line? : Option (Line × List Char) := match text with
        | '[' :: _ => (readHeader text).map fun (header, rest) => (.header header, rest)
        | _ =>
            (readPair (readValue (nestingLimit - 1)) text).map fun (pair, rest) =>
              (.pair pair, rest)
      line?.bind fun (line, rest) => (afterLine? rest).map fun rest => (some line, rest)

/-- A header and the pairs below it. -/
structure Section where
  header : Header
  pairs : List Pair

/-- Adds a section to the outermost table. -/
def Section.addTo (part : Section) (root : Table) : Option Table :=
  match part.header with
  | .table path => root.openTable path part.pairs
  | .element path => root.openElement path part.pairs

/-- A document as it is written: the pairs above the first header, and the sections. -/
structure Document where
  pairs : List Pair
  sections : List Section

/-- The text without the mark that some editors put in front of it. -/
def skipByteOrderMark : List Char → List Char
  | '\uFEFF' :: rest => rest
  | text => text

namespace Document

/-- Divides lines into sections. -/
def ofLines : List Line → Document
  | [] => ⟨[], []⟩
  | .pair pair :: rest =>
      let document := ofLines rest
      { document with pairs := pair :: document.pairs }
  | .header header :: rest =>
      let document := ofLines rest
      ⟨[], ⟨header, document.pairs⟩ :: document.sections⟩

/-- Puts the tables of a document together. -/
def toTable (document : Document) : Option Table :=
  (Table.insertPairs document.pairs (Table.empty .header)).bind fun root =>
    document.sections.foldlM (fun table part => part.addTo table) root

/-- Reads a text as a document. -/
def read? (text : String) : Option Document :=
  match many readLine (unifyLineEnds (skipByteOrderMark text.toList)) with
  | (lines, []) => some (ofLines (lines.filterMap id))
  | (_, _ :: _) => none

/-- Reads a text as a document and gives the entries of its outermost table. -/
def parse? (text : String) : Option (List (String × Value)) :=
  (read? text).bind fun document => document.toTable.map Table.toEntries

end Document

end ScriptBridge.Toml

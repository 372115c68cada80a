import ScriptBridge.Text.Utf8

/-!
# Script strings

A script's strings are strings of bytes.  They may spell a text in UTF-8 and need not.
-/

namespace ScriptBridge

/-- A string of bytes. -/
structure ByteString where
  bytes : List UInt8
deriving DecidableEq, Hashable

namespace ByteString

instance : Inhabited ByteString := ⟨⟨[]⟩⟩

/-- The bytes that spell a text. -/
def ofString (text : String) : ByteString :=
  ⟨Text.Utf8.encode text.toList⟩

/-- The number of bytes. -/
def length (string : ByteString) : Nat :=
  string.bytes.length

/-- Has the string no bytes? -/
def isEmpty (string : ByteString) : Bool :=
  string.bytes.isEmpty

/-- The text that the bytes spell, if they spell one. -/
def toString? (string : ByteString) : Option String :=
  (Text.Utf8.decode? string.bytes).map String.ofList

/-- The text that the bytes spell, with the replacement character where they spell none. -/
def toStringLossy (string : ByteString) : String :=
  String.ofList (Text.Utf8.decodeLossy string.bytes)

/-- The order of strings: by the first byte that differs, a proper beginning first. -/
def compareBytes : List UInt8 → List UInt8 → Ordering
  | [], [] => .eq
  | [], _ :: _ => .lt
  | _ :: _, [] => .gt
  | left :: lefts, right :: rights =>
      (compare left right).then (compareBytes lefts rights)

instance : Ord ByteString := ⟨fun left right => compareBytes left.bytes right.bytes⟩

end ByteString

end ScriptBridge

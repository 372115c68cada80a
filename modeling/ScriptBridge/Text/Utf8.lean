/-!
# Reading UTF-8

Bytes are read by a machine that stands either between two characters or inside one, with
the interval that the next byte must lie in.  A byte that does not continue the character
begun before it ends that character as damaged and is read anew as a first byte, so every
longest run of bytes that begins a character and does not finish it counts as one damaged
character.
-/

namespace ScriptBridge.Text.Utf8

/-- Where the machine stands between two bytes. -/
inductive State where
  /-- Between two characters. -/
  | start
  /-- Inside a character: the value of the bytes so far, how many bytes are owed, and the
  interval of the next one. -/
  | inside (value : Nat) (owed : Nat) (low high : Nat)
deriving DecidableEq, Repr

/-- Reads a first byte: a whole character, a damaged one, or the start of a longer one. -/
def first (byte : Nat) : List (Option Char) × State :=
  if byte < 0x80 then ([some (Char.ofNat byte)], .start)
  else if byte < 0xc2 then ([none], .start)
  else if byte < 0xe0 then ([], .inside (byte - 0xc0) 1 0x80 0xbf)
  else if byte = 0xe0 then ([], .inside 0 2 0xa0 0xbf)
  else if byte = 0xed then ([], .inside 0xd 2 0x80 0x9f)
  else if byte < 0xf0 then ([], .inside (byte - 0xe0) 2 0x80 0xbf)
  else if byte = 0xf0 then ([], .inside 0 3 0x90 0xbf)
  else if byte < 0xf4 then ([], .inside (byte - 0xf0) 3 0x80 0xbf)
  else if byte = 0xf4 then ([], .inside 4 3 0x80 0x8f)
  else ([none], .start)

/-- Reads one byte: the characters that it finishes, damaged ones as `none`, and the next
state. -/
def step (state : State) (byte : Nat) : List (Option Char) × State :=
  match state with
  | .start => first byte
  | .inside value owed low high =>
      if low ≤ byte ∧ byte ≤ high then
        let value := value * 64 + (byte - 0x80)
        if owed ≤ 1 then ([some (Char.ofNat value)], .start)
        else ([], .inside value (owed - 1) 0x80 0xbf)
      else
        let (characters, next) := first byte
        (none :: characters, next)

/-- Reads the bytes from a state on; a character left unfinished is damaged. -/
def decodeFrom (state : State) : List UInt8 → List (Option Char)
  | [] => match state with
      | .start => []
      | .inside .. => [none]
  | byte :: rest =>
      let (characters, next) := step state byte.toNat
      characters ++ decodeFrom next rest

/-- The characters that bytes spell, damaged ones as `none`. -/
def decode (bytes : List UInt8) : List (Option Char) :=
  decodeFrom .start bytes

/-- The text that bytes spell, if no character is damaged. -/
def decode? (bytes : List UInt8) : Option (List Char) :=
  (decode bytes).mapM id

/-- The text that bytes spell, with the replacement character for each damaged one. -/
def decodeLossy (bytes : List UInt8) : List Char :=
  (decode bytes).map (·.getD '\uFFFD')

/-- The bytes that spell a text. -/
def encode (text : List Char) : List UInt8 :=
  text.flatMap String.utf8EncodeChar

end ScriptBridge.Text.Utf8

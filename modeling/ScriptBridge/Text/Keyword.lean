import ScriptBridge.Text.Blank

/-!
# Keywords

Settings are spelled by keywords of ASCII letters, and some of them are read without
regard to case.
-/

namespace ScriptBridge.Text

/-- The lower-case form of a character as far as keywords can tell.

The capital ASCII letters and the Kelvin sign are the only characters whose lower-case
form is a single ASCII letter other than themselves.  Every other character stays as it
is: its lower-case form is no ASCII letter, so a text that has it spells no keyword
before or after. -/
def lowerChar (character : Char) : Char :=
  if 'A' ≤ character ∧ character ≤ 'Z' then Char.ofNat (character.toNat + 32)
  else if character = '\u212A' then 'k'
  else character

/-- A text in lower case, to be compared with keywords. -/
def lower (text : String) : String :=
  String.ofList (text.toList.map lowerChar)

/-- A text in lower case and without surrounding blanks, to be compared with keywords. -/
def keyword (text : String) : String :=
  String.ofList ((trim text.toList).map lowerChar)

end ScriptBridge.Text

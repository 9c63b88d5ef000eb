import Schemata.Text.Digits
import Schemata.Unicode.BinaryProperty
import Schemata.Unicode.Latest

/-!
Texts quoted for display. What does not show by itself is written with a backslash: control
characters, separators other than the space, format characters, characters without a fixed meaning,
those that extend the character before them and those that display nothing.
-/

namespace Schemata.Text

open Schemata.Unicode

/-- Characters that extend the character before them. Letters that can stand alone are not among
them, whatever breaks they forbid. -/
def extendingChars : CharSet :=
  .diff BinaryProperty.graphemeExtend (.table Category.modifierLetter)

/-- Characters that are not displayed as they are. -/
def hiddenChars : CharSet :=
  .diff (.unions [.ofTables [Category.control, Category.format, Category.privateUse,
    Category.unassigned, Category.lineSeparator, Category.paragraphSeparator,
    Category.spaceSeparator], extendingChars, BinaryProperty.defaultIgnorableCodePoint])
    Latest.displayed

/-- Whether a character is displayed as it is; of ASCII, all from the space up to the tilde. -/
def isShown (c : Char) : Bool :=
  if c.toNat < 128 then decide (32 ≤ c.toNat) && decide (c.toNat ≤ 126)
  else !hiddenChars.contains c

/-- A character as it is displayed between quotes. -/
def shown (c : Char) : List Char :=
  match c with
  | '\t' => ['\\', 't']
  | '\r' => ['\\', 'r']
  | '\n' => ['\\', 'n']
  | '\x00' => ['\\', '0']
  | '\\' => ['\\', '\\']
  | '"' => ['\\', '"']
  | c =>
    if isShown c then [c]
    else '\\' :: 'u' :: '\x7b' :: digitsOf 16 c.toNat ++ ['\x7d']

def quoted (text : String) : String :=
  String.ofList ('"' :: text.toList.flatMap shown ++ ['"'])

end Schemata.Text

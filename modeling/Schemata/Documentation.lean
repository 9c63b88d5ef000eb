import Schemata.Unicode.Blank

namespace Schemata

structure Documentation where
  title : Option String
  description : Option String
  deriving Repr, DecidableEq

namespace Documentation

/-- What stands before and after the first empty line. -/
def splitAtEmptyLine? : List Char → Option (List Char × List Char)
  | [] => none
  | [_] => none
  | c :: d :: rest =>
    if c = '\n' ∧ d = '\n' then some ([], rest)
    else (splitAtEmptyLine? (d :: rest)).map fun (before, after) => (c :: before, after)

def nonEmpty? (text : List Char) : Option String :=
  if text.isEmpty then none else some (String.ofList text)

/-- The parts of a text. Blanks around a title and around a description that has one are dropped. -/
def ofText (text : String) : Documentation :=
  match splitAtEmptyLine? text.toList with
  | some (title, description) =>
    ⟨nonEmpty? (Unicode.trim title), nonEmpty? (Unicode.trim description)⟩
  | none =>
    if text.toList.contains '\n' then ⟨none, nonEmpty? text.toList⟩
    else ⟨nonEmpty? (Unicode.trim text.toList), none⟩

end Documentation

end Schemata

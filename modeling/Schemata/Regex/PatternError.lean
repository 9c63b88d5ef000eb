
namespace Schemata.Regex

inductive PatternError where
  | nothingToRepeat
  | unclosedRepetition
  | missingCount
  | countTooLarge
  | emptyRange
  | unclosedGroup
  | unopenedGroup
  | lookAround
  | badGroupName
  | repeatedGroupName
  | unknownFlag
  | repeatedFlag
  | danglingFlag
  | unclosedFlags
  | unfinishedEscape
  | unknownEscape
  | backReference
  | badHexDigit
  | notACharacter
  | badWordEdge
  | unknownProperty
  | unclosedBracket
  | notInBracket
  | badRange
  | outsideAscii
  | nestedTooDeep
  | tooLarge
  deriving Repr, DecidableEq

/-- How deep groups, brackets, repetitions and the sequences between them may nest. -/
def nestingLimit : Nat := 250

/-- The room an expression may take, repetitions written out. -/
def sizeLimit : Nat := 10485760

/-- The cause in words. All but the last are faults of the text itself. -/
def PatternError.message : PatternError → String
  | tooLarge => s!"Compiled regex exceeds size limit of {sizeLimit} bytes."
  | fault => "regex parse error: " ++ match fault with
    | nothingToRepeat => "repetition operator missing expression"
    | unclosedRepetition => "unclosed counted repetition"
    | missingCount => "repetition quantifier expects a valid decimal"
    | countTooLarge => "decimal literal invalid"
    | emptyRange => "invalid repetition count range"
    | unclosedGroup => "unclosed group"
    | unopenedGroup => "unopened group"
    | lookAround => "look-around is not supported"
    | badGroupName => "invalid capture group name"
    | repeatedGroupName => "duplicate capture group name"
    | unknownFlag => "unrecognized flag"
    | repeatedFlag => "duplicate flag"
    | danglingFlag => "dangling flag negation operator"
    | unclosedFlags => "expected flag but got end of regex"
    | unfinishedEscape => "incomplete escape sequence"
    | unknownEscape => "unrecognized escape sequence"
    | backReference => "backreferences are not supported"
    | badHexDigit => "invalid hexadecimal digit"
    | notACharacter => "hexadecimal literal is not a character"
    | badWordEdge => "unrecognized word boundary"
    | unknownProperty => "Unicode property not found"
    | unclosedBracket => "unclosed character class"
    | notInBracket => "invalid escape sequence found in character class"
    | badRange => "invalid character class range"
    | outsideAscii => "without Unicode a class holds ASCII characters only"
    | nestedTooDeep => s!"more than {nestingLimit} levels of nesting"
    | tooLarge => ""

end Schemata.Regex

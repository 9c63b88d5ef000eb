import Schemata.Decimal.Reading
import Schemata.Text.Integer
import Schemata.Unicode.Blank
import Schemata.Vocabulary

namespace Schemata

inductive LeafKind where
  | any
  | null
  | boolean
  | integer
  | float
  | numeric
  | string
  /-- A text of a standard format, or a value that the format gives. -/
  | formatted (format : StandardFormat)
  deriving Repr, DecidableEq

namespace LeafKind

def name : LeafKind → String
  | any => "any"
  | null => "null"
  | boolean => "boolean"
  | integer => "integer"
  | float => "float"
  | numeric => "numeric"
  | string => "string"
  | formatted .dateTime => "datetime"
  | formatted .ip => "ipaddr"
  | formatted .ipv4 => "ipv4_addr"
  | formatted .ipv6 => "ipv6_addr"
  | formatted .uri => "uri"
  | formatted .email => "email"
  | formatted .hostname => "hostname"
  | formatted .phone => "phone_number"
  | formatted .regexp => "regexp"

def all : List LeafKind :=
  [any, null, boolean, integer, float, numeric, string] ++ StandardFormat.all.map formatted

def ofName? (name : String) : Option LeafKind := all.find? (·.name = name)

/-- The format that the kind is bound to. -/
def format? : LeafKind → Option StandardFormat
  | formatted format => some format
  | _ => none

/-- The document is of no kind that the leaf accepts. -/
def mismatch (kind : LeafKind) (doc : Document) : Except ValidationError Document :=
  .error (.typeMismatch kind.name doc)

def sanitizeNull : Document → Except ValidationError Document
  | .null => .ok .null
  | .string text => if text = "null" then .ok .null else null.mismatch (.string text)
  | other => null.mismatch other

def sanitizeBoolean : Document → Except ValidationError Document
  | .bool b => .ok (.bool b)
  | .string text =>
    if text = "true" then .ok (.bool true)
    else if text = "false" then .ok (.bool false)
    else .error (.format "boolean" s!"'{text}' is not a boolean")
  | other => boolean.mismatch other

/-- One sign at most, and digits. -/
def integerPattern : Regex.Pattern := .ofValid "^[-+]?[0-9]+$" (by rfl)

/-- The integer that a text denotes. The pattern decides what may stand in it, so at most one plus
is taken off; the digits may still be too many for 64 bits. -/
def parseInteger? (text : String) : Option Int64 :=
  if integerPattern.isMatch text then Text.int64? (text.toList.dropWhile (· == '+')) else none

def sanitizeInteger : Document → Except ValidationError Document
  | .integer n => .ok (.integer n)
  | .string text =>
    match parseInteger? text with
    | some n => .ok (.integer n)
    | none => .error (.format "integer" s!"'{text}' is not an integer")
  | other => integer.mismatch other

/-- The finite float of a text, blanks around it dropped. -/
def finite? (text : String) : Option Float :=
  (Decimal.readFloat? (Unicode.trim text.toList)).filter (·.isFinite)

def readFloat (text : String) : Except ValidationError Document :=
  match finite? text with
  | some x => .ok (.float x)
  | none => .error (.format "float" s!"'{text}' is not a number")

def sanitizeFloat : Document → Except ValidationError Document
  | .float x => .ok (.float x)
  | .integer n => .ok (.float (Document.floatOfInteger n))
  | .string text => readFloat text
  | other => float.mismatch other

def sanitizeNumeric : Document → Except ValidationError Document
  | .integer n => .ok (.integer n)
  | .float x => .ok (.float x)
  | .string text =>
    match parseInteger? text with
    | some n => .ok (.integer n)
    | none => readFloat text
  | other => numeric.mismatch other

/-- A text as it is, or read by the format that the options name. -/
def readString (known : Vocabulary) (options : Options) (text : String) :
    Except ValidationError Document :=
  match options.format? with
  | some format => known.read format text
  | none => .ok (.string text)

/-- Whether a value that is no text is one that the format of the given name gives. -/
def admitsNamed : Option String → Document → Bool
  | some "datetime", .dateTime _ => true
  | some "ip", .address _ => true
  | some "ipv4", .address address => address.isV4
  | some "ipv6", .address address => address.isV6
  | _, _ => false

/-- A text, the text of a number or truth value, or a value that the named format gives. -/
def sanitizeString (known : Vocabulary) (options : Options) (doc : Document) :
    Except ValidationError Document :=
  match doc with
  | .string text => readString known options text
  | .integer _ => readString known options doc.toJson.render
  | .float _ => readString known options doc.toJson.render
  | .bool _ => readString known options doc.toJson.render
  | other =>
    if admitsNamed options.format? other then .ok other
    else string.mismatch other

/-- A text read by the format, or a value that the format gives. -/
def sanitizeFormatted (known : Vocabulary) (format : StandardFormat) (doc : Document) :
    Except ValidationError Document :=
  match doc with
  | .string text => known.read format.name text
  | other => if format.admits other then .ok other else (formatted format).mismatch other

/-- The value of a leaf. Null is let through where the options allow it. -/
def sanitize (known : Vocabulary) (options : Options) (kind : LeafKind) (doc : Document) :
    Except ValidationError Document :=
  if doc.isNull && options.allowNil then .ok .null
  else match kind with
    | any => .ok doc
    | null => sanitizeNull doc
    | boolean => sanitizeBoolean doc
    | integer => sanitizeInteger doc
    | float => sanitizeFloat doc
    | numeric => sanitizeNumeric doc
    | string => sanitizeString known options doc
    | formatted format => sanitizeFormatted known format doc

/-- Checks the constraints of a leaf; a null that is let through need not satisfy any. -/
def check (known : Vocabulary) (options : Options) (value : Document) :
    Except ValidationError Unit :=
  if value.isNull && options.allowNil then .ok () else known.check options value

end LeafKind

end Schemata

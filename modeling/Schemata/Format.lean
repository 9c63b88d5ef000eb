import Schemata.Address.Reader
import Schemata.DateTime.Reader
import Schemata.Error
import Schemata.Regex.Pattern

namespace Schemata

/-- Reads a text, or says why it is not of the format. -/
abbrev Format := String → Except ValidationError Document

namespace Format

/-- The texts in which a pattern is found, each standing for itself. -/
def ofPattern (name : String) (pattern : Regex.Pattern) : Format := fun text =>
  if pattern.isMatch text then .ok (.string text)
  else .error (.format name s!"'{text}' is not a valid {name}")

/-- The texts that denote a value. -/
def ofReader (name : String) (read? : List Char → Option Address) : Format := fun text =>
  match read? text.toList with
  | some address => .ok (.address address)
  | none => .error (.format name s!"'{text}' is not an {name} address")

/-- Texts that denote regular expressions, each standing for itself. -/
def regexp : Format := fun text =>
  match Regex.Pattern.parse text.toList with
  | .ok _ => .ok (.string text)
  | .error fault => .error (.format "regexp" fault.message)

def dateTime : Format := fun text =>
  match DateTime.ofText text.toList with
  | .ok moment => .ok (.dateTime moment)
  | .error fault => .error (.format "datetime" s!"'{text}': {fault.message}")

/-- Text, one at sign, text with a dot inside; no blanks. -/
def emailPattern : String := "^[^@\\s]+@[^@\\s]+\\.[^@\\s]+$"

/-- A scheme, a colon and anything without blanks. -/
def uriPattern : String := "^[A-Za-z][A-Za-z0-9+.\\-]*:[^\\s]*$"

/-- Labels of up to 63 letters, digits and inner hyphens, with dots between them. -/
def hostnamePattern : String :=
  "^[A-Za-z0-9]([A-Za-z0-9\\-]\x7b0,61\x7d[A-Za-z0-9])?" ++
    "(\\.[A-Za-z0-9]([A-Za-z0-9\\-]\x7b0,61\x7d[A-Za-z0-9])?)*$"

/-- At least five digits, blanks, brackets, dots and hyphens, beginning and ending with a digit,
perhaps after a plus. -/
def phonePattern : String := "^\\+?[0-9][0-9 ().\\-]\x7b3,\x7d[0-9]$"

def email : Format := ofPattern "email" (.ofValid emailPattern (by rfl))

def uri : Format := ofPattern "uri" (.ofValid uriPattern (by rfl))

def hostname : Format := ofPattern "hostname" (.ofValid hostnamePattern (by rfl))

def phone : Format := ofPattern "phone" (.ofValid phonePattern (by rfl))

end Format

/-- The formats that are always known. -/
inductive StandardFormat where
  | dateTime
  | ip
  | ipv4
  | ipv6
  | uri
  | email
  | hostname
  | phone
  | regexp
  deriving Repr, DecidableEq

namespace StandardFormat

def name : StandardFormat → String
  | dateTime => "datetime"
  | ip => "ip"
  | ipv4 => "ipv4"
  | ipv6 => "ipv6"
  | uri => "uri"
  | email => "email"
  | hostname => "hostname"
  | phone => "phone"
  | regexp => "regexp"

/-- Whether a value that is no text is one the format gives. -/
def admits : StandardFormat → Document → Bool
  | dateTime, .dateTime _ => true
  | ip, .address _ => true
  | ipv4, .address address => address.isV4
  | ipv6, .address address => address.isV6
  | _, _ => false

def format : StandardFormat → Format
  | dateTime => .dateTime
  | ip => .ofReader "ip" Address.ofText?
  | ipv4 => .ofReader "ipv4" Address.ofTextV4?
  | ipv6 => .ofReader "ipv6" Address.ofTextV6?
  | uri => .uri
  | email => .email
  | hostname => .hostname
  | phone => .phone
  | regexp => .regexp

def all : List StandardFormat :=
  [dateTime, ip, ipv4, ipv6, uri, email, hostname, phone, regexp]

def ofName? (name : String) : Option StandardFormat := all.find? (·.name = name)

end StandardFormat

end Schemata

import SchemaGate.Draft
import SchemaGate.Format.Email
import SchemaGate.Format.Template
import SchemaGate.Format.Time
import SchemaGate.Regex.Basic
import SchemaGate.Uri

/-!
# `SchemaGate.Format.Basic`: the formats that schemas name

A format constrains strings by a name. Which names are checked depends on the draft; a name that is
not checked constrains nothing.
-/

set_option autoImplicit false

namespace SchemaGate

/-- A format that is checked. -/
inductive Format
  | date
  | dateTime
  | time
  | ipv4
  | ipv6
  | email
  | hostname
  | regex
  | uri
  | jsonPointer
  | uriReference
  | uriTemplate
  | relativeJsonPointer
  deriving DecidableEq, Repr

namespace Format

/-- The name of a format. -/
def name : Format → String
  | .date => "date"
  | .dateTime => "date-time"
  | .time => "time"
  | .ipv4 => "ipv4"
  | .ipv6 => "ipv6"
  | .email => "email"
  | .hostname => "hostname"
  | .regex => "regex"
  | .uri => "uri"
  | .jsonPointer => "json-pointer"
  | .uriReference => "uri-reference"
  | .uriTemplate => "uri-template"
  | .relativeJsonPointer => "relative-json-pointer"

/-- The first draft that checks a format. -/
def since : Format → Draft
  | .jsonPointer | .uriReference | .uriTemplate => .draft6
  | .relativeJsonPointer => .draft7
  | _ => .draft4

/-- All formats. -/
def all : List Format :=
  [.date, .dateTime, .time, .ipv4, .ipv6, .email, .hostname, .regex, .uri, .jsonPointer,
    .uriReference, .uriTemplate, .relativeJsonPointer]

/-- The format of a name, if a draft checks it. No draft after the seventh checks any. -/
def ofName? (d : Draft) (name : String) : Option Format :=
  if d ≤ .draft7 then all.find? fun f => f.name == name && decide (f.since ≤ d) else none

/-- Whether a text is a URI reference. -/
def isUriReference (text : String) : Bool := (Uri.parse text).toBool

/-- Whether a text is a URI, which starts with a scheme. -/
def isUri (text : String) : Bool :=
  match Uri.parse text with
  | .ok u => u.scheme.isSome
  | .error _ => false

/-- Whether a text has a format. -/
def holds (f : Format) (text : String) : Bool :=
  match f with
  | .date => isDate text.toList
  | .dateTime => isDateTime text.toList
  | .time => isTime text.toList
  | .ipv4 => isIpv4 text.toList
  | .ipv6 => isIpv6 text.toList
  | .email => isEmail text.toList
  | .hostname => isHostname text.toList
  | .regex => Regex.isPattern text
  | .uri => isUri text
  | .jsonPointer => isJsonPointer text.toList
  | .uriReference => isUriReference text
  | .uriTemplate => isUriTemplate text.toList
  | .relativeJsonPointer => isRelativeJsonPointer text.toList

end Format

end SchemaGate

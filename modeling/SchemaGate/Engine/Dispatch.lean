import SchemaGate.Decode.Target
import SchemaGate.Engine.Basic

/-!
# `SchemaGate.Engine.Dispatch`: validation by the name of a type

Values are validated as a type that is named at the call, or by a validator resolved beforehand for
one type. Both hand an accepted value back unchanged and refuse any other with the records against
it; they differ in what a single type is looked up under and in the message.
-/

set_option autoImplicit false

namespace SchemaGate

/-- Why a value is not handed back. -/
inductive Refusal
  /-- Nothing is registered under a key. -/
  | noValidator (key : String)
  /-- The value is not accepted. -/
  | invalid (typeName : String) (errors : List ErrorRecord) (text : String)
  /-- The value is accepted but cannot be read as the type that was asked for. -/
  | undecodable (typeName : String) (fault : DecodeFault)

/-- The text of a refusal. -/
def Refusal.message : Refusal → String
  | .noValidator key => "No validator defined for " ++ key
  | .invalid _ _ text => text
  | .undecodable typeName fault =>
    "validated value does not deserialize into \x60" ++ typeName ++ "\x60: " ++ fault.message

namespace Engine

/-- The predicate registered for a type. -/
def typePredicate (e : Engine) (typeName : String) : Except Refusal Predicate :=
  let key := registryKey typeName none
  match e.predicate? key with
  | some p => .ok p
  | none => .error (.noValidator key)

/-- Whether a value is accepted as a type; no value is as an unknown one. -/
def isValid (e : Engine) (typeName : String) (v : Json) : Bool :=
  match e.typePredicate typeName with
  | .ok p => p.isValid v
  | .error _ => false

/-- A value validated as a type. -/
def validate (e : Engine) (typeName : String) (v : Json) : Except Refusal Json := do
  let p ← e.typePredicate typeName
  match p.check v with
  | [] => return v
  | records =>
    let errors := Report.withoutConditional records
    throw (.invalid typeName errors
      ("Invalid " ++ typeName ++ ": " ++ Report.errorsText errors typeName))

end Engine

/-- A validator of one type: of the document itself if that describes a single type, else of the
type of that name. -/
structure SingleValidator where
  /-- The name of the type. -/
  typeName : String
  /-- The predicate. -/
  predicate : Predicate

namespace SingleValidator

/-- The key under which the predicate of a type is looked up. -/
def key (shape : Shape) (typeName : String) : String :=
  match shape with
  | .single => rootKey
  | .multi => registryKey typeName none

/-- The validator of a type. -/
def resolve (e : Engine) (typeName : String) : Except Refusal SingleValidator :=
  let key := key e.shape typeName
  match e.predicate? key with
  | some p => .ok ⟨typeName, p⟩
  | none => .error (.noValidator key)

/-- Whether a value is accepted. -/
def isValid (s : SingleValidator) (v : Json) : Bool := s.predicate.isValid v

/-- A value validated. -/
def validate (s : SingleValidator) (v : Json) : Except Refusal Json :=
  match s.predicate.check v with
  | [] => .ok v
  | records =>
    let errors := Report.withoutConditional records
    .error (.invalid s.typeName errors
      (Report.errorsText errors s.typeName ++ "\n\n" ++ Report.inspect v))

end SingleValidator

/-- A validated value read as a type. -/
def Refusal.decoding (typeName : String) (target : Target) (v : Json) : Except Refusal Json :=
  match target.decode v with
  | .ok typed => .ok typed
  | .error fault => .error (.undecodable typeName fault)

/-- A value validated as a type and read as another. -/
def Engine.validateAs (e : Engine) (typeName : String) (target : Target) (v : Json) :
    Except Refusal Json := do
  Refusal.decoding typeName target (← e.validate typeName v)

/-- A value validated and read as a type. -/
def SingleValidator.validateAs (s : SingleValidator) (target : Target) (v : Json) :
    Except Refusal Json := do
  Refusal.decoding s.typeName target (← s.validate v)

end SchemaGate

import PodPlacement.Json.Writer

/-!
# Faults of a document

A fault says where in a document something is wrong, what is wrong, and which value is
there.  Every cause has a code and a text; some have a context that names what was expected.

    listed ["a", "b", "c"] = "'a', 'b' or 'c'"
-/

namespace PodPlacement

/-- One step of the way into a document. -/
inductive PathStep where
  | key (name : String)
  | index (i : Nat)
  deriving DecidableEq, Repr

def PathStep.toJson : PathStep → Json
  | key name => .string name
  | index i => .whole i

inductive Cause where
  /-- A member without a default is not there. -/
  | missing
  /-- Something other than an object stands for a document of a kind. -/
  | notDocument (kind : String)
  /-- Something other than an object stands where members are looked up. -/
  | noMembers
  | textExpected
  /-- A half that stands alone is in a text that has to be read further. -/
  | textUnreadable
  | wholeExpected
  | wholeUnreadable
  | wholeTooLarge
  | wholeWithFraction
  | notFinite
  | flagExpected
  | flagUnreadable
  | listExpected
  | mappingExpected
  /-- A list that may not be empty is. -/
  | tooFew
  /-- A text is none of the choices. -/
  | notListed (choices : List String)
  /-- A text is not the only one allowed. -/
  | notFixed (text : String)
  /-- The member that says which variant is meant is not there. -/
  | tagMissing (discriminator : String)
  /-- The member that says which variant is meant says none. -/
  | tagUnknown (discriminator : String) (tag : String) (tags : List String)
  deriving DecidableEq, Repr

/-! ## Texts -/

def inQuotes (s : String) : String := "'" ++ s ++ "'"

/-- Choices in quotes, the last after an or. -/
def listed : List String → String
  | [] => ""
  | [s] => inQuotes s
  | [s, t] => inQuotes s ++ " or " ++ inQuotes t
  | s :: rest => inQuotes s ++ ", " ++ listed rest

def Cause.code : Cause → String
  | missing => "missing"
  | notDocument _ => "model_type"
  | noMembers => "model_attributes_type"
  | textExpected => "string_type"
  | textUnreadable => "string_unicode"
  | wholeExpected => "int_type"
  | wholeUnreadable => "int_parsing"
  | wholeTooLarge => "int_parsing_size"
  | wholeWithFraction => "int_from_float"
  | notFinite => "finite_number"
  | flagExpected => "bool_type"
  | flagUnreadable => "bool_parsing"
  | listExpected => "list_type"
  | mappingExpected => "dict_type"
  | tooFew => "too_short"
  | notListed _ => "enum"
  | notFixed _ => "literal_error"
  | tagMissing _ => "union_tag_not_found"
  | tagUnknown _ _ _ => "union_tag_invalid"

def Cause.message : Cause → String
  | missing => "Field required"
  | notDocument kind => "Input should be a valid dictionary or instance of " ++ kind
  | noMembers => "Input should be a valid dictionary or object to extract fields from"
  | textExpected => "Input should be a valid string"
  | textUnreadable =>
    "Input should be a valid string, unable to parse raw data as a unicode string"
  | wholeExpected => "Input should be a valid integer"
  | wholeUnreadable => "Input should be a valid integer, unable to parse string as an integer"
  | wholeTooLarge => "Unable to parse input string as an integer, exceeded maximum size"
  | wholeWithFraction => "Input should be a valid integer, got a number with a fractional part"
  | notFinite => "Input should be a finite number"
  | flagExpected => "Input should be a valid boolean"
  | flagUnreadable => "Input should be a valid boolean, unable to interpret input"
  | listExpected => "Input should be a valid list"
  | mappingExpected => "Input should be a valid dictionary"
  | tooFew => "List should have at least 1 item after validation, not 0"
  | notListed choices => "Input should be " ++ listed choices
  | notFixed text => "Input should be " ++ inQuotes text
  | tagMissing discriminator =>
    "Unable to extract tag using discriminator " ++ inQuotes discriminator
  | tagUnknown discriminator tag tags =>
    "Input tag " ++ inQuotes tag ++ " found using " ++ inQuotes discriminator ++
      " does not match any of the expected tags: " ++
      String.intercalate ", " (tags.map inQuotes)

def Cause.context? : Cause → Option Members
  | tooFew =>
    some [("field_type", .string "List"), ("min_length", .whole 1), ("actual_length", .whole 0)]
  | notListed choices => some [("expected", .string (listed choices))]
  | notFixed text => some [("expected", .string (inQuotes text))]
  | tagMissing discriminator => some [("discriminator", .string (inQuotes discriminator))]
  | tagUnknown discriminator tag tags =>
    some [("discriminator", .string (inQuotes discriminator)), ("tag", .string tag),
      ("expected_tags", .string (String.intercalate ", " (tags.map inQuotes)))]
  | _ => none

/-! ## Faults -/

/-- A fault: the way to the value, what is wrong, and the value.  For a missing member the
value is the object that lacks it. -/
structure Fault where
  path : List PathStep
  cause : Cause
  input : Json

/-- A fault seen from one step further out. -/
def Fault.within (step : PathStep) (fault : Fault) : Fault :=
  { fault with path := step :: fault.path }

/-! ## Reports -/

/-- The first characters that take no more than so many bytes. -/
def frontOf : Nat → List Char → List Char
  | _, [] => []
  | bytes, c :: cs => if c.utf8Size ≤ bytes then c :: frontOf (bytes - c.utf8Size) cs else []

/-- A text of more than 50 bytes with its middle left out. -/
def shortened (s : String) : String :=
  if s.utf8ByteSize ≤ 50 then s
  else
    let cs := s.toList
    String.ofList (frontOf 25 cs ++ ['.', '.', '.'] ++ (frontOf 24 cs.reverse).reverse)

/-- A step as it stands in a report. -/
def PathStep.text : PathStep → String
  | key name => name
  | index i => toString i

/-- What is reported of a fault: where it is, on a line of its own unless it is the value as a
whole, what is wrong and which value is there, and where the cause is explained. -/
def Fault.text (manual : String) (fault : Fault) : String :=
  let place := String.intercalate "." (fault.path.map PathStep.text)
  let code := fault.cause.code
  let shown := shortened fault.input.displayInner
  (if fault.path.isEmpty then "" else place ++ "\n") ++
    s!"  {fault.cause.message} [type={code}, input_value={shown}, " ++
    s!"input_type={fault.input.typeName}]\n    For further information visit {manual}{code}"

def headline (kind : String) (faults : List Fault) : String :=
  let count := faults.length
  let noun := if count = 1 then "error" else "errors"
  s!"{count} validation {noun} for {kind}"

/-- What is said of the faults of a value of a kind, each of them in order after the head line. -/
def report (manual kind : String) (faults : List Fault) : String :=
  String.intercalate "\n" (headline kind faults :: faults.map (Fault.text manual))

end PodPlacement

import PodPlacement.Decimal.Layout
import PodPlacement.Json.Value
import PodPlacement.Text.Quoted

/-!
# Writing JSON values

`Json.render` is the JSON text of a value, without blanks.  `Json.display` is the form in
which a value stands within a message: a text as it is, and within a list or an object a
quoted one.
-/

namespace PodPlacement.Json

open PodPlacement.Text PodPlacement.Decimal

/-! ## JSON text -/

/-- A character within the quotes of a JSON text. -/
def escapeInString (c : Char) : List Char :=
  if c = '"' ∨ c = '\\' then ['\\', c]
  else if c = '\n' then ['\\', 'n']
  else if c = '\r' then ['\\', 'r']
  else if c = '\t' then ['\\', 't']
  else if c.toNat < 0x20 then '\\' :: 'u' :: hexDigits 4 c.toNat
  else [c]

def escapePointInString : Point → List Char
  | .char c => escapeInString c
  | .half h => '\\' :: 'u' :: hexDigits 4 h.val

/-- A text between quotes. -/
def renderText (t : Text) : String :=
  String.ofList ('"' :: t.points.flatMap escapePointInString ++ ['"'])

/-- A number as JSON text; the infinite and undefined ones have names. -/
def renderReal (x : Float) : String :=
  if isFinite x then realText x
  else if x == 1.0 / 0.0 then "Infinity"
  else if x == -(1.0 / 0.0) then "-Infinity"
  else "NaN"

mutual

def render : Json → String
  | null => "null"
  | bool b => if b then "true" else "false"
  | whole n => toString n
  | real x => renderReal x
  | string t => renderText t
  | array items => "[" ++ String.intercalate "," (renderItems items) ++ "]"
  | object members => "\x7b" ++ String.intercalate "," (renderMembers members) ++ "\x7d"

def renderItems : List Json → List String
  | [] => []
  | item :: rest => item.render :: renderItems rest

def renderMembers : List (Text × Json) → List String
  | [] => []
  | (key, value) :: rest => (renderText key ++ ":" ++ value.render) :: renderMembers rest

end

/-! ## Values within messages -/

mutual

/-- The form of a value within a list or an object of a message. -/
def displayInner : Json → String
  | null => "None"
  | bool b => if b then "True" else "False"
  | whole n => toString n
  | real x => realText x
  | string t => quoted t
  | array items => "[" ++ String.intercalate ", " (displayItems items) ++ "]"
  | object members => "\x7b" ++ String.intercalate ", " (displayMembers members) ++ "\x7d"

def displayItems : List Json → List String
  | [] => []
  | item :: rest => item.displayInner :: displayItems rest

def displayMembers : List (Text × Json) → List String
  | [] => []
  | (key, value) :: rest => (quoted key ++ ": " ++ value.displayInner) :: displayMembers rest

end

/-- The form of a value within a message. -/
def display : Json → Text
  | string t => t
  | value => value.displayInner

def typeName : Json → String
  | null => "NoneType"
  | bool _ => "bool"
  | whole _ => "int"
  | real _ => "float"
  | string _ => "str"
  | array _ => "list"
  | object _ => "dict"

end PodPlacement.Json

import PodPlacement.Text.Character

/-!
# Reading numerals

Numerals within a text.  In documents a whole number may be written with ASCII digits, a
sign, underlines between digits and a fraction of zeros; zeros in front are dropped, and a
minus may follow them.  In settings the digits of every script count, and a real number may
have a fraction and an exponent, or be one of the words for the infinite and undefined
values.  Blanks around a numeral are dropped.
-/

namespace PodPlacement.Decimal

open PodPlacement.Text

/-- No whole number is read from more digits. -/
def digitLimit : Nat := 4300

inductive NumeralError where
  | unreadable
  | tooLong (digits : Nat)
  deriving DecidableEq, Repr

def tooLongText (digits : Nat) : String :=
  s!"Exceeds the limit ({digitLimit} digits) for integer string conversion: " ++
    s!"value has {digits} digits; use sys.set_int_max_str_digits() to increase the limit"

/-! ## Digits -/

/-- The number that digits stand for, the highest first. -/
def valueOfDigits (digits : List Nat) : Nat := digits.foldl (fun n d => 10 * n + d) 0

/-- The digits at the front of a text, and what follows them.  An underline is skipped
between two digits only; `inside` says that a digit came just before. -/
def digitRun (digit? : Char → Option Nat) : Bool → List Char → List Nat × List Char
  | _, [] => ([], [])
  | inside, c :: cs =>
    match digit? c with
    | some d =>
      let more := digitRun digit? true cs
      (d :: more.1, more.2)
    | none =>
      if inside && c == '_' && (cs.head?.bind digit?).isSome then digitRun digit? true cs
      else ([], c :: cs)

/-- A sign at the front of a text, whether it is a minus, and what follows it. -/
def takeSign : List Char → Bool × List Char
  | '-' :: cs => (true, cs)
  | '+' :: cs => (false, cs)
  | cs => (false, cs)

def signedWhole (negative : Bool) (n : Nat) : Int := if negative then -(n : Int) else n

/-! ## Whole numbers -/

/-- The text of a whole number without the zeros at its front, with underlines among them;
`last` is the one passed last.  What follows them begins with a digit or a minus.  If nothing
follows, or a point, the last of them is kept. -/
def dropZeros (last : Char) : List Char → Option (List Char)
  | [] => some [last]
  | c :: cs =>
    if c == '0' || c == '_' then dropZeros c cs
    else if c == '.' then some (last :: c :: cs)
    else if c == '-' || (asciiDigit? c).isSome then some (c :: cs)
    else none

/-- The text of a whole number, which begins with a digit, from what counts on. -/
def fromFirstDigit : List Char → Option (List Char)
  | [] => none
  | c :: cs =>
    if c == '0' then dropZeros c cs
    else if (asciiDigit? c).isSome then some (c :: cs)
    else none

/-- What is before a point with zeros, at least one, and nothing else; other texts stay. -/
def dropZeroFraction (cs : List Char) : List Char :=
  let whole := cs.takeWhile (· != '.')
  match cs.drop whole.length with
  | '.' :: '0' :: zeros => if zeros.all (· == '0') then whole else cs
  | _ => cs

/-- Whether every underline stands between two other characters; `between` says that another
character came just before. -/
def underlinesBetween (between : Bool) : List Char → Bool
  | [] => between
  | c :: cs =>
    if c == '_' then between && underlinesBetween false cs else underlinesBetween true cs

/-- A text without its underlines, if each stands between two other characters. -/
def dropUnderlines (cs : List Char) : List Char :=
  if underlinesBetween false cs then cs.filter (· != '_') else cs

/-- The digits of a whole number at the front of a text: a zero alone, or digits that begin
with another. -/
def leadingWhole : List Char → List Char
  | '0' :: _ => ['0']
  | cs => cs.takeWhile fun c => (asciiDigit? c).isSome

/-- A whole number without its sign, and nothing after it. -/
def readUnsigned (negative : Bool) (cs : List Char) : Except NumeralError Int :=
  let digits := leadingWhole cs
  if digits.isEmpty then .error .unreadable
  else if digitLimit < digits.length then .error (.tooLong digits.length)
  else if digits.length < cs.length then .error .unreadable
  else .ok (signedWhole negative (valueOfDigits (digits.filterMap asciiDigit?)))

/-- A whole number in its plain form: a minus or none, and digits without zeros in front. -/
def readPlainWhole : List Char → Except NumeralError Int
  | '-' :: cs => readUnsigned true cs
  | cs => readUnsigned false cs

/-- A whole number in another form.  Zeros in front do not count towards the limit, and a
minus may follow them unless one came before. -/
def readOrnateWhole? (cs : List Char) : Option Int :=
  let (negative, unsigned) := takeSign (trim isBlank cs)
  match (fromFirstDigit unsigned).map fun text => dropUnderlines (dropZeroFraction text) with
  | none => none
  | some ('-' :: digits) => if negative then none else (readUnsigned true digits).toOption
  | some digits => (readUnsigned negative digits).toOption

/-- A whole number in a document.  Too many digits are noticed in the plain form only, and
there before what follows them. -/
def readWhole (cs : List Char) : Except NumeralError Int :=
  match readPlainWhole cs, readOrnateWhole? cs with
  | .error .unreadable, some n => .ok n
  | plain, _ => plain

/-- A whole number in a setting.  Too many digits are noticed before what follows them, but
after an underline that follows them. -/
def readWholeSetting (s : String) : Except NumeralError Int :=
  let (negative, cs) := takeSign (trim isBlank s.toList)
  let (digits, rest) := digitRun digitValue? false cs
  if digits.isEmpty || rest.head? == some '_' then .error .unreadable
  else if digitLimit < digits.length then .error (.tooLong digits.length)
  else if !rest.isEmpty then .error .unreadable
  else .ok (signedWhole negative (valueOfDigits digits))

/-! ## Real numbers -/

/-- The real number nearest to `n · 10^e`.  What is far out of range is infinite or zero. -/
def toReal (negative : Bool) (n : Nat) (e : Int) : Float :=
  let lead := e + (Nat.toDigits 10 n).length
  let magnitude : Float :=
    if n = 0 ∨ lead < -330 then 0.0
    else if 310 < lead then 1.0 / 0.0
    else if e < 0 then Float.ofScientific n true (-e).toNat
    else Float.ofScientific n false e.toNat
  if negative then -magnitude else magnitude

/-- The exponent at the end of a real number, which may be left out. -/
def readExponent : List Char → Option Int
  | [] => some 0
  | c :: cs =>
    if c == 'e' || c == 'E' then
      let (negative, rest) := takeSign cs
      let (digits, tail) := digitRun digitValue? false rest
      if digits.isEmpty || !tail.isEmpty then none
      else some (signedWhole negative (valueOfDigits digits))
    else none

/-- A real number without its sign. -/
def readMagnitude (negative : Bool) (cs : List Char) : Option Float :=
  let word := cs.map Char.toLower
  if word = "inf".toList ∨ word = "infinity".toList then
    some (if negative then -(1.0 / 0.0) else 1.0 / 0.0)
  else if word = "nan".toList then some (0.0 / 0.0)
  else
    let (whole, afterWhole) := digitRun digitValue? false cs
    let (fraction, rest) := match afterWhole with
      | '.' :: more => digitRun digitValue? false more
      | other => ([], other)
    if whole.isEmpty && fraction.isEmpty then none
    else (readExponent rest).map fun e =>
      toReal negative (valueOfDigits (whole ++ fraction)) (e - fraction.length)

def readRealSetting (s : String) : Option Float :=
  let (negative, cs) := takeSign (trim isBlank s.toList)
  readMagnitude negative cs

end PodPlacement.Decimal

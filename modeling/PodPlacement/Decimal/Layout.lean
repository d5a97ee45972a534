import PodPlacement.Decimal.Shortest

/-!
# The text of a number

Whole numbers are written in full.  Real numbers are written with the fewest digits that
read back: positional from `10^-4` up to `10^16`, with an exponent of at least two digits
beyond, and always with a point or an exponent.
-/

namespace PodPlacement.Decimal

/-- The parts of a binary64 number. -/
inductive Parts where
  | nan
  | infinite (negative : Bool)
  | zero (negative : Bool)
  | finite (negative : Bool) (gap : Gap)

/-- The leading one that a number does not store, above the fifty-two bits of its fraction. -/
def leadingOne : Nat := 0x10000000000000

/-- The parts that the bits of a number stand for: the sign, eleven bits of exponent, the
fraction. -/
def Parts.ofReal (x : Float) : Parts :=
  let bits : Nat := x.toBits.toNat
  let negative := bits / leadingOne / 0x800 == 1
  let exponent : Nat := bits / leadingOne % 0x800
  let fraction : Nat := bits % leadingOne
  if exponent == 2047 then
    if fraction == 0 then .infinite negative else .nan
  else if exponent == 0 then
    if fraction == 0 then .zero negative
    else .finite negative (Gap.ofBinary fraction (-1074) false)
  else
    .finite negative
      (Gap.ofBinary (leadingOne + fraction) ((exponent : Int) - 1075)
        (fraction == 0 && 1 < exponent))

/-- Where positional writing begins and ends, and how wide an exponent is at least. -/
structure Layout where
  smallest : Int
  tooLarge : Int
  exponentWidth : Nat

/-- Real numbers are positional from `10^-4` up to `10^16`. -/
def Layout.plain : Layout := ⟨-4, 16, 2⟩

/-- The digits without the zeros at the end. -/
def significant (digits : List Char) : List Char :=
  (digits.reverse.dropWhile (· == '0')).reverse

/-- The digits with a point after as many as `ahead` says. -/
def positional (digits : List Char) (ahead : Int) : List Char :=
  if ahead ≤ 0 then
    '0' :: '.' :: List.replicate (-ahead).toNat '0' ++ digits
  else
    let n := ahead.toNat
    let whole := digits.take n ++ List.replicate (n - digits.length) '0'
    let tail := digits.drop n
    whole ++ '.' :: (if tail.isEmpty then ['0'] else tail)

/-- The digits with a point after the first, and an exponent. -/
def scientific (width : Nat) (digits : List Char) (exponent : Int) : List Char :=
  let power := Nat.toDigits 10 exponent.natAbs
  let point := match digits with
    | first :: second :: more => first :: '.' :: second :: more
    | short => short
  point ++ 'e' :: (if exponent < 0 then '-' else '+') ::
    List.replicate (width - power.length) '0' ++ power

def Layout.render (layout : Layout) (k : Nat) (e : Int) : List Char :=
  let all := Nat.toDigits 10 k
  let lead := e + all.length - 1
  let digits := significant all
  if layout.smallest ≤ lead ∧ lead < layout.tooLarge then positional digits (lead + 1)
  else scientific layout.exponentWidth digits lead

def realText (x : Float) : String :=
  let signed (negative : Bool) (cs : List Char) : String :=
    String.ofList (if negative then '-' :: cs else cs)
  match Parts.ofReal x with
  | .nan => "nan"
  | .infinite negative => signed negative ['i', 'n', 'f']
  | .zero negative => signed negative ['0', '.', '0']
  | .finite negative gap =>
    signed negative (Layout.plain.render gap.shortest.1 gap.shortest.2)

/-- Whether a number is neither infinite nor undefined. -/
def isFinite (x : Float) : Bool :=
  match Parts.ofReal x with
  | .nan | .infinite _ => false
  | .zero _ | .finite _ _ => true

/-- The whole number that a finite real is, if it is one. -/
def wholeOfReal? (x : Float) : Option Int :=
  match Parts.ofReal x with
  | .nan | .infinite _ => none
  | .zero _ => some 0
  | .finite negative gap =>
    if gap.mid % gap.den == 0 then
      some (if negative then -((gap.mid / gap.den : Nat) : Int) else (gap.mid / gap.den : Nat))
    else none

end PodPlacement.Decimal

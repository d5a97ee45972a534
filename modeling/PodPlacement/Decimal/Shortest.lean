/-!
# Shortest digits

The shortest decimal that reads back as a given binary number.  A positive number
`m · 2^q` is the reading of every real between the middles of the gaps to its two
neighbours.  On the grid of the multiples of a power of ten, the two points next to the
number decide whether the grid has a point in that interval; the coarsest such grid gives
the digits.  All arithmetic is exact.
-/

namespace PodPlacement.Decimal

/-- A positive number `mid / den` with the interval of the reals that are read as it. -/
structure Gap where
  /-- The lower end of the interval, times `den`. -/
  low : Nat
  /-- The number itself, times `den`. -/
  mid : Nat
  /-- The upper end of the interval, times `den`. -/
  high : Nat
  /-- The common denominator. -/
  den : Nat
  /-- Whether the ends belong to the interval. -/
  closed : Bool

/-- The gap around `m · 2^q`.  Below a power of two the neighbour is nearer by half. -/
def Gap.ofBinary (m : Nat) (q : Int) (powerOfTwo : Bool) : Gap :=
  let scale := Nat.pow 2 (q - 2).toNat
  { low := (if powerOfTwo then 4 * m - 1 else 4 * m - 2) * scale
    mid := 4 * m * scale
    high := (4 * m + 2) * scale
    den := Nat.pow 2 (2 - q).toNat
    closed := m % 2 == 0 }

/-- The numerator of `10^e`. -/
def tenNum (e : Int) : Nat := Nat.pow 10 e.toNat

def tenDen (e : Int) : Nat := Nat.pow 10 (-e).toNat

def Gap.holds (g : Gap) (e : Int) (k : Nat) : Bool :=
  let point := k * tenNum e * g.den
  let low := g.low * tenDen e
  let high := g.high * tenDen e
  if g.closed then low ≤ point && point ≤ high else low < point && point < high

/-- The point of the grid `10^e` in the interval that is nearest to the number, if there
is one; of two at the same distance the even one. -/
def Gap.nearest (g : Gap) (e : Int) : Option Nat :=
  let unit := tenNum e * g.den
  let below := g.mid * tenDen e / unit
  let rest := g.mid * tenDen e % unit
  let upwards := unit < 2 * rest || (2 * rest == unit && below % 2 == 1)
  (if upwards then [below + 1, below] else [below, below + 1]).find? (g.holds e)

def digitCount (n : Nat) : Nat := (Nat.toDigits 10 n).length

/-- The exponent of the leading digit of the number. -/
def Gap.magnitude (g : Gap) : Int :=
  let e := (digitCount g.mid : Int) - digitCount g.den
  if tenNum e * g.den ≤ g.mid * tenDen e then e else e - 1

/-- The shortest decimal `k · 10^e` in the interval, as `(k, e)`.  Seventeen digits are
always enough. -/
def Gap.shortest (g : Gap) : Nat × Int :=
  let grids := (List.range 17).map fun (n : Nat) => g.magnitude - (n : Int)
  match grids.findSome? fun e => (g.nearest e).map (·, e) with
  | some found => found
  | none => (g.mid / g.den, 0)

end PodPlacement.Decimal

import PodPlacement.Decimal.Numeral
import PodPlacement.Host.Name
import PodPlacement.Text.Character
import PodPlacement.Text.Quoted

/-!
# Hosts

Which hosts a client takes in an address that it is to ask.  A host that looks like four numbers
has to be an IPv4 address, and one in brackets an IPv6 address; any other is a name, of which
more is asked when it has characters beyond ASCII.  The rules are the client's: a request whose
host is not taken is never made, and a service does not see the host of one that is.

    isIPv4 "192.0.2.1".toList = true          isIPv6 "2001:db8::1".toList = true
-/

namespace PodPlacement.Host

open Text Decimal

/-- Whether a character is an ASCII digit. -/
def isDigit (c : Char) : Bool := (asciiDigit? c).isSome

/-! ## IPv4 -/

/-- Whether a text is a number from 0 to 255, without zeros in front. -/
def isOctet (cs : List Char) : Bool :=
  !cs.isEmpty && cs.length ≤ 3 && cs.all isDigit && (cs == ['0'] || cs.head? != some '0') &&
    valueOfDigits (cs.filterMap asciiDigit?) ≤ 255

def isIPv4 (cs : List Char) : Bool :=
  let octets := pieces '.' cs
  octets.length == 4 && octets.all isOctet

/-- The lengths of the runs of digits between the other characters of a text. -/
def runLengths : List Char → List Nat
  | [] => [0]
  | c :: cs =>
    match runLengths cs with
    | [] => [0]
    | n :: rest => if isDigit c then (n + 1) :: rest else 0 :: n :: rest

/-- Whether a text is four numbers with one character between any two, which may be anything.
A run of digits may count as two numbers with a digit between them, or more. -/
def isFourNumbers (cs : List Char) : Bool :=
  let runs := runLengths cs
  runs.all (0 < ·) && runs.length ≤ 4 &&
    4 ≤ (runs.map fun n => 1 + (n - 1) / 2).foldl (· + ·) 0

/-! ## IPv6 -/

def isGroup (cs : List Char) : Bool :=
  !cs.isEmpty && cs.length ≤ 4 && cs.all fun c => (hexValue? c).isSome

/-- How many groups pieces of a text stand for; none if one is not well formed.  The last may
be an IPv4 address, which stands for two. -/
def groups? : List (List Char) → Option Nat
  | [] => some 0
  | [last] =>
    if last.contains '.' then if isIPv4 last then some 2 else none
    else if isGroup last then some 1 else none
  | piece :: rest => if isGroup piece then (groups? rest).map (· + 1) else none

/-- The parts of a text before and after its first two colons in a row, if there are any. -/
def cutAtGap? : List Char → Option (List Char × List Char)
  | ':' :: ':' :: cs => some ([], cs)
  | c :: cs => (cutAtGap? cs).map fun (before, after) => (c :: before, after)
  | [] => none

/-- How many groups a text between gaps stands for; an empty text stands for none. -/
def groupsOf? (cs : List Char) : Option Nat :=
  if cs.isEmpty then some 0 else groups? (pieces ':' cs)

/-- Whether a text is an IPv6 address without a zone.  A gap stands for one group or more. -/
def isPlainIPv6 (cs : List Char) : Bool :=
  match cutAtGap? cs with
  | none => groupsOf? cs == some 8
  | some (before, after) =>
    match groupsOf? before, groupsOf? after with
    | some m, some n => m + n ≤ 7 && !(before.contains '.')
    | _, _ => false

/-- Whether a text is an IPv6 address, which may name a zone after a percent sign. -/
def isIPv6 (cs : List Char) : Bool :=
  match cut '%' cs with
  | (address, none) => isPlainIPv6 address
  | (address, some zone) => isPlainIPv6 address && !zone.isEmpty && !zone.contains '%'

/-! ## Hosts -/

inductive HostError where
  | notIPv4 (host : String)
  | notIPv6 (host : String)
  | notName (host : String)
  deriving DecidableEq, Repr

def HostError.message : HostError → String
  | notIPv4 host => "Invalid IPv4 address: " ++ quoted host
  | notIPv6 host => "Invalid IPv6 address: " ++ quoted host
  | notName host => "Invalid IDNA hostname: " ++ quoted host

/-- What is between the brackets of a host in brackets. -/
def bracketed? (cs : List Char) : Option (List Char) :=
  match cs with
  | '[' :: rest =>
    match rest.reverse with
    | ']' :: inside => some inside.reverse
    | _ => none
  | _ => none

def error? (cs : List Char) : Option HostError :=
  if isFourNumbers cs then if isIPv4 cs then none else some (.notIPv4 (String.ofList cs))
  else
    match bracketed? cs with
    | some inside => if isIPv6 inside then none else some (.notIPv6 (String.ofList cs))
    | none =>
      if (cs.all fun c => c.toNat < 0x80) || isName cs then none
      else some (.notName (String.ofList cs))

end PodPlacement.Host

import PodPlacement.Host
import PodPlacement.Text.Address
import PodPlacement.Text.Quoted

/-!
# Targets of requests

The path that a request is for, found from the address that a client was given to ask.  An
address without a scheme or without a host belongs to the service that is asked.  The query and
the fragment play no part; the segments "." and ".." are carried out, and percent signs are read
twice.

The rules are those of the client that the service is tried with.  They tell which request comes
of an address, or that none does; from there on a request is what `Service.handle` answers.
-/

namespace PodPlacement.Target

open Text Decimal

/-! ## Errors -/

/-- Why an address is not asked. -/
inductive TargetError where
  | tooLong
  /-- An ASCII character that does not print, and its position. -/
  | unprintable (c : Char) (position : Nat)
  | badHost (error : Host.HostError)
  | badPort (port : String)
  /-- Two slashes are at the front, and no host is between them and the path. -/
  | doubleSlash
  /-- A colon is at the front of the path. -/
  | colon
  /-- A half that stands alone is in the address. -/
  | unencodable (half : Half)
  /-- A part of the address is too long once it is written with percent signs. -/
  | longPart (name : String)
  /-- Requests of the scheme are not sent. -/
  | unknownScheme (scheme : String)
  deriving DecidableEq, Repr

def TargetError.message : TargetError → String
  | tooLong => "URL too long"
  | unprintable c position =>
    "Invalid non-printable ASCII character in URL, " ++
      s!"{quoted (String.singleton c)} at position {position}."
  | badHost error => error.message
  | badPort port => "Invalid port: " ++ quoted port
  | doubleSlash => "Relative URLs cannot have a path starting with '//'"
  | colon => "Relative URLs cannot have a path starting with ':'"
  | unencodable half => unencodableText (.broken "" half "")
  | longPart name => s!"URL component '{name}' too long"
  | unknownScheme scheme => quoted scheme

/-! ## Parts of an address -/

/-- The parts of an address, without its fragment. -/
structure Parts where
  scheme : List Char
  /-- Whether someone is named before the host. -/
  hasUser : Bool
  host : List Char
  port : List Char
  path : List Char
  query : List Char
  deriving DecidableEq, Repr

/-- Whether a character may stand in a scheme after its first letter. -/
def isSchemeChar (c : Char) : Bool := c.isAlphanum || c == '+' || c == '.' || c == '-'

/-- The scheme at the front of an address, and what follows its colon.  It begins with a
letter, or is empty. -/
def splitScheme (cs : List Char) : List Char × List Char :=
  let scheme := cs.takeWhile isSchemeChar
  match cs.drop scheme.length with
  | ':' :: rest => if scheme.head?.all Char.isAlpha then (scheme, rest) else ([], cs)
  | _ => ([], cs)

/-- What stands between two slashes and the path, and the rest. -/
def splitAuthority : List Char → List Char × List Char
  | '/' :: '/' :: cs =>
    let authority := cs.takeWhile fun c => c != '/' && c != '?' && c != '#'
    (authority, cs.drop authority.length)
  | cs => ([], cs)

/-- The host at the front of a text, in brackets up to the last of them. -/
def leadingHost (cs : List Char) : List Char :=
  let plain := cs.takeWhile (· != ':')
  match cs with
  | '[' :: _ =>
    match cutLast? ']' cs with
    | some (inside, _) => inside ++ [']']
    | none => plain
  | _ => plain

def Parts.ofText (address : List Char) : Parts :=
  let (scheme, afterScheme) := splitScheme address
  let (authority, afterAuthority) := splitAuthority afterScheme
  let (user, place) := (cutLast? '@' authority).getD ([], authority)
  let host := leadingHost place
  let port := match place.drop host.length with
    | ':' :: port => port
    | port => port
  let path := afterAuthority.takeWhile fun c => c != '?' && c != '#'
  let query := match afterAuthority.drop path.length with
    | '?' :: rest => rest.takeWhile (· != '#')
    | _ => []
  ⟨scheme, !user.isEmpty, host, port, path, query⟩

namespace Parts

/-- Whether anything is said of where the service is. -/
def hasPlace (p : Parts) : Bool := p.hasUser || !p.host.isEmpty || !p.port.isEmpty

def isAbsolute (p : Parts) : Bool := !p.scheme.isEmpty && !p.host.isEmpty

def schemeName (p : Parts) : String := String.ofList (p.scheme.map Char.toLower)

end Parts

/-! ## Segments -/

/-- The segments after one more, in reverse: "." goes nowhere and ".." one up, if there is
somewhere to go to. -/
def enter (done : List (List Char)) (segment : List Char) : List (List Char) :=
  if segment = ['.'] then done
  else if segment = ['.', '.'] then
    match done with
    | [] => []
    | [[]] => [[]]
    | _ :: rest => rest
  else segment :: done

def removeDots (path : List Char) : List Char :=
  joined '/' ((pieces '/' path).foldl enter []).reverse

/-! ## Paths -/

/-- No address is longer. -/
def lengthLimit : Nat := 65536

/-- Whether a character is ASCII and does not print. -/
def isAsciiControl (c : Char) : Bool := c.toNat < 0x20 || c.toNat == 0x7F

/-- The schemes of which requests are sent. -/
def schemes : List String := ["http", "https", "ws", "wss"]

def Parts.error? (p : Parts) : Option TargetError :=
  let portIsWhole := match readWholeSetting (String.ofList p.port) with
    | .ok _ => true
    | .error _ => false
  match Host.error? p.host with
  | some error => some (.badHost error)
  | none =>
    if !p.port.isEmpty && !portIsWhole then some (.badPort (String.ofList p.port))
    else if p.scheme.isEmpty && !p.hasPlace && "//".toList.isPrefixOf p.path then
      some .doubleSlash
    else if p.scheme.isEmpty && !p.hasPlace && p.path.head? == some ':' then some .colon
    else none

/-- Whether a character of a query needs no percent sign. -/
def isQueryChar (c : Char) : Bool :=
  0x20 < c.toNat && c.toNat < 0x7F && !(['"', '#', '<', '>'].contains c)

/-- Whether a character of a path needs no percent sign. -/
def isPathChar (c : Char) : Bool :=
  isQueryChar c && !(['?', '\x60', '\x7b', '\x7d'].contains c)

/-- The path with its points carried out, if anything is before it. -/
def Parts.ownPath (p : Parts) : List Char :=
  if p.scheme.isEmpty && !p.hasPlace then p.path else removeDots p.path

/-- What keeps a request from being sent, if something does.  What is not absolute is written
anew, with percent signs, and has to be short after that too. -/
def Parts.sendError? (p : Parts) (address : Text) : Option TargetError :=
  let path := '/' :: (percentEncode isPathChar p.ownPath).dropWhile (· == '/')
  match address.points.filterMap Point.half? with
  | half :: _ => some (.unencodable half)
  | [] =>
    if p.isAbsolute then
      if schemes.contains p.schemeName then none else some (.unknownScheme p.schemeName)
    else if lengthLimit < path.length then some (.longPart "path")
    else if lengthLimit < (percentEncode isQueryChar p.query).length then some (.longPart "query")
    else none

/-- The path of an address at the service, its percent signs not yet read. -/
def Parts.target (p : Parts) : List Char :=
  let placed :=
    if p.isAbsolute then p.ownPath else removeDots ('/' :: p.ownPath.dropWhile (· == '/'))
  if placed.isEmpty then ['/'] else placed

def pathOf (address : Text) : Except TargetError String :=
  let cs := address.readable.toList
  if lengthLimit < cs.length then .error .tooLong
  else
    match cs.find? isAsciiControl with
    | some c => .error (.unprintable c (cs.takeWhile (· != c)).length)
    | none =>
      let parts := Parts.ofText cs
      match parts.error?.orElse fun _ => parts.sendError? address with
      | some e => .error e
      | none => .ok (String.ofList (percentDecode (percentDecode parts.target)))

end PodPlacement.Target

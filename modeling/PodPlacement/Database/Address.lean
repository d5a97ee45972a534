import PodPlacement.Database.Query
import PodPlacement.Settings
import PodPlacement.Text.WordChar

/-!
# Addresses of databases

An address names a scheme, and then as far as it goes a user with a password, a host, a port,
a database and parameters.  It can be shown, with the password hidden: so it stands in what is
said of an address that is of no use.
-/

namespace PodPlacement.Database

open Text

structure Address where
  scheme : String
  user : Option String
  password : Option String
  host : Option String
  port : Option Int
  database : Option String
  query : Query
  deriving DecidableEq, Repr

inductive AddressError where
  | unreadable
  /-- The port is not a whole number. -/
  | badPort (error : SettingError)
  deriving DecidableEq, Repr

/-! ## Parts of an address -/

/-- Whether a character may stand in a scheme. -/
def isSchemeChar (c : Char) : Bool := isWordChar c || c == '+'

/-- The part of an address before its place, and the place. -/
def splitScheme (cs : List Char) : Option (List Char × List Char) :=
  match cs.takeWhile isSchemeChar, cs.dropWhile isSchemeChar with
  | c :: scheme, ':' :: '/' :: '/' :: place => some (c :: scheme, place)
  | _, _ => none

/-- A user, with a password if there is one. -/
structure User where
  name : List Char
  password : Option (List Char)

/-- Who is named before the host, up to an at sign, and the rest of a place.  A name goes up
to a colon or a slash; a password begins with a colon. -/
def splitUser (place : List Char) : Option User × List Char :=
  let run := place.takeWhile fun c => c != ':' && c != '/'
  let rest := place.drop run.length
  let withPassword := match rest with
    | ':' :: more =>
      match cut '@' more with
      | (password, some after) => some (⟨run, some password⟩, after)
      | (_, none) => none
    | _ => none
  match withPassword, cutLast? '@' run with
  | some (user, after), _ => (some user, after)
  | none, some (name, host) => (some ⟨name, none⟩, host ++ rest)
  | none, none => (none, place)

/-- The host of a place after its user, if it has one, and the rest.  In brackets a host may
have colons. -/
def splitHost (cs : List Char) : Option (List Char) × List Char :=
  let host := cs.takeWhile fun c => c != '/' && c != ':' && c != '?'
  let plain := (if host.isEmpty then none else some host, cs.drop host.length)
  match cs with
  | '[' :: more =>
    match cutLast? ']' (more.takeWhile fun c => c != '/' && c != '?') with
    | some (c :: inside, _) => (some (c :: inside), more.drop (inside.length + 2))
    | _ => plain
  | _ => plain

/-- The part of a text after a separator at its front and before the characters of a class,
if it begins with the separator, and the rest. -/
def splitPart (separator : Char) (ends : Char → Bool) (cs : List Char) :
    Option (List Char) × List Char :=
  match cs with
  | [] => (none, [])
  | c :: rest =>
    if c = separator then (some (rest.takeWhile (!ends ·)), rest.dropWhile (!ends ·))
    else (none, cs)

/-- The parts of an address after its scheme. -/
structure Place where
  user : Option User
  host : Option (List Char)
  port : Option (List Char)
  database : Option (List Char)
  query : Option (List Char)

def Place.ofText (cs : List Char) : Place :=
  let (user, afterUser) := splitUser cs
  let (host, afterHost) := splitHost afterUser
  let (port, afterPort) := splitPart ':' (fun c => c == '/' || c == '?') afterHost
  let (database, afterDatabase) := splitPart '/' (· == '?') afterPort
  let (query, _) := splitPart '?' (· == '\n') afterDatabase
  ⟨user, host, port, database, query⟩

/-! ## From text -/

/-- A text whose percent signs are read. -/
def meant (cs : List Char) : String := String.ofList (percentDecode cs)

/-- The port that a text gives. -/
def portOf : Option (List Char) → Except AddressError (Option Int)
  | none => .ok none
  | some cs =>
    match wholeSetting (String.ofList cs) with
    | .ok port => .ok (some port)
    | .error e => .error (.badPort e)

def Place.address (p : Place) (scheme : String) : Except AddressError Address :=
  match portOf p.port with
  | .error e => .error e
  | .ok port =>
    .ok {
      scheme := scheme
      user := p.user.map (meant ·.name)
      password := (p.user.bind (·.password)).map meant
      host := p.host.map String.ofList
      port := port
      database := p.database.map meant
      query := Query.ofText (p.query.getD []) }

namespace Address

def ofText (url : String) : Except AddressError Address :=
  match splitScheme url.toList with
  | none => .error .unreadable
  | some (scheme, place) => (Place.ofText place).address (String.ofList scheme)

/-! ## To text -/

/-- A user or a database as it is written; characters of a class stand for themselves. -/
def written (keep : Char → Bool) (s : String) : List Char :=
  percentEncode (fun c => isUnreserved c || keep c) s.toList

/-- The text of an address, with stars for the password. -/
def text (a : Address) : String :=
  let user := match a.user with
    | none => []
    | some name =>
      let password := if a.password.isSome then ":***".toList else []
      written (fun c => c == ' ' || c == '+') name ++ password ++ ['@']
  let host := match a.host with
    | none => []
    | some host => if host.contains ':' then '[' :: host.toList ++ [']'] else host.toList
  let port := match a.port with
    | none => []
    | some port => ':' :: (toString port).toList
  let database := match a.database with
    | none => []
    | some name => '/' :: written (fun c => c == ' ' || c == '+' || c == '/') name
  let query := if a.query.isEmpty then [] else '?' :: a.query.text
  a.scheme ++ "://" ++ String.ofList (user ++ host ++ port ++ database ++ query)

end Address

end PodPlacement.Database

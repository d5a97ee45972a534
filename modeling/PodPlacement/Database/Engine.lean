import PodPlacement.Database.Address
import PodPlacement.Database.Dialect

/-!
# Databases for the inventory

The database of an inventory is named by an address: a dialect, a driver if it is not the
usual one, and a place.  The inventory is kept in PostgreSQL; SQLite has to be allowed.  The
address is looked at in one order: its form, extensions that it asks for, its driver, and
what it says of the place.

What is decided here is whether a service can start with an address, and with which dialect and
driver.  What it then keeps is in `PodPlacement.Inventory`, whichever database holds it.
-/

namespace PodPlacement.Database

open Text

/-- A database that can be used. -/
structure Engine where
  dialect : String
  driver : String
  deriving DecidableEq, Repr

/-! ## Errors -/

inductive EngineError where
  /-- The address is not of a database that is accepted. -/
  | notPostgres
  /-- The text is no address. -/
  | badAddress (error : AddressError)
  /-- An extension is asked for that is not known. -/
  | unknownExtension (name : String)
  /-- The scheme gives no driver. -/
  | noDriver (error : DriverError)
  /-- A file has neither user nor host. -/
  | fileWithHost (a : Address)
  /-- A parameter is not a number. -/
  | badNumber (error : SettingError)
  /-- A parameter is neither yes nor no. -/
  | badSwitch (word : String)
  /-- A parameter that is a real number is given more than once. -/
  | repeatedReal
  /-- A parameter that is a whole number is given more than once. -/
  | repeatedWhole
  /-- Parameters are given of a file that is not named. -/
  | parametersOfNoFile
  /-- A host is given with more than one port. -/
  | tooManyPorts
  /-- Ports stand with the hosts and apart from them. -/
  | portsTwice
  /-- A port is not a number. -/
  | badPorts (ports : List (Option String))
  /-- There are not as many ports as hosts. -/
  | unmatchedPorts
  deriving DecidableEq, Repr

/-- A list of texts that may be missing, in round brackets. -/
def bracketed (items : List (Option String)) : String :=
  let shown := items.map fun
    | some s => quoted s
    | none => "None"
  match shown with
  | [item] => s!"({item},)"
  | _ => "(" ++ String.intercalate ", " shown ++ ")"

/-- What is said of more parts than two. -/
def tooManyText : String := "too many values to unpack (expected 2)"

def Part.notDriverText : Part → String
  | typeNamed name => s!"type object '{name}' has no attribute 'dialect'"
  | group name => s!"module '{name}' has no attribute 'dialect'"
  | value kind => s!"'{kind}' object has no attribute 'dialect'"
  | driver name => name
  | missingDriver => ""

def AddressError.message : AddressError → String
  | unreadable => "Could not parse SQLAlchemy URL from given URL string"
  | badPort error => error.message

def DriverError.message : DriverError → String
  | unknown name => "Can't load plugin: sqlalchemy.dialects:" ++ name
  | tooManyParts => tooManyText
  | notDriver part => part.notDriverText
  | missing => "PostgreSQL driver missing. Install service dependencies (psycopg[binary])."

def EngineError.message : EngineError → String
  | notPostgres => "DATABASE_URL must be a PostgreSQL URL (postgresql+psycopg://...)"
  | badAddress error => error.message
  | unknownExtension name => "Can't load plugin: sqlalchemy.plugins:" ++ name
  | noDriver error => error.message
  | fileWithHost a =>
    s!"Invalid SQLite URL: {a.text}\nValid SQLite URL forms are:\n" ++
      " sqlite:///:memory: (or, sqlite://)\n" ++
      " sqlite:///relative/path/to/file.db\n" ++
      " sqlite:////absolute/path/to/file.db"
  | badNumber error => error.message
  | badSwitch word => "String is not true/false: " ++ quoted word
  | repeatedReal => "float() argument must be a string or a real number, not 'tuple'"
  | repeatedWhole =>
    "int() argument must be a string, a bytes-like object or a real number, not 'tuple'"
  | parametersOfNoFile => "unsupported operand type(s) for +=: 'NoneType' and 'str'"
  | tooManyPorts => tooManyText
  | portsTwice =>
    "Can't mix 'multihost' formats together; use \"host=h1,h2,h3&port=p1,p2,p3\" " ++
      "or \"host=h1:p1&host=h2:p2&host=h3:p3\" separately"
  | badPorts ports => "Received non-integer port arguments: " ++ bracketed ports
  | unmatchedPorts => "number of hosts and ports don't match"

/-! ## Files -/

/-- What a parameter of a file is. -/
inductive ParameterKind where
  | switch
  | real
  | whole
  | text
  deriving DecidableEq, Repr

/-- The parameters of a file, in the order in which they are looked at. -/
def fileParameters : List (String × ParameterKind) :=
  [("uri", .switch), ("timeout", .real), ("isolation_level", .text), ("detect_types", .whole),
   ("check_same_thread", .switch), ("cached_statements", .whole)]

def onWords : List String := ["true", "yes", "on", "y", "t", "1"]

def offWords : List String := ["false", "no", "off", "n", "f", "0"]

/-- What the values of a switch mean.  More than one mean yes. -/
def readSwitch (values : List String) : Except EngineError Bool :=
  match values with
  | [value] =>
    let word := lowerCase (String.ofList (trim isBlankOrSeparator value.toList))
    if onWords.contains word then .ok true
    else if offWords.contains word then .ok false
    else .error (.badSwitch word)
  | _ => .ok true

def checkParameter (kind : ParameterKind) (values : List String) : Except EngineError Unit :=
  match kind, values with
  | .text, _ => .ok ()
  | .switch, _ => (readSwitch values).map fun _ => ()
  | .real, [value] => ((realSetting value).mapError .badNumber).map fun _ => ()
  | .real, _ => .error .repeatedReal
  | .whole, [value] => ((wholeSetting value).mapError .badNumber).map fun _ => ()
  | .whole, _ => .error .repeatedWhole

/-- Whether the values of all parameters of a file are good. -/
def checkParameters (q : Query) : List (String × ParameterKind) → Except EngineError Unit
  | [] => .ok ()
  | (key, kind) :: rest =>
    match q.lookup key with
    | none => checkParameters q rest
    | some values =>
      match checkParameter kind values with
      | .error e => .error e
      | .ok () => checkParameters q rest

/-- Whether an address says more of a place than a file has. -/
def Address.hasPlace (a : Address) : Bool :=
  a.user.any (!·.isEmpty) || a.password.any (!·.isEmpty) || a.host.any (!·.isEmpty) ||
    a.port.any (· != 0)

def checkFile (a : Address) : Except EngineError Unit :=
  if a.hasPlace then .error (.fileWithHost a)
  else
    match checkParameters a.query fileParameters with
    | .error e => .error e
    | .ok () =>
      let byUri := match a.query.lookup "uri" with
        | some values => (readSwitch values).toOption.getD false
        | none => false
      let others := a.query.any fun p => (fileParameters.lookup p.1).isNone
      if byUri && a.database.isNone && others then .error .parametersOfNoFile else .ok ()

/-! ## Servers -/

/-- Hosts, and the ports that are given with them or apart from them. -/
structure Servers where
  hosts : List String
  ports : List (Option String)

/-- Whether a character may stand in the name of a host. -/
def isHostChar (c : Char) : Bool := c.isAlphanum || c == '-' || c == '.'

/-- The port after a host and a colon, if there is a port and nothing else; a line end may
follow. -/
def portAfterHost? (host : String) : Option String :=
  match cut ':' host.toList with
  | (name, some port) =>
    let digits := port.takeWhile fun c => (digitValue? c).isSome
    let rest := port.drop digits.length
    if name.all isHostChar && (rest.isEmpty || rest == ['\n']) && !digits.isEmpty then
      some (String.ofList digits)
    else none
  | (_, none) => none

/-- The pieces of a text between separators, as texts. -/
def cutAll (separator : Char) (s : String) : List String :=
  (pieces separator s.toList).map String.ofList

/-- The servers that parameters name.  One text names hosts between commas; several name a
host each, with its port. -/
def serversOf (q : Query) : Except EngineError Servers :=
  let portsApart := match q.lookup "port" with
    | none => none
    | some [ports] => some ((cutAll ',' ports).map some)
    | some ports => some (ports.map some)
  match q.lookup "host", portsApart with
  | none, ports => .ok ⟨[], ports.getD []⟩
  | some [host], some ports => .ok ⟨cutAll ',' host, ports⟩
  | some [host], none =>
    match cutAll ',' host, portAfterHost? host with
    | [_], some port => .ok ⟨[host], [some port]⟩
    | hosts, _ => .ok ⟨hosts, []⟩
  | some hosts, ports =>
    let split := hosts.map (cutAll ':')
    if split.all fun pieces => 2 < pieces.length then .error .tooManyPorts
    else if ports.isSome then .error .portsTwice
    else .ok ⟨hosts, split.map (·[1]?)⟩

/-- Whether a port is left out or a number. -/
def isPort (port : Option String) : Bool :=
  match port with
  | none => true
  | some s => s.isEmpty || (wholeSetting s).toOption.isSome

def checkServers (q : Query) : Except EngineError Unit :=
  match serversOf q with
  | .error e => .error e
  | .ok servers =>
    let hosts := servers.hosts.length
    let ports := servers.ports.length
    if !servers.ports.all isPort then .error (.badPorts servers.ports)
    else if ports = 0 then .ok ()
    else if hosts = 0 then if 1 < ports then .error .unmatchedPorts else .ok ()
    else if hosts ≠ ports then .error .unmatchedPorts
    else .ok ()

/-! ## Engines -/

/-- Whether an address may be tried at all, by its beginning. -/
def isAccepted (url : String) (allowSqlite : Bool) : Bool :=
  url.startsWith "postgresql" || (allowSqlite && url.startsWith "sqlite")

/-- The extension that an address asks for first. -/
def Address.extension? (a : Address) : Option String :=
  (a.query.lookup "plugin").bind (·.head?)

def Address.withoutExtensions (a : Address) : Address :=
  { a with query := a.query.filter fun p => p.1 != "plugin" && p.1 != "plugins" }

def Address.checkPlace (a : Address) (d : Dialect) : Except EngineError Unit :=
  if d.name = sqlite.name then checkFile a else checkServers a.query

def engineOf (url : String) (allowSqlite : Bool) : Except EngineError Engine :=
  if !isAccepted url allowSqlite then .error .notPostgres
  else
    match Address.ofText url with
    | .error e => .error (.badAddress e)
    | .ok a =>
      match a.extension? with
      | some name => .error (.unknownExtension name)
      | none =>
        match driverOf a.scheme with
        | .error e => .error (.noDriver e)
        | .ok (dialect, driver) =>
          match a.withoutExtensions.checkPlace dialect with
          | .error e => .error e
          | .ok () => .ok ⟨dialect.name, driver⟩

end PodPlacement.Database

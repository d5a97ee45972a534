import PodPlacement.Text.Address

/-!
# Dialects

The dialects that are known, and what each holds under which name.  A scheme is a dialect, or
a dialect and after a plus the name of a part of it, which has to be a driver.
-/

namespace PodPlacement.Database

open Text

/-! ## What a dialect holds -/

/-- What a dialect holds under a name. -/
inductive Part where
  | driver (name : String)
  /-- A driver that is known but not installed. -/
  | missingDriver
  /-- A type of columns, a clause or the like. -/
  | typeNamed (name : String)
  /-- A part with parts of its own. -/
  | group (name : String)
  /-- A value of a kind. -/
  | value (kind : String)
  deriving DecidableEq, Repr

structure Dialect where
  name : String
  parts : List (String × Part)
  deriving DecidableEq, Repr

/-- Types that go by their own names. -/
def typesNamed (names : List String) : List (String × Part) :=
  names.map fun name => (name, .typeNamed name)

/-- Groups of a dialect that go by their own names. -/
def groupsOf (dialect : String) (names : List String) : List (String × Part) :=
  names.map fun name => (name, .group s!"sqlalchemy.dialects.{dialect}.{name}")

def valuesOf (kind : String) (names : List String) : List (String × Part) :=
  names.map fun name => (name, .value kind)

/-- What every dialect holds besides its own parts. -/
def commonParts : List (String × Part) :=
  [("__all__", .value "tuple"), ("__class__", .typeNamed "module"),
   ("__doc__", .value "NoneType"), ("__loader__", .value "SourceFileLoader"),
   ("__path__", .value "list"), ("__spec__", .value "ModuleSpec")] ++
  valuesOf "dict" ["__annotations__", "__builtins__", "__dict__"] ++
  valuesOf "str" ["__cached__", "__file__", "__name__", "__package__"] ++
  valuesOf "builtin_function_or_method"
    ["__dir__", "__format__", "__getstate__", "__init_subclass__", "__new__", "__reduce__",
     "__reduce_ex__", "__sizeof__", "__subclasshook__"] ++
  valuesOf "method-wrapper"
    ["__delattr__", "__eq__", "__ge__", "__getattribute__", "__gt__", "__hash__", "__init__",
     "__le__", "__lt__", "__ne__", "__repr__", "__setattr__", "__str__"]

def postgres : Dialect where
  name := "postgresql"
  parts :=
    [("base", .driver "psycopg"), ("psycopg", .driver "psycopg"),
     ("psycopg_async", .driver "psycopg"), ("psycopg2", .missingDriver),
     ("asyncpg", .missingDriver), ("pg8000", .missingDriver), ("psycopg2cffi", .missingDriver),
     ("dialect", .typeNamed "PGDialect_psycopg"), ("ModuleType", .typeNamed "module"),
     ("arraylib", .group "sqlalchemy.dialects.postgresql.array")] ++
    valuesOf "function" ["All", "Any", "array_agg", "distinct_on", "insert"] ++
    groupsOf "postgresql"
      ["_psycopg_common", "bitstring", "dml", "ext", "json", "named_types", "operators",
       "pg_catalog", "ranges", "types"] ++
    typesNamed
      ["ARRAY", "AbstractMultiRange", "AbstractRange", "AbstractSingleRange", "BIGINT", "BIT",
       "BOOLEAN", "BYTEA", "BitString", "CHAR", "CIDR", "CITEXT", "CreateDomainType",
       "CreateEnumType", "DATE", "DATEMULTIRANGE", "DATERANGE", "DOMAIN", "DOUBLE_PRECISION",
       "DropDomainType", "DropEnumType", "ENUM", "ExcludeConstraint", "FLOAT", "HSTORE", "INET",
       "INT4MULTIRANGE", "INT4RANGE", "INT8MULTIRANGE", "INT8RANGE", "INTEGER", "INTERVAL",
       "Insert", "JSON", "JSONB", "JSONPATH", "MACADDR", "MACADDR8", "MONEY", "MultiRange",
       "NUMERIC", "NUMMULTIRANGE", "NUMRANGE", "NamedType", "OID", "REAL", "REGCLASS",
       "REGCONFIG", "Range", "SMALLINT", "TEXT", "TIME", "TIMESTAMP", "TSMULTIRANGE", "TSQUERY",
       "TSRANGE", "TSTZMULTIRANGE", "TSTZRANGE", "TSVECTOR", "UUID", "VARCHAR",
       "aggregate_order_by", "array", "hstore", "phraseto_tsquery", "plainto_tsquery",
       "to_tsquery", "to_tsvector", "ts_headline", "websearch_to_tsquery"] ++
    commonParts

def sqlite : Dialect where
  name := "sqlite"
  parts :=
    [("base", .driver "pysqlite"), ("pysqlite", .driver "pysqlite"),
     ("aiosqlite", .missingDriver), ("pysqlcipher", .missingDriver),
     ("dialect", .typeNamed "SQLiteDialect_pysqlite"), ("insert", .value "function")] ++
    groupsOf "sqlite" ["dml", "json"] ++
    typesNamed
      ["BLOB", "BOOLEAN", "CHAR", "DATE", "DATETIME", "DECIMAL", "FLOAT", "INTEGER", "Insert",
       "JSON", "JSONB", "NUMERIC", "REAL", "SMALLINT", "TEXT", "TIME", "TIMESTAMP", "VARCHAR"] ++
    commonParts

def dialects : List Dialect := [postgres, sqlite]

/-! ## Drivers -/

inductive DriverError where
  /-- No dialect and no part of one goes by the name. -/
  | unknown (name : String)
  /-- The scheme has more parts than a dialect and a driver. -/
  | tooManyParts
  /-- The part is not a driver. -/
  | notDriver (part : Part)
  /-- The driver is known but not installed. -/
  | missing
  deriving DecidableEq, Repr

/-- The part under which a dialect keeps its usual driver. -/
def usualPart : String := "base"

def driverOf (scheme : String) : Except DriverError (Dialect × String) :=
  let names := (pieces '+' scheme.toList).map String.ofList
  let found : Except DriverError (String × String) := match names with
    | [dialect] => .ok (dialect, usualPart)
    | [dialect, part] => .ok (dialect, part)
    | _ => .error .tooManyParts
  match found with
  | .error e => .error e
  | .ok (dialectName, partName) =>
    let known := (dialects.find? (·.name == dialectName)).bind fun d =>
      (d.parts.lookup partName).map (d, ·)
    match known with
    | none => .error (.unknown (String.intercalate "." names))
    | some (d, .driver name) => .ok (d, name)
    | some (_, .missingDriver) => .error .missing
    | some (_, part) => .error (.notDriver part)

end PodPlacement.Database

import BoundSql.Builder.Basic
import BoundSql.Json.Skip

/-!
# Configurations

What builders have in common: a dialect, a prefix for tables and the usual primary key. A
configuration is read from JSON, as an object with any of its three fields or as a list of them in
their order. What is missing has its usual value; fields with other names are passed over, and
only have to be well formed. A repeated field is an error.
-/

namespace BoundSql

/-- The dialects that a configuration can name. -/
inductive DialectName where
  | postgres
  | mysql
deriving DecidableEq, Repr

/-- What builders have in common. -/
structure Config where
  dialect : DialectName
  tablePrefix : String
  primaryKey : String
deriving DecidableEq, Repr

namespace DialectName

/-- The word for a dialect. -/
def name : DialectName → String
  | postgres => "postgres"
  | mysql => "mysql"

/-- The dialect of a word. -/
def ofName? (s : String) : Option DialectName :=
  [postgres, mysql].find? fun d => d.name = s

/-- The dialect of a name, without a prefix. -/
def dialect : DialectName → Sql.Dialect
  | postgres => .postgres
  | mysql => .mysql

end DialectName

namespace Config

/-- The usual values: PostgreSQL, no prefix, and `id`. -/
def usual : Config := ⟨.postgres, "", "id"⟩

instance : Inhabited Config := ⟨usual⟩

/-- The usual values with another dialect. -/
def new (dialect : DialectName) : Config :=
  { usual with dialect }

/-- The dialect with its prefix. -/
def spoken (c : Config) : Sql.Dialect :=
  c.dialect.dialect.withPrefix c.tablePrefix

/-- A builder that selects from a table. -/
def table (c : Config) (table : TableRef) : Builder :=
  { Builder.new c.spoken table with primaryKey := c.primaryKey }

/-- The configuration as data. -/
def toJson (c : Config) : Json :=
  .object [("dialect", .text c.dialect.name), ("table_prefix", .text c.tablePrefix),
    ("primary_key", .text c.primaryKey)]

open Json

/-- A name alone, or as the only field of an object, with null as its value. -/
def readDialect : Reader DialectName := fun cs =>
  match cs with
  | '\x7b' :: rest => do
    let (name, rest) ← readString (dropGaps rest)
    match dropGaps rest with
    | ':' :: rest =>
      let dialect ← DialectName.ofName? name
      let ((), rest) ← readWord "null" (dropGaps rest)
      match dropGaps rest with
      | '\x7d' :: rest => return (dialect, rest)
      | _ => none
    | _ => none
  | cs => do
    let (name, rest) ← readString cs
    return (← DialectName.ofName? name, rest)

/-- A field of a configuration. -/
inductive Field where
  | dialect
  | tablePrefix
  | primaryKey
deriving DecidableEq, Repr

/-- The fields in their order. -/
def Field.all : List Field := [.dialect, .tablePrefix, .primaryKey]

/-- The name of a field. -/
def Field.name : Field → String
  | dialect => "dialect"
  | tablePrefix => "table_prefix"
  | primaryKey => "primary_key"

/-- Reads the value of a field into a configuration. -/
def Field.read (f : Field) (c : Config) : Reader Config := fun cs =>
  match f with
  | .dialect => (readDialect cs).map fun (value, rest) => ({ c with dialect := value }, rest)
  | .tablePrefix => (readString cs).map fun (value, rest) => ({ c with tablePrefix := value }, rest)
  | .primaryKey => (readString cs).map fun (value, rest) => ({ c with primaryKey := value }, rest)

/-- Reads the value of a name into a configuration. A field must not have been seen before. -/
def readNamed (name : String) (c : Config) (seen : List Field) :
    Reader (Config × List Field) := fun cs =>
  match Field.all.find? fun f => f.name = name with
  | some f =>
    if seen.contains f then none
    else (f.read c cs).map fun (c, rest) => ((c, f :: seen), rest)
  | none => (skipValue cs).map fun ((), rest) => ((c, seen), rest)

/-- The fields up to the closing brace, at least one; `fuel` bounds their number. -/
def readNamedFields : (fuel : Nat) → Config → List Field → Reader Config
  | 0, _, _, _ => none
  | fuel + 1, c, seen, cs => do
    let (name, rest) ← readString (dropGaps cs)
    match dropGaps rest with
    | ':' :: rest =>
      let ((c, seen), rest) ← readNamed name c seen (dropGaps rest)
      match dropGaps rest with
      | ',' :: rest => readNamedFields fuel c seen rest
      | '\x7d' :: rest => return (c, rest)
      | _ => none
    | _ => none

/-- Values of these fields in this order, each behind a comma, up to the closing bracket. -/
def readMoreInOrder : List Field → Config → Reader Config
  | fields, c, cs =>
    match dropGaps cs, fields with
    | ']' :: rest, _ => some (c, rest)
    | ',' :: rest, f :: fields => do
      let (c, rest) ← f.read c (dropGaps rest)
      readMoreInOrder fields c rest
    | _, _ => none

/-- An object or a list. -/
def readConfig : Reader Config := fun cs =>
  match cs with
  | '\x7b' :: rest =>
    match dropGaps rest with
    | '\x7d' :: rest => some (usual, rest)
    | rest => readNamedFields rest.length usual [] rest
  | '[' :: rest =>
    match dropGaps rest with
    | ']' :: rest => some (usual, rest)
    | rest => do
      let (c, rest) ← Field.dialect.read usual rest
      readMoreInOrder [.tablePrefix, .primaryKey] c rest
  | _ => none

/-- The configuration that a whole text writes. -/
def ofText? (s : String) : Option Config :=
  match readConfig (dropGaps s.toList) with
  | some (c, rest) => if (dropGaps rest).isEmpty then some c else none
  | none => none

end Config

end BoundSql

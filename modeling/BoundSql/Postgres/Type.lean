import BoundSql.Postgres.Catalog

/-!
# Types of a PostgreSQL database

A type is that of single values or of arrays. Types are known by their names; the name of an array
type is an underscore and the name of its members, that of a vector the name of its members and
`vector`. Types that a user defined stand in the schema `public` and are shown without it.
-/

namespace BoundSql.Postgres

/-- The types of single values. -/
inductive Scalar where
  | bool
  | bytea
  | int2
  | int4
  | int8
  | oid
  | float4
  | float8
  | date
  | timestamp
  | timestamptz
  | uuid
  | json
  | jsonb
  | text
  | varchar
  | bpchar
  | name
  | unknown
  /-- Another type of the catalog. -/
  | builtIn (name : String) (oid : Nat)
  /-- A type that a user defined. -/
  | custom (name : String)
deriving DecidableEq, Repr, Inhabited

namespace Scalar

/-- The types whose values can be read or written, and that are no user's. -/
def known : List Scalar :=
  [bool, bytea, int2, int4, int8, oid, float4, float8, date, timestamp, timestamptz, uuid, json,
   jsonb, text, varchar, bpchar, name, unknown]

/-- The name that is shown. -/
def shownName : Scalar → String
  | bool => "bool"
  | bytea => "bytea"
  | int2 => "int2"
  | int4 => "int4"
  | int8 => "int8"
  | oid => "oid"
  | float4 => "float4"
  | float8 => "float8"
  | date => "date"
  | timestamp => "timestamp"
  | timestamptz => "timestamptz"
  | uuid => "uuid"
  | json => "json"
  | jsonb => "jsonb"
  | text => "text"
  | varchar => "varchar"
  | bpchar => "bpchar"
  | name => "name"
  | unknown => "unknown"
  | builtIn word _ => word
  | custom word => word

/-- The object identifier; zero for types of which it is not known. -/
def objectId : Scalar → Nat
  | bool => 16
  | bytea => 17
  | name => 19
  | int8 => 20
  | int2 => 21
  | int4 => 23
  | text => 25
  | oid => 26
  | json => 114
  | float4 => 700
  | float8 => 701
  | unknown => 705
  | bpchar => 1042
  | varchar => 1043
  | date => 1082
  | timestamp => 1114
  | timestamptz => 1184
  | uuid => 2950
  | jsonb => 3802
  | builtIn _ id => id
  | custom _ => 0

/-- The type of a name without a schema. -/
def ofName? (s : String) : Option Scalar :=
  match known.find? fun t => t.shownName = s with
  | some t => some t
  | none => (catalog.find? fun entry => entry.1 = s).map fun entry => .builtIn entry.1 entry.2

end Scalar

/-- The types of a database. -/
inductive PgType where
  | scalar (type : Scalar)
  /-- Arrays, whose members are numbered from one. -/
  | array (member : PgType)
  /-- Arrays whose members are numbered from zero. -/
  | vector (member : Scalar)
deriving DecidableEq, Repr, Inhabited

namespace PgType

/-- The name that is shown. -/
def shownName : PgType → String
  | scalar type => type.shownName
  | array member => "_" ++ member.shownName
  | vector member => member.shownName ++ "vector"

/-- The vectors that there are, with their object identifiers. -/
def vectors : List (Scalar × Nat) := [(.int2, 22), (.oid, 30)]

/-- The object identifier of a type that can be a member. -/
def objectId : PgType → Nat
  | scalar type => type.objectId
  | array _ => 0
  | vector member => ((vectors.find? fun entry => entry.1 = member).map Prod.snd).getD 0

/-- The type of single values or of vectors that has a name. -/
def memberOfName? (s : String) : Option PgType :=
  match vectors.find? fun entry => (vector entry.1).shownName = s with
  | some entry => some (vector entry.1)
  | none => (Scalar.ofName? s).map scalar

/-- The type of a name. -/
def ofName? (s : String) : Option PgType :=
  if s.startsWith "public." then some (scalar (.custom (.ofList (s.toList.drop 7))))
  else match memberOfName? s, s.toList with
    | some type, _ => some type
    | none, '_' :: rest => (memberOfName? (.ofList rest)).map array
    | none, _ => none

end PgType

end BoundSql.Postgres

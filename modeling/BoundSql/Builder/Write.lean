import BoundSql.Error
import BoundSql.Statement.Basic

/-!
# What is written

Checks on the fields of insertions and updates. A list of fields names no field twice. The rows of
one insertion all have the fields of its first row; the cells of every row are put in the order of
those fields. An update that steps fields and overwrites others does not step what it overwrites.
-/

namespace BoundSql.Builder

/-- Named values in the order they are given. -/
abbrev Fields := List (String × Value)

/-- The first name that already stands before, or among those seen. -/
def repeated? : (seen : List String) → Fields → Option String
  | _, [] => none
  | seen, (name, _) :: rest =>
    if seen.contains name then some name else repeated? (seen ++ [name]) rest

/-- The fields, refused if a name is repeated. -/
def distinctFields (fields : Fields) : Except Refusal Fields :=
  match repeated? [] fields with
  | some name => .error (.repeatedField name)
  | none => .ok fields

/-- The value under a name. -/
def valueOf? (row : Fields) (name : String) : Option Value :=
  (row.find? fun field => field.1 = name).map Prod.snd

/-- The cells of a row in the order of the fields, refused if its fields are others. -/
def alignRow (order : List String) (row : Fields) : Except Refusal (List Value) :=
  if row.length = order.length && row.all fun field => order.contains field.1 then
    .ok (order.filterMap (valueOf? row))
  else .error (.fieldMismatch (row.map Prod.fst) order)

/-- The rows of an insertion that follow those there are: the fields, which are those of the first
row unless they are given, and the cells of the rows. -/
def stageRows : (order : Option (List String)) → List Fields →
    Except Refusal (Option (List String) × List (List Value))
  | order, [] => .ok (order, [])
  | order, row :: rows => do
    let row ← distinctFields row
    if row.isEmpty then throw .emptyRow
    let fields := order.getD (row.map Prod.fst)
    let cells ← alignRow fields row
    let (order, staged) ← stageRows (some fields) rows
    return (order, cells :: staged)

/-- The action that inserts these rows, behind the rows that the action inserts already. -/
def insertRows (action : Action) (rows : List Fields) : Except Refusal Action :=
  match action with
  | .insert (.rows fields present) => do
    let (_, staged) ← stageRows (some fields) rows
    if staged.isEmpty && present.isEmpty then throw .noRows
    return .insert (.rows fields (present ++ staged))
  | _ => do
    let (fields, staged) ← stageRows none rows
    if staged.isEmpty then throw .noRows
    return .insert (.rows (fields.getD []) staged)

/-- The action that sets these fields. -/
def setFields (fields : Fields) : Except Refusal Action := do
  let fields ← distinctFields fields
  if fields.isEmpty then throw .noFields
  return .update (.assignments (fields.map fun field => .set field.1 field.2))

/-- The action that steps fields, all up or all down, and then overwrites others. -/
def stepFields (negative : Bool) (steps overwrites : Fields) : Except Refusal Action := do
  let steps ← distinctFields steps
  let overwrites ← distinctFields overwrites
  if steps.isEmpty && overwrites.isEmpty then throw .noFields
  let stepped := steps.filter fun field => !overwrites.any fun other => other.1 = field.1
  return .update (.assignments
    (stepped.map (fun field => .step field.1 negative field.2) ++
      overwrites.map (fun field => .set field.1 field.2)))

end BoundSql.Builder

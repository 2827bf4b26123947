import BoundSql.Connection.Pages
import BoundSql.Proofs.Keyword

/-!
# Round trips

A read of a builder asks its connection once. What it asks for is a selection, whatever the builder
does otherwise, and what it gives depends on the answer alone; so it is with every pull of a page or
of a row. Executing asks once for the statement of the builder as it is. Requests have the tag of
the builder, and an error of the connection is handed on as it came. `one_roundTrip` puts this
together, for connections in every monad.

## Implementation notes

That a connection is asked once is said without counting: a read is equal to one call of the
connection with something behind it in which the connection does not occur. A `Recorder` makes the
calls visible: it keeps the requests in the order in which they are sent.
-/

namespace BoundSql

variable {m : Type → Type} [Monad m]

/-! ## Reads -/

/-- What is read of a selection, by the type of what the read gives. -/
inductive Read : Type → Type where
  | all : Read (List Row)
  | first : Read (Option Row)
  | firstOrError : Read Row
  | last (field : Option String) : Read (Option Row)
  | valuesOf (field : String) : Read (List Value)
  | valuesAs (field asName : String) : Read (List Row)
  | firstValueOf (field : String) : Read (Option Value)
  | count : Read Int64
  | hasRows : Read Bool

namespace Read

/-- The read as it is made. -/
def run {α : Type} (b : Builder) (c : Connection m) : Read α → ExceptT Error m α
  | all => b.fetchAll c
  | first => b.first c
  | firstOrError => b.firstOrError c
  | last field => b.last field c
  | valuesOf field => b.valuesOf field c
  | valuesAs field asName => b.valuesAs field asName c
  | firstValueOf field => b.firstValueOf field c
  | count => b.count c
  | hasRows => b.hasRows c

/-- The statement that a read sends. -/
def statement {α : Type} (b : Builder) : Read α → Sql.Compiled
  | all => b.selecting.compile
  | first | firstOrError | firstValueOf _ => (b.selecting.changing (.limitedTo 1)).compile
  | last field =>
    (b.selecting.changing fun s =>
      (s.latestBy (field.getD b.primaryKey)).limitedTo 1).compile
  | valuesOf field => (b.selecting.changing (.only (.field field none))).compile
  | valuesAs field asName => (b.selecting.changing (.only (.field field (some asName)))).compile
  | count => b.countStatement
  | hasRows => b.hasRowsStatement

/-- What a read makes of the rows it gets. -/
def result {α : Type} : Read α → List Row → Except Error α
  | all, rows => .ok rows
  | first, rows | last _, rows => .ok rows.head?
  | firstOrError, rows => Builder.firstOf "Expected one row, got none" rows
  | valuesOf _, rows => .ok (rows.map Row.firstValue)
  | valuesAs _ asName, rows => .ok (rows.map fun row => ⟨[(asName, row.firstValue)]⟩)
  | firstValueOf _, [] => .ok none
  | firstValueOf field, row :: _ => (row.get (.ofList (Sql.lastPart field.toList))).map some
  | count, rows => Builder.readFirst "COUNT returned no row" Builder.countName rows
  | hasRows, rows => Builder.readFirst "EXISTS returned no row" Builder.existsName rows

variable (b : Builder)

/-- A read sends a selection, whatever the builder does otherwise. -/
theorem ofSql_statement {α : Type} (r : Read α) :
    StatementKind.ofSql (r.statement b).sql = .select := by
  cases r with
  | count =>
    simp only [statement, Builder.countStatement]
    split
    · have hword : OpensWith Action.select.opening "SELECT " := opensWith_append "SELECT " ""
      exact ((((hword.append _).append _).append _).append _).ofSql_eq
    · exact Builder.ofSql_compile _
  | hasRows =>
    have hword : OpensWith Action.select.opening "SELECT EXISTS(" :=
      opensWith_append "SELECT " "EXISTS("
    exact (((hword.append _).append _).append _).ofSql_eq
  | _ => exact Builder.ofSql_compile _

/-- A read is one call of the connection, and what it gives depends on the rows alone. -/
theorem run_eq [LawfulMonad m] {α : Type} (c : Connection m) (r : Read α) :
    r.run b c = (do
      let rows ← c.send ⟨b.tag, r.statement b⟩
      ExceptT.mk (pure (r.result rows))) := by
  have hfirst : b.first c = (do
      let rows ← c.send ⟨b.tag, (b.selecting.changing (.limitedTo 1)).compile⟩
      return rows.head?) := rfl
  cases r with
  | all => exact (bind_pure (b.fetchAll c)).symm
  | firstOrError =>
    simp only [run, Builder.firstOrError, hfirst, bind_assoc, pure_bind]
    apply bind_congr
    intro rows
    cases rows <;> rfl
  | firstValueOf field =>
    simp only [run, Builder.firstValueOf, hfirst, bind_assoc, pure_bind]
    apply bind_congr
    intro rows
    cases rows with
    | nil => rfl
    | cons row rows =>
      apply ExceptT.ext
      simp only [result, List.head?_cons]
      generalize row.get (.ofList (Sql.lastPart field.toList)) = cell
      cases cell <;> simp [Except.map]
  | _ => rfl

/-- Behind the one call, an error is handed on and rows are what the read makes of them. -/
theorem run_run_eq [LawfulMonad m] {α : Type} (c : Connection m) (r : Read α) :
    (r.run b c).run = (do
      match ← (c.send ⟨b.tag, r.statement b⟩).run with
      | .error e => return .error e
      | .ok rows => return r.result rows) := by
  rw [run_eq, ExceptT.run_bind]
  apply bind_congr
  intro answer
  cases answer <;> rfl

end Read

/-! ## Pulls -/

/-- Where page `index` of `size` rows begins. -/
def pageOffset (size : Int64) (index : Nat) : Int64 :=
  .ofInt (size.toInt * index)

namespace Builder
variable (b : Builder)

/-- The request for the selection with bounds on its rows. -/
def window (limit offset : Int64) : Request :=
  ⟨b.tag, (b.runAll [.edit .select, .edit (.limit limit), .edit (.offset offset)]).compile⟩

/-- The stream of the selection before page `index`. -/
def pager (size : Int64) (index : Nat) : Pager :=
  ⟨b.selecting, size, index⟩

theorem eq_pager_of_pages {size : Int64} {p : Pager} (h : b.pages size = .ok p) :
    p = b.pager size 0 := by
  unfold pages at h
  split at h
  · cases h
  · exact (Except.ok.inj h).symm

/-- A window is a selection, whatever the builder does otherwise. -/
theorem ofSql_window (limit offset : Int64) :
    StatementKind.ofSql (b.window limit offset).statement.sql = .select :=
  ofSql_compile _

end Builder

namespace Pager

/-- What a pull of a page gives for rows. -/
def pageOf [Tracer m] (p : Pager) (rows : List Row) :
    m (Option (Except Error (List Row) × Option Pager)) := do
  Tracer.emit (p.trace rows.length)
  return some (.ok rows, if rows.isEmpty then none else some p.advance)

/-- What a pull of a row gives for rows. -/
def rowOf (p : Pager) : List Row → Option (Except Error Row × Option Pager)
  | [] => none
  | row :: _ => some (.ok row, some p.advance)

end Pager

/-! ## Recorders -/

/-- Computations that keep what they ask of a connection. -/
abbrev Recorder := StateM (List Request)

/-- What a recorder traces is not kept. -/
instance : Tracer Recorder where
  emit _ := return ⟨⟩

/-- What is answered to a request when others have been asked before. -/
abbrev Answering := List Request → Request → Except Error (List Row)

/-- The connection that answers so. -/
def Connection.answering (answer : Answering) : Connection Recorder where
  send request := .mk fun asked => (answer asked request, asked ++ [request])
  execute request := .mk fun asked =>
    ((answer asked request).map List.length, asked ++ [request])

/-! ## One round trip -/

/-- Whatever a builder does, a read and a pull ask once, for a selection; executing asks once, for
the statement of the builder. Requests have the tag of the builder, and errors are handed on. -/
theorem one_roundTrip [LawfulMonad m] [Tracer m] (b : Builder) (c : Connection m) :
    (∀ {α : Type} (r : Read α),
      (r.run b c).run = (do
        match ← (c.send ⟨b.tag, r.statement b⟩).run with
        | .error e => return .error e
        | .ok rows => return r.result rows) ∧
      StatementKind.ofSql (r.statement b).sql = .select) ∧
    ((∀ size p, b.pages size = .ok p → p = b.pager size 0) ∧ b.eachRow = b.pager 1 0 ∧
      ∀ size index,
        let p := b.pager size index
        let request := b.window size (pageOffset size index)
        p.pullPage c = (do
          match ← (c.send request).run with
          | .error e => return some (.error e, none)
          | .ok rows => p.pageOf rows) ∧
        p.pullRow c = (do
          match ← (c.send request).run with
          | .error e => return some (.error e, none)
          | .ok rows => return p.rowOf rows) ∧
        p.advance = b.pager size (index + 1) ∧ request.tag = b.tag ∧
        StatementKind.ofSql request.statement.sql = .select) ∧
    ((b.execute c).run = (c.execute ⟨b.tag, b.compile⟩).run ∧
      StatementKind.ofSql b.compile.sql = .ofAction b.statement.action) := by
  refine ⟨?read, ⟨?start, rfl, ?pull⟩, rfl, b.ofSql_compile⟩
  case read =>
    intro α r
    exact ⟨r.run_run_eq b c, r.ofSql_statement b⟩
  case start =>
    intro size p h
    exact b.eq_pager_of_pages h
  case pull =>
    intro size index p request
    refine ⟨rfl, ?_, rfl, rfl, b.ofSql_window _ _⟩
    apply bind_congr
    intro answer
    match answer with
    | .error e => rfl
    | .ok [] => rfl
    | .ok (row :: rows) => rfl

/-- A builder that deletes users. -/
def taggedDeletion : Builder :=
  (Builder.new .postgres ⟨"users", none⟩).runAll
    [.edit (.tag "cleanup"), .edit (.filter .and (.null "email" false)), .edit .delete]

theorem one_roundTrip_taggedDeletion :
    let c := Connection.answering fun _ _ => .error (.connection "reset")
    (Read.count.run taggedDeletion c).run.run [] =
      (.error (.connection "reset"),
        [⟨some "cleanup", ⟨"SELECT COUNT(*) AS aggregate FROM users WHERE email IS NULL", []⟩⟩]) ∧
    ((taggedDeletion.pager 10 2).pullPage c).run [] =
      (some (.error (.connection "reset"), none), [taggedDeletion.window 10 20]) ∧
    StatementKind.ofSql taggedDeletion.compile.sql = .delete := by
  intro c
  obtain ⟨hread, ⟨-, -, hpull⟩, -, hkind⟩ := one_roundTrip taggedDeletion c
  obtain ⟨hcount, -⟩ := hread .count
  obtain ⟨hpage, -⟩ := hpull 10 2
  rw [hcount, hpage]
  have hsql : (Read.count.statement taggedDeletion).sql =
      "SELECT COUNT(*) AS aggregate FROM users WHERE email IS NULL" := by decide +kernel
  refine ⟨?_, rfl, hkind⟩
  rw [← hsql]
  rfl

end BoundSql

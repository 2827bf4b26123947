import BoundSql.Proofs.Edit.Fields
import Mathlib.Logic.Function.Basic

/-!
# Stepped and overwritten fields

Dialects differ in what an assignment of an update reads. Assignments are carried out one after the
other, so that each reads what those before it made of the row, or all at once, so that each reads
the old row. A step reads the field that it assigns and no other, and a value that is set reads
none, so both ways come to the same row if no field is assigned twice (`assigned_alike`). The fields
that a builder steps and overwrites are distinct; `steps_update_alike` says what becomes of each.

Rows hold integers under the names of their fields, and names are compared as they are given.
-/

namespace BoundSql

open Builder (Fields stepAssignments)

/-! ## Assignments carried out -/

/-- The integer that a value is. -/
def Value.integer? (v : Value) : Option Int :=
  v.asInt?.map Int64.toInt

/-- The integer that an assignment gives to its field when it reads this row. -/
def Assignment.result? (row : String → Int) : Assignment → Option Int
  | .set _ value => value.integer?
  | .step field negative amount =>
    amount.integer?.map fun n => if negative then row field - n else row field + n

/-- The row after the assignments, each of which reads the row that those before it have left. -/
def assignInTurn? (row : String → Int) : List Assignment → Option (String → Int)
  | [] => some row
  | a :: rest => do
    let n ← a.result? row
    assignInTurn? (Function.update row a.field n) rest

/-- The row after the assignments, all of which read the old row. -/
def assignAtOnce? (old : String → Int) : List Assignment → Option (String → Int)
  | [] => some old
  | a :: rest => do
    let n ← a.result? old
    let row ← assignAtOnce? old rest
    return Function.update row a.field n

/-- Every assigned field has what its assignment makes of the old row, and others are as they
were. -/
structure Assigned (assignments : List Assignment) (old row : String → Int) : Prop where
  result : ∀ a ∈ assignments, a.result? old = some (row a.field)
  others : ∀ field ∉ assignments.map Assignment.field, row field = old field

/-- An assignment reads no field but its own. -/
theorem Assignment.result?_congr {a : Assignment} {row row' : String → Int}
    (h : row a.field = row' a.field) : a.result? row = a.result? row' := by
  cases a with
  | set field value => rfl
  | step field negative amount =>
      change row field = row' field at h
      rw [Assignment.result?, Assignment.result?, h]

section
variable {assignments : List Assignment} {old : String → Int}

/-- One more assignment, of a field that is not assigned behind it. -/
theorem Assigned.cons {a : Assignment} {n : Int} {row : String → Int}
    (hresult : a.result? old = some n) (hfresh : a.field ∉ assignments.map Assignment.field)
    (h : Assigned assignments old row) :
    Assigned (a :: assignments) old (Function.update row a.field n) where
  result := by
    intro a' ha'
    rcases List.mem_cons.mp ha' with rfl | hrest
    · rw [Function.update_self, hresult]
    · have hne : a'.field ≠ a.field := by
        intro heq
        exact hfresh (heq ▸ List.mem_map_of_mem hrest)
      rw [Function.update_of_ne hne, h.result a' hrest]
  others := by
    intro field hfield
    rw [List.map_cons, List.mem_cons, not_or] at hfield
    rw [Function.update_of_ne hfield.1, h.others field hfield.2]

theorem exists_assignAtOnce? (hdistinct : (assignments.map Assignment.field).Nodup)
    (hresults : ∀ a ∈ assignments, (a.result? old).isSome) :
    ∃ row, assignAtOnce? old assignments = some row ∧ Assigned assignments old row := by
  induction assignments with
  | nil => exact ⟨old, rfl, by simp, by simp⟩
  | cons a rest ih =>
      rw [List.map_cons, List.nodup_cons] at hdistinct
      rw [List.forall_mem_cons] at hresults
      obtain ⟨n, hn⟩ := Option.isSome_iff_exists.mp hresults.1
      obtain ⟨row, hrow, hassigned⟩ := ih hdistinct.2 hresults.2
      refine ⟨Function.update row a.field n, ?_, hassigned.cons hn hdistinct.1⟩
      simp only [assignAtOnce?, hn, hrow, Option.bind_eq_bind, Option.bind_some]
      rfl

/-- Carried out in turn, the assignments behind the first read a row that differs from the old one
in a field that none of them reads. -/
theorem exists_assignInTurn? (hdistinct : (assignments.map Assignment.field).Nodup)
    (hresults : ∀ a ∈ assignments, (a.result? old).isSome) :
    ∃ row, assignInTurn? old assignments = some row ∧ Assigned assignments old row := by
  induction assignments generalizing old with
  | nil => exact ⟨old, rfl, by simp, by simp⟩
  | cons a rest ih =>
      rw [List.map_cons, List.nodup_cons] at hdistinct
      rw [List.forall_mem_cons] at hresults
      obtain ⟨n, hn⟩ := Option.isSome_iff_exists.mp hresults.1
      have hne : ∀ a' ∈ rest, a'.field ≠ a.field := by
        intro a' ha' heq
        exact hdistinct.1 (heq ▸ List.mem_map_of_mem ha')
      have hread : ∀ a' ∈ rest, a'.result? (Function.update old a.field n) = a'.result? old := by
        intro a' ha'
        apply Assignment.result?_congr
        exact Function.update_of_ne (hne a' ha') n old
      obtain ⟨row, hrow, hassigned⟩ := ih hdistinct.2 fun a' ha' => by
        rw [hread a' ha']
        exact hresults.2 a' ha'
      have hown : row a.field = n := by
        rw [hassigned.others a.field hdistinct.1, Function.update_self]
      refine ⟨row, by simp only [assignInTurn?, hn, hrow, Option.bind_eq_bind, Option.bind_some],
        ?result, ?others⟩
      case result =>
        rw [List.forall_mem_cons, hown]
        refine ⟨hn, fun a' ha' => ?_⟩
        rw [← hread a' ha', hassigned.result a' ha']
      case others =>
        intro field hfield
        rw [List.map_cons, List.mem_cons, not_or] at hfield
        rw [hassigned.others field hfield.2, Function.update_of_ne hfield.1]

/-- What is assigned to each field settles the row. -/
theorem Assigned.unique {row row' : String → Int} (h : Assigned assignments old row)
    (h' : Assigned assignments old row') : row = row' := by
  funext field
  by_cases hfield : field ∈ assignments.map Assignment.field
  · obtain ⟨a, ha, rfl⟩ := List.mem_map.mp hfield
    have hsame : some (row a.field) = some (row' a.field) := by
      rw [← h.result a ha, h'.result a ha]
    exact Option.some.inj hsame
  · rw [h.others field hfield, h'.others field hfield]

/-- Distinct fields are assigned alike in turn and at once. -/
theorem assigned_alike (hdistinct : (assignments.map Assignment.field).Nodup)
    (hresults : ∀ a ∈ assignments, (a.result? old).isSome) :
    ∃ row, assignInTurn? old assignments = some row ∧ assignAtOnce? old assignments = some row ∧
      Assigned assignments old row := by
  obtain ⟨row, hinTurn, hassigned⟩ := exists_assignInTurn? hdistinct hresults
  obtain ⟨row', hatOnce, hassigned'⟩ := exists_assignAtOnce? hdistinct hresults
  refine ⟨row, hinTurn, ?_, hassigned⟩
  rw [hatOnce, hassigned'.unique hassigned]

end

/-! ## Steps and overwrites -/

theorem mem_stepAssignments {negative : Bool} {steps overwrites : Fields} {a : Assignment} :
    a ∈ stepAssignments negative steps overwrites ↔
      (∃ field ∈ steps, field.1 ∉ overwrites.map Prod.fst ∧
          Assignment.step field.1 negative field.2 = a) ∨
        ∃ field ∈ overwrites, Assignment.set field.1 field.2 = a := by
  simp only [stepAssignments, List.mem_append, List.mem_map (f := fun field : String × Value => _),
    List.mem_filter, Builder.not_any_iff, and_assoc]

/-- Fields with integers. -/
def integerFields (fields : List (String × Int64)) : Fields :=
  fields.map fun field => (field.1, .int field.2)

theorem map_fst_integerFields (fields : List (String × Int64)) :
    (integerFields fields).map Prod.fst = fields.map Prod.fst := by
  rw [integerFields, List.map_map]
  rfl

theorem isSome_result?_of_integerFields {negative : Bool}
    {steps overwrites : List (String × Int64)} (row : String → Int) :
    ∀ a ∈ stepAssignments negative (integerFields steps) (integerFields overwrites),
      (a.result? row).isSome := by
  intro a ha
  rcases mem_stepAssignments.mp ha with ⟨field, hfield, -, rfl⟩ | ⟨field, hfield, rfl⟩
  · obtain ⟨given, -, rfl⟩ := List.mem_map.mp hfield
    rfl
  · obtain ⟨given, -, rfl⟩ := List.mem_map.mp hfield
    rfl

/-- The builder whose statement updates with these assignments. -/
def Builder.updating (b : Builder) (assignments : List Assignment) : Builder :=
  b.withStatement { b.statement with action := .update (.assignments assignments) }

/-- When steps and overwrites are taken, and what they leave. -/
theorem apply_steps_eq_ok_iff {b b' : Builder} {negative : Bool} {steps overwrites : Fields} :
    (Edit.steps negative steps overwrites).apply b = .ok b' ↔
      (steps.map Prod.fst).Nodup ∧ (overwrites.map Prod.fst).Nodup ∧
        ¬(steps = [] ∧ overwrites = []) ∧
          b.updating (stepAssignments negative steps overwrites) = b' := by
  have happly : (Edit.steps negative steps overwrites).apply b =
      ((Builder.stepFields negative steps overwrites).map fun action =>
        { b.statement with action }).map b.withStatement := rfl
  simp only [happly, map_eq_ok_iff, Builder.stepFields_eq_ok_iff]
  constructor
  · rintro ⟨_, ⟨_, ⟨hsteps, hoverwrites, hsome, rfl⟩, rfl⟩, rfl⟩
    exact ⟨hsteps, hoverwrites, hsome, rfl⟩
  · rintro ⟨hsteps, hoverwrites, hsome, rfl⟩
    exact ⟨_, ⟨_, ⟨hsteps, hoverwrites, hsome, rfl⟩, rfl⟩, rfl⟩

/-- Steps and overwrites are refused if one of the two lists repeats a field or both are empty, and
the builder is left as it is then. -/
theorem run_steps_refused {b : Builder} {negative : Bool} {steps overwrites : Fields}
    (h : ¬(steps.map Prod.fst).Nodup ∨ ¬(overwrites.map Prod.fst).Nodup ∨
      (steps = [] ∧ overwrites = [])) :
    ∃ cause, (Step.edit (.steps negative steps overwrites)).run b = (b, some cause) := by
  cases hresult : (Edit.steps negative steps overwrites).apply b with
  | ok b' =>
      obtain ⟨hsteps, hoverwrites, hsome, -⟩ := apply_steps_eq_ok_iff.mp hresult
      rcases h with hrepeated | hrepeated | hempty
      · exact absurd hsteps hrepeated
      · exact absurd hoverwrites hrepeated
      · exact absurd hempty hsome
  | error cause => exact ⟨cause, Edit.run_edit_error hresult⟩

/-- The row that steps and overwrites are to make of the old one. -/
structure SteppedRow (negative : Bool) (steps overwrites : List (String × Int64))
    (old row : String → Int) : Prop where
  overwritten : ∀ field ∈ overwrites, row field.1 = field.2.toInt
  stepped : ∀ field ∈ steps, field.1 ∉ overwrites.map Prod.fst →
    row field.1 = if negative then old field.1 - field.2.toInt else old field.1 + field.2.toInt
  others : ∀ name, name ∉ steps.map Prod.fst → name ∉ overwrites.map Prod.fst → row name = old name

theorem Assigned.steppedRow {negative : Bool} {steps overwrites : List (String × Int64)}
    {old row : String → Int}
    (h : Assigned (stepAssignments negative (integerFields steps) (integerFields overwrites))
      old row) : SteppedRow negative steps overwrites old row where
  overwritten := by
    intro field hfield
    have hset : Assignment.set field.1 (.int field.2) ∈
        stepAssignments negative (integerFields steps) (integerFields overwrites) :=
      mem_stepAssignments.mpr (.inr ⟨_, List.mem_map_of_mem hfield, rfl⟩)
    exact (Option.some.inj (h.result _ hset)).symm
  stepped := by
    intro field hfield hkept
    rw [← map_fst_integerFields] at hkept
    have hstep : Assignment.step field.1 negative (.int field.2) ∈
        stepAssignments negative (integerFields steps) (integerFields overwrites) :=
      mem_stepAssignments.mpr (.inl ⟨_, List.mem_map_of_mem hfield, hkept, rfl⟩)
    exact (Option.some.inj (h.result _ hstep)).symm
  others := by
    intro name hsteps hoverwrites
    apply h.others
    rw [Builder.map_field_stepAssignments, map_fst_integerFields, map_fst_integerFields,
      List.mem_append, List.mem_filter]
    rintro (⟨hmem, -⟩ | hmem)
    · exact hsteps hmem
    · exact hoverwrites hmem

/-- Steps and overwrites are refused just if one of the two lists repeats a field or both are empty,
and the builder is left as it is then. Otherwise the statement becomes an update, which makes the
same of every row when it is carried out in turn and at once: it sets what is overwritten, steps the
other fields that are stepped, and leaves the rest. -/
theorem steps_update_alike (b : Builder) (negative : Bool) :
    (∀ steps overwrites : Fields,
      if ¬(steps.map Prod.fst).Nodup ∨ ¬(overwrites.map Prod.fst).Nodup ∨
          (steps = [] ∧ overwrites = []) then
        ∃ cause, (Step.edit (.steps negative steps overwrites)).run b = (b, some cause)
      else ∃ b', (Step.edit (.steps negative steps overwrites)).run b = (b', none)) ∧
    ∀ (steps overwrites : List (String × Int64)) (b' : Builder),
      (Step.edit (.steps negative (integerFields steps) (integerFields overwrites))).run b =
        (b', none) →
      ∃ assignments, b' = b.updating assignments ∧
        ∀ old : String → Int, ∃ row, assignInTurn? old assignments = some row ∧
          assignAtOnce? old assignments = some row ∧
          SteppedRow negative steps overwrites old row := by
  constructor
  · intro steps overwrites
    split
    case isTrue h => exact run_steps_refused h
    case isFalse h =>
      simp only [not_or, Decidable.not_not] at h
      obtain ⟨hsteps, hoverwrites, hsome⟩ := h
      exact ⟨_, Edit.run_edit_eq_none_iff.mpr
        (apply_steps_eq_ok_iff.mpr ⟨hsteps, hoverwrites, hsome, rfl⟩)⟩
  · intro steps overwrites b' hrun
    obtain ⟨hsteps, hoverwrites, -, rfl⟩ :=
      apply_steps_eq_ok_iff.mp (Edit.run_edit_eq_none_iff.mp hrun)
    refine ⟨_, rfl, fun old => ?_⟩
    obtain ⟨row, hinTurn, hatOnce, hassigned⟩ :=
      assigned_alike (Builder.nodup_stepAssignments negative hsteps hoverwrites)
        (isSome_result?_of_integerFields old)
    exact ⟨row, hinTurn, hatOnce, hassigned.steppedRow⟩

/-- A builder that takes stock: one is sold, and what is left was counted anew. -/
def soldAndCounted : Builder :=
  (Builder.new .mysql ⟨"items", none⟩).updating
    [.step "reserved" true (.int 1), .set "stock" (.int 12)]

theorem steps_update_alike_soldAndCounted :
    (Step.edit (.steps true (integerFields [("stock", 1), ("reserved", 1)])
        (integerFields [("stock", 12)]))).run (.new .mysql ⟨"items", none⟩) =
      (soldAndCounted, none) ∧
    ∃ assignments row, soldAndCounted.statement.action = .update (.assignments assignments) ∧
      assignInTurn? (fun _ => 5) assignments = some row ∧
      assignAtOnce? (fun _ => 5) assignments = some row ∧
      row "stock" = 12 ∧ row "reserved" = 4 ∧ row "price" = 5 := by
  have hrun : (Step.edit (.steps true (integerFields [("stock", 1), ("reserved", 1)])
      (integerFields [("stock", 12)]))).run (.new .mysql ⟨"items", none⟩) =
        (soldAndCounted, none) := rfl
  obtain ⟨assignments, hupdate, hrow⟩ :=
    (steps_update_alike (.new .mysql ⟨"items", none⟩) true).2 _ _ _ hrun
  obtain ⟨row, hinTurn, hatOnce, hstepped⟩ := hrow fun _ => 5
  refine ⟨hrun, assignments, row, ?update, hinTurn, hatOnce, ?stock, ?reserved, ?price⟩
  case update => rw [hupdate]; rfl
  case stock => exact hstepped.overwritten ("stock", 12) (by simp)
  case reserved => exact hstepped.stepped ("reserved", 1) (by simp) (by simp)
  case price => exact hstepped.others "price" (by simp) (by simp)

end BoundSql

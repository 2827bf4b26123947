import Mathlib.Data.List.Nodup
import Mathlib.Data.List.Perm.Subperm
import BoundSql.Proofs.Edit.Basic

/-!
# The fields of writes

When the checks on the fields of insertions and updates succeed, and what they leave. The names of
a list of fields are distinct. A row that is aligned has a cell for every field: its names are as
many as the fields, distinct, and all among the fields, so none of the fields is left out.
`Action.WellFormed` collects what holds of the writes that come of this.
-/

namespace BoundSql

/-- The column that an assignment sets. -/
def Assignment.field : Assignment → String
  | .set field _ => field
  | .step field _ _ => field

/-- An insertion of rows has distinct fields and at least one, and it has rows, each with a cell for
every field. An update of columns sets at least one, and none twice. -/
def Action.WellFormed : Action → Prop
  | .insert (.rows fields rows) =>
    fields ≠ [] ∧ fields.Nodup ∧ rows ≠ [] ∧ ∀ cells ∈ rows, cells.length = fields.length
  | .update (.assignments assignments) =>
    assignments ≠ [] ∧ (assignments.map Assignment.field).Nodup
  | _ => True

namespace Builder

/-! ## Distinct fields -/

theorem repeated?_eq_none_iff {seen : List String} {fields : Fields} :
    repeated? seen fields = none ↔
      (fields.map Prod.fst).Nodup ∧ ∀ name ∈ fields.map Prod.fst, name ∉ seen := by
  induction fields generalizing seen with
  | nil => simp [repeated?]
  | cons field fields ih =>
      obtain ⟨name, value⟩ := field
      rw [repeated?]
      by_cases hseen : name ∈ seen
      · simp [hseen]
      · rw [if_neg (by simpa using hseen), ih]
        simp only [List.map_cons, List.nodup_cons, List.mem_cons, forall_eq_or_imp,
          List.mem_append, not_or]
        constructor
        · rintro ⟨hnodup, hfresh⟩
          exact ⟨⟨fun hmem => (hfresh name hmem).2.1 rfl, hnodup⟩, hseen,
            fun other hmem => (hfresh other hmem).1⟩
        · rintro ⟨⟨hname, hnodup⟩, -, hfresh⟩
          exact ⟨hnodup, fun other hmem =>
            ⟨hfresh other hmem, fun heq => hname (heq ▸ hmem), List.not_mem_nil⟩⟩

theorem distinctFields_eq_ok_iff {fields checked : Fields} :
    distinctFields fields = .ok checked ↔ (fields.map Prod.fst).Nodup ∧ fields = checked := by
  unfold distinctFields
  cases h : repeated? [] fields with
  | some name =>
      have hnot : ¬(fields.map Prod.fst).Nodup := by
        intro hnodup
        have hnone : repeated? [] fields = none :=
          repeated?_eq_none_iff.mpr ⟨hnodup, fun _ _ => List.not_mem_nil⟩
        rw [h] at hnone
        cases hnone
      simp [hnot]
  | none => simp [(repeated?_eq_none_iff.mp h).1]

/-! ## Rows -/

theorem isSome_valueOf?_iff {row : Fields} {name : String} :
    (valueOf? row name).isSome ↔ name ∈ row.map Prod.fst := by
  simp only [valueOf?, Option.isSome_map, List.find?_isSome, decide_eq_true_eq, List.mem_map]

theorem alignRow_eq_ok_iff {order : List String} {row : Fields} {cells : List Value} :
    alignRow order row = .ok cells ↔
      row.length = order.length ∧ (∀ name ∈ row.map Prod.fst, name ∈ order) ∧
        order.filterMap (valueOf? row) = cells := by
  have hchecks : (row.length = order.length && row.all fun field => order.contains field.1) ↔
      row.length = order.length ∧ ∀ name ∈ row.map Prod.fst, name ∈ order := by
    simp
  unfold alignRow
  rw [← and_assoc, ← hchecks]
  split
  case isTrue h => simp only [h, true_and, Except.ok.injEq]
  case isFalse h => simp only [h, false_and, reduceCtorEq]

/-- A row of distinct names that is as long as the fields, and names nothing else, names all of
them. -/
theorem mem_names_of_alignRow {order : List String} {row : Fields} {cells : List Value}
    (h : alignRow order row = .ok cells) (hrow : (row.map Prod.fst).Nodup) :
    ∀ name ∈ order, name ∈ row.map Prod.fst := by
  obtain ⟨hlength, hsubset, -⟩ := alignRow_eq_ok_iff.mp h
  have hperm : (row.map Prod.fst).Perm order :=
    (hrow.subperm hsubset).perm_of_length_le (by simp [hlength])
  exact fun name hname => hperm.mem_iff.mpr hname

/-- A row that is aligned has a cell for every field. -/
theorem length_of_alignRow {order : List String} {row : Fields} {cells : List Value}
    (h : alignRow order row = .ok cells) (hrow : (row.map Prod.fst).Nodup) :
    cells.length = order.length := by
  have hnames := mem_names_of_alignRow h hrow
  obtain ⟨-, -, rfl⟩ := alignRow_eq_ok_iff.mp h
  rw [List.length_filterMap_eq_countP, List.countP_eq_length]
  exact fun name hname => isSome_valueOf?_iff.mpr (hnames name hname)

/-- One more row is staged if it has fields, all distinct and those of the first row, and the rows
behind it are staged. -/
theorem stageRows_cons_eq_ok_iff {order order' : Option (List String)} {row : Fields}
    {rows : List Fields} {staged : List (List Value)} :
    stageRows order (row :: rows) = .ok (order', staged) ↔
      (row.map Prod.fst).Nodup ∧ row ≠ [] ∧ ∃ cells rest,
        alignRow (order.getD (row.map Prod.fst)) row = .ok cells ∧
          stageRows (some (order.getD (row.map Prod.fst))) rows = .ok (order', rest) ∧
            cells :: rest = staged := by
  rw [stageRows]
  simp only [bind_eq_ok_iff, guard_eq_ok_iff, distinctFields_eq_ok_iff]
  constructor
  · rintro ⟨_, ⟨hnodup, rfl⟩, hrow, cells, halign, ⟨_, rest⟩, hrest, hpure⟩
    cases hpure
    exact ⟨hnodup, by simpa using hrow, cells, rest, halign, hrest, rfl⟩
  · rintro ⟨hnodup, hrow, cells, rest, halign, hrest, rfl⟩
    exact ⟨row, ⟨hnodup, rfl⟩, by simpa using hrow, cells, halign, (order', rest), hrest, rfl⟩

/-- Without fields the first row gives its own. -/
theorem stageRows_none_cons_eq_ok_iff {row : Fields} {rows : List Fields}
    {staged : Option (List String) × List (List Value)} :
    stageRows none (row :: rows) = .ok staged ↔
      stageRows (some (row.map Prod.fst)) (row :: rows) = .ok staged := by
  obtain ⟨order, staged⟩ := staged
  rw [stageRows_cons_eq_ok_iff, stageRows_cons_eq_ok_iff]
  rfl

/-- Rows staged for some fields keep these, and have a cell for every field. -/
theorem stageRows_some {fields : List String} {order : Option (List String)} {rows : List Fields}
    {staged : List (List Value)} (h : stageRows (some fields) rows = .ok (order, staged)) :
    order = some fields ∧ ∀ cells ∈ staged, cells.length = fields.length := by
  induction rows generalizing staged with
  | nil =>
      cases h
      exact ⟨rfl, fun cells hcells => absurd hcells List.not_mem_nil⟩
  | cons row rows ih =>
      obtain ⟨hnodup, -, cells, rest, halign, hrest, rfl⟩ := stageRows_cons_eq_ok_iff.mp h
      obtain ⟨horder, hlengths⟩ := ih hrest
      exact ⟨horder, List.forall_mem_cons.mpr ⟨length_of_alignRow halign hnodup, hlengths⟩⟩

/-! ## Actions -/

/-- Rows that are inserted behind others make an insertion that is well formed. -/
theorem insertRows_wellFormed {action action' : Action} {rows : List Fields}
    (h : insertRows action rows = .ok action') (haction : action.WellFormed) :
    action'.WellFormed := by
  unfold insertRows at h
  split at h
  case h_1 fields present =>
    simp only [bind_eq_ok_iff, guard_eq_ok_iff] at h
    obtain ⟨⟨order, staged⟩, hstaged, -, hpure⟩ := h
    cases hpure
    obtain ⟨hfields, hnodup, hpresent, hlengths⟩ := haction
    refine ⟨hfields, hnodup, List.append_ne_nil_of_left_ne_nil hpresent _, ?_⟩
    exact List.forall_mem_append.mpr ⟨hlengths, (stageRows_some hstaged).2⟩
  case h_2 =>
    simp only [bind_eq_ok_iff, guard_eq_ok_iff] at h
    obtain ⟨⟨order, staged⟩, hstaged, hsome, hpure⟩ := h
    cases hpure
    cases rows with
    | nil =>
        cases hstaged
        cases hsome
    | cons row rows =>
        rw [stageRows_none_cons_eq_ok_iff] at hstaged
        obtain ⟨hnodup, hrow, -⟩ := stageRows_cons_eq_ok_iff.mp hstaged
        obtain ⟨rfl, hlengths⟩ := stageRows_some hstaged
        exact ⟨by simpa using hrow, hnodup, by simpa using hsome, hlengths⟩

theorem setFields_wellFormed {fields : Fields} {action : Action}
    (h : setFields fields = .ok action) : action.WellFormed := by
  unfold setFields at h
  simp only [bind_eq_ok_iff, guard_eq_ok_iff, distinctFields_eq_ok_iff] at h
  obtain ⟨_, ⟨hnodup, rfl⟩, hfields, hpure⟩ := h
  cases hpure
  refine ⟨by simpa using hfields, ?_⟩
  rw [List.map_map]
  exact hnodup

/-- Fields are stepped that are not overwritten, and others are set behind them. -/
def stepAssignments (negative : Bool) (steps overwrites : Fields) : List Assignment :=
  (steps.filter fun field => !overwrites.any fun other => other.1 = field.1).map
      (fun field => Assignment.step field.1 negative field.2) ++
    overwrites.map fun field => Assignment.set field.1 field.2

/-- Steps and overwrites are refused if one of the two lists repeats a field or both are empty. -/
theorem stepFields_eq_ok_iff {negative : Bool} {steps overwrites : Fields} {action : Action} :
    stepFields negative steps overwrites = .ok action ↔
      (steps.map Prod.fst).Nodup ∧ (overwrites.map Prod.fst).Nodup ∧
        ¬(steps = [] ∧ overwrites = []) ∧
          .update (.assignments (stepAssignments negative steps overwrites)) = action := by
  unfold stepFields
  simp only [bind_eq_ok_iff, guard_eq_ok_iff, distinctFields_eq_ok_iff]
  constructor
  · rintro ⟨_, ⟨hsteps, rfl⟩, _, ⟨hoverwrites, rfl⟩, hsome, hpure⟩
    cases hpure
    exact ⟨hsteps, hoverwrites, by simpa using hsome, rfl⟩
  · rintro ⟨hsteps, hoverwrites, hsome, rfl⟩
    exact ⟨steps, ⟨hsteps, rfl⟩, overwrites, ⟨hoverwrites, rfl⟩, by simpa using hsome, rfl⟩

theorem not_any_iff (field : String × Value) (overwrites : Fields) :
    (!overwrites.any fun other => other.1 = field.1) = true ↔
      field.1 ∉ overwrites.map Prod.fst := by
  simp only [Bool.not_eq_true', List.any_eq_false, decide_eq_true_eq, List.mem_map, not_exists,
    not_and]

/-- The fields that are assigned are those to step that are not overwritten, and those to
overwrite. -/
theorem map_field_stepAssignments (negative : Bool) (steps overwrites : Fields) :
    (stepAssignments negative steps overwrites).map Assignment.field =
      (steps.map Prod.fst).filter (fun name => name ∉ overwrites.map Prod.fst) ++
        overwrites.map Prod.fst := by
  have hkept : ∀ field ∈ steps, (!overwrites.any fun other => other.1 = field.1) =
      decide (field.1 ∉ overwrites.map Prod.fst) := by
    intro field _
    apply Bool.eq_iff_iff.mpr
    rw [not_any_iff, decide_eq_true_eq]
  rw [stepAssignments, List.map_append, List.map_map, List.map_map, List.filter_map,
    List.filter_congr hkept]
  rfl

/-- A field that is overwritten is not stepped, so no field is assigned twice. -/
theorem nodup_stepAssignments (negative : Bool) {steps overwrites : Fields}
    (hsteps : (steps.map Prod.fst).Nodup) (hoverwrites : (overwrites.map Prod.fst).Nodup) :
    ((stepAssignments negative steps overwrites).map Assignment.field).Nodup := by
  rw [map_field_stepAssignments]
  apply List.Nodup.append (hsteps.filter _) hoverwrites
  intro name hname hmem
  exact of_decide_eq_true (List.mem_filter.mp hname).2 hmem

theorem stepFields_wellFormed {negative : Bool} {steps overwrites : Fields} {action : Action}
    (h : stepFields negative steps overwrites = .ok action) : action.WellFormed := by
  obtain ⟨hsteps, hoverwrites, hsome, rfl⟩ := stepFields_eq_ok_iff.mp h
  constructor
  · cases overwrites with
    | nil => simpa [stepAssignments, List.filter_eq_self.mpr] using hsome
    | cons field overwrites => simp [stepAssignments]
  · exact nodup_stepAssignments negative hsteps hoverwrites

/-! ## Refusals -/

theorem distinctFields_refused (fields : Fields) : RefusedAsEdit (distinctFields fields) := by
  unfold distinctFields
  split
  · exact refusedAsEdit_error trivial
  · exact refusedAsEdit_ok _

theorem alignRow_refused (order : List String) (row : Fields) :
    RefusedAsEdit (alignRow order row) := by
  unfold alignRow
  split
  · exact refusedAsEdit_ok _
  · exact refusedAsEdit_error trivial

theorem stageRows_refused (order : Option (List String)) (rows : List Fields) :
    RefusedAsEdit (stageRows order rows) := by
  induction rows generalizing order with
  | nil => exact refusedAsEdit_ok _
  | cons row rows ih =>
      rw [stageRows]
      apply (distinctFields_refused row).bind
      intro row _
      refine refusedAsEdit_guard trivial ?_
      apply (alignRow_refused _ row).bind
      intro cells _
      apply (ih _).bind
      exact fun _ _ => refusedAsEdit_ok _

theorem insertRows_refused (action : Action) (rows : List Fields) :
    RefusedAsEdit (insertRows action rows) := by
  unfold insertRows
  split
  case h_1 fields present =>
    apply (stageRows_refused _ rows).bind
    exact fun _ _ => refusedAsEdit_guard trivial (refusedAsEdit_ok _)
  case h_2 =>
    apply (stageRows_refused _ rows).bind
    exact fun _ _ => refusedAsEdit_guard trivial (refusedAsEdit_ok _)

theorem setFields_refused (fields : Fields) : RefusedAsEdit (setFields fields) := by
  apply (distinctFields_refused fields).bind
  exact fun _ _ => refusedAsEdit_guard trivial (refusedAsEdit_ok _)

theorem stepFields_refused (negative : Bool) (steps overwrites : Fields) :
    RefusedAsEdit (stepFields negative steps overwrites) := by
  apply (distinctFields_refused steps).bind
  intro steps _
  apply (distinctFields_refused overwrites).bind
  exact fun _ _ => refusedAsEdit_guard trivial (refusedAsEdit_ok _)

end Builder

end BoundSql

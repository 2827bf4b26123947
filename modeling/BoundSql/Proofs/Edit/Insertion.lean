import Mathlib.Data.List.Forall2
import BoundSql.Proofs.Edit.WellFormed

/-!
# Rows of insertions

What an insertion makes of its rows. Each has just the fields of the insertion, which are those of
its first row, and its cells are the values of the row put in the order of these fields: the fields
and the cells side by side are the row again, up to its order (`Aligned`). `insertRows_eq_ok_iff`
says when rows are inserted and what is inserted then; that neither the order inside a row nor the
number of calls matters follows from it (`insert_aligned`).
-/

namespace BoundSql

namespace Builder
variable {fields : List String} {row row' : Fields}

/-! ## One row -/

/-- A row has fields, all distinct and just these. -/
structure HasFields (fields : List String) (row : Fields) : Prop where
  ne_nil : row ≠ []
  nodup : (row.map Prod.fst).Nodup
  mem_iff : ∀ name, name ∈ row.map Prod.fst ↔ name ∈ fields

/-- Cells hold the values of a row, each under its field. -/
def Aligned (fields : List String) (row : Fields) (cells : List Value) : Prop :=
  cells.length = fields.length ∧ (fields.zip cells).Perm row

/-- The cells of a row in the order of fields. -/
def cellsOf (fields : List String) (row : Fields) : List Value :=
  fields.filterMap (valueOf? row)

theorem valueOf?_eq_some_iff (hrow : (row.map Prod.fst).Nodup) {name : String} {v : Value} :
    valueOf? row name = some v ↔ (name, v) ∈ row := by
  induction row with
  | nil => simp [valueOf?]
  | cons field row ih =>
      obtain ⟨other, value⟩ := field
      rw [List.map_cons, List.nodup_cons] at hrow
      by_cases hname : other = name
      · subst hname
        have hfresh : (other, v) ∉ row := fun h => hrow.1 (List.mem_map.mpr ⟨_, h, rfl⟩)
        simp [valueOf?, hfresh, eq_comm]
      · have hbehind : valueOf? ((other, value) :: row) name = valueOf? row name := by
          simp [valueOf?, hname]
        rw [hbehind, ih hrow.2, List.mem_cons]
        simp [Ne.symm hname]

/-- The field of a row that is found under a name. -/
def fieldOf? (row : Fields) (name : String) : Option (String × Value) :=
  (valueOf? row name).map (name, ·)

/-- Beside the names of a row stand the cells that are found under them. -/
theorem zip_cellsOf {names : List String} (h : ∀ name ∈ names, name ∈ row.map Prod.fst) :
    (cellsOf names row).length = names.length ∧
      names.zip (cellsOf names row) = names.filterMap (fieldOf? row) := by
  induction names with
  | nil => simp [cellsOf]
  | cons name names ih =>
      rw [List.forall_mem_cons] at h
      obtain ⟨hlength, hbeside⟩ := ih h.2
      obtain ⟨v, hv⟩ := Option.isSome_iff_exists.mp (isSome_valueOf?_iff.mpr h.1)
      simp only [cellsOf] at hlength hbeside ⊢
      simp [fieldOf?, hv, hlength, hbeside]

/-- The fields that are found under the names of a row are those of the row. -/
theorem filterMap_fieldOf? (hrow : (row.map Prod.fst).Nodup) :
    (row.map Prod.fst).filterMap (fieldOf? row) = row := by
  rw [List.filterMap_map]
  refine (List.filterMap_congr ?_).trans List.filterMap_some
  rintro ⟨name, v⟩ hmem
  simp [fieldOf?, (valueOf?_eq_some_iff hrow).mpr hmem]

namespace HasFields

theorem perm (h : HasFields fields row) (hfields : fields.Nodup) :
    (row.map Prod.fst).Perm fields :=
  (List.perm_ext_iff_of_nodup h.nodup hfields).mpr h.mem_iff

/-- The cells of a row that has the fields hold its values. -/
theorem aligned (h : HasFields fields row) (hfields : fields.Nodup) :
    Aligned fields row (cellsOf fields row) := by
  obtain ⟨hlength, hbeside⟩ := zip_cellsOf fun name hname => (h.mem_iff name).mpr hname
  refine ⟨hlength, ?_⟩
  have hfound := (h.perm hfields).symm.filterMap (fieldOf? row)
  rwa [← hbeside, filterMap_fieldOf? h.nodup] at hfound

/-- The order of a row does not matter. -/
theorem of_perm (h : HasFields fields row) (hperm : row.Perm row') : HasFields fields row' where
  ne_nil hnil := h.ne_nil (List.perm_nil.mp (hnil ▸ hperm))
  nodup := ((hperm.map Prod.fst).nodup_iff).mp h.nodup
  mem_iff name := ((hperm.map Prod.fst).mem_iff).symm.trans (h.mem_iff name)

theorem cellsOf_eq_of_perm (h : HasFields fields row) (hperm : row.Perm row') :
    cellsOf fields row' = cellsOf fields row := by
  apply List.filterMap_congr
  intro name _
  apply Option.ext
  intro v
  rw [valueOf?_eq_some_iff (h.of_perm hperm).nodup, valueOf?_eq_some_iff h.nodup, hperm.mem_iff]

end HasFields

/-- A row is aligned if it has the fields. -/
theorem alignRow_eq_ok_iff_hasFields (hfields : fields.Nodup) (hsome : row ≠ [])
    (hrow : (row.map Prod.fst).Nodup) {cells : List Value} :
    alignRow fields row = .ok cells ↔ HasFields fields row ∧ cellsOf fields row = cells := by
  constructor
  · intro h
    obtain ⟨-, hsubset, hcells⟩ := alignRow_eq_ok_iff.mp h
    exact ⟨⟨hsome, hrow, fun name => ⟨hsubset name, mem_names_of_alignRow h hrow name⟩⟩, hcells⟩
  · rintro ⟨h, hcells⟩
    refine alignRow_eq_ok_iff.mpr ⟨?_, fun name => (h.mem_iff name).mp, hcells⟩
    simpa using (h.perm hfields).length_eq

/-! ## Rows of a call -/

/-- Rows are staged for distinct fields if each has these fields. -/
theorem stageRows_some_eq_ok_iff (hfields : fields.Nodup) {rows : List Fields}
    {staged : Option (List String) × List (List Value)} :
    stageRows (some fields) rows = .ok staged ↔
      (∀ row ∈ rows, HasFields fields row) ∧ (some fields, rows.map (cellsOf fields)) = staged := by
  obtain ⟨order, cells⟩ := staged
  induction rows generalizing cells with
  | nil => simp [stageRows]
  | cons row rows ih =>
      rw [stageRows_cons_eq_ok_iff, List.forall_mem_cons, List.map_cons]
      simp only [Option.getD_some, ih, Prod.mk.injEq]
      constructor
      · rintro ⟨hrow, hsome, first, rest, halign, ⟨hrest, rfl, rfl⟩, rfl⟩
        obtain ⟨hfirst, rfl⟩ := (alignRow_eq_ok_iff_hasFields hfields hsome hrow).mp halign
        exact ⟨⟨hfirst, hrest⟩, rfl, rfl⟩
      · rintro ⟨⟨hfirst, hrest⟩, rfl, rfl⟩
        exact ⟨hfirst.nodup, hfirst.ne_nil, _, _,
          (alignRow_eq_ok_iff_hasFields hfields hfirst.ne_nil hfirst.nodup).mpr ⟨hfirst, rfl⟩,
          ⟨hrest, rfl, rfl⟩, rfl⟩

/-- Without fields rows are staged for those of the first. -/
theorem stageRows_none_eq_ok_iff {row : Fields} {rows : List Fields}
    {staged : Option (List String) × List (List Value)} :
    stageRows none (row :: rows) = .ok staged ↔
      (∀ r ∈ row :: rows, HasFields (row.map Prod.fst) r) ∧
        (some (row.map Prod.fst), (row :: rows).map (cellsOf (row.map Prod.fst))) = staged := by
  rw [stageRows_none_cons_eq_ok_iff]
  by_cases hrow : (row.map Prod.fst).Nodup
  · exact stageRows_some_eq_ok_iff hrow
  · obtain ⟨order, cells⟩ := staged
    have hrefused : ¬stageRows (some (row.map Prod.fst)) (row :: rows) = .ok (order, cells) :=
      fun h => hrow (stageRows_cons_eq_ok_iff.mp h).1
    have hfields : ¬∀ r ∈ row :: rows, HasFields (row.map Prod.fst) r :=
      fun h => hrow (h row List.mem_cons_self).nodup
    simp only [hrefused, hfields, false_and]

end Builder

open Builder (Fields HasFields Aligned cellsOf insertRows stageRows stageRows_some_eq_ok_iff
  stageRows_none_eq_ok_iff)

/-! ## Rows of an insertion -/

/-- The fields and the rows of an insertion of rows. -/
def Action.rows? : Action → Option (List String × List (List Value))
  | .insert (.rows fields rows) => some (fields, rows)
  | _ => none

/-- The rows that an action inserts. -/
def Action.heldRows (action : Action) : List (List Value) :=
  (action.rows?.map Prod.snd).getD []

/-- The fields of an action that inserts more rows: those it has, or those of the first row. -/
def Action.fieldsWith (action : Action) (rows : List Fields) : List String :=
  (action.rows?.map Prod.fst).getD ((rows.head?.getD []).map Prod.fst)

theorem eq_of_rows?_eq_some {action : Action} {fields : List String} {present : List (List Value)}
    (h : action.rows? = some (fields, present)) : action = .insert (.rows fields present) := by
  unfold Action.rows? at h
  split at h
  · cases h
    rfl
  · cases h

theorem insertRows_rows_eq_ok_iff {fields : List String} {present : List (List Value)}
    {rows : List Fields} {action' : Action} :
    insertRows (.insert (.rows fields present)) rows = .ok action' ↔
      ∃ order staged, stageRows (some fields) rows = .ok (order, staged) ∧
        (staged ≠ [] ∨ present ≠ []) ∧ .insert (.rows fields (present ++ staged)) = action' := by
  simp only [insertRows, bind_eq_ok_iff, guard_eq_ok_iff, Prod.exists, Bool.and_eq_false_iff,
    List.isEmpty_eq_false_iff]
  constructor
  · rintro ⟨order, staged, hstaged, hsome, hpure⟩
    exact ⟨order, staged, hstaged, hsome, Except.ok.inj hpure⟩
  · rintro ⟨order, staged, hstaged, hsome, rfl⟩
    exact ⟨order, staged, hstaged, hsome, rfl⟩

theorem insertRows_eq_ok_iff_of_none {action : Action} (h : action.rows? = none)
    {rows : List Fields} {action' : Action} :
    insertRows action rows = .ok action' ↔
      ∃ order staged, stageRows none rows = .ok (order, staged) ∧ staged ≠ [] ∧
        .insert (.rows (order.getD []) staged) = action' := by
  have hunfold : insertRows action rows = (do
      let staged ← stageRows none rows
      if staged.2.isEmpty then throw .noRows
      return .insert (.rows (staged.1.getD []) staged.2)) := by
    unfold insertRows
    split
    case h_1 => cases h
    case h_2 => rfl
  rw [hunfold]
  simp only [bind_eq_ok_iff, guard_eq_ok_iff, Prod.exists, List.isEmpty_eq_false_iff]
  constructor
  · rintro ⟨order, staged, hstaged, hsome, hpure⟩
    exact ⟨order, staged, hstaged, hsome, Except.ok.inj hpure⟩
  · rintro ⟨order, staged, hstaged, hsome, rfl⟩
    exact ⟨order, staged, hstaged, hsome, rfl⟩

/-- Rows are inserted if each has the fields of the insertion and there is one in the end. Their
cells then stand behind the rows before. -/
theorem insertRows_eq_ok_iff {action : Action} (haction : action.WellFormed) {rows : List Fields}
    {action' : Action} :
    insertRows action rows = .ok action' ↔
      (∀ row ∈ rows, HasFields (action.fieldsWith rows) row) ∧
        (rows ≠ [] ∨ action.heldRows ≠ []) ∧
          .insert (.rows (action.fieldsWith rows)
            (action.heldRows ++ rows.map (cellsOf (action.fieldsWith rows)))) = action' := by
  cases hrows : action.rows? with
  | some held =>
      obtain ⟨fields, present⟩ := held
      obtain rfl := eq_of_rows?_eq_some hrows
      have hfields : fields.Nodup := haction.2.1
      rw [insertRows_rows_eq_ok_iff]
      simp [stageRows_some_eq_ok_iff hfields, Action.fieldsWith, Action.heldRows, Action.rows?]
  | none =>
      rw [insertRows_eq_ok_iff_of_none hrows]
      cases rows with
      | nil => simp [stageRows, Action.heldRows, hrows]
      | cons row rows =>
          simp [stageRows_none_eq_ok_iff, Action.fieldsWith, Action.heldRows, hrows]

/-- Rows behind the first do not change the fields. -/
theorem Action.fieldsWith_append (action : Action) {rows : List Fields} (h : rows ≠ [])
    (more : List Fields) : action.fieldsWith (rows ++ more) = action.fieldsWith rows := by
  cases rows with
  | nil => exact absurd rfl h
  | cons row rows => rfl

/-- The order inside a row only matters in the first row of an insertion. -/
theorem Action.fieldsWith_congr {action : Action} {rows rows' : List Fields}
    (h : action.rows? = none → rows.head? = rows'.head?) :
    action.fieldsWith rows = action.fieldsWith rows' := by
  unfold Action.fieldsWith
  cases hrows : action.rows? with
  | none => rw [h hrows]
  | some held => rfl

theorem Action.nodup_fieldsWith {action : Action} (haction : action.WellFormed)
    {rows : List Fields} (h : ∀ row ∈ rows, HasFields (action.fieldsWith rows) row) :
    (action.fieldsWith rows).Nodup := by
  cases hrows : action.rows? with
  | some held =>
      obtain rfl := eq_of_rows?_eq_some hrows
      exact haction.2.1
  | none =>
      simp only [fieldsWith, hrows] at h ⊢
      cases rows with
      | nil => exact List.nodup_nil
      | cons row rows => exact (h row List.mem_cons_self).nodup

/-- Rows that are the same up to the order inside each have the same cells. -/
theorem HasFields.map_cellsOf_eq {fields : List String} {rows rows' : List Fields}
    (hperm : List.Forall₂ List.Perm rows rows') (h : ∀ row ∈ rows, HasFields fields row) :
    (∀ row ∈ rows', HasFields fields row) ∧
      rows.map (cellsOf fields) = rows'.map (cellsOf fields) := by
  induction hperm with
  | nil => exact ⟨h, rfl⟩
  | cons hrow _ ih =>
      rw [List.forall_mem_cons] at h
      obtain ⟨hrest, hcells⟩ := ih h.2
      refine ⟨List.forall_mem_cons.mpr ⟨h.1.of_perm hrow, hrest⟩, ?_⟩
      rw [List.map_cons, List.map_cons, hcells, h.1.cellsOf_eq_of_perm hrow]

/-! ## Calls -/

/-- The builder whose statement has another action. -/
def Builder.setAction (b : Builder) (action : Action) : Builder :=
  b.withStatement { b.statement with action }

theorem apply_insert_eq_ok_iff {b b' : Builder} {rows : List Fields} :
    (Edit.insert rows).apply b = .ok b' ↔
      ∃ action, insertRows b.statement.action rows = .ok action ∧ b.setAction action = b' := by
  have hunfold : (Edit.insert rows).apply b =
      ((insertRows b.statement.action rows).map fun action =>
        { b.statement with action }).map b.withStatement := rfl
  rw [hunfold, map_eq_ok_iff]
  constructor
  · rintro ⟨s, hs, rfl⟩
    obtain ⟨action, haction, rfl⟩ := map_eq_ok_iff.mp hs
    exact ⟨action, haction, rfl⟩
  · rintro ⟨action, haction, rfl⟩
    exact ⟨_, map_eq_ok_iff.mpr ⟨action, haction, rfl⟩, rfl⟩

/-- What a call that inserts rows leaves of a builder that is well formed. -/
theorem apply_insert_eq_ok_iff_hasFields {b b' : Builder} (hb : b.statement.action.WellFormed)
    {rows : List Fields} :
    (Edit.insert rows).apply b = .ok b' ↔
      (∀ row ∈ rows, HasFields (b.statement.action.fieldsWith rows) row) ∧
        (rows ≠ [] ∨ b.statement.action.heldRows ≠ []) ∧
          b.setAction (.insert (.rows (b.statement.action.fieldsWith rows)
            (b.statement.action.heldRows ++
              rows.map (cellsOf (b.statement.action.fieldsWith rows))))) = b' := by
  rw [apply_insert_eq_ok_iff]
  constructor
  · rintro ⟨action', h, rfl⟩
    obtain ⟨hfields, hsome, rfl⟩ := (insertRows_eq_ok_iff hb).mp h
    exact ⟨hfields, hsome, rfl⟩
  · rintro ⟨hfields, hsome, rfl⟩
    exact ⟨_, (insertRows_eq_ok_iff hb).mpr ⟨hfields, hsome, rfl⟩, rfl⟩

/-- Rows with their fields in another order are inserted alike, if the fields of the insertion are
the same. -/
theorem apply_insert_of_perm {b b' : Builder} (hb : b.statement.action.WellFormed)
    {rows rows' : List Fields} (hperm : List.Forall₂ List.Perm rows rows')
    (hfirst : b.statement.action.rows? = none → rows.head? = rows'.head?)
    (h : (Edit.insert rows).apply b = .ok b') : (Edit.insert rows').apply b = .ok b' := by
  obtain ⟨hfields, hsome, rfl⟩ := (apply_insert_eq_ok_iff_hasFields hb).mp h
  rw [Action.fieldsWith_congr hfirst] at hfields ⊢
  obtain ⟨hfields', hcells⟩ := HasFields.map_cellsOf_eq hperm hfields
  have hsome' : rows' ≠ [] ∨ b.statement.action.heldRows ≠ [] := by
    rwa [← List.length_pos_iff, ← hperm.length_eq, List.length_pos_iff]
  rw [hcells]
  exact (apply_insert_eq_ok_iff_hasFields hb).mpr ⟨hfields', hsome', rfl⟩

/-- Behind a call that inserts rows, more are inserted as in the same call. -/
theorem apply_insert_behind {b b' b'' : Builder} (hb : b.statement.action.WellFormed)
    {first : List Fields} (hfirst : first ≠ []) (h : (Edit.insert first).apply b = .ok b')
    (second : List Fields) :
    (Edit.insert second).apply b' = .ok b'' ↔
      (Edit.insert (first ++ second)).apply b = .ok b'' := by
  obtain ⟨action', haction', hset⟩ := apply_insert_eq_ok_iff.mp h
  have hb' : b'.statement.action.WellFormed := by
    subst hset
    exact Builder.insertRows_wellFormed haction' hb
  obtain ⟨hfields, -, rfl⟩ := (apply_insert_eq_ok_iff_hasFields hb).mp h
  rw [apply_insert_eq_ok_iff_hasFields hb', apply_insert_eq_ok_iff_hasFields hb,
    Action.fieldsWith_append _ hfirst, List.forall_mem_append]
  simp only [Builder.setAction, Builder.withStatement, Action.fieldsWith, Action.heldRows,
    Action.rows?, Option.map_some, Option.getD_some, List.map_append, List.append_assoc]
  constructor
  · rintro ⟨hsecond, -, hset⟩
    exact ⟨⟨hfields, hsecond⟩, .inl (List.append_ne_nil_of_left_ne_nil hfirst _), hset⟩
  · rintro ⟨⟨-, hsecond⟩, -, hset⟩
    exact ⟨hsecond, .inr (by simp [hfirst]), hset⟩

/-- Rows inserted in one call are inserted alike in two, the first of which has a row. -/
theorem apply_insert_append_eq_ok_iff {b b'' : Builder} (hb : b.statement.action.WellFormed)
    {first : List Fields} (hfirst : first ≠ []) (second : List Fields) :
    (Edit.insert (first ++ second)).apply b = .ok b'' ↔
      ∃ b', (Edit.insert first).apply b = .ok b' ∧ (Edit.insert second).apply b' = .ok b'' := by
  constructor
  · intro h
    obtain ⟨hfields, -⟩ := (apply_insert_eq_ok_iff_hasFields hb).mp h
    rw [Action.fieldsWith_append _ hfirst, List.forall_mem_append] at hfields
    have hfront := (apply_insert_eq_ok_iff_hasFields hb).mpr ⟨hfields.1, .inl hfirst, rfl⟩
    exact ⟨_, hfront, (apply_insert_behind hb hfirst hfront second).mpr h⟩
  · rintro ⟨b', hfront, hbehind⟩
    exact (apply_insert_behind hb hfirst hfront second).mp hbehind

/-- Rows are inserted if each has just the fields of the first row of the insertion, and there is
one in the end. Then each adds its values, each under its field. Neither the order inside a row
matters, that of the first row apart, nor whether rows come in one call or in two. A call that
fails leaves the builder as it is. -/
theorem insert_aligned {b : Builder} (hb : b.Reachable) :
    let action := b.statement.action
    (∀ rows, (∃ b', (Edit.insert rows).apply b = .ok b') ↔
      (∀ row ∈ rows, HasFields (action.fieldsWith rows) row) ∧
        (rows ≠ [] ∨ action.heldRows ≠ [])) ∧
    (∀ rows b', (Edit.insert rows).apply b = .ok b' →
      ∃ cells, List.Forall₂ (Aligned (action.fieldsWith rows)) rows cells ∧
        b' = b.setAction (.insert (.rows (action.fieldsWith rows) (action.heldRows ++ cells)))) ∧
    (∀ rows rows' b', List.Forall₂ List.Perm rows rows' →
      (action.rows? = none → rows.head? = rows'.head?) →
        ((Edit.insert rows).apply b = .ok b' ↔ (Edit.insert rows').apply b = .ok b')) ∧
    (∀ first second b'', first ≠ [] →
      ((Edit.insert (first ++ second)).apply b = .ok b'' ↔
        ∃ b', (Edit.insert first).apply b = .ok b' ∧ (Edit.insert second).apply b' = .ok b'')) ∧
    ∀ rows cause, (Edit.insert rows).apply b = .error cause →
      (Step.edit (.insert rows)).run b = (b, some cause) := by
  have hwellFormed : b.statement.action.WellFormed := (hb.wellFormed _ (.self _)).action
  refine ⟨?succeeds, ?aligned, ?order, ?calls, fun rows cause => Edit.run_edit_error⟩
  case succeeds =>
    intro rows
    simp only [apply_insert_eq_ok_iff_hasFields hwellFormed, exists_and_left, exists_eq', and_true]
  case aligned =>
    intro rows b' h
    obtain ⟨hfields, -, rfl⟩ := (apply_insert_eq_ok_iff_hasFields hwellFormed).mp h
    refine ⟨_, ?_, rfl⟩
    rw [List.forall₂_map_right_iff, List.forall₂_same]
    exact fun row hrow => (hfields row hrow).aligned (Action.nodup_fieldsWith hwellFormed hfields)
  case order =>
    intro rows rows' b' hperm hfirst
    constructor
    · exact apply_insert_of_perm hwellFormed hperm hfirst
    · apply apply_insert_of_perm hwellFormed
      · exact (hperm.imp fun _ _ => List.Perm.symm).flip
      · exact fun h => (hfirst h).symm
  case calls =>
    intro first second b'' hfirst
    exact apply_insert_append_eq_ok_iff hwellFormed hfirst second

/-- A builder that inserts Ann, who is 41. -/
def annInserted : Builder :=
  ((Step.edit (.insert [[("name", .text "Ann"), ("age", .int 41)]])).run
    (.new .postgres ⟨"users", none⟩)).1

theorem insert_aligned_annInserted :
    let bob : Fields := [("age", .int 35), ("name", .text "Bob")]
    annInserted.Reachable ∧
      (∃ b', (Edit.insert [bob]).apply annInserted = .ok b') ∧
      (Edit.insert [bob.reverse]).apply annInserted = .ok (annInserted.setAction
        (.insert (.rows ["name", "age"] [[.text "Ann", .int 41], [.text "Bob", .int 35]]))) ∧
      ¬∃ b', (Edit.insert [bob, [("age", .int 7)]]).apply annInserted = .ok b' := by
  intro bob
  have hreachable : annInserted.Reachable :=
    .run _ (fun _ => annInserted) (.new _ _) (by rintro s ⟨⟩) (by rintro s ⟨⟩)
  obtain ⟨hsucceeds, -, horder, -⟩ := insert_aligned hreachable
  refine ⟨hreachable, (hsucceeds _).mpr ⟨?fields, .inl (by simp)⟩, ?reversed, ?refused⟩
  case fields =>
    have hfields : annInserted.statement.action.fieldsWith [bob] = ["name", "age"] := rfl
    rw [List.forall_mem_singleton, hfields]
    exact ⟨by simp [bob], by decide, by simp [bob, or_comm]⟩
  case reversed =>
    have hperm : List.Forall₂ List.Perm [bob] [bob.reverse] :=
      .cons bob.reverse_perm.symm .nil
    exact (horder _ _ _ hperm (by rintro ⟨⟩)).mp rfl
  case refused =>
    intro h
    obtain ⟨hfields, -⟩ := (hsucceeds _).mp h
    have hshort := (hfields [("age", .int 7)] (by simp)).mem_iff "name"
    revert hshort
    decide

end BoundSql

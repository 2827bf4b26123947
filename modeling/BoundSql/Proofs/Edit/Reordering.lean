import Mathlib.Data.List.Lattice
import Mathlib.Data.List.Perm.Basic
import Mathlib.Logic.Relation
import BoundSql.Builder.Vocabulary
import BoundSql.Proofs.Edit.Basic

/-!
# The order of edits

A builder consists of families: its clauses, its action, its primary key and its tag. Every edit
touches some of them. `content_run_of_not_mem` says that it leaves the others as they are, and
`run_congr` that what it makes of its families, and whether it is refused, depends on these
families alone. Two edits without a common family can therefore change places.

`runAll_reordered` is about whole runs: however often neighbours without a common family change
places, the builder is the same in the end, and every call succeeds or is refused as before.

## Implementation notes

A run that is reordered may hold the same edit several times. Calls therefore carry labels of any
type, and the outcome of a call is recorded under its label.
-/

namespace BoundSql

/-- What edits change apart from one another. -/
inductive Family where
  | source
  | columns
  | distinct
  | joins
  | wheres
  | groups
  | havings
  | orders
  | unions
  | limit
  | offset
  | lock
  | action
  | primaryKey
  | tag
deriving DecidableEq, Repr

/-- What a family consists of. -/
abbrev Family.Content : Family → Type
  | .source => Source
  | .columns => List Column
  | .distinct => Bool
  | .joins => List Join
  | .wheres => List Condition
  | .groups => List Group
  | .havings => List Condition
  | .orders => List Order
  | .unions => List UnionMember
  | .limit => Option Int64
  | .offset => Option Int64
  | .lock => Option Lock
  | .action => Action
  | .primaryKey => String
  | .tag => Option String

/-- What a builder has in a family. -/
def Builder.content (b : Builder) : (family : Family) → family.Content
  | .source => b.statement.source
  | .columns => b.statement.columns
  | .distinct => b.statement.distinct
  | .joins => b.statement.joins
  | .wheres => b.statement.wheres
  | .groups => b.statement.groups
  | .havings => b.statement.havings
  | .orders => b.statement.orders
  | .unions => b.statement.unions
  | .limit => b.statement.limit
  | .offset => b.statement.offset
  | .lock => b.statement.lock
  | .action => b.statement.action
  | .primaryKey => b.primaryKey
  | .tag => b.tag

/-- A builder is its dialect and what it has in each family. -/
theorem Builder.ext_content {b c : Builder} (hdialect : b.dialect = c.dialect)
    (hcontent : ∀ family, b.content family = c.content family) : b = c := by
  obtain ⟨dialect, statement, primaryKey, tag⟩ := b
  obtain ⟨dialect', statement', primaryKey', tag'⟩ := c
  have hstatement : statement = statement' := by
    obtain ⟨source, action, columns, distinct, joins, wheres, groups, havings, orders, unions,
      limit, offset, lock⟩ := statement
    obtain ⟨source', action', columns', distinct', joins', wheres', groups', havings', orders',
      unions', limit', offset', lock'⟩ := statement'
    obtain rfl : source = source' := hcontent .source
    obtain rfl : action = action' := hcontent .action
    obtain rfl : columns = columns' := hcontent .columns
    obtain rfl : distinct = distinct' := hcontent .distinct
    obtain rfl : joins = joins' := hcontent .joins
    obtain rfl : wheres = wheres' := hcontent .wheres
    obtain rfl : groups = groups' := hcontent .groups
    obtain rfl : havings = havings' := hcontent .havings
    obtain rfl : orders = orders' := hcontent .orders
    obtain rfl : unions = unions' := hcontent .unions
    obtain rfl : limit = limit' := hcontent .limit
    obtain rfl : offset = offset' := hcontent .offset
    obtain rfl : lock = lock' := hcontent .lock
    rfl
  obtain rfl : dialect = dialect' := hdialect
  obtain rfl : primaryKey = primaryKey' := hcontent .primaryKey
  obtain rfl : tag = tag' := hcontent .tag
  rw [hstatement]

namespace Edit

/-- The families that an edit touches. -/
def families : Edit → List Family
  | .source _ => [.source]
  | .primaryKey _ => [.primaryKey]
  | .tag _ => [.tag]
  | .columns _ => [.columns]
  | .distinct _ => [.distinct]
  | .join _ _ _ => [.joins]
  | .crossJoin _ => [.joins]
  | .filter _ _ => [.wheres]
  | .havingCompare _ _ _ _ => [.havings]
  | .havingRaw _ _ => [.havings]
  | .groups _ => [.groups]
  | .order _ => [.orders]
  | .union _ _ => [.unions]
  | .limit _ => [.limit]
  | .offset _ => [.offset]
  | .paginate _ _ => [.limit, .offset]
  | .lock _ => [.lock]
  | .insert _ => [.action]
  | .insertRaw _ => [.action]
  | .update _ => [.action]
  | .updateRaw _ => [.action]
  | .step _ _ _ => [.action]
  | .steps _ _ _ => [.action]
  | .delete => [.action]
  | .truncate _ => [.action]
  | .select => [.action]

/-! ## What an edit changes -/

variable {e : Edit} {b b' c : Builder} {family : Family}

/-- Another action is another content of one family. -/
theorem content_of_withAction {result : Except Refusal Action}
    (h : (b.statement.withAction result).map b.withStatement = .ok b')
    (hfamily : family ∉ [Family.action]) : b'.content family = b.content family := by
  obtain ⟨statement, hstatement, rfl⟩ := map_eq_ok_iff.mp h
  obtain ⟨action, -, rfl⟩ := map_eq_ok_iff.mp hstatement
  cases family <;> first | rfl | exact absurd (List.mem_singleton_self _) hfamily

/-- What an edit does not touch is as it was. -/
theorem content_of_apply (h : e.apply b = .ok b') (hfamily : family ∉ e.families) :
    b'.content family = b.content family := by
  cases e with
  | filter joiner asked =>
      obtain ⟨statement, hstatement, rfl⟩ := map_eq_ok_iff.mp h
      obtain ⟨predicate, -, rfl⟩ := map_eq_ok_iff.mp hstatement
      cases family <;> first | rfl | exact absurd (List.mem_singleton_self _) hfamily
  | insert rows => exact content_of_withAction h hfamily
  | update fields => exact content_of_withAction h hfamily
  | steps negative stepped overwrites => exact content_of_withAction h hfamily
  | _ =>
      cases h
      cases family <;> first | rfl | simp [families] at hfamily

theorem dialect_of_apply (h : e.apply b = .ok b') : b'.dialect = b.dialect := by
  unfold apply at h
  split at h
  · cases h
    rfl
  · cases h
    rfl
  · obtain ⟨statement, -, rfl⟩ := map_eq_ok_iff.mp h
    rfl

/-- Two results that agree in some families: refused for one cause, or builders with the same
content there. -/
def Alike (families : List Family) : Except Refusal Builder → Except Refusal Builder → Prop
  | .ok b, .ok c => ∀ family ∈ families, b.content family = c.content family
  | .error cause, .error cause' => cause = cause'
  | _, _ => False

theorem alike_withAction (result : Except Refusal Action) :
    Alike [.action] ((b.statement.withAction result).map b.withStatement)
      ((c.statement.withAction result).map c.withStatement) := by
  cases result with
  | error cause => rfl
  | ok action => exact List.forall_mem_singleton.mpr rfl

/-- What an edit makes of its families depends on these alone. -/
theorem alike_apply (hagree : ∀ family ∈ e.families, b.content family = c.content family) :
    Alike e.families (e.apply b) (e.apply c) := by
  cases e with
  | filter joiner asked =>
      have hwheres : b.statement.wheres = c.statement.wheres :=
        hagree .wheres (List.mem_singleton_self _)
      change Alike [.wheres]
        ((asked.predicate.map (b.statement.addWhere joiner)).map b.withStatement)
        ((asked.predicate.map (c.statement.addWhere joiner)).map c.withStatement)
      cases asked.predicate with
      | error cause => rfl
      | ok predicate =>
          intro family hfamily
          obtain rfl := List.mem_singleton.mp hfamily
          exact congrArg (· ++ [Condition.mk joiner predicate]) hwheres
  | insert rows =>
      have haction : b.statement.action = c.statement.action :=
        hagree .action (List.mem_singleton_self _)
      simp only [apply, onStatement, families, haction]
      exact alike_withAction _
  | update fields => exact alike_withAction _
  | steps negative stepped overwrites => exact alike_withAction _
  | _ =>
      simp_all [Alike, apply, onStatement, Except.map, families, Builder.content,
        Builder.withStatement, Statement.addHaving, Statement.addJoin, Statement.paginate]

/-! ## Calls in a row -/

/-- A call leaves alone what its edit does not touch. -/
theorem content_run_of_not_mem (hfamily : family ∉ e.families) :
    ((Step.edit e).run b).1.content family = b.content family := by
  cases h : e.apply b with
  | error cause => rw [run_edit_error h]
  | ok b' => rw [run_edit_ok h, content_of_apply h hfamily]

theorem dialect_run : ((Step.edit e).run b).1.dialect = b.dialect := by
  cases h : e.apply b with
  | error cause => rw [run_edit_error h]
  | ok b' => rw [run_edit_ok h, dialect_of_apply h]

/-- What a call makes of the families of its edit, and its outcome, depend on these alone. -/
theorem run_congr (hagree : ∀ family ∈ e.families, b.content family = c.content family) :
    ((Step.edit e).run b).2 = ((Step.edit e).run c).2 ∧
      ∀ family ∈ e.families,
        ((Step.edit e).run b).1.content family = ((Step.edit e).run c).1.content family := by
  have halike := alike_apply hagree
  cases hb : e.apply b with
  | error cause =>
      cases hc : e.apply c with
      | error cause' =>
          rw [hb, hc] at halike
          obtain rfl : cause = cause' := halike
          rw [run_edit_error hb, run_edit_error hc]
          exact ⟨rfl, hagree⟩
      | ok c' => simp [hb, hc, Alike] at halike
  | ok b' =>
      cases hc : e.apply c with
      | error cause => simp [hb, hc, Alike] at halike
      | ok c' =>
          rw [hb, hc] at halike
          rw [run_edit_ok hb, run_edit_ok hc]
          exact ⟨rfl, halike⟩

variable {other : Edit}

/-- A call does not notice one before it that touches none of its families. -/
theorem run_run_of_disjoint (hdisjoint : e.families.Disjoint other.families) :
    ((Step.edit other).run ((Step.edit e).run b).1).2 = ((Step.edit other).run b).2 ∧
      ∀ family ∈ other.families,
        ((Step.edit other).run ((Step.edit e).run b).1).1.content family =
          ((Step.edit other).run b).1.content family := by
  apply run_congr
  intro family hfamily
  exact content_run_of_not_mem fun hmem => hdisjoint hmem hfamily

/-- Two calls without a common family do the same in both orders. -/
theorem run_comm_of_disjoint (hdisjoint : e.families.Disjoint other.families) :
    ((Step.edit other).run ((Step.edit e).run b).1).1 =
      ((Step.edit e).run ((Step.edit other).run b).1).1 := by
  have hother := (run_run_of_disjoint (b := b) hdisjoint).2
  have he := (run_run_of_disjoint (b := b) (List.Disjoint.symm hdisjoint)).2
  apply Builder.ext_content
  · rw [dialect_run, dialect_run, dialect_run, dialect_run]
  · intro family
    by_cases hmem : family ∈ other.families
    · have hfree : family ∉ e.families := fun h => hdisjoint h hmem
      rw [hother family hmem, content_run_of_not_mem hfree]
    · rw [content_run_of_not_mem hmem]
      by_cases hmem' : family ∈ e.families
      · rw [he family hmem']
      · rw [content_run_of_not_mem hmem', content_run_of_not_mem hmem',
          content_run_of_not_mem hmem]

end Edit

/-! ## Reordered runs -/

section
variable {ι : Type}

/-- The steps of labelled calls. -/
def stepsOf (calls : List (ι × Edit)) : List Step :=
  calls.map fun call => .edit call.2

/-- Why each call of a run was refused, if it was, under its label. -/
def Builder.outcomes : Builder → List (ι × Edit) → List (ι × Option Refusal)
  | _, [] => []
  | b, (label, e) :: rest =>
    (label, ((Step.edit e).run b).2) :: ((Step.edit e).run b).1.outcomes rest

/-- Two neighbours that have no family in common change places. -/
inductive Swap : List (ι × Edit) → List (ι × Edit) → Prop
  | swap (front : List (ι × Edit)) (first second : ι × Edit) (back : List (ι × Edit))
      (hdisjoint : first.2.families.Disjoint second.2.families) :
      Swap (front ++ first :: second :: back) (front ++ second :: first :: back)

/-- Neighbours without a common family change places, any number of times. -/
def Reordered : List (ι × Edit) → List (ι × Edit) → Prop :=
  Relation.ReflTransGen Swap

theorem runAll_append (b : Builder) (front back : List Step) :
    b.runAll (front ++ back) = (b.runAll front).runAll back :=
  List.foldl_append

theorem outcomes_append (b : Builder) (front back : List (ι × Edit)) :
    b.outcomes (front ++ back) =
      b.outcomes front ++ (b.runAll (stepsOf front)).outcomes back := by
  induction front generalizing b with
  | nil => rfl
  | cons call front ih => exact congrArg (List.cons _) (ih _)

/-- One exchange leaves the end of the run and all outcomes as they are. -/
theorem runAll_of_swap (b : Builder) {calls reordered : List (ι × Edit)}
    (h : Swap calls reordered) :
    b.runAll (stepsOf reordered) = b.runAll (stepsOf calls) ∧
      (b.outcomes reordered).Perm (b.outcomes calls) := by
  obtain ⟨front, first, second, back, hdisjoint⟩ := h
  have hcomm := Edit.run_comm_of_disjoint (b := b.runAll (stepsOf front)) hdisjoint
  have hsecond := (Edit.run_run_of_disjoint (b := b.runAll (stepsOf front)) hdisjoint).1
  have hfirst := (Edit.run_run_of_disjoint (b := b.runAll (stepsOf front))
    (List.Disjoint.symm hdisjoint)).1
  constructor
  · simp only [stepsOf, List.map_append, List.map_cons, runAll_append] at hcomm ⊢
    simp only [Builder.runAll, List.foldl_cons] at hcomm ⊢
    rw [hcomm]
  · rw [outcomes_append, outcomes_append]
    apply List.Perm.append_left
    simp only [Builder.outcomes, hcomm, hfirst, hsecond]
    exact List.Perm.swap _ _ _

/-- The order of calls that touch different families does not matter: however often such
neighbours change places, the statement, the primary key, the tag and what is compiled are the same
in the end, and every call has the outcome that it had. -/
theorem runAll_reordered (b : Builder) {calls reordered : List (ι × Edit)}
    (h : Reordered calls reordered) :
    b.runAll (stepsOf reordered) = b.runAll (stepsOf calls) ∧
      (b.runAll (stepsOf reordered)).compile = (b.runAll (stepsOf calls)).compile ∧
      (b.outcomes reordered).Perm (b.outcomes calls) := by
  induction h with
  | refl => exact ⟨rfl, rfl, .refl _⟩
  | tail _ hswap ih =>
      obtain ⟨hbuilder, houtcomes⟩ := runAll_of_swap b hswap
      obtain ⟨hbuilder', hcompile, houtcomes'⟩ := ih
      exact ⟨hbuilder.trans hbuilder', by rw [hbuilder, hcompile], houtcomes.trans houtcomes'⟩

/-- Calls of which the second is refused by itself, and the last because of the first. -/
def insertionCalls : List (Nat × Edit) :=
  [(0, .insert [[("name", .text "Ann")]]),
    (1, .whereDatePart .month .and "created" (.int 13)),
    (2, .paginate 3 10),
    (3, .insert [[("id", .int 1)]])]

/-- The same calls with the first insertion behind the page. -/
def insertionCallsLater : List (Nat × Edit) :=
  [(1, .whereDatePart .month .and "created" (.int 13)),
    (2, .paginate 3 10),
    (0, .insert [[("name", .text "Ann")]]),
    (3, .insert [[("id", .int 1)]])]

theorem runAll_reordered_insertionCalls :
    let users := Builder.new .postgres ⟨"users", none⟩
    Reordered insertionCalls insertionCallsLater ∧
      users.runAll (stepsOf insertionCallsLater) = users.runAll (stepsOf insertionCalls) ∧
      users.outcomes insertionCalls =
        [(0, none), (1, some (.outOfRange "month" 1 12 13)), (2, none),
          (3, some (.fieldMismatch ["id"] ["name"]))] ∧
      (users.outcomes insertionCallsLater).Perm (users.outcomes insertionCalls) := by
  have hreordered : Reordered insertionCalls insertionCallsLater := by
    have hwheres : [Family.action].Disjoint [.wheres] := by simp
    have hpage : [Family.action].Disjoint [.limit, .offset] := by simp
    exact .tail (.single (.swap [] _ _ _ hwheres)) (.swap [_] _ _ _ hpage)
  obtain ⟨hbuilder, -, houtcomes⟩ :=
    runAll_reordered (Builder.new .postgres ⟨"users", none⟩) hreordered
  exact ⟨hreordered, hbuilder, by decide, houtcomes⟩

end

end BoundSql

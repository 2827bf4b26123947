import BoundSql.Builder.Basic

/-!
# Runs of edits

A step chooses edits by its conditions, which do not depend on the builder: `Step.edits` lists them.
`Step.ran` says what the step comes to. Either all these edits succeed one after the other, or one
of them is refused behind those that succeed. A refusal leaves the builder as it is, so a step that
fails keeps just what ran before the refusal. `RefusedAsEdit` is carried through the checks of an
edit to say which refusals these are.
-/

namespace BoundSql

/-! ## Results -/

section
variable {ε α β : Type} {result : Except ε α} {b : β}

theorem map_eq_ok_iff {f : α → β} : result.map f = .ok b ↔ ∃ a, result = .ok a ∧ f a = b := by
  cases result with
  | error e => simp [Except.map]
  | ok a => simp [Except.map]

theorem exists_map_eq_error_iff {f : α → β} :
    (∃ e, result.map f = .error e) ↔ ∃ e, result = .error e := by
  cases result with
  | error e => simp [Except.map]
  | ok a => simp [Except.map]

theorem bind_eq_ok_iff {f : α → Except ε β} :
    result >>= f = .ok b ↔ ∃ a, result = .ok a ∧ f a = .ok b := by
  cases result with
  | error e => simp [bind, Except.bind]
  | ok a => simp [bind, Except.bind]

/-- What is refused under a condition succeeds without it. -/
theorem guard_eq_ok_iff {condition : Bool} {e : ε} {f : PUnit → Except ε β} :
    (if condition then throw e >>= f else f ⟨⟩) = .ok b ↔ condition = false ∧ f ⟨⟩ = .ok b := by
  cases condition with
  | false => simp
  | true => simp [throw, throwThe, MonadExceptOf.throw, bind, Except.bind]

end

/-- The refusals that are made while a statement is built. -/
def Refusal.IsOfEdit : Refusal → Prop
  | .repeatedField _ | .emptyRow | .noRows | .noFields | .fieldMismatch _ _ => True
  | .notAList _ | .notADate _ | .notAPart _ _ | .outOfRange _ _ _ _ => True
  | .pageSize _ | .hook _ | .other _ => False

/-- A result that is refused only as edits are. -/
def RefusedAsEdit {α : Type} (result : Except Refusal α) : Prop :=
  ∀ cause, result = .error cause → cause.IsOfEdit

section
variable {α β : Type} {result : Except Refusal α}

theorem refusedAsEdit_ok (a : α) : RefusedAsEdit (.ok a) := by
  rintro cause ⟨⟩

theorem refusedAsEdit_error {cause : Refusal} (h : cause.IsOfEdit) :
    RefusedAsEdit (.error cause : Except Refusal α) := by
  rintro _ ⟨⟩
  exact h

theorem RefusedAsEdit.bind {f : α → Except Refusal β} (h : RefusedAsEdit result)
    (hf : ∀ a, result = .ok a → RefusedAsEdit (f a)) : RefusedAsEdit (result >>= f) := by
  cases result with
  | error cause => exact refusedAsEdit_error (h cause rfl)
  | ok a => exact hf a rfl

theorem RefusedAsEdit.map {f : α → β} (h : RefusedAsEdit result) :
    RefusedAsEdit (result.map f) := by
  cases result with
  | error cause => exact refusedAsEdit_error (h cause rfl)
  | ok a => exact refusedAsEdit_ok (f a)

theorem refusedAsEdit_guard {condition : Bool} {cause : Refusal} {f : PUnit → Except Refusal β}
    (hcause : cause.IsOfEdit) (hf : RefusedAsEdit (f ⟨⟩)) :
    RefusedAsEdit (if condition then throw cause >>= f else f ⟨⟩) := by
  cases condition with
  | false => exact hf
  | true => exact refusedAsEdit_error hcause

end

/-! ## One edit -/

namespace Edit
variable {e : Edit} {b b' : Builder}

theorem run_edit_ok (h : e.apply b = .ok b') : (Step.edit e).run b = (b', none) := by
  simp only [Step.run, h]

theorem run_edit_error {cause : Refusal} (h : e.apply b = .error cause) :
    (Step.edit e).run b = (b, some cause) := by
  simp only [Step.run, h]

theorem run_edit_eq_none_iff : (Step.edit e).run b = (b', none) ↔ e.apply b = .ok b' := by
  cases h : e.apply b with
  | ok after => simp [run_edit_ok h]
  | error cause => simp [run_edit_error h]

theorem onStatement_of_apply (h : e.apply b = .ok b') :
    e.onStatement b.statement = .ok b'.statement := by
  unfold apply at h
  split at h
  · cases h
    rfl
  · cases h
    rfl
  · obtain ⟨statement, hstatement, rfl⟩ := map_eq_ok_iff.mp h
    exact hstatement

end Edit

/-! ## Edits in a row -/

mutual

/-- The edits that a step chooses, in their order. -/
def Step.edits : Step → List Edit
  | .edit e => [e]
  | .when condition block => if condition then blockEdits block else []
  | .choose condition block otherwise =>
    if condition then blockEdits block else blockEdits otherwise
termination_by structural step => step

/-- The edits that the steps of a block choose. -/
def blockEdits : List Step → List Edit
  | [] => []
  | step :: rest => step.edits ++ blockEdits rest
termination_by structural steps => steps

end

/-- Edits that succeed one after the other. -/
inductive Succeed : Builder → List Edit → Builder → Prop
  | nil (b : Builder) : Succeed b [] b
  | cons {b b' b'' : Builder} {e : Edit} {rest : List Edit} (happly : e.apply b = .ok b')
      (hrest : Succeed b' rest b'') : Succeed b (e :: rest) b''

/-- What edits in a row come to: they succeed, or one is refused behind those that succeed. -/
def Ran (b : Builder) (edits : List Edit) : Builder × Option Refusal → Prop
  | (b', none) => Succeed b edits b'
  | (b', some cause) => ∃ done refused rest, edits = done ++ refused :: rest ∧
      Succeed b done b' ∧ refused.apply b' = .error cause

theorem Succeed.append {b b' b'' : Builder} {front back : List Edit} (hfront : Succeed b front b')
    (hback : Succeed b' back b'') : Succeed b (front ++ back) b'' := by
  induction hfront with
  | nil => exact hback
  | cons happly _ ih => exact .cons happly (ih hback)

/-- Behind edits that succeed a run goes on. -/
theorem Succeed.ran_append {b b' : Builder} {front back : List Edit}
    (hfront : Succeed b front b') {result : Builder × Option Refusal} (hback : Ran b' back result) :
    Ran b (front ++ back) result := by
  match result with
  | (_, none) => exact hfront.append hback
  | (_, some cause) =>
      obtain ⟨done, refused, rest, rfl, hdone, hrefused⟩ := hback
      exact ⟨front ++ done, refused, rest, (List.append_assoc _ _ _).symm, hfront.append hdone,
        hrefused⟩

/-- Behind a refusal a run is over. -/
theorem Ran.append_of_refused {b b' : Builder} {front : List Edit} {cause : Refusal}
    (hfront : Ran b front (b', some cause)) (back : List Edit) :
    Ran b (front ++ back) (b', some cause) := by
  obtain ⟨done, refused, rest, rfl, hdone, hrefused⟩ := hfront
  exact ⟨done, refused, rest ++ back, by simp, hdone, hrefused⟩

theorem ran_edit (e : Edit) (b : Builder) : Ran b [e] ((Step.edit e).run b) := by
  cases h : e.apply b with
  | error cause =>
      rw [Edit.run_edit_error h]
      exact ⟨[], e, [], rfl, .nil b, h⟩
  | ok b' =>
      rw [Edit.run_edit_ok h]
      exact .cons h (.nil b')

mutual

/-- A step is a run of the edits that it chooses. -/
theorem Step.ran : ∀ (step : Step) (b : Builder), Ran b step.edits (step.run b)
  | .edit e, b => ran_edit e b
  | .when true block, b => ran_runSteps block b
  | .when false _, b => .nil b
  | .choose true block _, b => ran_runSteps block b
  | .choose false _ otherwise, b => ran_runSteps otherwise b
termination_by structural step => step

/-- A block is a run of the edits that its steps choose. -/
theorem ran_runSteps : ∀ (steps : List Step) (b : Builder),
    Ran b (blockEdits steps) (runSteps steps b)
  | [], b => .nil b
  | step :: rest, b => by
    have hstep := step.ran b
    rw [blockEdits, runSteps]
    match step.run b, hstep with
    | (b', none), hstep => exact hstep.ran_append (ran_runSteps rest b')
    | (b', some cause), hstep => exact hstep.append_of_refused _
termination_by structural steps => steps

end

end BoundSql

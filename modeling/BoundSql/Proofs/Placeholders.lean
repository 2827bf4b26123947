import BoundSql.Proofs.Template.Statement

/-!
# Placeholders and the values they stand for

A template falls into chunks of text with one hole between each two of them. Written behind values
that are bound already, the holes become placeholders that count on from these values, one for
each value that is bound. The chunks and the values are the template's own: neither the values
before them nor the look of placeholders has a part in them.
-/

namespace BoundSql.Sql

namespace Template

/-- The text before the first hole, and every hole's value with the text behind the hole. -/
def chunks : Template → String × List (Value × String)
  | [] => ("", [])
  | .char c :: rest => (.singleton c ++ (chunks rest).1, (chunks rest).2)
  | .bind v :: rest => ("", (v, (chunks rest).1) :: (chunks rest).2)

/-- The values of the holes go with the chunks behind them. -/
theorem values_eq_chunks (t : Template) : t.values = t.chunks.2.map Prod.fst := by
  induction t with
  | nil => rfl
  | cons piece t ih =>
      cases piece with
      | char c => exact ih
      | bind v => exact congrArg (v :: ·) ih

/-- A template is written as its chunks, each behind the placeholder of its place. -/
theorem write_eq_chunks (placeholder : Nat → String) (bound : Nat) (t : Template) :
    String.ofList (t.write placeholder bound) =
      t.chunks.1 ++
        String.join (t.chunks.2.mapIdx fun i step => placeholder (bound + 1 + i) ++ step.2) := by
  induction t generalizing bound with
  | nil => rfl
  | cons piece t ih =>
      cases piece with
      | char c =>
          simp only [write, chunks, String.ofList_cons, ih, String.append_assoc]
      | bind v =>
          have shift : (fun i (step : Value × String) =>
              placeholder (bound + 1 + (i + 1)) ++ step.2) =
              fun i step => placeholder (bound + 1 + 1 + i) ++ step.2 := by
            funext i step
            rw [show bound + 1 + (i + 1) = bound + 1 + 1 + i by omega]
          rw [write, String.ofList_append, String.ofList_toList, ih]
          simp only [chunks, List.mapIdx_cons, shift, String.join_cons, Nat.add_zero,
            String.empty_append, String.append_assoc]

end Template

/-- Placeholders and bound values interleave from left to right. -/
theorem compileAfter_interleaves (s : Spelling) (statement : Statement) :
    ∃ (first : String) (steps : List (Value × String)),
      ∀ (placeholder : Nat → String) (bound : List Value),
        Dialect.compileAfter ⟨s, placeholder⟩ bound statement =
          { sql := first ++ String.join
              (steps.mapIdx fun i step => placeholder (bound.length + 1 + i) ++ step.2)
            values := bound ++ steps.map Prod.fst } := by
  refine ⟨(s.template statement).chunks.1, (s.template statement).chunks.2, ?_⟩
  intro placeholder bound
  rw [compileAfter_eq, ← Template.write_eq_chunks, ← Template.values_eq_chunks]

end BoundSql.Sql

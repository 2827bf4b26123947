import BoundSql.Proofs.Reader.Test
import Mathlib.Data.List.SplitBy

/-!
# What conditions mean

`conditions_mean` says that the text of plain conditions, read by the precedence of SQL, means what
the conditions mean as data: one of their runs is true throughout. A run ends in front of a
condition that is linked by `OR`.

Every run is read as a conjunction and the runs as the disjunction of these. The tests of a range
print an `AND` of their own, which goes into the conjunction, or brackets.
-/

namespace BoundSql

open Sql

/-! ## Conditions as data -/

namespace Predicate

/-- Whether a predicate is a plain test. -/
def isPlain : Predicate → Bool
  | .test t => t.isPlain
  | .hasRows .. => false

/-- Whether a plain test is true of a row. -/
def holds (columns : List String → Int) : Predicate → Bool
  | .test t => t.holds columns
  | .hasRows .. => false

/-- The formulas of a plain test. -/
def terms : Predicate → List Formula
  | .test t => t.terms
  | .hasRows .. => []

theorem terms_ne_nil {p : Predicate} (hp : p.isPlain = true) : p.terms ≠ [] := by
  cases p with
  | test t => exact Test.terms_ne_nil hp
  | hasRows source negated => cases hp

/-- The formulas of a plain test are true or false of every row, and all of them are true just
when the test holds. -/
theorem isTrue_terms (columns : List String → Int) {p : Predicate} (hp : p.isPlain = true) :
    (∀ f ∈ p.terms, (f.eval? columns).isSome) ∧
      p.terms.all (Formula.isTrue columns) = p.holds columns := by
  cases p with
  | test t => exact Test.isTrue_terms columns hp
  | hasRows source negated => cases hp

end Predicate

/-- The longest runs of conditions that are linked by `AND`. What links the first condition of a run
to those before it does not matter. -/
def conditionRuns (conditions : List Condition) : List (List Condition) :=
  conditions.splitBy fun _ next => next.joiner = .and

/-- Whether in one of the runs all conditions hold. -/
def conditionsHold (columns : List String → Int) (conditions : List Condition) : Bool :=
  (conditionRuns conditions).any fun run => run.all fun c => c.predicate.holds columns

namespace Sql

open Template

/-! ## The text of conditions -/

section
variable (s : Spelling)

theorem linked_append (l m : List Condition) : s.linked (l ++ m) = s.linked l ++ s.linked m := by
  induction l with
  | nil => rfl
  | cons c l ih => simp [Spelling.linked, ih]

/-- Conditions behind others are written behind the link of their first. -/
theorem conditions_append_cons (first next : Condition) (l m : List Condition) :
    s.conditions ((first :: l) ++ next :: m) =
      s.conditions (first :: l) ++
        (text (" " ++ joinerKeyword next.joiner ++ " ") ++ s.conditions (next :: m)) := by
  obtain ⟨joiner, body⟩ := next
  simp [Spelling.conditions, Spelling.linked, linked_append, Spelling.link,
    Spelling.conditionBody]

end

theorem conditionParameters_append (l m : List Condition) :
    conditionParameters (l ++ m) = conditionParameters l ++ conditionParameters m := by
  induction l with
  | nil => rfl
  | cons c l ih => simp [conditionParameters, ih]

/-! ## The tokens of conditions -/

/-- The symbol that a link is read as. -/
def joinerSymbol : Joiner → Symbol
  | .and => .and
  | .or => .or

variable {dialect : DialectName} {s : Spelling} {values : List Value} {bound after : Nat}

theorem lexes_joiner (joiner : Joiner) :
    Lexes dialect values bound (joinerKeyword joiner).toList bound
      [.symbol (joinerSymbol joiner)] := by
  cases joiner with
  | and => exact lexes_and
  | or => exact lexes_or

/-- Whether conditions are read as the tokens wherever their values are bound. -/
def LexesConditions (dialect : DialectName) (s : Spelling) (values : List Value)
    (conditions : List Condition) (ts : List Token) : Prop :=
  ∀ bound, conditionParameters conditions <+: values.drop bound →
    Lexes dialect values bound
      ((s.conditions conditions).write dialect.dialect.placeholder bound)
      (bound + (conditionParameters conditions).length) ts

/-- Conditions behind others are read behind the symbol of their link. -/
theorem LexesConditions.append {first next : Condition} {l m : List Condition}
    {ts ts' : List Token} (h : LexesConditions dialect s values (first :: l) ts)
    (h' : LexesConditions dialect s values (next :: m) ts') :
    LexesConditions dialect s values ((first :: l) ++ next :: m)
      (ts ++ .symbol (joinerSymbol next.joiner) :: ts') := by
  intro bound hvalues
  rw [conditionParameters_append] at hvalues
  have hfirst := h bound ((List.prefix_append _ _).trans hvalues)
  have hnext := h' _ (prefix_behind _ hvalues)
  have hboth := hfirst.append_space ((lexes_joiner next.joiner).append_space hnext)
  rw [conditions_append_cons, conditionParameters_append]
  simpa [write_append, Spelling.values_conditions, Nat.add_assoc] using hboth

/-- The formulas of the tests of a run. -/
def runTerms (run : List Condition) : List Formula :=
  run.flatMap fun c => c.predicate.terms

/-- The tokens of a run: its formulas with `AND` between them. -/
def runTokens (run : List Condition) : List Token :=
  [.symbol .and].intercalate ((runTerms run).map Formula.tokens)

/-- A run consists of some formulas. -/
theorem runTerms_ne_nil {run : List Condition} (hne : run ≠ [])
    (hplain : ∀ c ∈ run, c.predicate.isPlain = true) : runTerms run ≠ [] := by
  obtain ⟨first, others, rfl⟩ := List.exists_cons_of_ne_nil hne
  have hfirst := Predicate.terms_ne_nil (hplain first List.mem_cons_self)
  rw [runTerms, List.flatMap_cons]
  exact List.append_ne_nil_of_left_ne_nil hfirst _

theorem runTokens_append {l m : List Condition} (hl : l ≠ []) (hm : m ≠ [])
    (hplain : ∀ c ∈ l ++ m, c.predicate.isPlain = true) :
    runTokens (l ++ m) = runTokens l ++ .symbol .and :: runTokens m := by
  have hl' := runTerms_ne_nil hl fun c hc => hplain c (List.mem_append_left m hc)
  have hm' := runTerms_ne_nil hm fun c hc => hplain c (List.mem_append_right l hc)
  rw [runTokens, runTerms, List.flatMap_append, List.map_append]
  exact intercalate_append _ (mt List.map_eq_nil_iff.mp hl') (mt List.map_eq_nil_iff.mp hm')

section
variable (hs : s.quote = (convention dialect).quote)
include hs

theorem lexesConditions_singleton {c : Condition} (hc : c.predicate.isPlain = true) :
    LexesConditions dialect s values [c] (runTokens [c]) := by
  obtain ⟨joiner, body⟩ := c
  cases body with
  | test t =>
      intro bound hvalues
      simp only [conditionParameters, Condition.parameters, Predicate.parameters,
        List.append_nil] at hvalues ⊢
      simpa [Spelling.conditions, Spelling.conditionBody, Spelling.predicate, Spelling.linked,
        runTokens, runTerms, Predicate.terms] using lexes_test hs hc hvalues
  | hasRows source negated => cases hc

/-- A run is read as the formulas of its tests with `AND` between them. -/
theorem lexesConditions_run (first : Condition) (others : List Condition)
    (hplain : ∀ c ∈ first :: others, c.predicate.isPlain = true)
    (hlinks : ∀ c ∈ others, c.joiner = .and) :
    LexesConditions dialect s values (first :: others) (runTokens (first :: others)) := by
  induction others generalizing first with
  | nil => exact lexesConditions_singleton hs (hplain first List.mem_cons_self)
  | cons next others ih =>
      have hfirst : LexesConditions dialect s values [first] _ :=
        lexesConditions_singleton hs (hplain first List.mem_cons_self)
      have hnext := ih next (fun c hc => hplain c (List.mem_cons_of_mem _ hc))
        fun c hc => hlinks c (List.mem_cons_of_mem _ hc)
      have hboth := hfirst.append hnext
      rw [hlinks next List.mem_cons_self] at hboth
      rwa [← List.singleton_append, runTokens_append (by simp) (by simp) hplain]

/-- Runs are read with `OR` between them. -/
theorem lexesConditions_runs (run : List Condition) (others : List (List Condition))
    (hplain : ∀ c ∈ (run :: others).flatten, c.predicate.isPlain = true)
    (hruns : ∀ r ∈ run :: others, ∃ first rest, r = first :: rest ∧ ∀ c ∈ rest, c.joiner = .and)
    (hlinks : ∀ r ∈ others, ∀ c ∈ r.head?, c.joiner = .or) :
    LexesConditions dialect s values (run :: others).flatten
      ([.symbol .or].intercalate ((run :: others).map runTokens)) := by
  induction others generalizing run with
  | nil =>
      obtain ⟨first, rest, rfl, hrest⟩ := hruns run List.mem_cons_self
      simpa using lexesConditions_run hs first rest (by simpa using hplain) hrest
  | cons next others ih =>
      obtain ⟨first, rest, rfl, hrest⟩ := hruns run List.mem_cons_self
      obtain ⟨head, tail, hnext, -⟩ :=
        hruns next (List.mem_cons_of_mem _ List.mem_cons_self)
      have hfirst : LexesConditions dialect s values (first :: rest) _ :=
        lexesConditions_run hs first rest
          (fun c hc => hplain c (List.mem_append_left _ hc)) hrest
      have hothers := ih next (fun c hc => hplain c (List.mem_append_right _ hc))
        (fun r hr => hruns r (List.mem_cons_of_mem _ hr))
        fun r hr => hlinks r (List.mem_cons_of_mem _ hr)
      have hor : head.joiner = .or :=
        hlinks next List.mem_cons_self head (by rw [hnext]; rfl)
      rw [hnext] at hothers ⊢
      rw [List.flatten_cons, List.cons_append] at hothers
      have hboth := hfirst.append hothers
      rw [hor] at hboth
      simpa [List.intercalate_cons_cons, joinerSymbol] using hboth

end

/-! ## The runs of conditions -/

/-- What a chain says of the second of each two holds of all behind the first. -/
theorem forall_of_isChain {α : Type} {r : α → α → Prop} {p : α → Prop}
    (hr : ∀ a b, r a b → p b) {first : α} {others : List α}
    (h : (first :: others).IsChain r) : ∀ b ∈ others, p b := by
  induction others generalizing first with
  | nil => simp
  | cons next others ih =>
      obtain ⟨hnext, hothers⟩ := List.isChain_cons_cons.mp h
      intro b hb
      obtain rfl | hb := List.mem_cons.mp hb
      · exact hr first b hnext
      · exact ih hothers b hb

/-- A run has a first condition, and the others are linked by `AND`. -/
theorem exists_cons_of_mem_runs {conditions run : List Condition}
    (hrun : run ∈ conditionRuns conditions) :
    ∃ first rest, run = first :: rest ∧ ∀ c ∈ rest, c.joiner = .and := by
  obtain ⟨first, rest, rfl⟩ := List.exists_cons_of_ne_nil (List.ne_nil_of_mem_splitBy hrun)
  refine ⟨first, rest, rfl, ?_⟩
  have hchain := List.isChain_of_mem_splitBy hrun
  exact forall_of_isChain (fun _ c hc => by simpa using hc) hchain

/-- A run behind another begins with a condition that is linked by `OR`. -/
theorem joiner_of_mem_runs {conditions run : List Condition} {others : List (List Condition)}
    (hruns : conditionRuns conditions = run :: others) :
    ∀ r ∈ others, ∀ c ∈ r.head?, c.joiner = .or := by
  have hchain := List.isChain_getLast_head_splitBy (fun _ next => next.joiner = .and) conditions
  rw [← conditionRuns, hruns] at hchain
  refine forall_of_isChain (p := fun r => ∀ c ∈ r.head?, c.joiner = .or) ?_ hchain
  intro before r hlink c hc
  obtain ⟨-, hne, hhead⟩ := hlink
  rw [List.head?_eq_some_head hne, Option.mem_some] at hc
  rw [hc] at hhead
  cases hjoiner : c.joiner with
  | and => simp [hjoiner] at hhead
  | or => rfl

/-! ## Reading conditions -/

/-- The tokens of conditions: those of their runs with `OR` between them. -/
def conditionTokens (conditions : List Condition) : List Token :=
  [.symbol .or].intercalate ((conditionRuns conditions).map runTokens)

/-- Plain conditions are read as their tokens. -/
theorem lexesConditions (hs : s.quote = (convention dialect).quote) {conditions : List Condition}
    (hne : conditions ≠ []) (hplain : ∀ c ∈ conditions, c.predicate.isPlain = true) :
    LexesConditions dialect s values conditions (conditionTokens conditions) := by
  have hflatten : (conditionRuns conditions).flatten = conditions := List.flatten_splitBy _ _
  have hcons (run : List Condition) (hrun : run ∈ conditionRuns conditions) :=
    exists_cons_of_mem_runs hrun
  obtain ⟨run, others, hruns⟩ := List.exists_cons_of_ne_nil
    (show conditionRuns conditions ≠ [] from List.splitBy_ne_nil.mpr hne)
  have hlinks := joiner_of_mem_runs hruns
  rw [conditionTokens]
  rw [hruns] at hflatten hcons ⊢
  rw [← hflatten] at hplain ⊢
  exact lexesConditions_runs hs run others hplain hcons hlinks

/-- What plain conditions print is read as their tokens, with the values that are bound on the
way. -/
theorem lex_conditions (dialect : DialectName) (tablePrefix : String) (bound : List Value) {conditions : List Condition}
    (hne : conditions ≠ []) (hplain : ∀ c ∈ conditions, c.predicate.isPlain = true) :
    let printed := ((dialect.dialect.withPrefix tablePrefix).conditions conditions).after bound
    lex (convention dialect) printed.values bound.length printed.sql.toList =
      some (conditionTokens conditions) := by
  intro printed
  have hs : (dialect.dialect.withPrefix tablePrefix).quote = (convention dialect).quote := by
    cases dialect <;> rfl
  have hprinted : printed =
      ⟨.ofList (((dialect.dialect.withPrefix tablePrefix).toSpelling.conditions conditions).write
        dialect.dialect.placeholder bound.length), bound ++ conditionParameters conditions⟩ := by
    simp only [printed, ← print_conditions, Printer.after, run_print, Spelling.values_conditions]
    rfl
  have hconditions : LexesConditions dialect _ printed.values conditions _ :=
    lexesConditions hs hne hplain
  have hlex := hconditions bound.length (by simp [hprinted]) [] ends_nil
  rw [hprinted, String.toList_ofList]
  rw [List.append_nil, hprinted] at hlex
  rw [hlex]
  simp [lex]

section
variable {conditions : List Condition} (hplain : ∀ c ∈ conditions, c.predicate.isPlain = true)
include hplain

theorem isPlain_of_mem_runs {run : List Condition} (hrun : run ∈ conditionRuns conditions) :
    ∀ c ∈ run, c.predicate.isPlain = true := by
  intro c hc
  apply hplain c
  rw [← List.flatten_splitBy (fun _ next => next.joiner = .and) conditions]
  exact List.mem_flatten_of_mem hrun hc

/-- The formulas of a run are all true just when its conditions hold. -/
theorem isTrue_runTerms (columns : List String → Int) {run : List Condition}
    (hrun : run ∈ conditionRuns conditions) :
    (∀ f ∈ runTerms run, (f.eval? columns).isSome) ∧
      (runTerms run).all (Formula.isTrue columns) = run.all (·.predicate.holds columns) := by
  have hterms (c : Condition) (hc : c ∈ run) :=
    Predicate.isTrue_terms columns (isPlain_of_mem_runs hplain hrun c hc)
  constructor
  · intro f hf
    obtain ⟨c, hc, hf⟩ := List.mem_flatMap.mp hf
    exact (hterms c hc).1 f hf
  · rw [runTerms, List.all_flatMap]
    exact all_congr_of_mem fun c hc => (hterms c hc).2

/-- The tokens of plain conditions are read as a formula that says what the conditions say. -/
theorem formula_conditionTokens (hne : conditions ≠ []) :
    ∃ f, Reader.formula ((conditionTokens conditions).length + 1) (conditionTokens conditions) =
        some (f, []) ∧
      ∀ columns, f.eval? columns = some (conditionsHold columns conditions) := by
  have htokens : conditionTokens conditions = [.symbol .or].intercalate
      (((conditionRuns conditions).map runTerms).map fun group =>
        [.symbol .and].intercalate (group.map Formula.tokens)) := by
    rw [conditionTokens, List.map_map]
    rfl
  have hgroups : (conditionRuns conditions).map runTerms ≠ [] := by
    simpa [conditionRuns] using hne
  have hterms : ∀ group ∈ (conditionRuns conditions).map runTerms, group ≠ [] := by
    intro group hgroup
    obtain ⟨run, hrun, rfl⟩ := List.mem_map.mp hgroup
    exact runTerms_ne_nil (List.ne_nil_of_mem_splitBy hrun) (isPlain_of_mem_runs hplain hrun)
  have hdepth : ∀ group ∈ (conditionRuns conditions).map runTerms, ∀ f ∈ group,
      f.tokens.length ≤ (conditionTokens conditions).length := by
    intro group hgroup f hf
    rw [htokens]
    exact (length_le_intercalate _ (List.mem_map_of_mem hf)).trans
      (length_le_intercalate _ (List.mem_map_of_mem hgroup))
  obtain ⟨f, hformula, heval⟩ := formula_groups hgroups hterms _ hdepth
  rw [← htokens] at hformula
  refine ⟨f, hformula, ?_⟩
  intro columns
  rw [heval columns ?some, conditionsHold, List.any_map]
  case some =>
    intro group hgroup
    obtain ⟨run, hrun, rfl⟩ := List.mem_map.mp hgroup
    exact (isTrue_runTerms hplain columns hrun).1
  congr 1
  exact any_congr_of_mem fun run hrun => (isTrue_runTerms hplain columns hrun).2

end

/-- The text of plain conditions means that in one of their runs all conditions hold. The link of
the first condition is not written. -/
theorem conditions_mean (dialect : DialectName) (tablePrefix : String) (bound : List Value)
    (first : Condition) (rest : List Condition)
    (hplain : ∀ c ∈ first :: rest, c.predicate.isPlain = true) :
    let d := dialect.dialect.withPrefix tablePrefix
    let printed := (d.conditions (first :: rest)).after bound
    (∃ f, Formula.read? (convention dialect) printed.values bound.length printed.sql = some f ∧
      ∀ columns, f.eval? columns = some (conditionsHold columns (first :: rest))) ∧
    ∀ joiner, d.conditions (⟨joiner, first.predicate⟩ :: rest) = d.conditions (first :: rest) := by
  intro d printed
  have hne : first :: rest ≠ [] := List.cons_ne_nil first rest
  have hlex := lex_conditions dialect tablePrefix bound hne hplain
  obtain ⟨f, hformula, heval⟩ := formula_conditionTokens hplain hne
  constructor
  · refine ⟨f, ?_, heval⟩
    rw [Formula.read?, hlex]
    simp [hformula]
  · intro joiner
    obtain ⟨own, body⟩ := first
    simp only [Dialect.conditions, Dialect.conditionBody]

/-- Conditions on columns with reserved names: a comparison with the outside of a range, or an empty
list. -/
def reservedNames : List Condition :=
  [.ofTest .or (.compare "Order.no" " <= " (.int 3)),
    .ofTest .and (.between "order" (.int 18) (.int 65) false true),
    .ofTest .or (.within "NOT" [] false)]

theorem conditions_mean_reservedNames :
    (∀ c ∈ reservedNames, c.predicate.isPlain = true) ∧
      let printed := ((Dialect.mysql.withPrefix "wp_").conditions reservedNames).after [.null]
      ∃ f, Formula.read? (convention .mysql) printed.values 1 printed.sql = some f ∧
        ∀ columns, f.eval? columns =
          some ((columns ["Order", "no"] ≤ 3 &&
            !(18 < columns ["order"] && columns ["order"] < 65)) || false) := by
  have hplain : ∀ c ∈ reservedNames, c.predicate.isPlain = true := by
    decide
  refine ⟨hplain, ?_⟩
  intro printed
  obtain ⟨⟨f, hformula, heval⟩, -⟩ := conditions_mean .mysql "wp_" [.null] _ _ hplain
  refine ⟨f, hformula, ?_⟩
  intro columns
  have hruns : conditionRuns reservedNames = [reservedNames.take 2, reservedNames.drop 2] := rfl
  have hop : Comparison.ofText? (Text.trim " <= ") = some .atMost := by decide
  have hnumber : fieldPath "Order.no" = ["Order", "no"] := by decide
  have horder : fieldPath "order" = ["order"] := by decide
  rw [heval columns, ← reservedNames, conditionsHold, hruns]
  simp [reservedNames, Condition.ofTest, Predicate.holds, Test.holds, Value.asInt?, hop, hnumber,
    horder, Comparison.holds]

end Sql

end BoundSql

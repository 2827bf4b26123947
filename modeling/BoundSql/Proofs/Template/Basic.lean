import BoundSql.Sql.Printer

/-!
# Templates

A template is the text of a statement with holes in it, and every hole holds the value that is
bound there. The text and the list of values are both read off the template, so in what a template
prints a placeholder always stands where its value is bound.

A printer may do more than that: it may bind a value without writing its placeholder, or write two
placeholders in another order than it binds their values. The lemmas on `print` say which printers
are templates: text, a bound value, and templates printed one after the other.

## Implementation notes

A piece is one character or one hole. Two templates are equal just when they have the same text
around the same values.
-/

namespace BoundSql.Sql

/-- A character of the text, or a hole for a value. -/
inductive Piece where
  | char (c : Char)
  | bind (v : Value)
deriving Inhabited

/-- Text with holes. -/
abbrev Template := List Piece

namespace Template

/-- Text without holes. -/
def chars (cs : List Char) : Template :=
  cs.map .char

/-- Text without holes. -/
def text (s : String) : Template :=
  chars s.toList

/-- One hole. -/
def hole (v : Value) : Template :=
  [.bind v]

/-- The templates of all items with commas between them. -/
def listed {α : Type} (template : α → Template) (items : List α) : Template :=
  (text ", ").intercalate (items.map template)

/-- A keyword and what belongs to it, if the clause is present. -/
def clause (present : Bool) (keyword : String) (body : Template) : Template :=
  if present then text keyword ++ body else []

theorem listed_cons_cons {α : Type} (template : α → Template) (a b : α) (items : List α) :
    listed template (a :: b :: items) =
      template a ++ (text ", " ++ listed template (b :: items)) := by
  simp [listed, List.intercalate_cons_cons]

/-- The values of the holes, in reading order. -/
def values : Template → List Value
  | [] => []
  | .char _ :: rest => values rest
  | .bind v :: rest => v :: values rest

/-- The text in which every hole is a placeholder for the next position, when `bound` values are
bound before it. -/
def write (placeholder : Nat → String) : (bound : Nat) → Template → List Char
  | _, [] => []
  | bound, .char c :: rest => c :: write placeholder bound rest
  | bound, .bind _ :: rest =>
    (placeholder (bound + 1)).toList ++ write placeholder (bound + 1) rest

/-- The printer that writes the template behind the values bound so far, and binds its values. -/
def print (placeholder : Nat → String) (t : Template) : Printer String := fun bound =>
  (.ofList (t.write placeholder bound.length), bound ++ t.values)

section
variable (p : Nat → String) (n : Nat)

@[simp] theorem values_chars (cs : List Char) : values (chars cs) = [] := by
  induction cs with
  | nil => rfl
  | cons c cs ih => simpa [chars, values] using ih

@[simp] theorem values_text (s : String) : values (text s) = [] :=
  values_chars _

@[simp] theorem values_hole (v : Value) : values (hole v) = [v] := rfl

/-- What comes first is bound first. -/
@[simp] theorem values_append (a b : Template) : values (a ++ b) = values a ++ values b := by
  induction a with
  | nil => rfl
  | cons piece a ih => cases piece <;> simp [values, ih]

@[simp] theorem write_chars (cs : List Char) : write p n (chars cs) = cs := by
  induction cs with
  | nil => rfl
  | cons c cs ih => simpa [chars, write] using ih

@[simp] theorem write_text (s : String) : write p n (text s) = s.toList :=
  write_chars p n _

@[simp] theorem write_hole (v : Value) : write p n (hole v) = (p (n + 1)).toList := by
  simp [hole, write]

/-- What follows is written with the positions behind those of what comes first. -/
theorem write_append (a b : Template) :
    write p n (a ++ b) = write p n a ++ write p (n + (values a).length) b := by
  induction a generalizing n with
  | nil => rfl
  | cons piece a ih =>
      cases piece with
      | char c => simp [write, values, ih]
      | bind v => simp [write, values, ih, Nat.add_assoc, Nat.add_comm 1]

@[simp] theorem text_append (s t : String) : text (s ++ t) = text s ++ text t := by
  simp [text, chars]

theorem values_listed {α : Type} (template : α → Template) (items : List α) :
    (listed template items).values = items.flatMap fun a => (template a).values := by
  induction items with
  | nil => rfl
  | cons a items ih =>
      cases items with
      | nil => simp [listed]
      | cons b items =>
          rw [listed_cons_cons, values_append, values_append, values_text, List.nil_append, ih]
          rfl

theorem values_clause (present : Bool) (keyword : String) (body : Template) :
    (clause present keyword body).values = if present then body.values else [] := by
  cases present with
  | false => rfl
  | true => simp [clause]

/-! ## Printers that are templates -/

theorem run_print (t : Template) (bound : List Value) :
    (print p t).run bound = (String.ofList (t.write p bound.length), bound ++ t.values) := rfl

theorem print_chars (cs : List Char) : print p (chars cs) = pure (.ofList cs) := by
  apply StateT.ext
  intro bound
  rw [run_print, write_chars, values_chars, List.append_nil]
  rfl

theorem print_text (s : String) : print p (text s) = pure s := by
  rw [text, print_chars, String.ofList_toList]

theorem print_nil : print p [] = pure "" :=
  print_chars p []

/-- A hole is a bound value. -/
theorem print_hole (d : Dialect) (v : Value) : print d.placeholder (hole v) = d.bindValue v := by
  apply StateT.ext
  intro bound
  have hnext : (bound ++ [v]).length = bound.length + 1 := by simp
  rw [run_print, write_hole, values_hole, String.ofList_toList, ← hnext]
  rfl

/-- Printed one after the other, two templates are one. -/
theorem print_append (a b : Template) :
    print p (a ++ b) = do return (← print p a) ++ (← print p b) := by
  apply StateT.ext
  intro bound
  have hnext : (bound ++ values a).length = bound.length + (values a).length := by simp
  rw [run_print, write_append, values_append, String.ofList_append, ← List.append_assoc, ← hnext]
  rfl

/-- Templates printed as a list are one. -/
theorem print_listed {α : Type} (template : α → Template) (items : List α) :
    print p (listed template items) = Printer.listed (fun a => print p (template a)) items := by
  induction items with
  | nil => simp [listed, Printer.listed, print_nil]
  | cons a items ih =>
      cases items with
      | nil => simp [listed, Printer.listed]
      | cons b items =>
          rw [listed_cons_cons, print_append, print_append, print_text, ih]
          simp [Printer.listed, String.intercalate_cons_cons, String.append_assoc]

/-- A clause whose body is a template is one. -/
theorem print_clause (present : Bool) (keyword : String) (body : Template) :
    print p (clause present keyword body) = Printer.clause present keyword (print p body) := by
  cases present with
  | false => simp [clause, Printer.clause, print_nil]
  | true => simp [clause, Printer.clause, print_append, print_text]

end

end Template

end BoundSql.Sql

import BoundSql.Config
import BoundSql.Value.Basic
import Mathlib.Data.List.TakeWhile

/-!
# Tokens of conditions

`lex` reads the text of a condition as tokens. Words that are keywords in some case of letters,
names in quotes or without, operators, brackets and placeholders are told apart as a database tells
them apart. Every placeholder is replaced by the value it stands for.

## Implementation notes

A `Convention` is what a reader has to know of a dialect. It is not taken from the dialect's own
tokens: a wrong quote or a wrong placeholder there makes the text unreadable.
-/

namespace BoundSql.Sql

/-! ## Tokens -/

/-- The operators between two operands. -/
inductive Comparison where
  | equal
  | unequal
  | less
  | atMost
  | greater
  | atLeast
deriving DecidableEq, Repr

namespace Comparison

def text : Comparison → String
  | equal => "="
  | unequal => "<>"
  | less => "<"
  | atMost => "<="
  | greater => ">"
  | atLeast => ">="

/-- Whether two integers compare so. -/
def holds : Comparison → Int → Int → Bool
  | equal, x, y => x = y
  | unequal, x, y => x ≠ y
  | less, x, y => x < y
  | atMost, x, y => x ≤ y
  | greater, x, y => y < x
  | atLeast, x, y => y ≤ x

/-- The operator that a text writes. -/
def ofText? (text : String) : Option Comparison :=
  [equal, unequal, less, atMost, greater, atLeast].find? (·.text = text)

theorem ofText?_text (c : Comparison) : ofText? c.text = some c := by
  cases c <;> decide

theorem exists_text {text : String} (h : (ofText? text).isSome = true) :
    ∃ c : Comparison, text = c.text := by
  obtain ⟨c, hc⟩ := Option.isSome_iff_exists.mp h
  have htext : c.text = text := by simpa using List.find?_some hc
  exact ⟨c, htext.symm⟩

end Comparison

/-- The words and signs that have a meaning of their own. -/
inductive Symbol where
  | and
  | or
  | not
  | within
  | is
  | null
  | comparison (c : Comparison)
  | dot
  | comma
  | openParen
  | closeParen
deriving DecidableEq, Repr

/-- The meaning of a word in lower case. -/
def Symbol.ofWord? (word : String) : Option Symbol :=
  ([("and", and), ("or", or), ("not", not), ("in", within), ("is", is), ("null", null)] :
    List (String × Symbol)).lookup word

/-- What a condition is made of. A placeholder is the value it stands for. -/
inductive Token where
  | symbol (s : Symbol)
  | name (n : String)
  | value (v : Value)

/-- How a dialect is to be read. -/
structure Convention where
  /-- What stands around a name in quotes. -/
  quote : Char
  /-- What a placeholder begins with. -/
  mark : Char
  /-- Whether a placeholder has its position behind the mark; if not, placeholders are counted. -/
  isNumbered : Bool
  /-- Whether a name without quotes stands for the name in lower case. -/
  foldsCase : Bool

/-- How the dialects that have a name are to be read. -/
def convention : DialectName → Convention
  | .postgres => ⟨'"', '$', true, true⟩
  | .mysql => ⟨'\x60', '?', false, false⟩

/-! ## Reading tokens -/

/-- The name before the closing quote, and what follows the quote. A doubled quote is part of the
name. -/
def unquote? (quote : Char) : List Char → Option (List Char × List Char)
  | [] => none
  | c :: rest =>
    if c ≠ quote then (unquote? quote rest).map fun (name, behind) => (c :: name, behind)
    else match rest with
      | [] => some ([], [])
      | d :: behind =>
        if d = quote then
          (unquote? quote behind).map fun (name, behind) => (quote :: name, behind)
        else some ([], d :: behind)

/-- A word as the symbol or the name that it is. -/
def Convention.wordToken (k : Convention) (word : List Char) : Token :=
  let lower := String.ofList (word.map Char.toLower)
  match Symbol.ofWord? lower with
  | some s => .symbol s
  | none => .name (if k.foldsCase then lower else .ofList word)

/-- The position that a placeholder names, which counts from one, and what follows it. -/
def Convention.position? (k : Convention) (bound : Nat) (rest : List Char) :
    Option (Nat × List Char) :=
  if k.isNumbered then
    (Text.natOfChars? (rest.takeWhile Text.isDigit)).map fun n =>
      (n, rest.dropWhile Text.isDigit)
  else some (bound + 1, rest)

/-- The value at a position that counts from one. -/
def valueAt? (values : List Value) : Nat → Option Value
  | 0 => none
  | position + 1 => values[position]?

/-- A symbol of one or two other characters, and what follows it. -/
def symbol? : Char → List Char → Option (Symbol × List Char)
  | '.', rest => some (.dot, rest)
  | ',', rest => some (.comma, rest)
  | '(', rest => some (.openParen, rest)
  | ')', rest => some (.closeParen, rest)
  | '=', rest => some (.comparison .equal, rest)
  | '<', '=' :: rest => some (.comparison .atMost, rest)
  | '<', '>' :: rest => some (.comparison .unequal, rest)
  | '<', rest => some (.comparison .less, rest)
  | '>', '=' :: rest => some (.comparison .atLeast, rest)
  | '>', rest => some (.comparison .greater, rest)
  | _, _ => none

/-- The token that begins with a character, and what follows it. `bound` placeholders come before
it. -/
def token? (k : Convention) (values : List Value) (bound : Nat) (c : Char) (rest : List Char) :
    Option (Token × List Char) :=
  if isWordStart c then
    some (k.wordToken (c :: rest.takeWhile isWordRest), rest.dropWhile isWordRest)
  else if c = k.quote then
    (unquote? k.quote rest).map fun (name, behind) => (.name (.ofList name), behind)
  else if c = k.mark then do
    let (position, behind) ← k.position? bound rest
    let v ← valueAt? values position
    return (.value v, behind)
  else (symbol? c rest).map fun (s, behind) => (.symbol s, behind)

theorem unquote?_length {quote : Char} {cs name behind : List Char}
    (h : unquote? quote cs = some (name, behind)) : behind.length ≤ cs.length := by
  fun_induction unquote? quote cs generalizing name behind with
  | case1 => cases h
  | case2 c rest hc ih =>
      obtain ⟨⟨name', behind'⟩, hrest, heq⟩ := Option.map_eq_some_iff.mp h
      obtain ⟨-, rfl⟩ := Prod.mk.inj heq
      have := ih hrest
      simp only [List.length_cons]
      omega
  | case3 c hc =>
      obtain ⟨-, rfl⟩ := Prod.mk.inj (Option.some.inj h)
      simp
  | case4 c hc rest ih =>
      obtain ⟨⟨name', behind'⟩, hrest, heq⟩ := Option.map_eq_some_iff.mp h
      obtain ⟨-, rfl⟩ := Prod.mk.inj heq
      have := ih hrest
      simp only [List.length_cons]
      omega
  | case5 c hc d rest hd =>
      obtain ⟨-, rfl⟩ := Prod.mk.inj (Option.some.inj h)
      simp

theorem unquote?_cons_of_ne {quote c : Char} (hc : c ≠ quote) (cs : List Char) :
    unquote? quote (c :: cs) =
      (unquote? quote cs).map fun (name, behind) => (c :: name, behind) := by
  rw [unquote?.eq_def]
  simp only [hc, ne_eq, not_false_eq_true, if_true]

/-- A name whose quotes are doubled is read up to the closing quote as it is. -/
theorem unquote?_quotedChars {quote : Char} (name : List Char) {behind : List Char}
    (hbehind : ∀ c ∈ behind.head?, c ≠ quote) :
    unquote? quote ((quotedChars quote name).tail ++ behind) = some (name, behind) := by
  rw [quotedChars, List.cons_append, List.tail_cons]
  induction name with
  | nil =>
      cases behind with
      | nil => simp [unquote?]
      | cons d behind =>
          have hd : d ≠ quote := hbehind d rfl
          simp [unquote?, hd]
  | cons c name ih =>
      by_cases hc : c = quote
      · rw [unquote?.eq_def]
        simpa [hc] using ih
      · rw [List.flatMap_cons, if_neg hc, List.singleton_append, List.cons_append,
          List.cons_append, unquote?_cons_of_ne hc, ih, Option.map_some]

theorem symbol?_length {c : Char} {rest behind : List Char} {s : Symbol}
    (h : symbol? c rest = some (s, behind)) : behind.length ≤ rest.length := by
  unfold symbol? at h
  split at h <;> cases h <;> simp

/-- A token leaves less of the text. -/
theorem token?_length {k : Convention} {values : List Value} {bound : Nat} {c : Char}
    {rest behind : List Char} {t : Token}
    (h : token? k values bound c rest = some (t, behind)) : behind.length ≤ rest.length := by
  have hdrop (p : Char → Bool) : (rest.dropWhile p).length ≤ rest.length :=
    (List.dropWhile_suffix p).length_le
  unfold token? at h
  split at h
  · obtain ⟨-, rfl⟩ := Prod.mk.inj (Option.some.inj h)
    exact hdrop _
  · split at h
    · obtain ⟨⟨name, behind'⟩, hname, heq⟩ := Option.map_eq_some_iff.mp h
      obtain ⟨-, rfl⟩ := Prod.mk.inj heq
      exact unquote?_length hname
    · split at h
      · simp only [Option.bind_eq_bind, Option.bind_eq_some_iff] at h
        obtain ⟨⟨position, behind'⟩, hposition, v, -, heq⟩ := h
        obtain ⟨-, rfl⟩ := Prod.mk.inj (Option.some.inj heq)
        unfold Convention.position? at hposition
        split at hposition
        · obtain ⟨n, -, heq⟩ := Option.map_eq_some_iff.mp hposition
          obtain ⟨-, rfl⟩ := Prod.mk.inj heq
          exact hdrop _
        · obtain ⟨-, rfl⟩ := Prod.mk.inj (Option.some.inj hposition)
          exact le_rfl
      · obtain ⟨⟨s, behind'⟩, hsymbol, heq⟩ := Option.map_eq_some_iff.mp h
        obtain ⟨-, rfl⟩ := Prod.mk.inj heq
        exact symbol?_length hsymbol

/-- How many placeholders come before what follows a token. -/
def Token.countFrom (bound : Nat) : Token → Nat
  | .value _ => bound + 1
  | _ => bound

/-- The tokens of a text. `bound` placeholders come before it. -/
def lex (k : Convention) (values : List Value) (bound : Nat) : List Char → Option (List Token)
  | [] => some []
  | c :: rest =>
    if c = ' ' then lex k values bound rest
    else match _h : token? k values bound c rest with
      | none => none
      | some (t, behind) => (lex k values (t.countFrom bound) behind).map (t :: ·)
termination_by cs => cs.length
decreasing_by
  · simp
  · have := token?_length ‹_›
    simp only [List.length_cons]
    omega

end BoundSql.Sql

import BoundSql.Proofs.Path
import BoundSql.Proofs.Reader.Token
import BoundSql.Config

/-!
# Tokens of what is written

What a dialect with a name writes is lexed under its convention: a part of a path is the name that
it was, quoted or not, and the placeholder of a position is the value at that position.

`Lexes` says what a piece of text is read as if it ends there, whatever follows. Pieces with a
blank, a dot or a comma between them are lexed one after the other.
-/

namespace BoundSql.Sql

/-- The characters that stand behind names, operators and placeholders. -/
def endChars : List Char :=
  [' ', '.', ',', ')']

/-- Whether a name, an operator or a placeholder ends in front of the text. -/
def Ends (rest : List Char) : Prop :=
  ∀ c ∈ rest.head?, c ∈ endChars

variable {dialect : DialectName} {values : List Value} {bound middle after : Nat}

/-- Whether characters that begin behind `bound` placeholders and end behind `after` of them are
the tokens, in front of any text at which they end. -/
def Lexes (dialect : DialectName) (values : List Value) (bound : Nat) (cs : List Char)
    (after : Nat) (ts : List Token) : Prop :=
  ∀ rest, Ends rest → lex (convention dialect) values bound (cs ++ rest) =
    (lex (convention dialect) values after rest).map (ts ++ ·)

theorem ends_nil : Ends [] := by
  simp [Ends]

theorem ends_cons {c : Char} {cs : List Char} (hc : c ∈ endChars) : Ends (c :: cs) := by
  simpa [Ends] using hc

/-- What holds of none of the characters that end a piece does not hold of the first character
behind it. -/
theorem Ends.eq_false {p : Char → Bool} {rest : List Char} (hrest : Ends rest)
    (hp : endChars.any p = false) {c : Char} (hc : c ∈ rest.head?) : p c = false := by
  simpa using List.any_eq_false.mp hp c (hrest c hc)

theorem takeWhile_of_ends {p : Char → Bool} {rest : List Char} (hrest : Ends rest)
    (hp : endChars.any p = false) : rest.takeWhile p = [] := by
  cases rest with
  | nil => rfl
  | cons c rest => exact List.takeWhile_cons_of_neg (by simp [hrest.eq_false hp rfl])

theorem dropWhile_of_ends {p : Char → Bool} {rest : List Char} (hrest : Ends rest)
    (hp : endChars.any p = false) : rest.dropWhile p = rest := by
  cases rest with
  | nil => rfl
  | cons c rest => exact List.dropWhile_cons_of_neg (by simp [hrest.eq_false hp rfl])

theorem lex_space (cs : List Char) :
    lex (convention dialect) values bound (' ' :: cs) =
      lex (convention dialect) values bound cs := by
  rw [lex, if_pos rfl]

/-- One token, and then those of the text behind it. -/
theorem lex_cons {c : Char} {cs behind : List Char} {t : Token} (hc : c ≠ ' ')
    (h : token? (convention dialect) values bound c cs = some (t, behind)) :
    lex (convention dialect) values bound (c :: cs) =
      (lex (convention dialect) values (t.countFrom bound) behind).map (t :: ·) := by
  rw [lex, if_neg hc]
  split
  · rename_i hnone
    rw [hnone] at h
    cases h
  · rename_i t' behind' hsome
    rw [hsome] at h
    obtain ⟨rfl, rfl⟩ := Prod.mk.inj (Option.some.inj h)
    rfl

/-- Neither a word nor a quoted name nor a placeholder begins with the character of a symbol. -/
theorem token?_symbol {c : Char} (hc : c ∈ ['.', ',', '(', ')', '=', '<', '>']) (cs : List Char) :
    token? (convention dialect) values bound c cs =
      (symbol? c cs).map fun (s, behind) => (.symbol s, behind) := by
  simp only [List.mem_cons, List.not_mem_nil, or_false] at hc
  obtain rfl | rfl | rfl | rfl | rfl | rfl | rfl := hc <;> cases dialect <;> rfl

/-! ## Pieces one after the other -/

namespace Lexes
variable {cs cs' : List Char} {ts ts' : List Token}

/-- Two pieces, if the first ends where the second begins. -/
theorem append (h : Lexes dialect values bound cs middle ts)
    (h' : Lexes dialect values middle cs' after ts') (hends : ∀ rest, Ends (cs' ++ rest)) :
    Lexes dialect values bound (cs ++ cs') after (ts ++ ts') := by
  intro rest hrest
  rw [List.append_assoc, h _ (hends rest), h' rest hrest, Option.map_map]
  congr 1
  funext more
  exact (List.append_assoc ts ts' more).symm

theorem cons_space (h : Lexes dialect values bound cs after ts) :
    Lexes dialect values bound (' ' :: cs) after ts := by
  intro rest hrest
  rw [List.cons_append, lex_space]
  exact h rest hrest

/-- A character that is a symbol on its own. -/
theorem cons_symbol {c : Char} {s : Symbol} (hc : c ∈ ['.', ',', '(', ')', '=', '<', '>'])
    (hs : ∀ cs, symbol? c cs = some (s, cs)) (h : Lexes dialect values bound cs after ts) :
    Lexes dialect values bound (c :: cs) after (.symbol s :: ts) := by
  have hspace : c ≠ ' ' := by
    rintro rfl
    simp at hc
  intro rest hrest
  have htoken : token? (convention dialect) values bound c (cs ++ rest) =
      some (.symbol s, cs ++ rest) := by
    rw [token?_symbol hc, hs, Option.map_some]
  have hcount : (Token.symbol s).countFrom bound = bound := rfl
  rw [List.cons_append, lex_cons hspace htoken, hcount, h rest hrest, Option.map_map]
  rfl

/-- Two pieces with a blank between them. -/
theorem append_space (h : Lexes dialect values bound cs middle ts)
    (h' : Lexes dialect values middle cs' after ts') :
    Lexes dialect values bound (cs ++ ' ' :: cs') after (ts ++ ts') := by
  apply h.append h'.cons_space
  intro rest
  exact ends_cons (by simp [endChars])

/-- Two pieces with a dot between them. -/
theorem append_dot (h : Lexes dialect values bound cs middle ts)
    (h' : Lexes dialect values middle cs' after ts') :
    Lexes dialect values bound (cs ++ '.' :: cs') after (ts ++ .symbol .dot :: ts') := by
  apply h.append (h'.cons_symbol (by simp) fun _ => rfl)
  intro rest
  exact ends_cons (by simp [endChars])

/-- Two pieces with a comma and a blank between them. -/
theorem append_comma (h : Lexes dialect values bound cs middle ts)
    (h' : Lexes dialect values middle cs' after ts') :
    Lexes dialect values bound (cs ++ ',' :: ' ' :: cs') after (ts ++ .symbol .comma :: ts') := by
  apply h.append (h'.cons_space.cons_symbol (by simp) fun _ => rfl)
  intro rest
  exact ends_cons (by simp [endChars])

theorem nil : Lexes dialect values bound [] bound [] := by
  intro rest _
  simp

/-- A piece in brackets. -/
theorem bracketed (h : Lexes dialect values bound cs after ts) :
    Lexes dialect values bound ('(' :: (cs ++ [')'])) after
      (.symbol .openParen :: (ts ++ [.symbol .closeParen])) := by
  have hclose : Lexes dialect values after [')'] after [.symbol .closeParen] :=
    nil.cons_symbol (by simp) fun _ => rfl
  have hinside : Lexes dialect values bound (cs ++ [')']) after (ts ++ [.symbol .closeParen]) := by
    apply h.append hclose
    intro rest
    exact ends_cons (by simp [endChars])
  exact hinside.cons_symbol (by simp) fun _ => rfl

end Lexes

/-! ## Words and names -/

theorem countFrom_wordToken (k : Convention) (word : List Char) :
    (k.wordToken word).countFrom bound = bound := by
  simp only [Convention.wordToken]
  cases Symbol.ofWord? (.ofList (word.map Char.toLower)) with
  | none => rfl
  | some s => rfl

/-- A word that nothing follows is read as a whole. -/
theorem lexes_word {word : List Char} (hword : isWord word = true) :
    Lexes dialect values bound word bound [(convention dialect).wordToken word] := by
  cases word with
  | nil => simp [isWord] at hword
  | cons c cs =>
      obtain ⟨hc, hcs⟩ : isWordStart c = true ∧ cs.all isWordRest = true := by
        simpa [isWord] using hword
      have hspace : c ≠ ' ' := by
        rintro rfl
        exact absurd hc (by decide)
      have hinside : ∀ d ∈ cs, isWordRest d = true := List.all_eq_true.mp hcs
      intro rest hrest
      have htoken : token? (convention dialect) values bound c (cs ++ rest) =
          some ((convention dialect).wordToken (c :: cs), rest) := by
        rw [token?, if_pos hc, List.takeWhile_append_of_pos hinside,
          List.dropWhile_append_of_pos hinside, takeWhile_of_ends hrest rfl,
          dropWhile_of_ends hrest rfl, List.append_nil]
      rw [List.cons_append, lex_cons hspace htoken, countFrom_wordToken]
      rfl

/-- A keyword is the symbol it stands for. -/
theorem lexes_keyword {word : List Char} {s : Symbol} (hword : isWord word = true)
    (hs : Symbol.ofWord? (.ofList (word.map Char.toLower)) = some s) :
    Lexes dialect values bound word bound [.symbol s] := by
  have htoken : (convention dialect).wordToken word = .symbol s := by
    simp only [Convention.wordToken, hs]
  rw [← htoken]
  exact lexes_word hword

theorem lexes_quoted (name : List Char) :
    Lexes dialect values bound (quotedChars (convention dialect).quote name) bound
      [.name (.ofList name)] := by
  have hspace : (convention dialect).quote ≠ ' ' := by cases dialect <;> decide
  have hstart : isWordStart (convention dialect).quote = false := by cases dialect <;> decide
  have hends : endChars.any (· == (convention dialect).quote) = false := by
    cases dialect <;> rfl
  intro rest hrest
  have hunquote : unquote? (convention dialect).quote
      ((quotedChars (convention dialect).quote name).tail ++ rest) = some (name, rest) := by
    apply unquote?_quotedChars name
    intro c hc
    exact ne_of_beq_false (hrest.eq_false hends hc)
  have htoken : token? (convention dialect) values bound (convention dialect).quote
      ((quotedChars (convention dialect).quote name).tail ++ rest) =
        some (.name (.ofList name), rest) := by
    rw [token?, if_neg (by simp [hstart]), if_pos rfl, hunquote, Option.map_some]
  have hcount : (Token.name (.ofList name)).countFrom bound = bound := rfl
  have hcons : quotedChars (convention dialect).quote name ++ rest =
      (convention dialect).quote :: ((quotedChars (convention dialect).quote name).tail ++ rest) :=
    rfl
  rw [hcons, lex_cons hspace htoken, hcount]
  rfl

/-! ## Paths -/

theorem toLower_of_not_isCapital {c : Char} (hc : isCapital c = false) : c.toLower = c := by
  have hrange : ¬(c.val ≥ 'A'.val ∧ c.val ≤ 'Z'.val) := by
    simpa [isCapital, Char.le_def] using hc
  exact dif_neg hrange

theorem map_toLower_of_not_isCapital {part : List Char} (h : ∀ c ∈ part, isCapital c = false) :
    part.map Char.toLower = part := by
  have hletter (c : Char) (hc : c ∈ part) : c.toLower = id c := toLower_of_not_isCapital (h c hc)
  rw [List.map_congr_left hletter, List.map_id]

/-- A part that needs no quotes is all in small letters, and no reserved word. -/
theorem small_of_needsQuotes {part : List Char} (h : needsQuotes part = false) :
    (∀ c ∈ part, isCapital c = false) ∧ isReserved part = false := by
  by_cases hstar : part = ['*']
  · subst hstar
    exact ⟨by simp [isCapital], by decide⟩
  · obtain ⟨hsmall, hreserved⟩ : part.any isCapital = false ∧ isReserved part = false := by
      simpa only [needsQuotes, hstar, ne_eq, not_false_eq_true, decide_true, Bool.true_and,
        Bool.or_eq_false_iff] using h
    exact ⟨fun c hc => by simpa using List.any_eq_false.mp hsmall c hc, hreserved⟩

/-- All words with a meaning in a condition are reserved. -/
theorem mem_reservedWords_of_ofWord? {word : String} {s : Symbol}
    (h : Symbol.ofWord? word = some s) : word ∈ reservedWords := by
  by_contra hfree
  have hne (keyword : String) (hkeyword : keyword ∈ reservedWords) : (word == keyword) = false := by
    apply beq_false_of_ne
    rintro rfl
    exact hfree hkeyword
  simp [Symbol.ofWord?, List.lookup_cons, hne "and" (by simp [reservedWords]),
    hne "or" (by simp [reservedWords]), hne "not" (by simp [reservedWords]),
    hne "in" (by simp [reservedWords]), hne "is" (by simp [reservedWords]),
    hne "null" (by simp [reservedWords])] at h

/-- A part of a path is read as the name that it is. Without quotes it is no keyword, and no letter
of it changes its case. -/
theorem lexes_part {part : List Char} (hpart : isWord part = true) :
    Lexes dialect values bound (partChars (convention dialect).quote part) bound
      [.name (.ofList part)] := by
  cases hneeds : needsQuotes part with
  | true =>
      rw [partChars, if_pos hneeds]
      exact lexes_quoted part
  | false =>
      obtain ⟨hsmall, hreserved⟩ := small_of_needsQuotes hneeds
      have hlower := map_toLower_of_not_isCapital hsmall
      have hkeyword : Symbol.ofWord? (.ofList part) = none := by
        cases h : Symbol.ofWord? (.ofList part) with
        | none => rfl
        | some s =>
            have hmem := mem_reservedWords_of_ofWord? h
            rw [isReserved, hlower] at hreserved
            simp [hmem] at hreserved
      have htoken : (convention dialect).wordToken part = .name (.ofList part) := by
        simp only [Convention.wordToken, hlower, hkeyword, ite_self]
      rw [partChars, if_neg (by simp [hneeds]), ← htoken]
      exact lexes_word hpart

/-- The names of a path, quoted or not, with dots between them. -/
theorem lexes_parts (first : List Char) (others : List (List Char))
    (hparts : (first :: others).all isWord = true) :
    Lexes dialect values bound
      (['.'].intercalate ((first :: others).map (partChars (convention dialect).quote))) bound
      ([.symbol .dot].intercalate ((first :: others).map fun part => [.name (.ofList part)])) := by
  induction others generalizing first with
  | nil => simpa using lexes_part (by simpa using hparts)
  | cons second others ih =>
      obtain ⟨hfirst, hothers⟩ : isWord first = true ∧ (second :: others).all isWord = true := by
        simpa using hparts
      have hpath := (lexes_part hfirst).append_dot (ih second hothers)
      rw [List.map_cons] at hpath
      simpa [List.intercalate_cons_cons] using hpath

/-! ## Placeholders and operators -/

/-- A placeholder is the mark and what is needed to find its position. -/
theorem position?_placeholder (bound : Nat) {rest : List Char} (hrest : Ends rest) :
    ∃ digits, (dialect.dialect.placeholder (bound + 1)).toList =
        (convention dialect).mark :: digits ∧
      (convention dialect).position? bound (digits ++ rest) = some (bound + 1, rest) := by
  cases dialect with
  | postgres =>
      have hdigits : ∀ c ∈ Text.natChars (bound + 1), Text.isDigit c = true :=
        fun c => Text.isDigit_of_mem_natChars
      refine ⟨Text.natChars (bound + 1), ?_, ?_⟩
      · simp [DialectName.dialect, Dialect.postgres, Text.natText, convention]
      · rw [Convention.position?, if_pos (by decide), List.takeWhile_append_of_pos hdigits,
          List.dropWhile_append_of_pos hdigits, takeWhile_of_ends hrest rfl,
          dropWhile_of_ends hrest rfl, List.append_nil, Text.natOfChars?_natChars,
          Option.map_some]
  | mysql =>
      refine ⟨[], ?_, ?_⟩
      · simp [DialectName.dialect, Dialect.mysql, convention]
      · rw [Convention.position?, if_neg (by decide), List.nil_append]

/-- The placeholder of the next position is the value that is bound there. -/
theorem lexes_placeholder {v : Value} (hv : values[bound]? = some v) :
    Lexes dialect values bound (dialect.dialect.placeholder (bound + 1)).toList (bound + 1)
      [.value v] := by
  have hspace : (convention dialect).mark ≠ ' ' := by cases dialect <;> decide
  have hstart : ¬isWordStart (convention dialect).mark = true := by cases dialect <;> decide
  have hquote : (convention dialect).mark ≠ (convention dialect).quote := by
    cases dialect <;> decide
  intro rest hrest
  obtain ⟨digits, htext, hposition⟩ := position?_placeholder bound hrest
  have htoken : token? (convention dialect) values bound (convention dialect).mark
      (digits ++ rest) = some (.value v, rest) := by
    rw [token?, if_neg hstart, if_neg hquote, if_pos rfl, hposition]
    simp [valueAt?, hv]
  rw [htext, List.cons_append, lex_cons hspace htoken]
  rfl

/-- An operator is not mistaken for the beginning of a longer one. -/
theorem symbol?_comparison (c : Comparison) {rest : List Char} (hrest : Ends rest) :
    ∃ first others, c.text.toList = first :: others ∧ first ∈ ['=', '<', '>'] ∧
      symbol? first (others ++ rest) = some (.comparison c, rest) := by
  have halone (first : Char) (s : Symbol) (hnil : symbol? first [] = some (s, []))
      (hcons : ∀ d ∈ endChars, ∀ ds, symbol? first (d :: ds) = some (s, d :: ds)) :
      symbol? first rest = some (s, rest) := by
    cases rest with
    | nil => exact hnil
    | cons d ds => exact hcons d (hrest d rfl) ds
  cases c with
  | equal => exact ⟨'=', [], by simp [Comparison.text], by simp, rfl⟩
  | unequal => exact ⟨'<', ['>'], by simp [Comparison.text], by simp, rfl⟩
  | less =>
      refine ⟨'<', [], by simp [Comparison.text], by simp, halone _ _ rfl ?_⟩
      simp [endChars, symbol?]
  | atMost => exact ⟨'<', ['='], by simp [Comparison.text], by simp, rfl⟩
  | greater =>
      refine ⟨'>', [], by simp [Comparison.text], by simp, halone _ _ rfl ?_⟩
      simp [endChars, symbol?]
  | atLeast => exact ⟨'>', ['='], by simp [Comparison.text], by simp, rfl⟩

theorem lexes_comparison (c : Comparison) :
    Lexes dialect values bound c.text.toList bound [.symbol (.comparison c)] := by
  intro rest hrest
  obtain ⟨first, others, htext, hfirst, hsymbol⟩ := symbol?_comparison c hrest
  have hspace : first ≠ ' ' := by
    rintro rfl
    exact absurd hfirst (by decide)
  have htoken : token? (convention dialect) values bound first (others ++ rest) =
      some (.symbol (.comparison c), rest) := by
    rw [token?_symbol (List.mem_append_right ['.', ',', '(', ')'] hfirst), hsymbol,
      Option.map_some]
  rw [htext, List.cons_append, lex_cons hspace htoken]
  rfl

end BoundSql.Sql

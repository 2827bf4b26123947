/-!
# Decimal digits

Numerals in base ten: writing naturals and integers, padding with zeros on the left, and
the value of a run of digits.
-/

namespace BoundSql.Text

/-- The digits of a natural number, without leading zeros. -/
def natChars (n : Nat) : List Char :=
  Nat.toDigits 10 n

/-- The digits of a natural number behind as many zeros as make `width` characters. -/
def paddedChars (width n : Nat) : List Char :=
  List.replicate (width - (natChars n).length) '0' ++ natChars n

/-- The digits of the magnitude, behind a minus sign for a negative number. -/
def intChars : Int → List Char
  | .ofNat n => natChars n
  | .negSucc n => '-' :: natChars (n + 1)

/-- The decimal text of a natural number. -/
def natText (n : Nat) : String :=
  .ofList (natChars n)

/-- The decimal text of an integer. -/
def intText (n : Int) : String :=
  .ofList (intChars n)

/-- One of the ten digits of ASCII. -/
def isDigit (c : Char) : Bool :=
  '0' ≤ c && c ≤ '9'

/-- What a digit counts. -/
def digitValue (c : Char) : Nat :=
  c.toNat - '0'.toNat

/-- The number that a run of digits writes; the first digit weighs most. -/
def digitsValue (cs : List Char) : Nat :=
  cs.foldl (fun n c => 10 * n + digitValue c) 0

/-- The number that a whole text of one or more digits writes. -/
def natOfChars? (cs : List Char) : Option Nat :=
  if cs ≠ [] && cs.all isDigit then some (digitsValue cs) else none

/-- The leading digits, at most `most` of them, and what follows. -/
def spanDigits : (most : Nat) → List Char → List Char × List Char
  | 0, cs => ([], cs)
  | _ + 1, [] => ([], [])
  | most + 1, c :: cs =>
    if isDigit c then
      let (digits, rest) := spanDigits most cs
      (c :: digits, rest)
    else ([], c :: cs)

/-- The digits and what follows are the whole text. -/
theorem spanDigits_append (most : Nat) (cs : List Char) :
    (spanDigits most cs).1 ++ (spanDigits most cs).2 = cs := by
  induction most generalizing cs with
  | zero => rfl
  | succ most ih =>
    cases cs with
    | nil => rfl
    | cons c cs =>
      simp only [spanDigits]
      split
      · simp [ih cs]
      · rfl

/-- The text of a number is made of digits. -/
theorem isDigit_of_mem_natChars {n : Nat} {c : Char} (hc : c ∈ natChars n) :
    isDigit c = true := by
  have hdigit := Nat.isDigit_of_mem_toDigits (by decide) (by decide) hc
  simpa [Char.isDigit, isDigit, Char.le_def] using hdigit

/-- The number that the text of a number writes is that number. -/
theorem natOfChars?_natChars (n : Nat) : natOfChars? (natChars n) = some n := by
  have hdigits : (natChars n).all isDigit = true :=
    List.all_eq_true.mpr fun _ => isDigit_of_mem_natChars
  have hvalue : digitsValue (natChars n) = n := Nat.ofDigitChars_ten_toDigits
  have hne : natChars n ≠ [] := Nat.toDigits_ne_nil
  rw [natOfChars?, hdigits, hvalue]
  simp [hne]

end BoundSql.Text

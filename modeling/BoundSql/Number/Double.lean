import BoundSql.Number.Format

/-!
# Double and single precision

A `Double` is its eight-byte word, so two of them are equal when their words are. Numbers come in
from integers and quotients by one rounding, and from single precision without loss.
-/

namespace BoundSql.Number

/-- An eight-byte floating-point number. -/
structure Double where
  word : UInt64
deriving DecidableEq, Repr, Inhabited

/-- A four-byte floating-point number. -/
structure Single where
  word : UInt32
deriving DecidableEq, Repr, Inhabited

namespace Double

/-- What the word stands for. -/
def datum (x : Double) : Datum :=
  Format.double.decode x.word.toNat

/-- The word that stands for no number. -/
def nan : Double := ⟨0x7FF8000000000000⟩

/-- Whether the word stands for no number. -/
def isNaN (x : Double) : Bool :=
  match x.datum with
  | .nan .. => true
  | _ => false

/-- Whether the word stands for a number, infinities excluded. -/
def isFinite (x : Double) : Bool :=
  match x.datum with
  | .finite .. => true
  | _ => false

/-- The number nearest to a quotient, with a sign. -/
def ofRatio (negative : Bool) (num den : Nat) : Double :=
  ⟨.ofNat (Format.double.signed negative (Format.double.nearest num den))⟩

/-- The number nearest to an integer. -/
def ofInt (n : Int) : Double :=
  ofRatio (n < 0) n.natAbs 1

/-- Every number of single precision is one of double precision. -/
def ofSingle (x : Single) : Double :=
  ⟨.ofNat (Format.single.convert Format.double x.word.toNat)⟩

/-- The nearest number of single precision. -/
def toSingle (x : Double) : Single :=
  ⟨.ofNat (Format.double.convert Format.single x.word.toNat)⟩

/-- The magnitude of a finite number as a quotient; zero for the others. -/
def magnitude (x : Double) : Nat × Nat :=
  match x.datum with
  | .finite _ units power => ratio units power
  | _ => (0, 1)

/-- The magnitude of a product, rounded once. -/
def mul (x y : Double) : Double :=
  ofRatio false (x.magnitude.1 * y.magnitude.1) (x.magnitude.2 * y.magnitude.2)

/-- The magnitude of a quotient, rounded once. -/
def div (x y : Double) : Double :=
  ofRatio false (x.magnitude.1 * y.magnitude.2) (x.magnitude.2 * y.magnitude.1)

/-- The number with the other sign. -/
def neg (x : Double) : Double :=
  ⟨x.word ^^^ 0x8000000000000000⟩

end Double

/-- The single-precision number nearest to an integer. -/
def Single.ofInt (n : Int) : Single :=
  ⟨.ofNat (Format.single.signed (n < 0) (Format.single.nearest n.natAbs 1))⟩

end BoundSql.Number

/-!
# Big-endian bytes

Numbers as a fixed count of bytes, the most significant first.
-/

namespace BoundSql.Number

/-- The last `width` bytes of a number. -/
def bytesOf : (width : Nat) → Nat → List UInt8
  | 0, _ => []
  | width + 1, n => bytesOf width (n / 256) ++ [.ofNat (n % 256)]

/-- The number that bytes make. -/
def ofBytes (bytes : List UInt8) : Nat :=
  bytes.foldl (fun n b => 256 * n + b.toNat) 0

/-- The number that just so many bytes make. -/
def ofBytes? (width : Nat) (bytes : List UInt8) : Option Nat :=
  if bytes.length = width then some (ofBytes bytes) else none

/-- There are as many bytes as asked for. -/
theorem length_bytesOf (width n : Nat) : (bytesOf width n).length = width := by
  induction width generalizing n with
  | zero => rfl
  | succ width ih => simp [bytesOf, ih]

/-- The bytes make the number again, if it fits. -/
theorem ofBytes_bytesOf (width n : Nat) : ofBytes (bytesOf width n) = n % Nat.pow 256 width := by
  induction width generalizing n with
  | zero => simp [bytesOf, ofBytes, Nat.mod_one]
  | succ width ih =>
    have hlast : (UInt8.ofNat (n % 256)).toNat = n % 256 := by simp
    have hrest := ih (n / 256)
    unfold ofBytes at hrest ⊢
    rw [bytesOf, List.foldl_append, hrest, List.foldl_cons, List.foldl_nil, hlast,
      Nat.pow_eq, Nat.pow_eq, Nat.pow_succ', Nat.mod_mul, Nat.add_comm]

end BoundSql.Number

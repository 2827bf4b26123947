/-!
# Streams

A stream is pulled. A pull makes of a state an item and the state for the next pull, or finds that
there is no item. Without a state for the next pull the stream has ended, and nothing is done for
further pulls.
-/

namespace BoundSql

/-- One pull of a stream with states `σ` and items `α`. -/
abbrev Pull (m : Type → Type) (σ α : Type) :=
  σ → m (Option (α × Option σ))

/-- What came of some pulls: the items, and whether a pull found that the stream has ended. -/
structure Pulled (α : Type) where
  items : List α
  ended : Bool
deriving Inhabited

/-- Up to so many pulls; the first that finds the end is the last. -/
def Pull.take {m : Type → Type} [Monad m] {σ α : Type} (pull : Pull m σ α) :
    Nat → Option σ → m (Pulled α)
  | 0, _ => return ⟨[], false⟩
  | _ + 1, none => return ⟨[], true⟩
  | n + 1, some s => do
    match ← pull s with
    | none => return ⟨[], true⟩
    | some (item, next) =>
      let rest ← Pull.take pull n next
      return ⟨item :: rest.items, rest.ended⟩

end BoundSql

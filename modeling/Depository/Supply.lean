/-!
# Supplies

Values that come from outside, one after another: fresh identities, readings of the clock,
random draws. A supply knows how many values have been taken from it.
-/

namespace Depository

/-- An endless sequence of values and the number of those already taken. -/
structure Supply (α : Type) where
  stream : Nat → α
  taken : Nat

namespace Supply

variable {α : Type}

/-- The value that will be taken after `n` others. -/
def ahead (s : Supply α) (n : Nat) : α := s.stream (s.taken + n)

/-- The value that will be taken next. -/
def next (s : Supply α) : α := s.ahead 0

/-- The supply after `n` values have been taken. -/
def drop (s : Supply α) (n : Nat) : Supply α := { s with taken := s.taken + n }

theorem ahead_drop (s : Supply α) (n m : Nat) : (s.drop n).ahead m = s.ahead (n + m) := by
  simp [ahead, drop, Nat.add_assoc]

end Supply

end Depository

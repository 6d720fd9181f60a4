/-!
# Digits

The digits of bases up to sixteen, in either case, and the numbers that they denote.
-/

namespace TopicGate.Text

/-- The value of a digit. -/
def digitValue? (c : Char) : Option Nat :=
  if c.isDigit then some (c.toNat - '0'.toNat)
  else if 'a' ≤ c ∧ c ≤ 'f' then some (c.toNat - 'a'.toNat + 10)
  else if 'A' ≤ c ∧ c ≤ 'F' then some (c.toNat - 'A'.toNat + 10)
  else none

def isDigitOf (base : Nat) (c : Char) : Bool := (digitValue? c).any (· < base)

/-- The number that digits denote, most significant first. -/
def natOfDigits (base : Nat) (digits : List Char) : Nat :=
  digits.foldl (fun n c => n * base + (digitValue? c).getD 0) 0

/-- One more digit counts for itself, and moves those before it up by one place. -/
theorem natOfDigits_concat (base : Nat) (digits : List Char) (c : Char) :
    natOfDigits base (digits ++ [c]) =
      natOfDigits base digits * base + (digitValue? c).getD 0 := by
  simp [natOfDigits]

end TopicGate.Text

/-!
# Numerals over an alphabet

A number is written in the base given by the size of an alphabet, most significant symbol first.
Reading refuses symbols outside the alphabet and values of more than 64 bits.
-/

namespace TopicGate.Identity

/-- The symbols of `n`, most significant first; zero is the single first symbol. -/
def numeral (alphabet : List Char) (n : Nat) : List Char :=
  -- Fewer than two symbols make no base; their only numeral is the first of them.
  if _h : n < alphabet.length ∨ alphabet.length < 2 then [alphabet.getD n '0']
  else
    numeral alphabet (n / alphabet.length) ++ [alphabet.getD (n % alphabet.length) '0']
termination_by n
decreasing_by exact Nat.div_lt_self (by omega) (by omega)

/-- Appends one symbol to a numeral with value `before`; `none` when the symbol is foreign or the
value outgrows 64 bits. -/
def appendSymbol? (alphabet : List Char) (before : Nat) (symbol : Char) : Option Nat := do
  let position ← alphabet.idxOf? symbol
  let value := before * alphabet.length + position
  if value < UInt64.size then some value else none

/-- The value of a numeral, zero for the empty one. -/
def numeralValue? (alphabet : List Char) (symbols : List Char) : Option Nat :=
  symbols.foldlM (appendSymbol? alphabet) 0

end TopicGate.Identity

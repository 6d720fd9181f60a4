/-!
# Keyed shuffles

A shuffle permutes a sequence by swaps that a key decides: position by position from the end, the
symbol there changes places with one before it.  The same key always gives the same permutation,
and an empty key leaves the sequence as it is.

## Main statements
* `shuffle_perm`: a shuffle only reorders.
* `length_shuffle`: it keeps the length.
-/

namespace TopicGate.Identity

variable {α : Type}

/-- Swaps the positions from `i` down to one.  `v` walks around the key, and `p` sums the key values
met so far. -/
def shuffleFrom (key : Array Nat) : (i v p : Nat) → Array α → Array α
  | 0, _, _, xs => xs
  | i + 1, v, p, xs =>
    let v := v % key.size
    let k := key.getD v 0
    let p := p + k
    -- Position `j` lies before position `i + 1`, so every swap is within bounds.
    let j := (k + v + p) % (i + 1)
    shuffleFrom key i (v + 1) p (xs.swapIfInBounds (i + 1) j)

/-- Permutes `xs` as the key says. -/
def shuffle (key : List Nat) (xs : List α) : List α :=
  if key = [] then xs
  else (shuffleFrom key.toArray (xs.length - 1) 0 0 xs.toArray).toList

theorem swapIfInBounds_perm (xs : Array α) (i j : Nat) : (xs.swapIfInBounds i j).Perm xs := by
  rw [Array.swapIfInBounds_def]
  split
  · split
    · exact Array.swap_perm _ _
    · exact Array.Perm.refl _
  · exact Array.Perm.refl _

theorem shuffleFrom_perm (key : Array Nat) (i v p : Nat) (xs : Array α) :
    (shuffleFrom key i v p xs).Perm xs := by
  induction i generalizing v p xs with
  | zero => exact Array.Perm.refl _
  | succ i ih => exact (ih _ _ _).trans (swapIfInBounds_perm _ _ _)

/-- A shuffle only reorders. -/
theorem shuffle_perm (key : List Nat) (xs : List α) : (shuffle key xs).Perm xs := by
  unfold shuffle
  split
  · exact List.Perm.refl _
  · exact (shuffleFrom_perm _ _ _ _ _).toList

@[simp] theorem length_shuffle (key : List Nat) (xs : List α) :
    (shuffle key xs).length = xs.length :=
  (shuffle_perm key xs).length_eq

end TopicGate.Identity

import TopicGate.Account.Timestamp
import Mathlib.Data.List.Induction

/-!
# Written timestamps

A timestamp is read back from its text, whatever its year and its fraction of a second.

## Main statements
* `Timestamp.number?_padded`: a number is read up to the mark behind it.
* `Timestamp.read?_text`: what is written of a moment is read as that moment.
-/

namespace TopicGate

namespace Timestamp

/-- The moments that there are. -/
structure IsValid (t : Timestamp) : Prop where
  day : t.day.isValid = true
  hour : t.hour < 24
  minute : t.minute < 60
  second : t.second ≤ 60
  nanosecond : t.nanosecond < 1000000000

/-! ## §1 Padded numbers -/

theorem isDigit_of_mem_padded {width n : Nat} {c : Char} (h : c ∈ padded width n) :
    c.isDigit = true := by
  rw [padded, List.mem_append] at h
  rcases h with h | h
  · rw [List.eq_of_mem_replicate h]
    rfl
  · exact Nat.isDigit_of_mem_toDigits (by simp) (by simp) h

theorem padded_ne_nil (width n : Nat) : padded width n ≠ [] := by
  simp [padded, Nat.toDigits_ne_nil]

theorem length_padded {width n : Nat} (hwidth : 0 < width)
    (h : n < Nat.pow 10 width) : (padded width n).length = width := by
  have hlength : (Nat.toDigits 10 n).length ≤ width :=
    (Nat.length_toDigits_le_iff (by simp) hwidth).mpr h
  simp [padded]
  omega

/-- The number that decimal digits denote is that of the library. -/
theorem natOfDigits_eq_ofDigitChars {digits : List Char} (h : ∀ c ∈ digits, c.isDigit = true) :
    Text.natOfDigits 10 digits = Nat.ofDigitChars 10 digits 0 := by
  induction digits using List.reverseRecOn with
  | nil => rfl
  | append_singleton digits c ih =>
    have hdigit : c.isDigit = true := h c (by simp)
    rw [Text.natOfDigits_concat, ih fun d hd => h d (by simp [hd]), Nat.ofDigitChars_append]
    simp [Nat.ofDigitChars_cons, Text.digitValue?, hdigit, Nat.mul_comm]

theorem natOfDigits_padded (width n : Nat) : Text.natOfDigits 10 (padded width n) = n := by
  rw [natOfDigits_eq_ofDigitChars fun _ => isDigit_of_mem_padded, padded, Nat.ofDigitChars_append,
    Nat.ofDigitChars_replicate_zero, Nat.mul_zero]
  exact Nat.ofDigitChars_toDigits (by simp) (by simp)

/-! ## §2 Reading numbers back -/

theorem isBlank_of_isDigit {c : Char} (h : c.isDigit = true) : Text.isBlank c = false := by
  have hle : 48 ≤ c.toNat ∧ c.toNat ≤ 57 := by
    simpa [Char.isDigit, UInt32.le_iff_toNat_le] using h
  simp [Text.isBlank]
  omega

/-- The digits of a number end at the first other character. -/
theorem takeWhile_padded {width n most : Nat} {mark : Char} (rest : List Char)
    (hmost : (padded width n).length ≤ most) (hmark : mark.isDigit = false) :
    ((padded width n ++ mark :: rest).take most).takeWhile Char.isDigit = padded width n := by
  rw [List.take_append, List.take_of_length_le hmost,
    List.takeWhile_append_of_pos fun _ => isDigit_of_mem_padded]
  cases most - (padded width n).length <;> simp [hmark]

theorem number?_padded {width n most : Nat} {mark : Char} (rest : List Char)
    (hmost : (padded width n).length ≤ most) (hmark : mark.isDigit = false) :
    number? most (padded width n ++ mark :: rest) = some (n, mark :: rest) := by
  simp [number?, takeWhile_padded rest hmost hmark, padded_ne_nil, natOfDigits_padded]

theorem skipBlanks_padded (width n : Nat) (rest : List Char) :
    skipBlanks (padded width n ++ rest) = padded width n ++ rest := by
  obtain ⟨c, digits, hdigits⟩ := List.exists_cons_of_ne_nil (padded_ne_nil width n)
  have hdigit : c.isDigit = true := isDigit_of_mem_padded (by rw [hdigits]; simp)
  simp [skipBlanks, hdigits, isBlank_of_isDigit hdigit]

theorem field?_padded {low high n : Nat} {mark : Char} {rest : List Char} (hlow : low ≤ n)
    (hhigh : n ≤ high) (hn : n < 100) (hmark : mark.isDigit = false) :
    field? low high (padded 2 n ++ mark :: rest) = some (n, mark :: rest) := by
  have hmost : (padded 2 n).length ≤ 2 := Nat.le_of_eq (length_padded (by simp) hn)
  simp [field?, skipBlanks_padded, number?_padded rest hmost hmark, hlow, hhigh]

theorem afterMark?_cons {mark : Char} {rest : List Char} (h : Text.isBlank mark = false) :
    afterMark? mark (mark :: rest) = some rest := by
  simp [afterMark?, skipBlanks, h]

/-! ## §3 Reading dates and times back -/

theorem year?_of_isDigit {c : Char} {rest : List Char} (h : c.isDigit = true) :
    year? (c :: rest) = (number? 4 (c :: rest)).map fun (n, rest) => ((n : Int), rest) := by
  have hskip : skipBlanks (c :: rest) = c :: rest := by simp [skipBlanks, isBlank_of_isDigit h]
  rw [year?, hskip]
  split
  · next heq =>
    cases heq
    simp at h
  · next heq =>
    cases heq
    simp at h
  · rfl

/-- A year is read from its four digits, or from all of them behind a sign. -/
theorem year?_yearText (year : Int) (rest : List Char) :
    year? (yearText year ++ '-' :: rest) = some (year, '-' :: rest) := by
  have hmark : Char.isDigit '-' = false := by simp
  have hsigned : number? (padded 4 year.natAbs ++ '-' :: rest).length
      (padded 4 year.natAbs ++ '-' :: rest) = some (year.natAbs, '-' :: rest) :=
    number?_padded rest (by simp) hmark
  rw [yearText]
  split_ifs with hfour hneg
  · have hmost : (padded 4 year.toNat).length ≤ 4 :=
      Nat.le_of_eq (length_padded (by simp) (by simp only [Nat.pow_eq]; omega))
    have hread := number?_padded rest hmost hmark
    obtain ⟨c, digits, hdigits⟩ := List.exists_cons_of_ne_nil (padded_ne_nil 4 year.toNat)
    have hdigit : c.isDigit = true := isDigit_of_mem_padded (by rw [hdigits]; simp)
    rw [hdigits, List.cons_append] at hread
    have hyear : (year.toNat : Int) = year := by omega
    simp only [hdigits, List.cons_append, year?_of_isDigit hdigit, hread, Option.map_some, hyear]
  · have hskip : ∀ cs, skipBlanks ('-' :: cs) = '-' :: cs := fun cs => rfl
    have hyear : -(year.natAbs : Int) = year := by omega
    simp only [List.cons_append, year?, hskip, hsigned, Option.map_some, hyear]
  · have hskip : ∀ cs, skipBlanks ('+' :: cs) = '+' :: cs := fun cs => rfl
    have hyear : (year.natAbs : Int) = year := by omega
    simp only [List.cons_append, year?, hskip, hsigned, Option.map_some, hyear]

theorem day?_written {d : Day} {rest : List Char} (h : d.isValid = true) :
    day? (yearText d.year ++ '-' :: (padded 2 d.month ++ '-' :: (padded 2 d.day ++ 'T' :: rest))) =
      some (d, 'T' :: rest) := by
  have hbounds : 1 ≤ d.month ∧ d.month ≤ 12 ∧ 1 ≤ d.day ∧ d.day ≤ 31 := by
    have hdays : Day.daysOf d.year d.month ≤ 31 := by
      unfold Day.daysOf
      split_ifs <;> omega
    simp [Day.isValid] at h
    omega
  obtain ⟨hlow, hhigh, hfirst, hlast⟩ := hbounds
  have hdash : Text.isBlank '-' = false := by simp [Text.isBlank]
  have hmonth : ∀ rest, field? 1 12 (padded 2 d.month ++ '-' :: rest) = some (d.month, '-' :: rest) :=
    fun rest => field?_padded hlow hhigh (by omega) (by simp)
  have hday : field? 1 31 (padded 2 d.day ++ 'T' :: rest) = some (d.day, 'T' :: rest) :=
    field?_padded hfirst hlast (by omega) (by simp)
  simp only [day?, bind, Option.bind_some, year?_yearText, afterMark?_cons hdash, hmonth, hday]
  simp [h]

/-- The digits of a fraction stand for billionths. -/
theorem fraction?_written {width n : Nat} (hwidth : 0 < width) (hmost : width ≤ 9)
    (h : n < Nat.pow 10 width) :
    fraction? ('.' :: (padded width n ++ ['Z'])) = some (n * Nat.pow 10 (9 - width), ['Z']) := by
  have hlength : (padded width n).length = width := length_padded hwidth h
  have htake := takeWhile_padded [] (Nat.le_trans (Nat.le_of_eq hlength) hmost)
    (by simp : Char.isDigit 'Z' = false)
  simp [fraction?, htake, padded_ne_nil, natOfDigits_padded, hlength]

/-- A fraction is read from its three, six or nine digits, or from none. -/
theorem fraction?_fractionText {nanosecond : Nat} (h : nanosecond < 1000000000) :
    fraction? (fractionText nanosecond ++ ['Z']) = some (nanosecond, ['Z']) := by
  unfold fractionText
  split_ifs with hzero hmilli hmicro
  · simp [fraction?, hzero]
  · have hlt : nanosecond / 1000000 < Nat.pow 10 3 := by
      simp only [Nat.pow_eq]
      omega
    rw [List.cons_append, fraction?_written (by simp) (by simp) hlt]
    simp
    omega
  · have hlt : nanosecond / 1000 < Nat.pow 10 6 := by
      simp only [Nat.pow_eq]
      omega
    rw [List.cons_append, fraction?_written (by simp) (by simp) hlt]
    simp
    omega
  · have hlt : nanosecond < Nat.pow 10 9 := by
      simp only [Nat.pow_eq]
      omega
    rw [List.cons_append, fraction?_written (by simp) (by simp) hlt]
    simp

/-- A time in universal time needs no conversion. -/
theorem ofLocal_zero {t : Timestamp} (hhour : t.hour < 24) (hminute : t.minute < 60) :
    ofLocal t 0 = t := by
  have hminutes : ((t.hour : Int) * 60 + t.minute) % 1440 = (t.hour : Int) * 60 + t.minute := by
    omega
  have hhours : (t.hour * 60 + t.minute) / 60 = t.hour := by omega
  have hrest : (t.hour * 60 + t.minute) % 60 = t.minute := by omega
  have hday : ¬ ((t.hour : Int) * 60 + t.minute < 0) ∧
      ¬ (1440 ≤ (t.hour : Int) * 60 + t.minute) := by
    omega
  have htoNat : ((t.hour : Int) * 60 + t.minute).toNat = t.hour * 60 + t.minute := by omega
  simp [ofLocal, hminutes, hday.1, hday.2, htoNat, hhours, hrest]

/-- **Written timestamps are read back.** -/
theorem read?_text {t : Timestamp} (h : t.IsValid) : read? t.text = some t := by
  obtain ⟨hday, hhour, hminute, hsecond, hnanosecond⟩ := h
  have htext : t.text.toList = yearText t.day.year ++ '-' :: (padded 2 t.day.month ++
      '-' :: (padded 2 t.day.day ++ 'T' :: (padded 2 t.hour ++ ':' :: (padded 2 t.minute ++
      ':' :: (padded 2 t.second ++ (fractionText t.nanosecond ++ ['Z'])))))) := by
    simp [text]
  -- The seconds end at the fraction, or at the zone where there is none.
  obtain ⟨mark, rest, hmark, hrest⟩ : ∃ mark rest, Char.isDigit mark = false ∧
      fractionText t.nanosecond ++ ['Z'] = mark :: rest := by
    unfold fractionText
    split_ifs <;> simp
  have hfraction := fraction?_fractionText hnanosecond
  rw [hrest] at hfraction htext
  have hcolon : Text.isBlank ':' = false := by simp [Text.isBlank]
  have hreadHour : ∀ rest,
      field? 0 23 (padded 2 t.hour ++ ':' :: rest) = some (t.hour, ':' :: rest) :=
    fun rest => field?_padded (by simp) (by omega) (by omega) (by simp)
  have hreadMinute : ∀ rest,
      field? 0 59 (padded 2 t.minute ++ ':' :: rest) = some (t.minute, ':' :: rest) :=
    fun rest => field?_padded (by simp) (by omega) (by omega) (by simp)
  have hreadSecond :
      field? 0 60 (padded 2 t.second ++ mark :: rest) = some (t.second, mark :: rest) :=
    field?_padded (by simp) hsecond (by omega) hmark
  have hoffset : offset? (skipBlanks ['Z']) = some (0, []) := by decide
  have hyear : Day.hasYear t.day.year = true := by
    simp only [Day.isValid, Bool.and_eq_true] at hday
    exact hday.1.1.1.1
  simp only [read?, htext, bind, Option.bind_some, day?_written hday, afterMark?_cons hcolon,
    hreadHour, hreadMinute, hreadSecond, hfraction, hoffset, ofLocal_zero hhour hminute]
  simp [skipBlanks, hyear]

end Timestamp

end TopicGate

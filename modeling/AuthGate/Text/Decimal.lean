namespace AuthGate.Decimal

/-- The decimal digits of a number, most significant first. Zero is one digit. -/
def digits (n : Nat) : List Char := Nat.toDigits 10 n

/-- The number that a list of decimal digits writes, leading zeros allowed. -/
def value (ds : List Char) : Nat := Nat.ofDigitChars 10 ds 0

theorem value_digits (n : Nat) : value (digits n) = n := Nat.ofDigitChars_ten_toDigits

theorem isDigit_of_mem_digits {n : Nat} {c : Char} (h : c ∈ digits n) : c.isDigit :=
  Nat.isDigit_of_mem_toDigits (by decide) (by decide) h

theorem digits_ne_nil (n : Nat) : digits n ≠ [] := Nat.toDigits_ne_nil

/-- The digits of a number behind as many zeros as a least width asks for. -/
def padded (width n : Nat) : List Char :=
  List.replicate (width - (digits n).length) '0' ++ digits n

theorem value_padded (width n : Nat) : value (padded width n) = n := by
  unfold value padded
  rw [Nat.ofDigitChars_append, Nat.ofDigitChars_replicate_zero, Nat.mul_zero]
  exact value_digits n

/-- Drops the zeros at the end of a list of digits. -/
def dropTrailingZeros (ds : List Char) : List Char :=
  (ds.reverse.dropWhile (· == '0')).reverse

/-- The digits of `nanos` as a fraction of `10 ^ places`, without zeros at the
end. A whole number has none. -/
def fraction (places nanos : Nat) : List Char := dropTrailingZeros (padded places nanos)

/-- An integer with a sign only when it is negative. -/
def signed (n : Int) : String := toString n

/-- An integer, if it fits in 64 bits with a sign. -/
def inWord? (n : Int) : Option Int :=
  if -0x8000_0000_0000_0000 ≤ n ∧ n < 0x8000_0000_0000_0000 then some n else none

/-- The number a text of decimal digits writes. Signs, separators and the empty
text are refused. -/
def ofDigits? (cs : List Char) : Option Nat :=
  if cs ≠ [] ∧ cs.all Char.isDigit then some (value cs) else none

theorem ofDigits?_digits (n : Nat) : ofDigits? (digits n) = some n := by
  unfold ofDigits?
  rw [if_pos ⟨digits_ne_nil n, List.all_eq_true.2 fun c h => isDigit_of_mem_digits h⟩,
    value_digits]

end AuthGate.Decimal

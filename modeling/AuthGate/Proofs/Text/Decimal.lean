import AuthGate.Text.Decimal

namespace AuthGate.Decimal

/-- No number but zero is written with a zero in front. -/
theorem head?_digits_ne_zero {n : Nat} (h : 0 < n) : (digits n).head? ≠ some '0' := by
  induction n using Nat.strongRecOn with
  | ind n ih =>
    unfold digits at ih ⊢
    rw [Nat.toDigits_eq_if (by decide)]
    split
    · next hlt =>
      have hdigit : ∀ m < 10, 0 < m → [m.digitChar].head? ≠ some '0' := by decide
      exact hdigit n hlt h
    · next hge =>
      rw [List.head?_append, List.head?_eq_some_head Nat.toDigits_ne_nil, Option.some_or,
        ← List.head?_eq_some_head]
      exact ih (n / 10) (by omega) (by omega)

/-- What is ahead of a written number: its first digit, which is zero only if
that is the whole number. -/
theorem digits_cases (n : Nat) :
    (n = 0 ∧ digits n = ['0']) ∨
      ∃ d ds, digits n = d :: ds ∧ d ≠ '0' ∧ d.isDigit = true := by
  rcases Nat.eq_zero_or_pos n with rfl | hpos
  · exact .inl ⟨rfl, Nat.toDigits_zero 10⟩
  · have hne := head?_digits_ne_zero hpos
    have hdigit := fun d (h : d ∈ digits n) => isDigit_of_mem_digits h
    cases hds : digits n with
    | nil => exact absurd hds (digits_ne_nil n)
    | cons d ds =>
      rw [hds] at hne hdigit
      refine .inr ⟨d, ds, rfl, ?_, hdigit d (List.mem_cons_self ..)⟩
      rintro rfl
      exact hne rfl

theorem exists_digits_cons (n : Nat) :
    ∃ d ds, digits n = d :: ds ∧ d.isDigit = true := by
  rcases digits_cases n with ⟨-, h⟩ | ⟨d, ds, h, -, hdigit⟩
  · exact ⟨'0', [], h, rfl⟩
  · exact ⟨d, ds, h, hdigit⟩

theorem le_ofDigitChars (ds : List Char) (total : Nat) : total ≤ Nat.ofDigitChars 10 ds total := by
  induction ds generalizing total with
  | nil => simp
  | cons d ds ih =>
    rw [Nat.ofDigitChars_cons]
    have := ih (10 * total + (d.toNat - '0'.toNat))
    omega

/-- A digit in front of others is appended to the number read so far. -/
theorem ofDigitChars_cons_value (d : Char) (ds : List Char) (total : Nat) :
    Nat.ofDigitChars 10 (d :: ds) total = Nat.ofDigitChars 10 ds (total * 10 + value [d]) := by
  have hvalue : value [d] = d.toNat - '0'.toNat := by simp [value, Nat.ofDigitChars_cons]
  rw [Nat.ofDigitChars_cons, hvalue, Nat.mul_comm]

theorem isDigit_of_mem_padded {width n : Nat} {c : Char} (h : c ∈ padded width n) :
    c.isDigit = true := by
  rw [padded, List.mem_append] at h
  rcases h with hzero | hdigit
  · rw [List.eq_of_mem_replicate hzero]
    rfl
  · exact isDigit_of_mem_digits hdigit

/-- A number that needs no more digits than a width has is padded to exactly that width. -/
theorem length_padded {width n : Nat} (hwidth : 0 < width) (hfits : n < Nat.pow 10 width) :
    (padded width n).length = width := by
  have hdigits : (digits n).length ≤ width :=
    (Nat.length_toDigits_le_iff (by decide) hwidth).2 hfits
  rw [padded, List.length_append, List.length_replicate, Nat.sub_add_cancel hdigits]

/-- What is dropped at the end is nothing but zeros. -/
theorem exists_dropTrailingZeros_append (ds : List Char) :
    ∃ count, dropTrailingZeros ds ++ List.replicate count '0' = ds := by
  let zeros := ds.reverse.takeWhile (· == '0')
  have hzeros : zeros = List.replicate zeros.length '0' := by
    refine List.eq_replicate_of_mem fun c hc => ?_
    exact beq_iff_eq.1 (List.all_eq_true.1 List.all_takeWhile c hc)
  refine ⟨zeros.length, ?_⟩
  rw [← List.reverse_replicate, ← hzeros, dropTrailingZeros, ← List.reverse_append,
    List.takeWhile_append_dropWhile, List.reverse_reverse]

/-- Zeros at the end are places of a number. -/
theorem value_append_zeros (ds : List Char) (count : Nat) :
    value (ds ++ List.replicate count '0') = value ds * Nat.pow 10 count := by
  unfold value
  rw [Nat.ofDigitChars_append, Nat.ofDigitChars_replicate_zero, Nat.mul_comm]
  rfl

/-- The digits of a fraction give the fraction back when the places that are missing are
filled up. -/
theorem value_fraction {places n : Nat} (hplaces : 0 < places) (hfits : n < Nat.pow 10 places) :
    (fraction places n).length ≤ places ∧
      value (fraction places n) * Nat.pow 10 (places - (fraction places n).length) = n := by
  obtain ⟨count, hzeros⟩ := exists_dropTrailingZeros_append (padded places n)
  have hlength := congrArg List.length hzeros
  rw [length_padded hplaces hfits, List.length_append, List.length_replicate] at hlength
  have hcount : places - (fraction places n).length = count := by
    unfold fraction
    omega
  refine ⟨by unfold fraction; omega, ?_⟩
  rw [hcount, ← value_append_zeros, fraction, hzeros, value_padded]

theorem isDigit_of_mem_fraction {places n : Nat} {c : Char} (h : c ∈ fraction places n) :
    c.isDigit = true := by
  obtain ⟨count, hzeros⟩ := exists_dropTrailingZeros_append (padded places n)
  have hmem : c ∈ padded places n := by
    rw [← hzeros]
    exact List.mem_append_left _ h
  exact isDigit_of_mem_padded hmem

end AuthGate.Decimal

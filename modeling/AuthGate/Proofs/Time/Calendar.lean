import AuthGate.Time.Calendar

namespace AuthGate

namespace Date

/-! ### Years -/

/-- A year has 365 days, and one more if it is a leap year. -/
theorem daysBeforeYear_add_one (year : Int) :
    daysBeforeYear (year + 1) = daysBeforeYear year + if isLeapYear year then 366 else 365 := by
  unfold daysBeforeYear isLeapYear
  split
  · next hleap =>
    simp only [Bool.and_eq_true, Bool.or_eq_true, decide_eq_true_eq] at hleap
    omega
  · next hcommon =>
    simp only [Bool.and_eq_true, Bool.or_eq_true, decide_eq_true_eq, not_and, not_or] at hcommon
    omega

theorem daysBeforeYear_lt {year later : Int} (h : year < later) :
    daysBeforeYear year < daysBeforeYear later := by
  unfold daysBeforeYear
  omega

/-- The average length of a year is wrong by one year at most, on either side of year zero. -/
theorem yearOfDay_spec (n : Int) :
    daysBeforeYear (yearOfDay n) ≤ n ∧ n < daysBeforeYear (yearOfDay n + 1) := by
  have hguess : daysBeforeYear (n * 400 / 146097 - 1) ≤ n ∧
      n < daysBeforeYear (n * 400 / 146097 + 1 + 1) := by
    unfold daysBeforeYear
    omega
  unfold yearOfDay
  dsimp only
  split
  · next hbefore =>
    rw [Int.sub_add_cancel]
    exact ⟨hguess.1, hbefore⟩
  · next hstarted =>
    split
    · next hafter => exact ⟨hafter, hguess.2⟩
    · next hwithin => exact ⟨Int.not_lt.1 hstarted, Int.not_le.1 hwithin⟩

/-- A day is in a given year or later exactly if it is not before the first day of that year. -/
theorem le_yearOfDay_iff (year n : Int) : year ≤ yearOfDay n ↔ daysBeforeYear year ≤ n := by
  obtain ⟨hstarted, hended⟩ := yearOfDay_spec n
  constructor
  · intro hle
    obtain hlt | rfl := Int.lt_or_eq_of_le hle
    · exact Int.le_trans (Int.le_of_lt (daysBeforeYear_lt hlt)) hstarted
    · exact hstarted
  · intro hle
    refine Int.not_lt.1 fun hlt => ?_
    have hnext : daysBeforeYear (yearOfDay n + 1) ≤ daysBeforeYear year := by
      obtain hlater | hsame := Int.lt_or_eq_of_le (Int.add_one_le_of_lt hlt)
      · exact Int.le_of_lt (daysBeforeYear_lt hlater)
      · exact Int.le_of_eq (congrArg daysBeforeYear hsame)
    omega

/-! ### Months -/

private theorem foldl_add (lengths : List Nat) (start : Nat) :
    lengths.foldl (· + ·) start = start + lengths.foldl (· + ·) 0 := by
  induction lengths generalizing start with
  | nil => rfl
  | cons length lengths ih =>
    rw [List.foldl_cons, List.foldl_cons, ih, ih (0 + length)]
    omega

/-- A day that is within the months listed is in one of them, past all months in front. -/
theorem exists_locate {lengths : List Nat} {n : Nat} (hwithin : n < lengths.foldl (· + ·) 0)
    (month : Nat) : ∃ passed day, locate month lengths n = (month + passed, day + 1) ∧
      day < lengths.getD passed 0 ∧ (lengths.take passed).foldl (· + ·) 0 + day = n := by
  induction lengths generalizing month n with
  | nil => exact absurd hwithin (Nat.not_lt_zero n)
  | cons length lengths ih =>
    rw [List.foldl_cons, foldl_add] at hwithin
    unfold locate
    split
    · next hfirst => exact ⟨0, n, rfl, hfirst, Nat.zero_add n⟩
    · next hlater =>
      obtain ⟨passed, day, hlocate, hday, htotal⟩ :=
        ih (n := n - length) (by omega) (month + 1)
      refine ⟨passed + 1, day, ?_, hday, ?_⟩
      · rw [hlocate, Nat.add_assoc, Nat.add_comm 1 passed]
      · rw [List.take_succ_cons, List.foldl_cons, foldl_add]
        omega

theorem length_monthLengths (leap : Bool) : (monthLengths leap).length = 12 := rfl

theorem total_monthLengths (leap : Bool) :
    (monthLengths leap).foldl (· + ·) 0 = if leap then 366 else 365 := by
  cases leap <;> rfl

theorem monthLength_le (year : Int) (month : Nat) : monthLength year month ≤ 31 := by
  have hall : ∀ leap, ∀ length ∈ monthLengths leap, length ≤ 31 := by decide
  unfold monthLength
  split
  · exact Nat.zero_le _
  · rw [List.getD_eq_getElem?_getD]
    cases hlength : (monthLengths (isLeapYear year))[month - 1]? with
    | none => exact Nat.zero_le _
    | some length => exact hall _ length (List.mem_of_getElem? hlength)

/-- The months and days of dates that the calendar has are written with two digits. -/
theorem le_of_isValid {d : Date} (h : d.isValid = true) :
    (1 ≤ d.month ∧ d.month ≤ 12) ∧ 1 ≤ d.day ∧ d.day ≤ 31 := by
  simp only [isValid, Bool.and_eq_true, decide_eq_true_eq] at h
  obtain ⟨⟨hmonth, hstarted⟩, hended⟩ := h
  exact ⟨hmonth, hstarted, Nat.le_trans hended (monthLength_le d.year d.month)⟩

/-! ### Days -/

/-- The date of a count of days: its year, the months that have passed of that year, and the
days that have passed of the month. -/
theorem exists_ofUnixDay (n : Int) :
    ∃ passed day, ofUnixDay n = ⟨yearOfDay (n + unixEpochDay), 1 + passed, day + 1⟩ ∧
      let lengths := monthLengths (isLeapYear (yearOfDay (n + unixEpochDay)))
      day < lengths.getD passed 0 ∧
        daysBeforeYear (yearOfDay (n + unixEpochDay)) +
          ((lengths.take passed).foldl (· + ·) 0 + day : Nat) = n + unixEpochDay := by
  obtain ⟨hstarted, hended⟩ := yearOfDay_spec (n + unixEpochDay)
  rw [daysBeforeYear_add_one] at hended
  have hdate : ofUnixDay n =
      let year := yearOfDay (n + unixEpochDay)
      let found := locate 1 (monthLengths (isLeapYear year))
        (n + unixEpochDay - daysBeforeYear year).toNat
      ⟨year, found.1, found.2⟩ := rfl
  rw [hdate]
  generalize yearOfDay (n + unixEpochDay) = year at hstarted hended ⊢
  dsimp only
  have hwithin : (n + unixEpochDay - daysBeforeYear year).toNat <
      (monthLengths (isLeapYear year)).foldl (· + ·) 0 := by
    rw [total_monthLengths]
    by_cases hleap : isLeapYear year = true
    · rw [if_pos hleap] at hended ⊢
      omega
    · rw [if_neg hleap] at hended ⊢
      omega
  obtain ⟨passed, day, hlocate, hday, htotal⟩ := exists_locate hwithin 1
  refine ⟨passed, day, by rw [hlocate], hday, ?_⟩
  rw [htotal]
  omega

/-- A count of days stands for a date that the calendar has, -/
theorem isValid_ofUnixDay (n : Int) : (ofUnixDay n).isValid = true := by
  obtain ⟨passed, day, hdate, hday, -⟩ := exists_ofUnixDay n
  rw [hdate]
  generalize yearOfDay (n + unixEpochDay) = year at hday ⊢
  have hpassed : passed < 12 := by
    rw [← length_monthLengths (isLeapYear year)]
    refine Nat.lt_of_not_le fun hle => ?_
    rw [List.getD_eq_getElem?_getD, List.getElem?_eq_none hle] at hday
    exact Nat.not_lt_zero day hday
  have hlength : day + 1 ≤ monthLength year (1 + passed) := by
    unfold monthLength
    rw [if_neg (by omega), Nat.add_sub_cancel_left]
    exact hday
  simp only [isValid, Bool.and_eq_true, decide_eq_true_eq]
  omega

/-- and that date stands for the count. -/
theorem toUnixDay_ofUnixDay (n : Int) : (ofUnixDay n).toUnixDay = n := by
  obtain ⟨passed, day, hdate, -, htotal⟩ := exists_ofUnixDay n
  rw [hdate]
  unfold toUnixDay
  dsimp only
  rw [Nat.add_sub_cancel_left, Nat.add_sub_cancel]
  omega

end Date

namespace Instant

variable (t : Instant)

theorem isValid_date : t.date.isValid = true := Date.isValid_ofUnixDay _

theorem secondOfDay_lt : t.secondOfDay < 86400 := by
  unfold secondOfDay
  omega

/-- An instant is a day and the seconds since its start. -/
theorem unixSeconds_eq : t.date.toUnixDay * 86400 + t.secondOfDay = t.unixSeconds := by
  have hday : t.date.toUnixDay = t.unixSeconds / 86400 := Date.toUnixDay_ofUnixDay _
  have hsecond : (t.secondOfDay : Int) = t.unixSeconds % 86400 :=
    Int.toNat_of_nonneg (Int.emod_nonneg _ (by decide))
  omega

/-- The years begin with their first days. -/
theorem le_year_date_iff (year : Int) : year ≤ t.date.year ↔
    (Date.daysBeforeYear year - Date.unixEpochDay) * 86400 * 1_000_000_000 ≤ t.nanos := by
  have hyear : t.date.year = Date.yearOfDay (t.unixSeconds / 86400 + Date.unixEpochDay) := rfl
  have hseconds : t.unixSeconds = t.nanos / 1_000_000_000 := rfl
  rw [hyear, Date.le_yearOfDay_iff]
  omega

/-- The years that instants fall into have four digits at most. -/
theorem year_date_le : t.date.year ≤ 9999 := by
  have hupper := t.upper
  refine Int.le_of_lt_add_one (Int.not_le.1 fun hlate => ?_)
  rw [le_year_date_iff, show Date.daysBeforeYear (9999 + 1) = 3652425 from rfl] at hlate
  unfold Date.unixEpochDay at hlate
  omega

end Instant

end AuthGate

import AuthGate.Proofs.Text.Decimal
import AuthGate.Proofs.Time.Calendar
import AuthGate.Proofs.Time.Instant
import AuthGate.Time.Timestamp

namespace AuthGate

namespace Timestamp

variable {α β : Type}

/-- A step takes `input` down to `rest` and gets `a` from it. -/
def Takes (step : Step α) (input : List Char) (a : α) (rest : List Char) : Prop :=
  step input = .ok (a, rest)

theorem takes_pure (a : α) (input : List Char) : Takes (pure a) input a input := rfl

theorem Takes.bind {step : Step α} {andThen : α → Step β} {input middle rest : List Char} {a : α}
    {b : β} (htake : Takes step input a middle) (hcontinue : Takes (andThen a) middle b rest) :
    Takes (step >>= andThen) input b rest := by
  change (step input >>= fun taken => andThen taken.1 taken.2) = _
  rw [show step input = _ from htake]
  exact hcontinue

/-- The digits of a number are taken as that number, if they fill the width asked for. -/
theorem takes_padded {width n : Nat} (hwidth : 0 < width) (hfits : n < Nat.pow 10 width)
    (name : String) (rest : List Char) :
    Takes (takeDigits width name) (Decimal.padded width n ++ rest) n rest := by
  have hlength := Decimal.length_padded hwidth hfits
  have hdigits : (Decimal.padded width n).all Char.isDigit = true :=
    List.all_eq_true.2 fun c hc => Decimal.isDigit_of_mem_padded hc
  unfold Takes takeDigits
  rw [List.take_left' hlength, List.drop_left' hlength, if_pos ⟨hlength, hdigits⟩,
    Decimal.value_padded]

theorem takes_two {n : Nat} (hfits : n < 100) (name : String) (rest : List Char) :
    Takes (takeDigits 2 name) (Decimal.padded 2 n ++ rest) n rest :=
  takes_padded (by decide) hfits name rest

theorem takes_literal (c : Char) (rest : List Char) :
    Takes (takeLiteral c) (c :: rest) () rest := if_pos rfl

theorem takes_separator (rest : List Char) : Takes takeSeparator ('T' :: rest) () rest := rfl

/-! ### The fraction -/

/-- The fraction of a second as it is written. -/
def fractionChars (nanos : Nat) : List Char :=
  match Decimal.fraction 9 nanos with
  | [] => []
  | ds => '.' :: ds

/-- Without a point there is no fraction. -/
theorem takes_no_fraction {rest : List Char} (hrest : rest.head? ≠ some '.') :
    Takes takeFraction rest 0 rest := by
  unfold Takes takeFraction
  split
  · exact absurd rfl hrest
  · rfl

/-- A point is followed by the digits of the fraction, up to the first other character. -/
theorem takes_digits {ds rest : List Char} (hne : ds ≠ []) (hlength : ds.length ≤ 9)
    (hdigits : ∀ d ∈ ds, d.isDigit = true) (hrest : ∀ c ∈ rest.head?, c.isDigit = false) :
    Takes takeFraction ('.' :: (ds ++ rest)) (Decimal.value ds * Nat.pow 10 (9 - ds.length))
      rest := by
  have hstop : rest.takeWhile Char.isDigit = [] ∧ rest.dropWhile Char.isDigit = rest := by
    cases rest with
    | nil => exact ⟨rfl, rfl⟩
    | cons c rest =>
      have hc : ¬c.isDigit = true := Bool.eq_false_iff.1 (hrest c rfl)
      exact ⟨List.takeWhile_cons_of_neg hc, List.dropWhile_cons_of_neg hc⟩
  change (if (ds ++ rest).takeWhile Char.isDigit = [] then _ else _) = _
  rw [List.takeWhile_append_of_pos hdigits, List.dropWhile_append_of_pos hdigits, hstop.1,
    hstop.2, List.append_nil, if_neg hne, List.take_of_length_le hlength]

/-- The nanoseconds are taken in front of what neither goes on with digits nor starts with
a point. -/
theorem takes_fraction {nanos : Nat} (hfits : nanos < 1_000_000_000) {rest : List Char}
    (hrest : ∀ c ∈ rest.head?, c.isDigit = false ∧ c ≠ '.') :
    Takes takeFraction (fractionChars nanos ++ rest) nanos rest := by
  obtain ⟨hlength, hvalue⟩ := Decimal.value_fraction (by decide : 0 < 9) hfits
  have hdigits := fun c (hc : c ∈ Decimal.fraction 9 nanos) => Decimal.isDigit_of_mem_fraction hc
  unfold fractionChars
  generalize Decimal.fraction 9 nanos = ds at hlength hvalue hdigits ⊢
  cases ds with
  | nil =>
    have hzero : nanos = 0 := by
      rw [← hvalue]
      exact Nat.zero_mul _
    rw [hzero]
    exact takes_no_fraction fun hpoint => (hrest '.' hpoint).2 rfl
  | cons d ds =>
    have htake := takes_digits (List.cons_ne_nil d ds) hlength hdigits fun c hc => (hrest c hc).1
    rw [hvalue] at htake
    exact htake

/-! ### The offset -/

/-- The offset from UTC as it is written. -/
def offsetChars (minutes : Int) : List Char :=
  if minutes = 0 then ['Z']
  else (if minutes < 0 then '-' else '+') :: Decimal.padded 2 (minutes.natAbs / 60)
    ++ ':' :: Decimal.padded 2 (minutes.natAbs % 60)

theorem takes_signed (sign : Int) {hours minutes : Nat} (hhours : hours ≤ 23)
    (hminutes : minutes ≤ 59) (rest : List Char) :
    Takes (takeOffset.signed sign)
      (Decimal.padded 2 hours ++ ':' :: (Decimal.padded 2 minutes ++ rest)) (sign, hours, minutes)
      rest := by
  unfold takeOffset.signed
  refine (takes_two (by omega) _ _).bind ?_
  rw [if_neg (Nat.not_lt.2 hhours)]
  refine (takes_literal ':' _).bind ?_
  exact (takes_two (by omega) _ _).bind (takes_pure _ _)

/-- An offset of less than a day is taken as a sign, hours and minutes that make it up. -/
theorem takes_offset {minutes : Int} (hday : minutes.natAbs < 1440) (rest : List Char) :
    ∃ sign hours remainder,
      Takes takeOffset (offsetChars minutes ++ rest) (sign, hours, remainder) rest ∧
      remainder ≤ 59 ∧ sign * (hours * 60 + remainder : Nat) = minutes := by
  have hhours : minutes.natAbs / 60 ≤ 23 := by omega
  have hremainder : minutes.natAbs % 60 ≤ 59 := by omega
  have hwritten : ∀ sign : Char, (sign :: Decimal.padded 2 (minutes.natAbs / 60) ++
      ':' :: Decimal.padded 2 (minutes.natAbs % 60)) ++ rest = sign ::
      (Decimal.padded 2 (minutes.natAbs / 60) ++
        ':' :: (Decimal.padded 2 (minutes.natAbs % 60) ++ rest)) := fun sign => by
    simp only [List.cons_append, List.append_assoc]
  unfold offsetChars
  split
  · next hutc => exact ⟨1, 0, 0, rfl, by decide, by rw [hutc]; rfl⟩
  · next hlocal =>
    rw [hwritten]
    split
    · next hwest =>
      exact ⟨-1, _, _, takes_signed (-1) hhours hremainder rest, hremainder, by omega⟩
    · next heast =>
      exact ⟨1, _, _, takes_signed 1 hhours hremainder rest, hremainder, by omega⟩

/-- No offset goes on with digits or starts with a point. -/
theorem head?_offsetChars (minutes : Int) :
    ∀ c ∈ (offsetChars minutes).head?, c.isDigit = false ∧ c ≠ '.' := by
  unfold offsetChars
  split
  · rintro c ⟨⟩
    exact ⟨rfl, by decide⟩
  · split
    · rintro c ⟨⟩
      exact ⟨rfl, by decide⟩
    · rintro c ⟨⟩
      exact ⟨rfl, by decide⟩

/-! ### The whole text -/

/-- The characters of a timestamp. -/
def chars (t : Timestamp) : List Char :=
  let second := t.wall.secondOfDay
  t.wall.date.render ++ 'T' :: Decimal.padded 2 (second / 3600)
    ++ ':' :: Decimal.padded 2 (second / 60 % 60) ++ ':' :: Decimal.padded 2 (second % 60)
    ++ fractionChars t.wall.subsecNanos ++ offsetChars t.offsetMinutes

theorem render?_eq (t : Timestamp) :
    t.render? = if t.wall.date.year < 0 then none else some (String.ofList t.chars) := rfl

theorem render?_of_le {t : Timestamp} (hyear : 0 ≤ t.wall.date.year) :
    t.render? = some (String.ofList t.chars) := by
  rw [t.render?_eq, if_neg (Int.not_lt.2 hyear)]

theorem render?_of_lt {t : Timestamp} (hyear : t.wall.date.year < 0) :
    t.render? = none := by
  rw [t.render?_eq, if_pos hyear]

/-- The parts of a timestamp are taken off its characters as they were put there. -/
theorem takes_shape (t : Timestamp) (hyear : 0 ≤ t.wall.date.year) {offset : Int × Nat × Nat}
    (hoffset : Takes takeOffset (offsetChars t.offsetMinutes) offset []) :
    Takes ofChars.shape t.chars (t.wall.date,
      (t.wall.secondOfDay / 3600, t.wall.secondOfDay / 60 % 60, t.wall.secondOfDay % 60),
      t.wall.subsecNanos, offset) [] := by
  have hsecond := t.wall.secondOfDay_lt
  have hlast := t.wall.year_date_le
  obtain ⟨hmonth, hday⟩ := Date.le_of_isValid t.wall.isValid_date
  have hdigits : t.wall.date.year.natAbs < Nat.pow 10 4 := by
    change _ < 10000
    omega
  have hwritten : (t.wall.date.year.natAbs : Int) = t.wall.date.year := Int.natAbs_of_nonneg hyear
  unfold chars Date.render ofChars.shape
  dsimp only
  rw [if_neg (Int.not_lt.2 hyear)]
  simp only [List.append_assoc, List.cons_append, List.nil_append]
  refine (takes_padded (by decide) hdigits _ _).bind ?_
  refine (takes_literal _ _).bind ?_
  refine (takes_two (by omega) _ _).bind ?_
  -- The month is checked as soon as it is taken, the day only when all parts are known.
  rw [if_neg (by omega)]
  refine (takes_literal _ _).bind ?_
  refine (takes_two (by omega) _ _).bind ?_
  refine (takes_separator _).bind ?_
  refine (takes_two (by omega) _ _).bind ?_
  refine (takes_literal _ _).bind ?_
  refine (takes_two (by omega) _ _).bind ?_
  refine (takes_literal _ _).bind ?_
  refine (takes_two (by omega) _ _).bind ?_
  refine (takes_fraction (Instant.subsecNanos_lt _) (head?_offsetChars _)).bind ?_
  refine hoffset.bind ?_
  rw [hwritten]
  exact takes_pure _ _

/-- Parts in their ranges are put together as the instant they are the wall-clock reading of. -/
theorem assemble_eq {date : Date} (hvalid : date.isValid = true) {hour minute second nanos : Nat}
    (hhour : hour ≤ 23) (hminute : minute ≤ 59) (hsecond : second ≤ 59) {wall : Instant}
    (hwall : Instant.ofUnix? (date.toUnixDay * 86400 +
      (hour * 3600 + minute * 60 + second : Nat)) nanos = some wall) (offset : Int) :
    assemble date hour minute second nanos offset = .ok ⟨wall, offset⟩ := by
  have hleap : second ≠ 60 := by omega
  unfold assemble
  rw [if_neg (by rw [hvalid]; decide), if_neg (by omega), if_neg (by omega), if_neg (by omega)]
  dsimp only
  rw [if_neg (by simpa using hleap)]
  dsimp only
  rw [hwall, decide_eq_false hleap]
  rfl

/-- The parts of a timestamp, with its offset in minutes, put together again give it back. -/
theorem assemble_parts (t : Timestamp) :
    assemble t.wall.date (t.wall.secondOfDay / 3600) (t.wall.secondOfDay / 60 % 60)
      (t.wall.secondOfDay % 60) t.wall.subsecNanos t.offsetMinutes = .ok t := by
  have hsecond := t.wall.secondOfDay_lt
  refine assemble_eq t.wall.isValid_date (by omega) (by omega) (by omega) ?_ _
  have hseconds : t.wall.date.toUnixDay * 86400 +
      (t.wall.secondOfDay / 3600 * 3600 + t.wall.secondOfDay / 60 % 60 * 60 +
        t.wall.secondOfDay % 60 : Nat) = t.wall.unixSeconds := by
    rw [← t.wall.unixSeconds_eq]
    omega
  rw [hseconds]
  exact Instant.ofUnix?_unixSeconds t.wall

/-- A timestamp from year zero on, at an offset of less than a day, is read back from its text,
to the nanosecond. -/
theorem parse_render {t : Timestamp} (hyear : 0 ≤ t.wall.date.year)
    (hoffset : t.offsetMinutes.natAbs < 1440) : parse (String.ofList t.chars) = .ok t := by
  obtain ⟨sign, hours, remainder, htake, hremainder, htotal⟩ := takes_offset hoffset []
  rw [List.append_nil] at htake
  have hshape : ofChars.shape t.chars = _ := takes_shape t hyear htake
  unfold parse ofChars
  rw [String.toList_ofList, StateT.run, hshape]
  change (if 59 < remainder then _ else _) = _
  rw [if_neg (Nat.not_lt.2 hremainder)]
  change assemble _ _ _ _ _ _ = _
  rw [htotal]
  exact assemble_parts t

example : (Timestamp.mk ⟨1_709_251_199_050_000_000, by decide, by decide⟩ (-90)).render? =
    some "2024-02-29T23:59:59.05-01:30" := by rfl

end Timestamp

end AuthGate

import AuthGate.Json.Skip
import AuthGate.Json.Typed
import AuthGate.Proofs.Json.Yields
import AuthGate.Proofs.Text.Decimal

namespace AuthGate.Json

/-- What may follow a value inside a container, or at the end of a document. -/
def Delimited (rest : List Symbol) : Prop :=
  ∀ s ∈ rest.head?, s = .char ',' ∨ s = .char '}' ∨ s = .char ']'

namespace Delimited

variable {rest : List Symbol}

theorem head?_ne {c : Char} (hrest : Delimited rest) (hother : c ∉ [',', '}', ']']) :
    rest.head? ≠ some (.char c) := by
  intro h
  rcases hrest _ h with h | h | h <;> cases h <;> exact hother (by simp)

theorem no_fraction (hrest : Delimited rest) : rest.head? ≠ some (.char '.') :=
  hrest.head?_ne (by decide)

theorem no_exponent (hrest : Delimited rest) :
    ¬ (rest.head? = some (.char 'e') ∨ rest.head? = some (.char 'E')) :=
  not_or.2 ⟨hrest.head?_ne (by decide), hrest.head?_ne (by decide)⟩

theorem isDigitAhead (hrest : Delimited rest) : isDigitAhead rest.head? = false := by
  cases h : rest.head? with
  | none => rfl
  | some s => rcases hrest s h with rfl | rfl | rfl <;> rfl

end Delimited

theorem digit?_of_isDigit {c : Char} (h : c.isDigit = true) :
    digit? (.char c) = some (Decimal.value [c]) := by
  rw [digit?, if_pos h]

theorem isDigitAhead_of_isDigit {c : Char} (h : c.isDigit = true) :
    isDigitAhead (some (.char c)) = true := by
  unfold isDigitAhead
  rw [Option.bind_some, digit?_of_isDigit h]
  rfl

theorem digit?_head?_eq_none {s : Symbol} {rest : List Symbol}
    (h : isDigitAhead (s :: rest).head? = false) : digit? s = none := by
  simpa [isDigitAhead] using h

/-- Digits are taken as the number that they write, if it stays in the limit. -/
theorem takeDigits_append {limit : Nat} {ds : List Char} {rest : List Symbol} {total : Nat}
    (hdigits : ∀ d ∈ ds, d.isDigit = true) (hlimit : Nat.ofDigitChars 10 ds total ≤ limit)
    (hrest : isDigitAhead rest.head? = false) (count : Nat) (position : Position) :
    ∃ after, takeDigits limit total count position (ds.map .char ++ rest) =
      ⟨Nat.ofDigitChars 10 ds total, count + ds.length, ⟨rest, after⟩⟩ := by
  induction ds generalizing total count position with
  | nil =>
    refine ⟨position, ?_⟩
    cases rest with
    | nil => simp [takeDigits]
    | cons s rest =>
      rw [List.map_nil, List.nil_append, takeDigits, digit?_head?_eq_none hrest]
      simp
  | cons d ds ih =>
    rw [Decimal.ofDigitChars_cons_value] at hlimit
    have hstep : ¬ limit < total * 10 + Decimal.value [d] := by
      have := Decimal.le_ofDigitChars ds (total * 10 + Decimal.value [d])
      omega
    obtain ⟨after, h⟩ := ih (fun e he => hdigits e (List.mem_cons_of_mem _ he)) hlimit (count + 1)
      (position.after (.char d))
    refine ⟨after, ?_⟩
    rw [List.map_cons, List.cons_append, takeDigits,
      digit?_of_isDigit (hdigits d (List.mem_cons_self ..))]
    dsimp only
    rw [if_neg hstep, h, Decimal.ofDigitChars_cons_value, List.length_cons, Nat.add_right_comm,
      Nat.add_assoc]

theorem passWhile_append {p : Symbol → Bool} {passed rest : List Symbol}
    (hpassed : ∀ s ∈ passed, p s = true) (hrest : ∀ s ∈ rest.head?, p s = false)
    (position : Position) : ∃ after, passWhile p position (passed ++ rest) = ⟨rest, after⟩ := by
  induction passed generalizing position with
  | nil =>
    refine ⟨position, ?_⟩
    cases rest with
    | nil => rfl
    | cons s rest => rw [List.nil_append, passWhile, hrest s rfl, if_neg Bool.false_ne_true]
  | cons s passed ih =>
    obtain ⟨after, h⟩ := ih (fun t ht => hpassed t (List.mem_cons_of_mem _ ht)) (position.after s)
    refine ⟨after, ?_⟩
    rw [List.cons_append, passWhile, if_pos (hpassed s (List.mem_cons_self ..)), h]

namespace Reader

theorem yields_digits {limit : Nat} {ds : List Char} {rest : List Symbol}
    (hdigits : ∀ d ∈ ds, d.isDigit = true) (hlimit : Decimal.value ds ≤ limit)
    (hrest : isDigitAhead rest.head? = false) :
    Yields (digits limit 0) (ds.map .char ++ rest) (Decimal.value ds, ds.length) rest := by
  intro position
  obtain ⟨after, h⟩ := takeDigits_append hdigits hlimit hrest 0 position
  refine ⟨after, ?_⟩
  unfold digits
  rw [h, Nat.zero_add]
  rfl

theorem yields_skipDigits {ds : List Char} {rest : List Symbol}
    (hdigits : ∀ d ∈ ds, d.isDigit = true) (hrest : isDigitAhead rest.head? = false) :
    Yields skipDigits (ds.map .char ++ rest) ds.length rest := by
  intro position
  have htaken : ∀ s ∈ ds.map Symbol.char, (digit? s).isSome = true := by
    simpa [digit?] using hdigits
  have hkept : ∀ s ∈ rest.head?, (digit? s).isSome = false := by
    intro s hs
    cases rest with
    | nil => cases hs
    | cons t rest =>
      cases hs
      rw [digit?_head?_eq_none hrest]
      rfl
  obtain ⟨after, h⟩ := passWhile_append htaken hkept position
  refine ⟨after, ?_⟩
  unfold skipDigits
  rw [h, List.length_append, List.length_map]
  dsimp only
  rw [Nat.add_sub_cancel]

end Reader

open Reader

/-- The number that a sign and the digits of `n` stand for. A negative number that
does not fit in 64 bits is a float, and so is the negative zero. -/
def wholeNumber (negative : Bool) (n : Nat) : Number :=
  if !negative then .natural n
  else if n = 0 ∨ 0x8000_0000_0000_0000 < n then .float (-(Float.ofNat n))
  else .negative (-n)

/-- What follows the digits of a whole number leaves it whole. -/
theorem yields_readNumber_end (n : Nat) {rest : List Symbol} (hrest : Delimited rest)
    (negative : Bool) :
    Yields (do
      let dropped ← skipDigits
      let ahead ← peek
      if ahead = some (.char '.') then Number.float <$> readFraction negative n dropped
      else if dropped ≠ 0 ∨ ahead = some (.char 'e') ∨ ahead = some (.char 'E') then
        Number.float <$> readScale negative n dropped
      else if !negative then return .natural n
      else if n = 0 ∨ 0x8000_0000_0000_0000 < n then return .float (-(Float.ofNat n))
      else return .negative (-n)) rest (wholeNumber negative n) rest := by
  have hnone : Yields skipDigits rest 0 rest :=
    yields_skipDigits (List.forall_mem_nil _) hrest.isDigitAhead
  refine hnone.bind ((yields_peek _).bind ?_)
  rw [if_neg hrest.no_fraction, if_neg (not_or.2 ⟨not_not_intro rfl, hrest.no_exponent⟩)]
  unfold wholeNumber
  split
  · exact yields_pure _ rest
  · split <;> exact yields_pure _ rest

/-- A written natural number is read behind its sign, if it has one. -/
theorem yields_readNumber {n : Nat} {rest : List Symbol} (hlimit : n ≤ maxSignificand)
    (hrest : Delimited rest) (negative : Bool) :
    Yields (readNumber negative) ((Decimal.digits n).map .char ++ rest) (wholeNumber negative n)
      rest := by
  have hend := yields_readNumber_end n hrest negative
  unfold readNumber
  refine (yields_peek _).bind ?_
  rcases Decimal.digits_cases n with ⟨rfl, hds⟩ | ⟨d, ds, hds, hne, hdigit⟩
  · have hzero : isDigitAhead (some (.char '0')) = true := rfl
    rw [hds, List.map_cons, List.map_nil, List.cons_append, List.nil_append, List.head?_cons]
    simp only [hzero, Option.isNone_some, Bool.not_true, Bool.false_eq_true, if_false, if_true]
    refine (yields_next _ _).bind ((yields_peek _).bind ?_)
    simp only [hrest.isDigitAhead, Bool.false_eq_true, if_false]
    exact (yields_pure _ _).bind hend
  · have hall : ∀ d ∈ Decimal.digits n, d.isDigit = true :=
      fun d h => Decimal.isDigit_of_mem_digits h
    have hahead : ((Decimal.digits n).map Symbol.char ++ rest).head? = some (.char d) := by
      rw [hds]
      rfl
    have hvalue : Decimal.value (Decimal.digits n) ≤ maxSignificand := by
      rwa [Decimal.value_digits]
    have htaken := yields_digits hall hvalue hrest.isDigitAhead
    rw [Decimal.value_digits] at htaken
    simp only [hahead, isDigitAhead_of_isDigit hdigit, Option.isNone_some, Bool.not_true,
      Bool.false_eq_true, if_false, Option.some.injEq, Symbol.char.injEq, hne]
    exact htaken.bind hend

theorem wholeNumber_negative {n : Nat} (hpos : 0 < n) (hlimit : n ≤ 0x8000_0000_0000_0000) :
    wholeNumber true n = .negative (-n) := by
  unfold wholeNumber
  rw [Bool.not_true, if_neg Bool.false_ne_true, if_neg (by omega)]

/-- A written natural number is passed over, whatever its size. -/
theorem yields_skipNumber (n : Nat) {rest : List Symbol} (hrest : Delimited rest) :
    Yields skipNumber ((Decimal.digits n).map .char ++ rest) () rest := by
  have hend : Yields (do
      let ahead ← peek
      if ahead = some (.char 'e') ∨ ahead = some (.char 'E') then skipExponent) rest () rest := by
    refine (yields_peek _).bind ?_
    rw [if_neg hrest.no_exponent]
    exact yields_pure _ rest
  unfold skipNumber
  refine (yields_peek _).bind ?_
  rcases Decimal.digits_cases n with ⟨rfl, hds⟩ | ⟨d, ds, hds, hne, hdigit⟩
  · have hzero : isDigitAhead (some (.char '0')) = true := rfl
    rw [hds, List.map_cons, List.map_nil, List.cons_append, List.nil_append, List.head?_cons]
    simp only [hzero, Bool.not_true, Bool.false_eq_true, if_false, if_true]
    refine (yields_next _ _).bind ((yields_peek _).bind ?_)
    simp only [hrest.isDigitAhead, Bool.false_eq_true, if_false]
    refine (yields_peek _).bind ?_
    rw [if_neg hrest.no_fraction]
    exact hend
  · have hahead : ((Decimal.digits n).map Symbol.char ++ rest).head? = some (.char d) := by
      rw [hds]
      rfl
    simp only [hahead, isDigitAhead_of_isDigit hdigit, Bool.not_true, Bool.false_eq_true, if_false,
      Option.some.injEq, Symbol.char.injEq, hne]
    have hall : ∀ d ∈ Decimal.digits n, d.isDigit = true :=
      fun d h => Decimal.isDigit_of_mem_digits h
    refine (yields_skipDigits hall hrest.isDigitAhead).bind ((yields_peek _).bind ?_)
    rw [if_neg hrest.no_fraction]
    exact hend

end AuthGate.Json

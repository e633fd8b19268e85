import AuthGate.Proofs.Json.Number
import AuthGate.Proofs.Json.Text

namespace AuthGate.Json

open Reader

variable {α : Type}

/-- In front of whatever may follow a value, a reader takes exactly the text
given, and gets `a` from it. -/
def Reads (read : Reader α) (cs : List Char) (a : α) : Prop :=
  ∀ rest, Delimited rest → Yields read (cs.map .char ++ rest) a rest

theorem delimited_nil : Delimited [] := by rintro _ ⟨⟩

/-- What is read may be put to use. -/
theorem Reads.set {β : Type} {read : Reader α} {cs : List Char} {a : α} (h : Reads read cs a)
    (f : α → β) : Reads (do return f (← read)) cs (f a) :=
  fun rest hrest => (h rest hrest).bind (yields_pure (f a) rest)

/-- What is read in front of a delimiter is read as a whole document. -/
theorem Reads.whole {read : Reader α} {v : Value} {a : α} (h : Reads read v.renderChars a) :
    read.whole (.ofSymbols (symbols (utf8 v.render))) = .ok a := by
  have hall := h [] delimited_nil
  rw [List.append_nil] at hall
  rw [symbols_utf8, Value.render, String.toList_ofList]
  exact hall.whole

theorem yields_readToken {read : Symbol → Reader α} {s : Symbol} {input rest : List Symbol} {a : α}
    (hspace : isSpace s = false) (hread : Yields (read s) (s :: input) a rest) :
    Yields (readToken read) (s :: input) a rest := by
  unfold readToken
  exact (yields_peekToken_cons input hspace).bind hread.located

/-- A text that is accepted is read as what the check makes of it. -/
theorem reads_readChecked {expected : String} {check : String → Except Mismatch α} {s : String}
    {a : α} (hcheck : check s = .ok a) :
    Reads (readChecked expected check) (Value.renderText s) a := by
  intro rest hrest
  rw [map_renderText_append]
  refine yields_readToken rfl ?_
  rw [if_pos rfl]
  refine (yields_next _ _).bind ((yields_text s rest).bind ?_)
  rw [hcheck]
  exact yields_pure a rest

theorem reads_readText (s : String) : Reads readText (Value.renderText s) s :=
  reads_readChecked rfl

/-- The name of a variant is read as that variant. -/
theorem reads_readChoice {variants : List (String × α)} {name : String} {a : α}
    (hname : variantOfText variants name = .ok a) :
    Reads (readChoice variants) (Value.renderText name) a := by
  intro rest hrest
  have hread : Reads (readChoice.readName variants) (Value.renderText name) a :=
    reads_readChecked hname
  have hinput := hread rest hrest
  rw [map_renderText_append] at hinput ⊢
  unfold readChoice
  exact (yields_peekToken_cons (quotedRest name rest) rfl).bind hinput

theorem ne_of_isDigit {c d : Char} (hc : c.isDigit = true) (hd : d.isDigit = false) : c ≠ d := by
  rintro rfl
  rw [hc] at hd
  cases hd

/-- A digit begins nothing but a number. -/
theorem digit_ne {c : Char} (h : c.isDigit = true) : c ≠ '-' ∧ c ≠ '"' ∧ c ≠ '[' ∧ c ≠ '{' :=
  ⟨ne_of_isDigit h rfl, ne_of_isDigit h rfl, ne_of_isDigit h rfl, ne_of_isDigit h rfl⟩

theorem isSpace_of_isDigit {c : Char} (h : c.isDigit = true) : isSpace (.char c) = false := by
  have hspace : c ≠ ' ' := ne_of_isDigit h rfl
  have hline : c ≠ '\n' := ne_of_isDigit h rfl
  have htab : c ≠ '\t' := ne_of_isDigit h rfl
  have hreturn : c ≠ '\r' := ne_of_isDigit h rfl
  simp [isSpace, hspace, hline, htab, hreturn]

/-- An integer as a number of a document. -/
def Number.ofInt (n : Int) : Number := if 0 ≤ n then .natural n.toNat else .negative n

/-- An integer is written as its digits, with a minus in front if it is negative. -/
theorem ofInt_cases (n : Int) :
    (∃ m : Nat, n = m ∧ Number.ofInt n = .natural m ∧
        (Value.integer n).renderChars = Decimal.digits m) ∨
      ∃ m : Nat, 0 < m ∧ n = -m ∧ Number.ofInt n = .negative (-m) ∧
        (Value.integer n).renderChars = '-' :: Decimal.digits m := by
  cases n with
  | ofNat m =>
    have hchars : (Value.integer (.ofNat m)).renderChars = Decimal.digits m := by
      simp only [Value.integer, Int.ofNat_eq_natCast, Int.natCast_nonneg, if_true,
        Int.toNat_natCast, Value.renderChars, Number.render, String.toList_ofList]
    exact .inl ⟨m, rfl, rfl, hchars⟩
  | negSucc m =>
    have hchars : (Value.integer (.negSucc m)).renderChars = '-' :: Decimal.digits (m + 1) := by
      have hnegative : ¬ (0 : Int) ≤ Int.negSucc m := by omega
      simp only [Value.integer, if_neg hnegative, Value.renderChars, Number.render, Decimal.signed]
      rw [Int.toString_eq_repr, Int.repr_eq_if, if_neg hnegative, String.toList_append,
        Nat.toList_repr]
      rfl
    exact .inr ⟨m + 1, by omega, rfl, rfl, hchars⟩

theorem integer_natCast (n : Nat) : Value.integer n = Value.natural n := by
  simp [Value.integer, Value.natural]

/-- The integers that a document keeps exact. -/
def IsExact (n : Int) : Prop := -0x8000_0000_0000_0000 ≤ n ∧ n ≤ maxSignificand

/-- A written integer begins with a minus or a digit, and the reader of numbers
gets it back from there. -/
theorem yields_readNumber_integer {n : Int} (hexact : IsExact n) {rest : List Symbol}
    (hrest : Delimited rest) :
    (∃ d input, (Value.integer n).renderChars.map .char ++ rest = .char d :: input ∧
        d.isDigit = true ∧ Yields (readNumber false) (.char d :: input) (.ofInt n) rest) ∨
      ∃ input, (Value.integer n).renderChars.map .char ++ rest = .char '-' :: input ∧
        Yields (readNumber true) input (.ofInt n) rest := by
  obtain ⟨hlow, hhigh⟩ := hexact
  rcases ofInt_cases n with ⟨m, rfl, hnumber, hchars⟩ | ⟨m, hpos, rfl, hnumber, hchars⟩
  · obtain ⟨d, ds, hds, hdigit⟩ := Decimal.exists_digits_cons m
    have hlimit : m ≤ maxSignificand := by omega
    have hread := yields_readNumber hlimit hrest false
    rw [hnumber, hchars]
    rw [hds] at hread ⊢
    exact .inl ⟨d, _, rfl, hdigit, hread⟩
  · have hlimit : m ≤ 0x8000_0000_0000_0000 := by omega
    have hread := yields_readNumber (Nat.le_trans hlimit (by decide)) hrest true
    rw [wholeNumber_negative hpos hlimit] at hread
    rw [hnumber, hchars]
    exact .inr ⟨_, rfl, hread⟩

/-- An integer that is accepted is read as what the check makes of it. -/
theorem reads_readChecking {expected : String} {check : Number → Except Mismatch α} {n : Int}
    {a : α} (hexact : IsExact n) (hcheck : check (.ofInt n) = .ok a) :
    Reads (readChecking expected check) (Value.integer n).renderChars a := by
  intro rest hrest
  unfold readChecking
  rcases yields_readNumber_integer hexact hrest with
    ⟨d, input, h, hdigit, hread⟩ | ⟨input, h, hread⟩
  · obtain ⟨hminus, -⟩ := digit_ne hdigit
    rw [h]
    refine yields_readToken (isSpace_of_isDigit hdigit) ?_
    simp only [Symbol.char.injEq, hminus, if_false, isDigitAhead_of_isDigit hdigit, if_true]
    refine (hread.map some).bind ?_
    simp only [hcheck]
    exact yields_pure a rest
  · rw [h]
    refine yields_readToken rfl ?_
    simp only [if_true]
    refine (yields_next _ _).bind ((hread.map some).bind ?_)
    simp only [hcheck]
    exact yields_pure a rest

theorem reads_readInteger64 {n : Int} (hlow : -0x8000_0000_0000_0000 ≤ n)
    (hhigh : n < 0x8000_0000_0000_0000) :
    Reads readInteger64 (Value.integer n).renderChars n := by
  have hexact : IsExact n := ⟨hlow, Int.le_of_lt (Int.lt_of_lt_of_le hhigh (by decide))⟩
  refine reads_readChecking hexact ?_
  rcases ofInt_cases n with ⟨m, rfl, hnumber, -⟩ | ⟨m, -, rfl, hnumber, -⟩
  · rw [hnumber, Number.integer64?, if_pos (by omega)]
  · rw [hnumber, Number.integer64?]

/-- Every number of a range of up to 64 bits is read back. -/
theorem reads_readNatural (range : NaturalRange) (hbits : range.bits ≤ 64) {n : Nat}
    (hrange : n < range.limit) : Reads (readNatural range) (Value.natural n).renderChars n := by
  have hlimit : range.limit ≤ 2 ^ 64 := by
    rw [NaturalRange.limit, Nat.one_shiftLeft]
    exact Nat.pow_le_pow_right (by decide) hbits
  have hexact : n ≤ maxSignificand := Nat.le_of_lt_succ (Nat.lt_of_lt_of_le hrange hlimit)
  rw [← integer_natCast]
  refine reads_readChecking ⟨by omega, by omega⟩ ?_
  change Number.natural? range (.natural n) = _
  rw [Number.natural?, if_pos hrange]

end AuthGate.Json

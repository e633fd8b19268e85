import AuthGate.Proofs.Json.Scalar

namespace AuthGate.Json

open Reader

theorem yields_skipValue {input rest : List Symbol} (h : Yields skipScalar input none rest) :
    Yields skipValue input () rest := by
  have hrounds : ∀ fuel, Yields (skipRounds (fuel + 1) []) input () rest := by
    intro fuel
    unfold skipRounds
    exact h.bind ((yields_pure [] rest).bind (yields_pure () rest))
  exact fun position => hrounds input.length position

/-- The value of a member that nobody asks for is passed over to its end. -/
theorem reads_skipValue_text (s : String) : Reads skipValue (Value.renderText s) () := by
  intro rest hrest
  rw [map_renderText_append]
  have hpeek := yields_peekToken_cons (s := .char '"') (quotedRest s rest) rfl
  refine yields_skipValue ?_
  unfold skipScalar
  refine hpeek.bind ((yields_next _ _).bind ?_)
  exact (yields_passText s rest).bind (yields_pure none rest)

theorem reads_skipValue_integer (n : Int) : Reads skipValue (Value.integer n).renderChars () := by
  intro rest hrest
  refine yields_skipValue ?_
  rcases ofInt_cases n with ⟨m, -, -, hchars⟩ | ⟨m, -, -, -, hchars⟩
  · obtain ⟨d, ds, hds, hdigit⟩ := Decimal.exists_digits_cons m
    have hskip := yields_skipNumber m hrest
    rw [hchars]
    rw [hds] at hskip ⊢
    have hpeek := yields_peekToken_cons (ds.map .char ++ rest) (isSpace_of_isDigit hdigit)
    obtain ⟨hminus, hquote, hlist, hobject⟩ := digit_ne hdigit
    unfold skipScalar
    refine hpeek.bind ?_
    simp only [Symbol.char.injEq, hlist, hobject, hquote, hminus, isDigitAhead_of_isDigit hdigit,
      if_false, if_true]
    exact hskip.bind (yields_pure none rest)
  · rw [hchars, List.map_cons, List.cons_append]
    have hpeek := yields_peekToken_cons (s := .char '-')
      ((Decimal.digits m).map .char ++ rest) rfl
    unfold skipScalar
    refine hpeek.bind ((yields_next _ _).bind ?_)
    exact (yields_skipNumber m hrest).bind (yields_pure none rest)

end AuthGate.Json

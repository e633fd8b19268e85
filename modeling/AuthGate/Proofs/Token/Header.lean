import AuthGate.Proofs.Json.Record
import AuthGate.Token.Header

namespace AuthGate

open Json Json.Reader

theorem reads_readOptional_text (s : String) :
    Reads (readOptional readText) (Value.renderText s) (some s) := by
  intro rest hrest
  have hread := reads_readText s rest hrest
  rw [map_renderText_append] at hread ⊢
  unfold readOptional
  exact (yields_peekToken_cons (quotedRest s rest) rfl).bind (hread.map some)

namespace TokenHeader

/-- The members of the header of an issued token. -/
def issuedMembers : List (String × Value) := [("typ", .text "JWT"), ("alg", .text "HS256")]

/-- The members that issued tokens have in their header name the algorithm. -/
theorem yields_readMembers_issued {fuel : Nat} (hfuel : issuedMembers.length < fuel)
    (rest : List Symbol) :
    Yields (readMembers fuel true ⟨[], none, none⟩)
      ((memberChars true issuedMembers).map .char ++ .char '}' :: rest) "HS256"
      (.char '}' :: rest) := by
  obtain ⟨fuel, rfl⟩ : ∃ n, fuel = n + 3 := ⟨fuel - 3, by simp [issuedMembers] at hfuel; omega⟩
  have halgorithm : Reads (readChoice (signatureAlgorithms.map fun name => (name, name)))
      (Value.renderText "HS256") "HS256" := reads_readChoice rfl
  have hsecond : Yields (readMembers (fuel + 2) false ⟨["typ"], none, none⟩)
      ((memberChars false [("alg", .text "HS256")]).map .char ++ .char '}' :: rest) "HS256"
      (.char '}' :: rest) := by
    rw [map_memberChars_append]
    unfold readMembers
    refine (yields_nextKey_some false "alg" _).bind ((yields_readColon _).bind ?_)
    refine (halgorithm _ (delimited_memberChars [] rest)).bind ?_
    unfold readMembers
    exact (yields_nextKey_none false rest).bind (yields_pure _ _)
  unfold issuedMembers
  rw [map_memberChars_append]
  unfold readMembers
  refine (yields_nextKey_some true "typ" _).bind ((yields_readColon _).bind ?_)
  refine Yields.bind (a := ()) ?_ hsecond
  exact (reads_readOptional_text "JWT" _ (delimited_memberChars _ rest)).bind (yields_pure () _)

/-- The header of an issued token names its algorithm. -/
theorem ofBytes_issued : ofBytes (utf8 issued.render) = .ok "HS256" := by
  have hread : Reads read (Value.object issuedMembers).renderChars "HS256" := by
    intro rest _
    rw [map_renderChars_object_append]
    refine yields_readToken rfl ?_
    rw [if_pos rfl]
    exact yields_object fun fuel hfuel => yields_readMembers_issued hfuel rest
  exact hread.whole

end TokenHeader

namespace RegisteredClaims

theorem reads_passNumericDate {n : Int} (hexact : IsExact n) :
    Reads passNumericDate (Value.integer n).renderChars () := by
  intro rest hrest
  unfold passNumericDate
  rcases yields_readNumber_integer hexact hrest with
    ⟨d, input, h, hdigit, hread⟩ | ⟨input, h, hread⟩
  · obtain ⟨hminus, hquote, hlist, hobject⟩ := digit_ne hdigit
    have hscalar : Yields (readScalar (.char d)) (.char d :: input) (.number (.ofInt n)) rest := by
      unfold readScalar
      simp only [Symbol.char.injEq, hquote, hminus, isDigitAhead_of_isDigit hdigit,
        if_false, if_true]
      exact hread.map Value.number
    rw [h]
    refine Yields.dropped (a := ()) (yields_readToken (isSpace_of_isDigit hdigit) ?_)
    simp only [Symbol.char.injEq, hlist, hobject, if_false]
    exact hscalar.bind (yields_pure () rest)
  · rw [h]
    refine Yields.dropped (a := ()) (yields_readToken rfl ?_)
    exact Yields.bind ((yields_next _ _).bind (hread.map Value.number)) (yields_pure () rest)

theorem reads_passText (s : String) : Reads passText (Value.renderText s) () :=
  fun rest hrest => Yields.dropped (reads_readOptional_text s rest hrest)

end RegisteredClaims

end AuthGate

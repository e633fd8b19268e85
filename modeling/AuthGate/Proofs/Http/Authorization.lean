import AuthGate.Proofs.Http.Effect
import AuthGate.Proofs.Service.Bearer

namespace AuthGate

namespace App

/-- A header is read by a grammar: blanks around it are dropped, and what is left is
either the bearer scheme with blanks and a token behind it, or the scheme alone, which
is malformed, or something else, which has no token. It is never read in two ways. So
the token is got back whatever blanks stand around and between the parts and in
whatever case the scheme is, and logout and the decision about a request both go by
it, and by nothing else in the header. -/
theorem authorization_grammar (header : String) :
    let trimmed := trimBlanks header.toList
    (∀ token : String, bearerToken header = .ok (some token) ↔
      ∃ scheme blanks, Credential trimmed scheme blanks token.toList) ∧
    (∀ scheme blanks token scheme' blanks' token', Credential trimmed scheme blanks token →
      Credential trimmed scheme' blanks' token' →
        scheme = scheme' ∧ blanks = blanks' ∧ token = token') ∧
    (∀ defect, bearerToken header = .error defect ↔
      defect = .emptyBearer ∧ NamesBearer trimmed) ∧
    (bearerToken header = .ok none ↔ ¬ NamesBearer trimmed ∧
      ∀ scheme blanks token, ¬ Credential trimmed scheme blanks token) ∧
    (∀ leading cs trailing scheme blanks token, Credential cs scheme blanks token →
      Blank leading → Blank trailing → header.toList = leading ++ cs ++ trailing →
        bearerToken header = .ok (some (.ofList token))) ∧
    ∀ (app : App) (request : HttpRequest) (now : Instant),
      request.header "authorization" = some header →
      let service := app.service
      let loggedOut := (app.answerLogout request now).value.1
      let decided := (service.evaluate (request.header "authorization") now).value
      (∀ token, bearerToken header = .ok (some token) →
        loggedOut = (service.logout token now).value.1 ∧
        decided.1 = { service with registry := (service.registry.isRevoked token now).1 } ∧
        decided.2 = if (service.registry.isRevoked token now).2 then
            (.rejected .tokenRevoked, [.revocation])
          else (.ofValidation (service.codec.validate token now), [.revocation, .validation])) ∧
      ((∀ token, bearerToken header ≠ .ok (some token)) →
        loggedOut = service ∧ decided.1 = service ∧ decided.2.2 = []) := by
  intro trimmed
  refine ⟨bearerToken_eq_some_iff header, ?_, bearerToken_eq_error_iff header,
    bearerToken_eq_none_iff_forall header, ?_, ?_⟩
  · exact fun _ _ _ _ _ _ h h' => h.unique h'
  · exact fun _ _ _ _ _ _ h hleading htrailing hheader =>
      bearerToken_of_credential h hleading htrailing hheader
  intro app request now hsent service loggedOut decided
  constructor
  · intro token htoken
    have hpresents : request.Presents token := by
      unfold HttpRequest.Presents
      rw [hsent, Option.map_some, htoken]
    have hdecided := service.value_evaluate_of_bearer htoken now
    rw [← hsent] at hdecided
    exact ⟨app.value_answerLogout_fst_of_presents request now hpresents,
      congrArg Prod.fst hdecided, congrArg Prod.snd hdecided⟩
  · intro hnone
    have habsent : ∀ token, ¬ request.Presents token := by
      intro token hpresents
      unfold HttpRequest.Presents at hpresents
      rw [hsent, Option.map_some] at hpresents
      exact hnone token (Option.some.inj hpresents)
    refine ⟨app.value_answerLogout_fst_of_not_presents request now habsent, ?_, ?_⟩
    · obtain hsame | ⟨token, hpresents, -⟩ :=
        service.value_evaluate_fst (request.header "authorization") now
      · exact hsame
      · exact absurd hpresents (habsent token)
    · apply (service.checks_evaluate (request.header "authorization") now).2
      rintro token ⟨value, hvalue, htoken⟩
      rw [hsent] at hvalue
      cases hvalue
      exact hnone token htoken

/-- A tab, a wide blank and capitals in odd places do not keep a token from being read,
and the blank inside it stays. -/
theorem token_among_blanks :
    let header := "\t bEaReR\u2003 a b "
    trimBlanks header.toList = "bEaReR\u2003 a b".toList ∧
      bearerToken header = .ok (some "a b") := by
  intro header
  have hcredential : Credential "bEaReR\u2003 a b".toList "bEaReR".toList "\u2003 ".toList
      "a b".toList := by
    refine ⟨by decide, by decide, by decide, by decide, by decide, ?_⟩
    constructor <;> simp [isBlank]
  obtain ⟨-, -, -, -, hread, -⟩ := authorization_grammar header
  exact ⟨by decide, hread "\t ".toList _ " ".toList _ _ _ hcredential (by decide) (by decide)
    (by decide)⟩

end App

end AuthGate

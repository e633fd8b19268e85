import AuthGate.Proofs.Service.Lock

namespace AuthGate

/-- What can be asked of the subsystem about one account. -/
inductive AccountQuery where
  | authenticate (password jti : String)
  | recordFailure
  | clear
  | isLocked
  | info
  | remaining

/-- What a query about an account can be answered. -/
inductive AccountAnswer where
  | attempt (attempt : LoginAttempt)
  | failure (outcome : FailureOutcome)
  | cleared
  | lock (isLocked : Bool)
  | info (info : LockInfo)
  | remaining (left : Duration)

/-- A query about an account, or a purge of the records of all, with the reading of
the clock. -/
inductive AccountTurn where
  | query (username : String) (query : AccountQuery) (now : Instant)
  | purgeStale (idle : Duration) (now : Instant)

/-- A turn is not about another account. -/
def AccountTurn.concerns (username : String) : AccountTurn → Bool
  | query name _ _ => name = username
  | purgeStale _ _ => true

namespace AuthService

/-- How a query is answered, and the subsystem after it. -/
def answer (service : AuthService) (credentials : CredentialCheck) (username : String)
    (now : Instant) : AccountQuery → AuthService × AccountAnswer
  | .authenticate password jti =>
    let (service, attempt) := (service.authenticate credentials username password jti now).value
    (service, .attempt attempt)
  | .recordFailure =>
    let (tracker, outcome) := (service.tracker.recordFailure username now).value
    ({ service with tracker }, .failure outcome)
  | .clear => ({ service with tracker := (service.tracker.clear username now).value }, .cleared)
  | .isLocked => (service, .lock (service.tracker.isLocked username now))
  | .info => (service, .info (service.tracker.info username))
  | .remaining => (service, .remaining (service.tracker.remaining username now))

/-- The subsystem after a purge of the records of failures. -/
def purge (service : AuthService) (idle : Duration) (now : Instant) : AuthService :=
  { service with tracker := (service.tracker.purgeStale idle now).value.1 }

/-- The answers to the queries about one account in a run, first to last. -/
def answersTo (credentials : CredentialCheck) (username : String) (service : AuthService) :
    List AccountTurn → List AccountAnswer
  | [] => []
  | .query name query now :: turns =>
    let (next, answer) := service.answer credentials name now query
    if name = username then answer :: next.answersTo credentials username turns
    else next.answersTo credentials username turns
  | .purgeStale idle now :: turns =>
    (service.purge idle now).answersTo credentials username turns

/-- Two states of the subsystem agree on an account: they sign alike, have the same
policy, and hold the same record of the account. -/
structure AgreeOn (username : String) (s t : AuthService) : Prop where
  codec_eq : s.codec = t.codec
  policy_eq : s.tracker.policy = t.tracker.policy
  record?_eq : s.tracker.record? username = t.tracker.record? username

variable {username name : String} {s t : AuthService}

namespace AgreeOn

protected theorem refl (username : String) (service : AuthService) :
    AgreeOn username service service := ⟨rfl, rfl, rfl⟩

protected theorem trans {u : AuthService} (h : AgreeOn username s t) (h' : AgreeOn username t u) :
    AgreeOn username s u :=
  ⟨h.codec_eq.trans h'.codec_eq, h.policy_eq.trans h'.policy_eq, h.record?_eq.trans h'.record?_eq⟩

theorem isLocked_eq (h : AgreeOn username s t) (now : Instant) :
    s.tracker.isLocked username now = t.tracker.isLocked username now :=
  LockoutTracker.isLocked_eq_of_record?_eq h.record?_eq now

theorem info_eq (h : AgreeOn username s t) :
    s.tracker.info username = t.tracker.info username :=
  LockoutTracker.info_eq_of_record?_eq h.record?_eq

theorem remaining_eq (h : AgreeOn username s t) (now : Instant) :
    s.tracker.remaining username now = t.tracker.remaining username now := by
  unfold LockoutTracker.remaining
  rw [h.info_eq]

end AgreeOn

/-! ### Queries about other accounts -/

theorem agreeOn_settle_of_ne (hne : name ≠ username) (service : AuthService) (jti : String)
    (answer : StoreAnswer) (now : Instant) :
    AgreeOn username (service.settle name jti answer now).value.1 service := by
  obtain ⟨tracker, hsettled, hpolicy, hothers⟩ :=
    service.exists_tracker_settle name jti answer now
  rw [hsettled]
  exact ⟨rfl, hpolicy, hothers username hne.symm⟩

/-- A query about one account leaves everything as it is for all others. -/
theorem agreeOn_answer_of_ne (hne : name ≠ username) (service : AuthService)
    (credentials : CredentialCheck) (query : AccountQuery) (now : Instant) :
    AgreeOn username (service.answer credentials name now query).1 service := by
  cases query with
  | authenticate password jti =>
    change AgreeOn username (service.authenticate credentials name password jti now).value.1 service
    rw [value_authenticate_fst]
    split
    · exact ⟨rfl, rfl, rfl⟩
    · exact agreeOn_settle_of_ne hne service _ _ now
  | recordFailure =>
    refine ⟨rfl, rfl, ?_⟩
    change (service.tracker.recordFailure name now).value.1.record? username = _
    rw [LockoutTracker.record?_recordFailure, if_neg hne]
  | clear =>
    refine ⟨rfl, LockoutTracker.policy_clear _ _ _, ?_⟩
    change (service.tracker.clear name now).value.record? username = _
    rw [LockoutTracker.record?_clear, if_neg hne]
  | isLocked => exact ⟨rfl, rfl, rfl⟩
  | info => exact ⟨rfl, rfl, rfl⟩
  | remaining => exact ⟨rfl, rfl, rfl⟩

/-! ### Queries about the account -/

namespace AgreeOn

theorem recordFailure (h : AgreeOn username s t) (now : Instant) :
    (s.tracker.recordFailure username now).value.2 =
        (t.tracker.recordFailure username now).value.2 ∧
      (s.tracker.recordFailure username now).value.1.record? username =
        (t.tracker.recordFailure username now).value.1.record? username := by
  have hrecord : s.tracker.record username = t.tracker.record username := by
    rw [LockoutTracker.record_eq_getD, LockoutTracker.record_eq_getD, h.record?_eq]
  constructor
  · rw [LockoutTracker.value_recordFailure, LockoutTracker.value_recordFailure, hrecord,
      h.policy_eq]
  · rw [LockoutTracker.record?_recordFailure, LockoutTracker.record?_recordFailure, if_pos rfl,
      if_pos rfl, hrecord, h.policy_eq]

theorem clear (h : AgreeOn username s t) (now : Instant) :
    AgreeOn username { s with tracker := (s.tracker.clear username now).value }
      { t with tracker := (t.tracker.clear username now).value } := by
  refine ⟨h.codec_eq, ?_, ?_⟩
  · simp only [LockoutTracker.policy_clear, h.policy_eq]
  · simp only [LockoutTracker.record?_clear, if_true]

/-- What a login is granted depends on the signer alone. -/
theorem value_grant_snd (h : AgreeOn username s t) (jti : String) (now : Instant) :
    (s.grant username jti now).value.2 = (t.grant username jti now).value.2 := by
  simp only [grant, issue, Logged.value_bind, h.codec_eq]
  cases t.codec.issue username jti now <;> rfl

theorem value_settle_snd (h : AgreeOn username s t) (jti : String) (answer : StoreAnswer)
    (now : Instant) :
    (s.settle username jti answer now).value.2 = (t.settle username jti answer now).value.2 := by
  cases answer with
  | silent => rfl
  | verdict accepted =>
    cases accepted with
    | false => rfl
    | true => exact congrArg some (h.value_grant_snd jti now)
  | failed error => cases error <;> rfl

theorem settle (h : AgreeOn username s t) (jti : String) (answer : StoreAnswer) (now : Instant) :
    AgreeOn username (s.settle username jti answer now).value.1
      (t.settle username jti answer now).value.1 := by
  obtain ⟨-, hrecord⟩ := h.recordFailure now
  rw [value_settle_fst, value_settle_fst]
  by_cases hrefused : answer.isRefusal = true
  · rw [if_pos hrefused, if_pos hrefused]
    exact ⟨h.codec_eq, h.policy_eq, hrecord⟩
  · rw [if_neg hrefused, if_neg hrefused]
    by_cases haccepted : answer.isAcceptance = true
    · rw [if_pos haccepted, if_pos haccepted]
      exact h.clear now
    · rw [if_neg haccepted, if_neg haccepted]
      exact h

/-- A query is answered alike in two states that agree on its account, and they agree
on it afterwards. -/
theorem answer (h : AgreeOn username s t) (credentials : CredentialCheck) (query : AccountQuery)
    (now : Instant) :
    (s.answer credentials username now query).2 = (t.answer credentials username now query).2 ∧
      AgreeOn username (s.answer credentials username now query).1
        (t.answer credentials username now query).1 := by
  cases query with
  | authenticate password jti =>
    cases hlocked : t.tracker.isLocked username now with
    | true =>
      have hlocked' := (h.isLocked_eq now).trans hlocked
      simp only [AuthService.answer, value_authenticate_of_isLocked _ hlocked,
        value_authenticate_of_isLocked _ hlocked', h.remaining_eq, h, and_self]
    | false =>
      have hopen' := (h.isLocked_eq now).trans hlocked
      simp only [AuthService.answer, value_authenticate_of_not_isLocked _ hlocked,
        value_authenticate_of_not_isLocked _ hopen', h.value_settle_snd, h.settle, and_self]
  | recordFailure =>
    obtain ⟨houtcome, hrecord⟩ := h.recordFailure now
    exact ⟨congrArg AccountAnswer.failure houtcome, h.codec_eq, h.policy_eq, hrecord⟩
  | clear => exact ⟨rfl, h.clear now⟩
  | isLocked => exact ⟨congrArg AccountAnswer.lock (h.isLocked_eq now), h⟩
  | info => exact ⟨congrArg AccountAnswer.info h.info_eq, h⟩
  | remaining => exact ⟨congrArg AccountAnswer.remaining (h.remaining_eq now), h⟩

/-- A purge treats a record by itself, so it removes the same account's record from
both states or from neither. -/
theorem purge (h : AgreeOn username s t) (idle : Duration) (now : Instant) :
    AgreeOn username (s.purge idle now) (t.purge idle now) := by
  refine ⟨h.codec_eq, ?_, ?_⟩
  · simp only [AuthService.purge, LockoutTracker.policy_purgeStale, h.policy_eq]
  · simp only [AuthService.purge, LockoutTracker.record?_purgeStale, h.record?_eq]

/-- In two states that agree on an account, a run gives it the same answers with the
turns of all other accounts as without them. -/
theorem answersTo_filter (h : AgreeOn username s t) (credentials : CredentialCheck)
    (turns : List AccountTurn) :
    t.answersTo credentials username (turns.filter (AccountTurn.concerns username)) =
      s.answersTo credentials username turns := by
  induction turns generalizing s t with
  | nil => rfl
  | cons turn turns ih =>
    cases turn with
    | query name query now =>
      by_cases hname : name = username
      · subst hname
        obtain ⟨hanswer, hnext⟩ := h.answer credentials query now
        have hkept : AccountTurn.concerns name (.query name query now) = true :=
          decide_eq_true rfl
        rw [List.filter_cons_of_pos hkept]
        simp only [AuthService.answersTo, if_true, hanswer, ih hnext]
      · have hskipped := agreeOn_answer_of_ne hname s credentials query now
        have hdropped : ¬ AccountTurn.concerns username (.query name query now) = true := by
          simpa [AccountTurn.concerns] using hname
        rw [List.filter_cons_of_neg hdropped]
        simp only [AuthService.answersTo, if_neg hname]
        exact ih (hskipped.trans h)
    | purgeStale idle now => exact ih (h.purge idle now)

end AgreeOn

/-- Accounts do not interfere. In a run of logins, failures, clears and questions about
any accounts, with purges of all records and with any readings of the clock, each query
about an account is answered as in the run that has none of the queries about others:
the same outcomes of failures, the same locks and times left, and the same result of
each login, with its error, its token and whether the store was asked. -/
theorem answersTo_filter_concerns (service : AuthService) (credentials : CredentialCheck)
    (username : String) (turns : List AccountTurn) :
    service.answersTo credentials username (turns.filter (AccountTurn.concerns username)) =
      service.answersTo credentials username turns :=
  (AgreeOn.refl username service).answersTo_filter credentials turns

end AuthService

end AuthGate

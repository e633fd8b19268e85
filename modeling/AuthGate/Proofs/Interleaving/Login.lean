import AuthGate.Proofs.Interleaving.Thread
import AuthGate.Proofs.Service.Budget

namespace AuthGate

/-- A guess at the password of an account. As a credential store may change its mind
between two logins, each guess comes with the store as it is then. -/
structure Guess where
  credentials : CredentialCheck
  password : String
  jti : String

/-- What the credential store says about a guess. -/
def Guess.answer (guess : Guess) (username : String) : StoreAnswer :=
  guess.credentials username guess.password

/-! ### The two phases of a login -/

namespace AuthService

variable (username : String) (now : Instant) (guess : Guess)

/-- The second phase of a login, when the credential store has been asked and has
answered. -/
def settleGuess : Thread AuthService LoginAttempt :=
  let asked := (guess.credentials.verify username guess.password).transcript.value
  let settled (service : AuthService) := (service.settle username guess.jti asked.1 now).value
  .update (fun service => (settled service).1) fun service => .done ⟨(settled service).2, asked.2⟩

/-- A login at an instant at which the clock stands still. Each of its two phases is
atomic. Between them it waits for the credential store, and anything may happen. -/
def guessLogin : Thread AuthService LoginAttempt :=
  .update id fun service =>
    match (service.checkLock username now).value with
    | .error error => .done ⟨some (.error error), []⟩
    | .ok () => settleGuess username now guess

/-- If nobody else is at work, the two phases are the login. -/
theorem alone_guessLogin (reading : Instant) (service : AuthService) :
    (guessLogin username now guess).alone reading service =
      (service.authenticate guess.credentials username guess.password guess.jti now).value := by
  unfold guessLogin Thread.alone
  dsimp only [id_eq]
  cases hlocked : service.tracker.isLocked username now with
  | true =>
    rw [service.checkLock_of_isLocked hlocked, service.value_authenticate_of_isLocked hlocked]
    rfl
  | false =>
    rw [service.checkLock_of_not_isLocked hlocked,
      service.value_authenticate_of_not_isLocked hlocked]
    rfl

end AuthService

namespace LockoutTracker

theorem remaining_pos {t : LockoutTracker} {username : String} {now : Instant}
    (hlocked : t.isLocked username now = true) : 0 < (t.remaining username now).nanos := by
  obtain ⟨deadline, hdeadline, hlater⟩ := (t.isLocked_iff username now).1 hlocked
  have hspan := Instant.nanos_remaining_of_lt hlater
  rw [t.remaining_of_lockUntil hdeadline]
  rw [Instant.lt_def] at hlater
  omega

end LockoutTracker

/-! ### What is counted -/

namespace Call

variable {ρ σ : Type}

/-- The call has passed its first step, but has not come to an answer. -/
def isWaiting {α : Type} (call : Call ρ σ α) : Bool :=
  call.thread.answer?.isNone && !call.times.isEmpty

/-- The call has been answered with wrong credentials. -/
def isRefused (call : Call ρ σ LoginAttempt) : Bool :=
  call.thread.answer?.any LoginAttempt.isWrong

end Call

namespace World

variable {ρ σ : Type}

/-- How many logins wait for the credential store. -/
def waiting {α : Type} (w : World ρ σ α) : Nat := w.calls.countP Call.isWaiting

/-- How many logins have been answered with wrong credentials. -/
def refused (w : World ρ σ LoginAttempt) : Nat := w.calls.countP Call.isRefused

theorem countP_set_of_getElem? {α : Type} {calls : List (Call ρ σ α)} {index : Nat}
    {call : Call ρ σ α} (hcall : calls[index]? = some call) (counted : Call ρ σ α → Bool)
    (next : Call ρ σ α) :
    (calls.set index next).countP counted + (if counted call then 1 else 0) =
      calls.countP counted + (if counted next then 1 else 0) := by
  obtain ⟨hlength, rfl⟩ := List.getElem?_eq_some_iff.1 hcall
  have hle : (if counted calls[index] then 1 else 0) ≤ calls.countP counted :=
    List.boole_getElem_le_countP hlength
  rw [List.countP_set hlength]
  omega

theorem step_advance_counts (program : ρ → Thread σ LoginAttempt) {w : World ρ σ LoginAttempt}
    {index : Nat} {call next : Call ρ σ LoginAttempt} (hcall : w.calls[index]? = some call)
    {shared : σ} (hadvance : call.advance w.now w.shared = (shared, next)) :
    let after := w.step program (.advance index)
    after.shared = shared ∧
      after.refused + (if call.isRefused then 1 else 0) =
        w.refused + (if next.isRefused then 1 else 0) ∧
      after.waiting + (if call.isWaiting then 1 else 0) =
        w.waiting + (if next.isWaiting then 1 else 0) := by
  intro after
  have hafter : after = ⟨w.now, (call.advance w.now w.shared).1,
      w.calls.set index (call.advance w.now w.shared).2⟩ := step_advance_of_some hcall
  rw [hafter, hadvance]
  exact ⟨rfl, countP_set_of_getElem? hcall _ next, countP_set_of_getElem? hcall _ next⟩

end World

/-! ### What one step can do -/

namespace AuthService

section Steps

variable (username : String) (now : Instant)

/-- How far a login has come that the store refuses. -/
inductive Stage : Call Guess AuthService LoginAttempt → Prop where
  | begun (guess : Guess) (hrefused : (guess.answer username).isRefusal = true) :
      Stage ⟨guess, [], guessLogin username now guess⟩
  | waiting (guess : Guess) (time : Instant) (hrefused : (guess.answer username).isRefusal = true) :
      Stage ⟨guess, [time], settleGuess username now guess⟩
  | refused (guess : Guess) (times : List Instant) :
      Stage ⟨guess, times,
        .done ⟨some (.error .invalidCredentials), [⟨username, guess.password⟩]⟩⟩
  | rejected (guess : Guess) (times : List Instant) (remaining : Duration)
      (hremaining : 0 < remaining.nanos) :
      Stage ⟨guess, times, .done ⟨some (.error (.accountLocked remaining)), []⟩⟩

/-- What a step can make of a world in which an account is guessed at. Either
nothing of interest happens, or a login is let through by the lock check, or one of
those is refused and the refusal is recorded. -/
inductive Progress (before after : World Guess AuthService LoginAttempt) : Prop where
  | still (hshared : after.shared = before.shared) (hrefused : after.refused = before.refused)
      (hwaiting : after.waiting = before.waiting)
  | admitted (hshared : after.shared = before.shared)
      (hopen : before.shared.tracker.isLocked username now = false)
      (hrefused : after.refused = before.refused)
      (hwaiting : after.waiting = before.waiting + 1)
  | refused (hshared : after.shared.tracker =
        (before.shared.tracker.recordFailure username now).value.1)
      (hrefused : after.refused = before.refused + 1)
      (hwaiting : after.waiting + 1 = before.waiting)

variable {username now} {w : World Guess AuthService LoginAttempt}

theorem advance_begun_of_isLocked {guess : Guess} {service : AuthService}
    (hlocked : service.tracker.isLocked username now = true) (reading : Instant) :
    Call.advance ⟨guess, [], guessLogin username now guess⟩ reading service =
      let remaining := service.tracker.remaining username now
      (service, ⟨guess, [reading],
        .done ⟨some (.error (.accountLocked remaining)), []⟩⟩) := by
  unfold Call.advance guessLogin
  dsimp only
  rw [service.checkLock_of_isLocked hlocked]
  rfl

theorem advance_begun_of_not_isLocked {guess : Guess} {service : AuthService}
    (hopen : service.tracker.isLocked username now = false) (reading : Instant) :
    Call.advance ⟨guess, [], guessLogin username now guess⟩ reading service =
      (service, ⟨guess, [reading], settleGuess username now guess⟩) := by
  unfold Call.advance guessLogin
  dsimp only
  rw [service.checkLock_of_not_isLocked hopen]
  rfl

theorem advance_waiting {guess : Guess} (hrefused : (guess.answer username).isRefusal = true)
    (times : List Instant) (reading : Instant) (service : AuthService) :
    Call.advance ⟨guess, times, settleGuess username now guess⟩ reading service =
      ({ service with tracker := (service.tracker.recordFailure username now).value.1 },
        ⟨guess, times ++ [reading],
          .done ⟨some (.error .invalidCredentials), [⟨username, guess.password⟩]⟩⟩) := by
  have hasked : (guess.credentials.verify username guess.password).transcript.value =
      (guess.answer username, [⟨username, guess.password⟩]) := rfl
  unfold Call.advance settleGuess
  dsimp only
  rw [hasked]
  dsimp only
  rw [value_settle_fst, if_pos hrefused, value_settle_snd_of_isRefusal _ hrefused]

theorem progress_advance (hstages : ∀ call ∈ w.calls, Stage username now call) (index : Nat) :
    Progress username now w (w.step (guessLogin username now) (.advance index)) := by
  cases hcall : w.calls[index]? with
  | none =>
    rw [World.step_advance_of_none hcall]
    exact .still rfl rfl rfl
  | some call =>
    cases hstages call (List.mem_of_getElem? hcall) with
    | begun guess hrefused =>
      cases hlocked : w.shared.tracker.isLocked username now with
      | true =>
        obtain ⟨hshared, hsame, hwaiting⟩ := World.step_advance_counts (guessLogin username now)
          hcall (advance_begun_of_isLocked hlocked w.now)
        exact .still hshared hsame hwaiting
      | false =>
        obtain ⟨hshared, hsame, hwaiting⟩ := World.step_advance_counts (guessLogin username now)
          hcall (advance_begun_of_not_isLocked hlocked w.now)
        exact .admitted hshared hlocked hsame hwaiting
    | waiting guess time hrefused =>
      obtain ⟨hshared, hmore, hwaiting⟩ := World.step_advance_counts (guessLogin username now)
        hcall (advance_waiting hrefused [time] w.now w.shared)
      exact .refused (congrArg tracker hshared) hmore hwaiting
    | refused guess times =>
      obtain ⟨hshared, hsame, hwaiting⟩ :=
        World.step_advance_counts (guessLogin username now) hcall rfl
      exact .still hshared (Nat.add_right_cancel hsame) hwaiting
    | rejected guess times remaining =>
      obtain ⟨hshared, hsame, hwaiting⟩ :=
        World.step_advance_counts (guessLogin username now) hcall rfl
      exact .still hshared hsame hwaiting

theorem progress_step (hstages : ∀ call ∈ w.calls, Stage username now call)
    (move : Move Guess) : Progress username now w (w.step (guessLogin username now) move) := by
  cases move with
  | tick reading => exact .still rfl rfl rfl
  | begin guess =>
    refine .still rfl ?_ ?_
    · exact List.countP_append.trans (Nat.add_zero _)
    · exact List.countP_append.trans (Nat.add_zero _)
  | advance index => exact progress_advance hstages index

theorem stage_advance {call : Call Guess AuthService LoginAttempt} (h : Stage username now call)
    (reading : Instant) (service : AuthService) :
    Stage username now (call.advance reading service).2 := by
  cases h with
  | begun guess hrefused =>
    cases hlocked : service.tracker.isLocked username now with
    | true =>
      rw [advance_begun_of_isLocked hlocked]
      exact .rejected guess _ _ (LockoutTracker.remaining_pos hlocked)
    | false =>
      rw [advance_begun_of_not_isLocked hlocked]
      exact .waiting guess reading hrefused
  | waiting guess time hrefused =>
    rw [advance_waiting hrefused]
    exact .refused guess _
  | refused guess times => exact .refused guess times
  | rejected guess times remaining hremaining => exact .rejected guess times remaining hremaining

theorem stage_step (hstages : ∀ call ∈ w.calls, Stage username now call) {move : Move Guess}
    (hrefused : ∀ guess, move = .begin guess → (guess.answer username).isRefusal = true) :
    ∀ call ∈ (w.step (guessLogin username now) move).calls, Stage username now call := by
  cases move with
  | tick reading => exact hstages
  | begin guess =>
    intro call hmem
    obtain hold | hnew := List.mem_append.1 hmem
    · exact hstages call hold
    · obtain rfl := List.mem_singleton.1 hnew
      exact .begun guess (hrefused guess rfl)
  | advance index =>
    cases hadvanced : w.calls[index]? with
    | none =>
      rw [World.step_advance_of_none hadvanced]
      exact hstages
    | some advanced =>
      rw [World.step_advance_of_some hadvanced]
      intro call hmem
      obtain hold | rfl := List.mem_or_eq_of_mem_set hmem
      · exact hstages call hold
      · exact stage_advance (hstages advanced (List.mem_of_getElem? hadvanced)) w.now w.shared

end Steps

/-! ### Whole runs -/

section Runs

variable {policy : LockoutPolicy} {username : String} {now : Instant}
  {w after : World Guess AuthService LoginAttempt}

/-- The refused logins of an account are what the tracker knows of it: every one of
them is counted, and they lock the account when they reach the threshold. -/
structure Tallied (policy : LockoutPolicy) (username : String) (now : Instant)
    (w : World Guess AuthService LoginAttempt) : Prop where
  stages : ∀ call ∈ w.calls, Stage username now call
  under : w.shared.tracker.policy = policy
  failures : (w.shared.tracker.record username).failures = min w.refused maxFailures
  locked : w.shared.tracker.isLocked username now = true ↔
    policy.maxFailedAttempts.toNat ≤ w.refused

theorem tallied_idle (husable : policy.Usable) {service : AuthService}
    (hpolicy : service.tracker.policy = policy)
    (hfailures : (service.tracker.record username).failures = 0)
    (hopen : service.tracker.isLocked username now = false) (reading : Instant) :
    Tallied policy username now (.idle reading service) := by
  have hthreshold : ¬ policy.maxFailedAttempts.toNat ≤ 0 := Nat.not_le.2 husable.threshold
  have hunlocked : service.tracker.isLocked username now ≠ true := Bool.eq_false_iff.1 hopen
  exact ⟨fun _ hmem => absurd hmem List.not_mem_nil, hpolicy, hfailures,
    iff_of_false hunlocked hthreshold⟩

theorem Tallied.of_shared_eq (h : Tallied policy username now w)
    (hstages : ∀ call ∈ after.calls, Stage username now call)
    (hshared : after.shared = w.shared) (hsame : after.refused = w.refused) :
    Tallied policy username now after := by
  obtain ⟨-, hunder, hfailures, hlocked⟩ := h
  rw [← hshared] at hunder hfailures hlocked
  rw [← hsame] at hfailures hlocked
  exact ⟨hstages, hunder, hfailures, hlocked⟩

theorem tallied_step (husable : policy.Usable) (hend : now < .farFuture)
    (h : Tallied policy username now w) {move : Move Guess}
    (hrefused : ∀ guess, move = .begin guess → (guess.answer username).isRefusal = true) :
    Tallied policy username now (w.step (guessLogin username now) move) := by
  have hstages := stage_step h.stages hrefused
  cases progress_step h.stages move with
  | still hshared hsame hwaiting => exact h.of_shared_eq hstages hshared hsame
  | admitted hshared hopen hsame hwaiting => exact h.of_shared_eq hstages hshared hsame
  | refused hshared hmore hwaiting =>
    have hfailures : ((w.shared.tracker.record username).fail policy now).failures =
        min (w.refused + 1) maxFailures := by
      have hcapped : ((w.shared.tracker.record username).fail policy now).failures =
          min ((w.shared.tracker.record username).failures + 1) maxFailures := rfl
      rw [hcapped, h.failures]
      omega
    refine ⟨hstages, ?_, ?_, ?_⟩
    · rw [hshared, LockoutTracker.policy_recordFailure, h.under]
    · rw [hshared, LockoutTracker.record_recordFailure, h.under, hmore, hfailures]
    · have hlocked := h.locked
      have hbound := policy.threshold_le_maxFailures
      rw [LockoutTracker.isLocked_eq] at hlocked
      rw [hshared, LockoutTracker.isLocked_eq, LockoutTracker.record_recordFailure, h.under,
        FailureRecord.isLockedAt_fail_iff husable _ hend, hlocked, hfailures, hmore]
      omega

theorem tallied_run (husable : policy.Usable) (hend : now < .farFuture)
    (h : Tallied policy username now w) {moves : List (Move Guess)}
    (hrefused : ∀ guess, .begin guess ∈ moves → (guess.answer username).isRefusal = true) :
    Tallied policy username now (w.run (guessLogin username now) moves) := by
  induction moves generalizing w with
  | nil => exact h
  | cons move moves ih =>
    have hfirst := tallied_step husable hend h fun guess hmove =>
      hrefused guess (hmove ▸ List.mem_cons_self ..)
    exact ih hfirst fun guess hmem => hrefused guess (List.mem_cons_of_mem _ hmem)

/-- Once the threshold is reached, no login passes the lock check any more. Those
that wait for the store are all that can still be refused. -/
theorem Tallied.refused_add_waiting_eq (h : Tallied policy username now w)
    (hprogress : Progress username now w after)
    (hreached : policy.maxFailedAttempts.toNat ≤ w.refused) :
    after.refused + after.waiting = w.refused + w.waiting := by
  cases hprogress with
  | still hshared hsame hwaiting => omega
  | admitted hshared hopen hsame hwaiting =>
    rw [h.locked.2 hreached] at hopen
    cases hopen
  | refused hshared hmore hwaiting => omega

theorem Progress.refused_le (hprogress : Progress username now w after) :
    w.refused ≤ after.refused := by
  cases hprogress with
  | still hshared hsame hwaiting => omega
  | admitted hshared hopen hsame hwaiting => omega
  | refused hshared hmore hwaiting => omega

theorem refused_add_waiting_run (husable : policy.Usable) (hend : now < .farFuture)
    (h : Tallied policy username now w) {moves : List (Move Guess)}
    (hrefused : ∀ guess, .begin guess ∈ moves → (guess.answer username).isRefusal = true)
    (hreached : policy.maxFailedAttempts.toNat ≤ w.refused) :
    (w.run (guessLogin username now) moves).refused +
      (w.run (guessLogin username now) moves).waiting = w.refused + w.waiting := by
  induction moves generalizing w with
  | nil => rfl
  | cons move moves ih =>
    have hprogress := progress_step h.stages move
    have hfirst := tallied_step husable hend h fun guess hmove =>
      hrefused guess (hmove ▸ List.mem_cons_self ..)
    have hrest := ih hfirst (fun guess hmem => hrefused guess (List.mem_cons_of_mem _ hmem))
      (Nat.le_trans hreached hprogress.refused_le)
    exact hrest.trans (h.refused_add_waiting_eq hprogress hreached)

/-- As long as no more than `width` logins wait at a time, the one with which the
threshold is reached leaves fewer than that behind. -/
theorem refused_run_le (husable : policy.Usable) (hend : now < .farFuture)
    (h : Tallied policy username now w) {moves : List (Move Guess)}
    (hrefused : ∀ guess, .begin guess ∈ moves → (guess.answer username).isRefusal = true)
    {width : Nat}
    (hwidth : ∀ before, before <+: moves →
      (w.run (guessLogin username now) before).waiting ≤ width)
    (hstart : policy.maxFailedAttempts.toNat ≤ w.refused →
      w.refused + w.waiting ≤ policy.maxFailedAttempts.toNat + (width - 1)) :
    (w.run (guessLogin username now) moves).refused ≤
      policy.maxFailedAttempts.toNat + (width - 1) := by
  induction moves generalizing w with
  | nil =>
    change w.refused ≤ _
    omega
  | cons move moves ih =>
    have hprogress := progress_step h.stages move
    have hfirst := tallied_step husable hend h fun guess hmove =>
      hrefused guess (hmove ▸ List.mem_cons_self ..)
    have hnow : w.waiting ≤ width := hwidth [] List.nil_prefix
    refine ih hfirst (fun guess hmem => hrefused guess (List.mem_cons_of_mem _ hmem))
      (fun before hprefix => hwidth (move :: before) (List.cons_prefix_cons.2 ⟨rfl, hprefix⟩))
      fun hreached => ?_
    by_cases hearlier : policy.maxFailedAttempts.toNat ≤ w.refused
    · have hsame := h.refused_add_waiting_eq hprogress hearlier
      have hbound := hstart hearlier
      omega
    · -- this move is the refusal with which the threshold is reached
      cases hprogress with
      | still hshared hsame hwaiting => omega
      | admitted hshared hopen hsame hwaiting => omega
      | refused hshared hmore hwaiting => omega

theorem Stage.outcome {call : Call Guess AuthService LoginAttempt}
    (h : Stage username now call) :
    (call.thread.answer? = none ∧ call.times.length ≤ 1) ∨
      call.thread.answer? = some
        ⟨some (.error .invalidCredentials), [⟨username, call.request.password⟩]⟩ ∨
      ∃ remaining, 0 < remaining.nanos ∧
        call.thread.answer? = some ⟨some (.error (.accountLocked remaining)), []⟩ := by
  cases h with
  | begun guess hrefused => exact .inl ⟨rfl, Nat.zero_le 1⟩
  | waiting guess time hrefused => exact .inl ⟨rfl, Nat.le_refl 1⟩
  | refused guess times => exact .inr (.inl rfl)
  | rejected guess times remaining hremaining => exact .inr (.inr ⟨remaining, hremaining, rfl⟩)

end Runs

/-- The lockout against any number of guesses that are made at the same time, in any
order of their phases, at an account without failures that is not locked. Two phases
bring every one of them to its end: it is refused by the store, or rejected because
of the lock. Each refusal counts, and from the one that reaches the threshold on the
account is locked, so that nothing can be refused any more but what waits for the
store at that moment. If no more than `width` guesses ever wait at a time, at most
`width - 1` are refused beyond the threshold. -/
theorem refused_le_threshold_add_waiting {settings : AuthSettings} {built : Logged AuthService}
    (hbuild : build settings = .ok built) (earlier : List Turn) {username : String}
    {now : Instant} (hend : now < .farFuture)
    (hfailures : ((built.value.run earlier).tracker.info username).attempts = 0)
    (hopen : (built.value.run earlier).tracker.isLocked username now = false)
    {moves : List (Move Guess)}
    (hrefused : ∀ guess, .begin guess ∈ moves → (guess.answer username).isRefusal = true) :
    let after (taken : List (Move Guess)) : World Guess AuthService LoginAttempt :=
      (World.idle now (built.value.run earlier)).run (guessLogin username now) taken
    let threshold := settings.lockout.maxFailedAttempts.toNat
    let w := after moves
    (∀ call ∈ w.calls, (call.thread.answer? = none ∧ call.times.length ≤ 1) ∨
        call.thread.answer? = some
          ⟨some (.error .invalidCredentials), [⟨username, call.request.password⟩]⟩ ∨
        ∃ remaining, 0 < remaining.nanos ∧
          call.thread.answer? = some ⟨some (.error (.accountLocked remaining)), []⟩) ∧
      (w.shared.tracker.info username).attempts = min w.refused maxFailures ∧
      (w.shared.tracker.isLocked username now = true ↔ threshold ≤ w.refused) ∧
      (∀ before, before <+: moves → threshold ≤ (after before).refused →
        w.refused + w.waiting = (after before).refused + (after before).waiting) ∧
      ∀ width, (∀ before, before <+: moves → (after before).waiting ≤ width) →
        w.refused ≤ threshold + (width - 1) := by
  intro after threshold w
  have husable := usable_of_build hbuild
  have hstart : Tallied settings.lockout username now
      (.idle now (built.value.run earlier)) :=
    tallied_idle husable (policy_run_of_build hbuild earlier) hfailures hopen now
  have htallied : Tallied settings.lockout username now w :=
    tallied_run husable hend hstart hrefused
  refine ⟨fun call hmem => (htallied.stages call hmem).outcome, htallied.failures,
    htallied.locked, ?_, fun width hwidth => ?_⟩
  · rintro before ⟨rest, rfl⟩ hreached
    have hbefore : Tallied settings.lockout username now (after before) :=
      tallied_run husable hend hstart fun guess hmem =>
        hrefused guess (List.mem_append_left _ hmem)
    have hsplit : w = (after before).run (guessLogin username now) rest := List.foldl_append
    rw [hsplit]
    exact refused_add_waiting_run husable hend hbefore
      (fun guess hmem => hrefused guess (List.mem_append_right _ hmem)) hreached
  · have hthreshold := husable.threshold
    refine refused_run_le husable hend hstart hrefused hwidth fun hreached => ?_
    exact absurd hreached (Nat.not_le.2 hthreshold)

/-- One guess on its own and then three at a time are four refusals under a policy
that locks after two, which is the most there can be. The fifth guess finds the
account locked. -/
theorem four_parallel_refusals :
    let settings := { AuthSettings.default with
      token := ⟨"0123456789abcdef0123456789abcdef", .seconds 3600⟩
      lockout := { LockoutPolicy.default with maxFailedAttempts := 2 } }
    let guess : Guess := ⟨fun _ _ => .verdict false, "guess", "a"⟩
    let moves : List (Move Guess) := [.begin guess, .advance 0, .advance 0,
      .begin guess, .begin guess, .begin guess, .advance 1, .advance 2, .advance 3,
      .advance 1, .advance 2, .advance 3, .begin guess, .advance 4]
    ∃ built, build settings = .ok built ∧
      ((built.value.run []).tracker.info "alice").attempts = 0 ∧
      (built.value.run []).tracker.isLocked "alice" .epoch = false ∧
      (∀ made, .begin made ∈ moves → (made.answer "alice").isRefusal = true) ∧
      let after (taken : List (Move Guess)) : World Guess AuthService LoginAttempt :=
        (World.idle .epoch (built.value.run [])).run (guessLogin "alice" .epoch) taken
      (∀ before, before <+: moves → (after before).waiting ≤ 3) ∧
        (after moves).refused = 4 ∧ (after moves).calls.length = 5 ∧
        (after moves).waiting = 0 ∧
        (after moves).refused ≤ settings.lockout.maxFailedAttempts.toNat + (3 - 1) := by
  intro settings guess moves
  obtain ⟨built, hbuild⟩ : ∃ built, build settings = .ok built := ⟨_, rfl⟩
  have hinitial : built.value.run [] = ofSettings settings := by
    rw [value_build hbuild]
    rfl
  have hfailures : ((built.value.run []).tracker.info "alice").attempts = 0 := by
    rw [hinitial]
    decide +kernel
  have hopen : (built.value.run []).tracker.isLocked "alice" .epoch = false := by
    rw [hinitial]
    decide +kernel
  have hrefused : ∀ made, .begin made ∈ moves → (made.answer "alice").isRefusal = true := by
    intro made hmem
    simp only [moves, List.mem_cons, Move.begin.injEq, List.not_mem_nil, reduceCtorEq, or_false,
      false_or, or_self] at hmem
    rw [hmem]
    rfl
  refine ⟨built, hbuild, hfailures, hopen, hrefused, ?_⟩
  intro after
  have hwidth : ∀ before, before <+: moves → (after before).waiting ≤ 3 := by
    intro before hprefix
    rw [List.prefix_iff_eq_take.1 hprefix]
    have hlength := hprefix.length_le
    have hall : ∀ taken < 15, (after (moves.take taken)).waiting ≤ 3 := by
      unfold after
      rw [hinitial]
      decide +kernel
    exact hall _ (Nat.lt_succ_of_le hlength)
  have hcounts : (after moves).refused = 4 ∧ (after moves).calls.length = 5 ∧
      (after moves).waiting = 0 := by
    unfold after
    rw [hinitial]
    decide +kernel
  obtain ⟨hfour, hfive, hnone⟩ := hcounts
  obtain ⟨-, -, -, -, hbound⟩ :=
    refused_le_threshold_add_waiting hbuild [] (by decide) hfailures hopen hrefused
  exact ⟨hwidth, hfour, hfive, hnone, hbound 3 hwidth⟩

/-- Three guesses that have all passed the lock check before the first of them comes
back from the store are all refused, though the policy locks after two. -/
theorem parallel_refusals_over_threshold :
    let settings := { AuthSettings.default with
      token := ⟨"0123456789abcdef0123456789abcdef", .seconds 3600⟩
      lockout := { LockoutPolicy.default with maxFailedAttempts := 2 } }
    let guess : Guess := ⟨fun _ _ => .verdict false, "guess", "a"⟩
    let moves : List (Move Guess) := [.begin guess, .begin guess, .begin guess,
      .advance 0, .advance 1, .advance 2, .advance 0, .advance 1, .advance 2]
    ∃ built, build settings = .ok built ∧
      (built.value.tracker.info "alice").attempts = 0 ∧
      built.value.tracker.isLocked "alice" .epoch = false ∧
      (guess.answer "alice").isRefusal = true ∧
      settings.lockout.maxFailedAttempts.toNat <
        ((World.idle .epoch built.value).run (guessLogin "alice" .epoch) moves).refused := by
  intro settings guess moves
  obtain ⟨built, hbuild⟩ : ∃ built, build settings = .ok built := ⟨_, rfl⟩
  refine ⟨built, hbuild, ?_⟩
  rw [value_build hbuild]
  decide +kernel

end AuthService

end AuthGate

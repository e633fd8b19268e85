import AuthGate.Proofs.Service.Bearer
import AuthGate.Proofs.Service.Entries

namespace AuthGate

theorem AuthSettings.ttl_pos_of_defect? {s : AuthSettings} (h : s.defect? = none) :
    0 < s.token.ttl.nanos := by
  unfold defect? at h
  iterate 2 (split at h; · cases h)
  split at h
  · cases h
  next httl =>
  have hne : s.token.ttl.nanos ≠ Duration.zero.nanos := mt Duration.eq_of_nanos_eq httl
  exact Nat.pos_of_ne_zero hne

namespace TokenCodec

variable (codec : TokenCodec)

theorem issue_of_add?_eq_none {now : Instant} (h : now.add? codec.ttl = none)
    (subject jti : String) : codec.issue subject jti now = .error .expiryOutOfRange := by
  unfold issue
  rw [h]

end TokenCodec

namespace AuthService

variable (service : AuthService)

theorem value_grant_of_add? {now expiry : Instant} (h : now.add? service.codec.ttl = some expiry)
    (username jti : String) :
    (service.grant username jti now).value.2 =
      .ok ⟨username, service.codec.compact (.between username jti now expiry), service.codec.ttl,
        expiry⟩ := by
  unfold grant issue
  rw [Logged.value_bind]
  dsimp only
  rw [service.codec.issue_of_add? h]
  change Except.ok (Session.mk username _ _ (Claims.between username jti now expiry).expiresAt) = _
  rw [Claims.expiresAt_between]

theorem value_grant_of_add?_eq_none {now : Instant} (h : now.add? service.codec.ttl = none)
    (username jti : String) :
    (service.grant username jti now).value.2 = .error (.ofToken .expiryOutOfRange) := by
  unfold grant issue
  rw [Logged.value_bind]
  dsimp only
  rw [service.codec.issue_of_add?_eq_none h]
  rfl

/-- A login that the store accepts clears the record of its account, and only then a
token is issued. -/
theorem value_authenticate_of_verdict {credentials : CredentialCheck} {username password : String}
    {now : Instant} (hopen : service.tracker.isLocked username now = false)
    (haccepted : credentials username password = .verdict true) (jti : String) :
    (service.authenticate credentials username password jti now).value =
      ({ service with tracker := (service.tracker.clear username now).value },
        ⟨some (service.grant username jti now).value.2, [⟨username, password⟩]⟩) := by
  have hafter := service.value_settle_fst username jti (.verdict true) now
  have hresult : (service.settle username jti (.verdict true) now).value.2 =
      some (service.grant username jti now).value.2 := rfl
  rw [service.value_authenticate_of_not_isLocked hopen, haccepted]
  dsimp only
  rw [hafter, hresult]
  rfl

variable {service}

/-- A token is not revoked as long as no token with its identifier has been logged out. -/
theorem isRevoked_run_of_fresh {turns : List Turn} {raw : String} {claims : Claims}
    (hempty : service.registry = .empty) (hverify : service.codec.verify raw = .ok claims)
    (hfresh : ∀ turn ∈ turns, ∀ other stated, turn.operation = .logout other →
      service.codec.verify other = .ok stated → stated.jti ≠ claims.jti)
    (hkeys : ∀ turn ∈ turns, ∀ other, turn.operation = .logout other →
      revocationKey other = revocationKey raw → other = raw) (now : Instant) :
    ((service.run turns).registry.isRevoked raw now).2 = false := by
  rw [RevocationRegistry.isRevoked_snd, Bool.eq_false_iff]
  intro hholds
  obtain ⟨expiry, hentry, -⟩ := ((service.run turns).registry.holds_iff _ _).1 hholds
  obtain hheld | ⟨turn, hmem, other, stated, ⟨hlogout, hstated, -⟩, hkey, -⟩ := entry_run hentry
  · rw [hempty] at hheld
    simp [RevocationRegistry.empty] at hheld
  · obtain rfl := hkeys turn hmem other hlogout hkey.symm
    rw [hverify] at hstated
    cases hstated
    exact hfresh turn hmem other claims hlogout hverify rfl

/-- A token just issued is accepted in every state with the registry that a run has led to. -/
theorem evaluate_issued {turns : List Turn} {after : AuthService} {subject jti token : String}
    {now expiry : Instant} (hempty : service.registry = .empty)
    (hfresh : ∀ turn ∈ turns, ∀ raw claims, turn.operation = .logout raw →
      service.codec.verify raw = .ok claims → claims.jti ≠ jti)
    (hkeys : ∀ turn ∈ turns, ∀ raw, turn.operation = .logout raw →
      revocationKey raw = revocationKey token → raw = token)
    (hcodec : after.codec = service.codec)
    (hregistry : after.registry = (service.run turns).registry)
    (htoken : token = service.codec.compact (.between subject jti now expiry))
    (hlater : now < expiry) :
    (after.evaluate (some ("Bearer " ++ token)) now).value.2.1 =
      .authenticated ⟨subject, jti, .utc expiry⟩ := by
  have hverify : service.codec.verify token = .ok (.between subject jti now expiry) := by
    rw [htoken]
    exact service.codec.verify_compact_between subject jti now expiry
  have hne : token ≠ "" := htoken ▸ service.codec.compact_ne_empty _
  have hunpadded : Unpadded token.toList := htoken ▸ service.codec.unpadded_compact _
  have hunrevoked := isRevoked_run_of_fresh hempty hverify hfresh hkeys now
  rw [← hcodec] at hverify
  rw [← hregistry] at hunrevoked
  have hvalid : now < (Claims.between subject jti now expiry).expiresAt := by
    rw [Claims.expiresAt_between]
    exact hlater
  rw [after.evaluate_of_verify hne hunpadded hverify hvalid hunrevoked, Claims.expiresAt_between]
  rfl

/-- An account that is not locked and that the credential store accepts is logged in, in
any state that a subsystem with valid settings comes to, if the calendar has the expiry of
its token. Its failures are forgotten, and the token is accepted from the same moment on.
Where the calendar ends before the token would, there is no login, since the settings
bound the life of tokens from below only.

Of identifiers is assumed that no token logged out before has the one that the new token
gets, and of digests that no other token logged out has the digest of the new one. -/
theorem accepted_login_granted {settings : AuthSettings} {built : Logged AuthService}
    (hbuild : build settings = .ok built) (turns : List Turn) {credentials : CredentialCheck}
    {username password jti : String} {now : Instant}
    (hopen : (built.value.run turns).tracker.isLocked username now = false)
    (haccepted : credentials username password = .verdict true)
    (hfresh : ∀ turn ∈ turns, ∀ raw claims, turn.operation = .logout raw →
      built.value.codec.verify raw = .ok claims → claims.jti ≠ jti)
    (hkeys : ∀ token claims, built.value.codec.issue username jti now = .ok (token, claims) →
      ∀ turn ∈ turns, ∀ raw, turn.operation = .logout raw →
        revocationKey raw = revocationKey token → raw = token) :
    let login := ((built.value.run turns).authenticate credentials username password jti now).value
    let after := login.1
    let result := login.2.result
    (∀ expiry : Instant, expiry.nanos = now.nanos + settings.token.ttl.nanos →
      after.tracker.record? username = none ∧ (after.tracker.info username).attempts = 0 ∧
      ∃ token, result = some (.ok ⟨username, token, settings.token.ttl, expiry⟩) ∧
        (after.evaluate (some ("Bearer " ++ token)) now).value.2.1 =
          .authenticated ⟨username, jti, .utc expiry⟩) ∧
    ((¬ ∃ expiry : Instant, expiry.nanos = now.nanos + settings.token.ttl.nanos) →
      result = some (.error (.internal "expiry is out of range"))) := by
  intro login after result
  have hbuilt : built.value = ofSettings settings := value_build hbuild
  have httl : (built.value.run turns).codec.ttl = settings.token.ttl := by
    rw [codec_run, hbuilt]
    rfl
  have hlogin := (built.value.run turns).value_authenticate_of_verdict hopen haccepted jti
  have hresult : result = some ((built.value.run turns).grant username jti now).value.2 :=
    congrArg (fun login => login.2.result) hlogin
  have hafter : after = { built.value.run turns with
      tracker := ((built.value.run turns).tracker.clear username now).value } :=
    congrArg Prod.fst hlogin
  have hrecord : after.tracker.record? username = none := by
    rw [hafter, LockoutTracker.record?_clear, if_pos rfl]
  have hattempts : (after.tracker.info username).attempts = 0 := by
    rw [LockoutTracker.info_attempts, LockoutTracker.record_eq_getD, hrecord]
    rfl
  constructor
  · intro expiry hexpiry
    refine ⟨hrecord, hattempts, ?_⟩
    have hadd : now.add? (built.value.run turns).codec.ttl = some expiry := by
      rw [httl]
      exact Instant.ofNanos?_eq_some.2 hexpiry.symm
    have hlater : now < expiry := by
      have hpos := AuthSettings.ttl_pos_of_defect? (defect?_of_build hbuild)
      rw [Instant.lt_def]
      omega
    have hcodec : after.codec = built.value.codec := by rw [hafter, codec_run]
    rw [hresult, value_grant_of_add? _ hadd, httl, codec_run]
    rw [codec_run] at hadd
    obtain ⟨token, htoken⟩ : ∃ token, token =
        built.value.codec.compact (.between username jti now expiry) := ⟨_, rfl⟩
    have hissue := built.value.codec.issue_of_add? hadd username jti
    rw [← htoken] at hissue ⊢
    exact ⟨token, rfl, evaluate_issued (by rw [hbuilt]; rfl) hfresh (hkeys _ _ hissue) hcodec
      (by rw [hafter]) htoken hlater⟩
  · intro hnone
    have hadd : now.add? (built.value.run turns).codec.ttl = none := by
      rw [httl, Option.eq_none_iff_forall_ne_some]
      exact fun expiry h => hnone ⟨expiry, (Instant.ofNanos?_eq_some.1 h).symm⟩
    rw [hresult, value_grant_of_add?_eq_none _ hadd]
    rfl

/-- A login that is accepted after a wrong password. -/
theorem login_after_wrong_password :
    let settings := { AuthSettings.default with
      token := ⟨"0123456789abcdef0123456789abcdef", .seconds 3600⟩ }
    let store : CredentialCheck := fun _ password => .verdict (password = "wonderland")
    let expiry : Instant := ⟨3_600_000_000_000, by decide, by decide⟩
    let turns : List Turn := [⟨.authenticate store "alice" "guess" "a", .epoch⟩,
      ⟨.sweep settings.lockout.idleRecordTtl, .epoch⟩]
    ∃ built token, build settings = .ok built ∧
      ((built.value.run turns).tracker.info "alice").attempts = 1 ∧
      (built.value.run turns).tracker.isLocked "alice" .epoch = false ∧
      (∀ turn ∈ turns, ∀ raw, turn.operation ≠ .logout raw) ∧
      let login := ((built.value.run turns).authenticate store "alice" "wonderland" "b" .epoch).value
      login.2.result = some (.ok ⟨"alice", token, settings.token.ttl, expiry⟩) ∧
        (login.1.tracker.info "alice").attempts = 0 ∧
        (login.1.evaluate (some ("Bearer " ++ token)) .epoch).value.2.1 =
          .authenticated ⟨"alice", "b", .utc expiry⟩ := by
  intro settings store expiry turns
  obtain ⟨built, hbuild⟩ : ∃ built, build settings = .ok built := ⟨_, rfl⟩
  have hcount : ((built.value.run turns).tracker.info "alice").attempts = 1 := by
    rw [value_build hbuild]
    decide +kernel
  have hopen : (built.value.run turns).tracker.isLocked "alice" .epoch = false := by
    rw [value_build hbuild]
    decide +kernel
  have haccepted : store "alice" "wonderland" = .verdict true :=
    congrArg StoreAnswer.verdict (decide_eq_true rfl)
  have hlogout : ∀ turn ∈ turns, ∀ raw, turn.operation ≠ .logout raw := by
    simp [turns]
  have hfresh : ∀ turn ∈ turns, ∀ raw claims, turn.operation = .logout raw →
      built.value.codec.verify raw = .ok claims → claims.jti ≠ "b" :=
    fun turn hmem raw _ hraw => absurd hraw (hlogout turn hmem raw)
  have hexpiry : expiry.nanos = Instant.epoch.nanos + settings.token.ttl.nanos := by decide
  obtain ⟨hgranted, -⟩ := accepted_login_granted hbuild turns hopen haccepted hfresh
    fun _ _ _ turn hmem raw hraw => absurd hraw (hlogout turn hmem raw)
  obtain ⟨-, hcleared, token, hresult, hevaluate⟩ := hgranted expiry hexpiry
  exact ⟨built, token, hbuild, hcount, hopen, hlogout, hresult, hcleared, hevaluate⟩

/-- Valid settings alone do not see to it that logins succeed. A time to live of eight
thousand years is valid, and in 2023 no token can be issued with it. -/
theorem accepted_login_out_of_range :
    let settings := { AuthSettings.default with
      token := ⟨"0123456789abcdef0123456789abcdef", .seconds 252_460_800_000⟩ }
    let now : Instant := ⟨1_700_000_000_000_000_000, by decide, by decide⟩
    let yearNineThousand : Instant := ⟨221_845_392_000_000_000_000, by decide, by decide⟩
    ∃ built, build settings = .ok built ∧ .epoch ≤ now ∧ now < yearNineThousand ∧
      (built.value.run []).tracker.isLocked "alice" now = false ∧
      ((built.value.run []).authenticate (fun _ _ => .verdict true) "alice" "wonderland" "a"
        now).value.2.result = some (.error (.internal "expiry is out of range")) := by
  intro settings now yearNineThousand
  obtain ⟨built, hbuild⟩ : ∃ built, build settings = .ok built := ⟨_, rfl⟩
  have hopen : (built.value.run []).tracker.isLocked "alice" now = false := by
    rw [value_build hbuild]
    decide +kernel
  have hadd : now.add? (built.value.run []).codec.ttl = none := by
    rw [value_build hbuild]
    decide +kernel
  refine ⟨built, hbuild, by decide, by decide, hopen, ?_⟩
  rw [value_authenticate_of_verdict _ hopen rfl, value_grant_of_add?_eq_none _ hadd]
  rfl

end AuthService

end AuthGate

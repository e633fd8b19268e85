import AuthGate.Proofs.Keys
import AuthGate.Proofs.Service.Logout

namespace AuthGate

theorem RevocationRegistry.ncard_entries (r : RevocationRegistry) :
    {key | key ∈ r.entries}.ncard = r.size := ncard_keys r.entries

namespace AuthService

variable {service : AuthService} {turn : Turn} {turns : List Turn} {key raw : String}
  {expiry held : Instant}

theorem getElem?_of_evaluate {header : Option String} {now : Instant}
    (hentry : (service.evaluate header now).value.1.registry.entries[key]? = some held) :
    service.registry.entries[key]? = some held := by
  obtain hsame | ⟨raw, -, hlookup⟩ := service.value_evaluate_fst header now
  · rw [hsame] at hentry
    exact hentry
  · rw [hlookup] at hentry
    exact RevocationRegistry.getElem?_of_isRevoked hentry

/-- A turn is a logout of a token that verifies and has not expired. -/
def Revokes (codec : TokenCodec) (turn : Turn) (raw : String) (claims : Claims) : Prop :=
  turn.operation = .logout raw ∧ codec.verify raw = .ok claims ∧ turn.now < claims.expiresAt

/-- All that a turn can do to the registry: a logout of a token that verifies and has
not expired retains its key, and any other turn adds no entry and changes none. -/
theorem registry_step (service : AuthService) (turn : Turn) :
    (∃ raw claims, Revokes service.codec turn raw claims ∧
      (service.step turn).registry =
        service.registry.retain (revocationKey raw) claims.expiresAt) ∨
    ∀ (key : String) (held : Instant), (service.step turn).registry.entries[key]? = some held →
      service.registry.entries[key]? = some held := by
  obtain ⟨operation, now⟩ := turn
  cases operation with
  | authenticate credentials username password jti =>
    rw [step_authenticate, registry_authenticate]
    exact .inr fun _ _ hentry => hentry
  | logout raw =>
    rw [step_logout]
    obtain ⟨hsame, -⟩ | ⟨claims, hverify, hvalid, hrevoked⟩ := service.value_logout_fst raw now
    · rw [hsame]
      exact .inr fun _ _ hentry => hentry
    · rw [hrevoked, service.registry.value_revoke_of_lt raw hvalid]
      exact .inl ⟨raw, claims, ⟨rfl, hverify, hvalid⟩, rfl⟩
  | evaluate header => exact .inr fun _ _ hentry => getElem?_of_evaluate hentry
  | process request =>
    rw [step_process, value_process_fst]
    exact .inr fun _ _ hentry => getElem?_of_evaluate hentry
  | sweep idle =>
    rw [step_sweep, value_sweep]
    exact .inr fun _ _ hentry => RevocationRegistry.getElem?_of_purgeExpired hentry

/-- An entry that is there after a turn was there before, or the turn is a logout of
its token. -/
theorem entry_step (hentry : (service.step turn).registry.entries[key]? = some expiry) :
    service.registry.entries[key]? = some expiry ∨ ∃ raw claims,
      Revokes service.codec turn raw claims ∧ key = revocationKey raw ∧
        expiry = claims.expiresAt := by
  obtain ⟨raw, claims, hrevokes, hretained⟩ | hkept := service.registry_step turn
  · rw [hretained] at hentry
    obtain hheld | ⟨rfl, rfl⟩ := RevocationRegistry.getElem?_of_retain hentry
    · exact .inl hheld
    · exact .inr ⟨raw, claims, hrevokes, rfl, rfl⟩
  · exact .inl (hkept key expiry hentry)

theorem entry_run (hentry : (service.run turns).registry.entries[key]? = some expiry) :
    service.registry.entries[key]? = some expiry ∨ ∃ turn ∈ turns, ∃ raw claims,
      Revokes service.codec turn raw claims ∧ key = revocationKey raw ∧
        expiry = claims.expiresAt := by
  induction turns generalizing service with
  | nil => exact .inl hentry
  | cons turn turns ih =>
    obtain hstep | ⟨later, hmem, raw, claims, hrevokes, hkey⟩ := ih hentry
    · obtain hheld | ⟨raw, claims, hrevokes, hkey⟩ := entry_step hstep
      · exact .inl hheld
      · exact .inr ⟨turn, List.mem_cons_self .., raw, claims, hrevokes, hkey⟩
    · rw [codec_step] at hrevokes
      exact .inr ⟨later, List.mem_cons_of_mem _ hmem, raw, claims, hrevokes, hkey⟩

/-- No turn shortens an entry that it leaves in the registry. -/
theorem le_entry_step (hheld : service.registry.entries[key]? = some held)
    (hmem : key ∈ (service.step turn).registry.entries) :
    ∃ later, (service.step turn).registry.entries[key]? = some later ∧ held ≤ later := by
  obtain ⟨later, hlater⟩ : ∃ later, (service.step turn).registry.entries[key]? = some later :=
    Option.isSome_iff_exists.1 (Std.ExtTreeMap.mem_iff_isSome_getElem?.1 hmem)
  refine ⟨later, hlater, ?_⟩
  obtain ⟨raw, claims, -, hretained⟩ | hkept := service.registry_step turn
  · obtain ⟨next, hnext, hle⟩ := RevocationRegistry.le_getElem?_retain hheld
      (revocationKey raw) claims.expiresAt
    rw [hretained, hnext] at hlater
    obtain rfl := Option.some.inj hlater
    exact hle
  · rw [hkept key later hlater] at hheld
    cases hheld
    exact Int.le_refl _

/-- As long as a key stays in the registry, its entry only gets longer. -/
theorem le_entry_run (hheld : service.registry.entries[key]? = some held)
    (hstays : ∀ passed, passed <+: turns → key ∈ (service.run passed).registry.entries) :
    ∃ later, (service.run turns).registry.entries[key]? = some later ∧ held ≤ later := by
  induction turns generalizing service held with
  | nil => exact ⟨held, hheld, Int.le_refl _⟩
  | cons turn turns ih =>
    have hfirst := hstays [turn] (List.prefix_append [turn] turns)
    obtain ⟨next, hnext, hle⟩ := le_entry_step hheld hfirst
    obtain ⟨later, hlater, hle'⟩ := ih hnext fun passed hpassed =>
      hstays (turn :: passed) ((List.prefix_cons_inj turn).2 hpassed)
    exact ⟨later, hlater, Int.le_trans hle hle'⟩

/-- A logout of a token that is already held until its expiry changes nothing. -/
theorem value_logout_fst_of_held {claims : Claims} (hverify : service.codec.verify raw = .ok claims)
    (hheld : service.registry.entries[revocationKey raw]? = some held)
    (hle : claims.expiresAt ≤ held) (now : Instant) :
    (service.logout raw now).value.1 = service := by
  obtain ⟨hsame, -⟩ | ⟨claims', hverify', hvalid, hrevoked⟩ := service.value_logout_fst raw now
  · exact hsame
  · rw [hverify] at hverify'
    cases hverify'
    rw [hrevoked, service.registry.value_revoke_of_lt raw hvalid,
      RevocationRegistry.retain_eq_self hheld hle]

/-- A repeated logout changes nothing while the entry of the first one is held. -/
theorem value_logout_fst_of_stays {first : Instant}
    (hlogout : (service.logout raw first).value.2 = true)
    (hstays : ∀ passed, passed <+: turns → revocationKey raw ∈
      ((service.step ⟨.logout raw, first⟩).run passed).registry.entries) (now : Instant) :
    (((service.step ⟨.logout raw, first⟩).run turns).logout raw now).value.1 =
      (service.step ⟨.logout raw, first⟩).run turns := by
  obtain ⟨claims, hverify, hvalid⟩ := (service.value_logout_snd_iff raw first).1 hlogout
  have hregistry : (service.step ⟨.logout raw, first⟩).registry =
      service.registry.retain (revocationKey raw) claims.expiresAt := by
    rw [step_logout, service.value_logout_of_verify hverify hvalid]
    exact service.registry.value_revoke_of_lt raw hvalid
  obtain ⟨held, hheld, hle⟩ := service.registry.exists_le_getElem?_retain_self (revocationKey raw)
    claims.expiresAt
  rw [← hregistry] at hheld
  obtain ⟨later, hlater, hle'⟩ := le_entry_run hheld hstays
  have hverify' : ((service.step ⟨.logout raw, first⟩).run turns).codec.verify raw = .ok claims := by
    rw [codec_run, codec_step]
    exact hverify
  exact value_logout_fst_of_held hverify' hlater (Int.le_trans hle hle') now

/-- There are no more entries than tokens that have been logged out. -/
theorem size_run_le_ncard (hempty : service.registry = .empty) :
    (service.run turns).registry.size ≤ {raw | service.LoggedOut turns raw}.ncard := by
  have hfinite : {raw | service.LoggedOut turns raw}.Finite := by
    apply ((turns.map Turn.operation).finite_toSet.preimage
      (Set.injOn_of_injective fun _ _ h => Operation.logout.inj h)).subset
    intro raw hlogged
    obtain ⟨turn, hmem, hlogout, -⟩ := (service.loggedOut_iff turns raw).1 hlogged
    exact List.mem_map.2 ⟨turn, hmem, hlogout⟩
  -- every key that is held is the key of a token logged out
  have hkeys : {key | key ∈ (service.run turns).registry.entries} ⊆
      revocationKey '' {raw | service.LoggedOut turns raw} := by
    intro key hkey
    obtain ⟨expiry, hentry⟩ :=
      Option.isSome_iff_exists.1 (Std.ExtTreeMap.mem_iff_isSome_getElem?.1 hkey)
    obtain hheld | ⟨turn, hmem, raw, claims, ⟨hlogout, hverify, hvalid⟩, rfl, -⟩ := entry_run hentry
    · rw [hempty] at hheld
      simp [RevocationRegistry.empty] at hheld
    · exact ⟨raw, (service.loggedOut_iff turns raw).2 ⟨turn, hmem, hlogout, claims, hverify, hvalid⟩,
        rfl⟩
  calc (service.run turns).registry.size
      = {key | key ∈ (service.run turns).registry.entries}.ncard :=
        (service.run turns).registry.ncard_entries.symm
    _ ≤ (revocationKey '' {raw | service.LoggedOut turns raw}).ncard :=
        Set.ncard_le_ncard hkeys (hfinite.image _)
    _ ≤ {raw | service.LoggedOut turns raw}.ncard := Set.ncard_image_le hfinite

/-- Only genuine tokens enter the registry. After any run that starts with an empty
one, whatever the clock shows in the course of it, every entry is the key and the
expiry of a token that verifies and that was logged out before its expiry. A logout
says exactly whether its token verifies and has not expired, and one that says no
changes nothing. Nor does a further logout of a token while the entry of an earlier
one is held. So there are no more entries than tokens that have been logged out. No
two tokens need to have different keys for this. -/
theorem entries_after_run (codec : TokenCodec) (tracker : LockoutTracker) (turns : List Turn) :
    let start : AuthService := ⟨codec, tracker, .empty⟩
    let reached := start.run turns
    (∀ (key : String) (expiry : Instant), reached.registry.entries[key]? = some expiry →
      ∃ raw claims now, key = revocationKey raw ∧ codec.verify raw = .ok claims ∧
        expiry = claims.expiresAt ∧ ⟨.logout raw, now⟩ ∈ turns ∧ now < expiry) ∧
    (∀ (raw : String) (now : Instant),
      ((reached.logout raw now).value.2 = true ↔
        ∃ claims, codec.verify raw = .ok claims ∧ now < claims.expiresAt) ∧
      ((reached.logout raw now).value.2 = false → (reached.logout raw now).value.1 = reached)) ∧
    (∀ (before between : List Turn) (raw : String) (first : Instant),
      turns = before ++ ⟨.logout raw, first⟩ :: between →
      ((start.run before).logout raw first).value.2 = true →
      (∀ passed, passed <+: between → revocationKey raw ∈
        (start.run (before ++ ⟨.logout raw, first⟩ :: passed)).registry.entries) →
      ∀ now, (reached.logout raw now).value.1 = reached) ∧
    reached.registry.size ≤ {raw | start.LoggedOut turns raw}.ncard := by
  intro start reached
  have hcodec : reached.codec = codec := start.codec_run turns
  refine ⟨?_, ?_, ?_, size_run_le_ncard rfl⟩
  · intro key expiry hentry
    obtain hheld | ⟨⟨operation, now⟩, hmem, raw, claims, ⟨rfl, hverify, hvalid⟩, hkey, rfl⟩ :=
      entry_run hentry
    · simp [start, RevocationRegistry.empty] at hheld
    · exact ⟨raw, claims, now, hkey, hverify, rfl, hmem, hvalid⟩
  · intro raw now
    have hsucceeds := reached.value_logout_snd_iff raw now
    rw [hcodec] at hsucceeds
    refine ⟨hsucceeds, fun hfailed => ?_⟩
    obtain ⟨hsame, -⟩ | ⟨claims, hverify, hvalid, -⟩ := reached.value_logout_fst raw now
    · exact hsame
    · rw [hcodec] at hverify
      rw [hsucceeds.2 ⟨claims, hverify, hvalid⟩] at hfailed
      cases hfailed
  · rintro before between raw first rfl hlogout hstays now
    have hrun : ∀ passed, start.run (before ++ ⟨.logout raw, first⟩ :: passed) =
        ((start.run before).step ⟨.logout raw, first⟩).run passed := by
      intro passed
      rw [run_append, run_cons]
    simp only [hrun] at hstays
    change ((start.run _).logout raw now).value.1 = start.run _
    rw [hrun]
    exact value_logout_fst_of_stays hlogout hstays now

end AuthService

end AuthGate

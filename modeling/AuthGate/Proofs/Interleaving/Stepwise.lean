import AuthGate.Proofs.Interleaving.Thread
import AuthGate.Proofs.Revocation.Held
import AuthGate.Proofs.Service.Run
import AuthGate.Proofs.Token.RoundTrip

namespace AuthGate

namespace RevocationRegistry

variable (r : RevocationRegistry)

/-- Whether a key is remembered, but only until an instant that has been reached. -/
def hasExpired (key : String) (now : Instant) : Bool := (r.entries[key]?).any (· ≤ now)

theorem getElem?_dropExpired (key other : String) (now : Instant) :
    (r.dropExpired key now).entries[other]? =
      if key = other then (r.entries[other]?).filter (now < ·) else r.entries[other]? := by
  unfold dropExpired
  by_cases hkey : key = other
  · subst hkey
    rw [if_pos rfl]
    cases hheld : r.entries[key]? with
    | none => exact hheld
    | some expiry =>
      dsimp only
      by_cases hexpired : expiry ≤ now
      · have hpast : ¬ now < expiry := Int.not_lt.2 hexpired
        rw [if_pos hexpired, Std.ExtTreeMap.getElem?_erase_self, Option.filter_some,
          decide_eq_false hpast, if_neg Bool.false_ne_true]
      · have hlater : now < expiry := Int.not_le.1 hexpired
        rw [if_neg hexpired, hheld, Option.filter_some, decide_eq_true hlater, if_pos rfl]
  · rw [if_neg hkey]
    split
    · rfl
    · split
      · rw [Std.ExtTreeMap.getElem?_erase, if_neg (mt Std.LawfulEqCmp.compare_eq_iff_eq.1 hkey)]
      · rfl

theorem size_dropExpired (key : String) (now : Instant) :
    (r.dropExpired key now).size + (if r.hasExpired key now then 1 else 0) = r.size := by
  unfold dropExpired hasExpired size
  cases hheld : r.entries[key]? with
  | none => rfl
  | some expiry =>
    have hany : (some expiry).any (· ≤ now) = decide (expiry ≤ now) := rfl
    by_cases hexpired : expiry ≤ now
    · have hcontains : r.entries.contains key = true := by
        rw [Std.ExtTreeMap.contains_eq_isSome_getElem?, hheld]
        rfl
      have hpositive : r.entries.size ≠ 0 := by
        intro hzero
        rw [← Std.ExtTreeMap.eq_empty_iff_size_eq_zero] at hzero
        rw [hzero] at hheld
        simp at hheld
      simp only [hexpired, if_true, hany, decide_true, Std.ExtTreeMap.size_erase, hcontains]
      omega
    · simp only [hexpired, if_false, hany, decide_false, Bool.false_eq_true, Nat.add_zero]

end RevocationRegistry

/-! ### The operations as atomic steps -/

namespace Stepwise

/-- A revocation reads the clock and then writes one entry. -/
def revoke (raw : String) (expiry : Instant) : Thread RevocationRegistry Unit := do
  let now ← .now
  if expiry ≤ now then return ()
  .modify (·.retain (revocationKey raw) expiry)

/-- A lookup reads the clock, then the entry, and drops the entry in a third step,
which looks at it again. -/
def isRevoked (raw : String) : Thread RevocationRegistry Bool := do
  let now ← .now
  match ← .look (·.entries[revocationKey raw]?) with
  | none => return false
  | some expiry =>
    if now < expiry then return true
    .modify (·.dropExpired (revocationKey raw) now)
    return false

/-- Drops keys one after the other, as far as they had expired at an instant, and
counts them. -/
def dropAll (now : Instant) : List String → Thread RevocationRegistry Nat
  | [] => return 0
  | key :: keys => .update (·.dropExpired key now) fun r => do
    let removed ← dropAll now keys
    return if r.hasExpired key now then removed + 1 else removed

/-- A purge reads the clock once and then visits keys, each in a step of its own.
Which keys it comes across, and in which order, is left to the map. -/
def purgeExpired (keys : List String) : Thread RevocationRegistry Nat := do
  dropAll (← .now) keys

/-- A logout reads the clock for the expiry of the token, and once more for the
revocation. -/
def logout (codec : TokenCodec) (raw : String) : Thread RevocationRegistry Bool :=
  match codec.verify raw with
  | .error _ => return false
  | .ok claims => do
    if claims.isExpiredAt (← .now) then return false
    revoke raw claims.expiresAt
    return true

/-- How decisions are made step by step: a token is looked up, and validated by a later
reading of the clock. -/
def pipeline (codec : TokenCodec) : BearerPipeline (Thread RevocationRegistry) where
  isRevoked := isRevoked
  validate raw now := return codec.validate raw now
  clock := .now

/-- A decision about the value of an authorization header. -/
def evaluate (codec : TokenCodec) (header : Option String) :
    Thread RevocationRegistry BearerOutcome := (pipeline codec).evaluate header

variable (r : RevocationRegistry) (now : Instant)

theorem alone_revoke (raw : String) (expiry : Instant) :
    (revoke raw expiry).alone now r = ((r.revoke raw expiry now).value, ()) := by
  unfold revoke RevocationRegistry.revoke
  dsimp only [Thread.now, Thread.clock_bind, Thread.done_bind, Thread.alone]
  split <;> rfl

theorem alone_isRevoked (raw : String) :
    (isRevoked raw).alone now r = r.isRevoked raw now := by
  unfold isRevoked RevocationRegistry.isRevoked RevocationRegistry.holds
  dsimp only [Thread.now, Thread.look, Thread.clock_bind, Thread.update_bind, Thread.done_bind,
    Thread.alone, id]
  cases hheld : r.entries[revocationKey raw]? with
  | none =>
    have hsame : r.dropExpired (revocationKey raw) now = r := by
      unfold RevocationRegistry.dropExpired
      rw [hheld]
    dsimp only
    rw [if_neg Bool.false_ne_true, hsame]
    rfl
  | some expiry =>
    by_cases hlater : now < expiry
    · simp only [hlater, decide_true, if_true]
      rfl
    · simp only [hlater, decide_false, if_false, Bool.false_eq_true]
      rfl

/-- What a purge does to a registry, one key after the other: the keys that it
visits lose what has expired, the others keep what they have. -/
theorem alone_dropAll (keys : List String) (time : Instant) :
    (∀ other, ((dropAll now keys).alone time r).1.entries[other]? =
      if other ∈ keys then (r.entries[other]?).filter (now < ·) else r.entries[other]?) ∧
      ((dropAll now keys).alone time r).1.size + ((dropAll now keys).alone time r).2 =
        r.size := by
  induction keys generalizing r with
  | nil => exact ⟨fun other => (if_neg List.not_mem_nil).symm, rfl⟩
  | cons key keys ih =>
    -- the keys that are left see the registry without the first one
    obtain ⟨hentries, hsize⟩ := ih (r.dropExpired key now)
    have hdropped := r.size_dropExpired key now
    have hstep : (dropAll now (key :: keys)).alone time r =
        (((dropAll now keys).alone time (r.dropExpired key now)).1,
          if r.hasExpired key now then
            ((dropAll now keys).alone time (r.dropExpired key now)).2 + 1
          else ((dropAll now keys).alone time (r.dropExpired key now)).2) := by
      rw [dropAll, Thread.alone, Thread.alone_bind]
      rfl
    rw [hstep]
    constructor
    · intro other
      dsimp only
      rw [hentries, RevocationRegistry.getElem?_dropExpired]
      by_cases hkey : key = other
      · subst hkey
        simp [Option.filter_filter]
      · simp [hkey, Ne.symm hkey]
    · by_cases hexpired : r.hasExpired key now = true
      · simp only [hexpired, if_true] at hdropped ⊢
        omega
      · simp only [hexpired, Bool.false_eq_true, if_false] at hdropped ⊢
        omega

/-- A purge that comes across all the keys there are is the purge of the registry,
and counts the same. -/
theorem alone_purgeExpired {keys : List String} (hkeys : ∀ key ∈ r.entries, key ∈ keys) :
    (purgeExpired keys).alone now r = (r.purgeExpired now).value := by
  obtain ⟨hentries, hsize⟩ := alone_dropAll r now keys now
  have hkept : ((dropAll now keys).alone now r).1 = (r.purgeExpired now).value.1 := by
    rw [RevocationRegistry.value_purgeExpired_fst]
    apply congrArg RevocationRegistry.mk
    apply Std.ExtTreeMap.ext_getElem?
    intro key
    rw [hentries, Std.ExtTreeMap.getElem?_filter']
    split
    · rfl
    · next habsent =>
      have hnone : r.entries[key]? = none :=
        Std.ExtTreeMap.getElem?_eq_none fun hmem => habsent (hkeys key hmem)
      rw [hnone]
      rfl
  have hcount : (r.purgeExpired now).value.2 = r.size - (r.purgeExpired now).value.1.size := by
    unfold RevocationRegistry.purgeExpired
    dsimp only
    split <;> rfl
  refine Prod.ext hkept ?_
  change ((dropAll now keys).alone now r).2 = _
  rw [hcount, ← hkept]
  omega

theorem alone_logout (service : AuthService) (raw : String) :
    (logout service.codec raw).alone now service.registry =
      ((service.logout raw now).value.1.registry, (service.logout raw now).value.2) := by
  unfold logout
  cases hverify : service.codec.verify raw with
  | error error =>
    rw [service.value_logout_of_not_verify fun claims h => by rw [hverify] at h; cases h]
    rfl
  | ok claims =>
    simp only [Thread.now, Thread.clock_bind, Thread.done_bind, Thread.alone,
      Claims.isExpiredAt_eq]
    by_cases hvalid : now < claims.expiresAt
    · simp only [hvalid, decide_true, Bool.not_true, Bool.false_eq_true, if_false]
      rw [Thread.alone_bind, alone_revoke, service.value_logout_of_verify hverify hvalid]
      rfl
    · have hinvalid : ∀ other, service.codec.verify raw = .ok other → ¬ now < other.expiresAt := by
        intro other hother
        rw [hverify] at hother
        cases hother
        exact hvalid
      simp only [hvalid, decide_false, Bool.not_false, if_true]
      rw [service.value_logout_of_not_verify hinvalid]
      rfl

/-- The steps of a decision, taken one after the other at one instant, are the decision of
the subsystem. -/
theorem alone_evaluate (service : AuthService) (header : Option String) :
    (evaluate service.codec header).alone now service.registry =
      ((service.evaluate header now).value.1.registry,
        (service.evaluate header now).value.2.1) := by
  unfold evaluate
  cases header with
  | none => rfl
  | some header =>
    cases hbearer : bearerToken header with
    | error defect =>
      rw [BearerPipeline.evaluate_of_malformed _ hbearer, service.evaluate_eq_of_malformed hbearer]
      rfl
    | ok token? =>
      cases token? with
      | none =>
        rw [BearerPipeline.evaluate_of_other_scheme _ hbearer,
          service.evaluate_eq_of_other_scheme hbearer]
        rfl
      | some raw =>
        have hlookup : ((pipeline service.codec).isRevoked raw).alone now service.registry =
            service.registry.isRevoked raw now := alone_isRevoked service.registry now raw
        rw [service.value_evaluate_of_bearer hbearer, BearerPipeline.evaluate_of_bearer _ hbearer,
          Thread.alone_bind, hlookup]
        dsimp only
        cases (service.registry.isRevoked raw now).2 <;> rfl

end Stepwise

end AuthGate

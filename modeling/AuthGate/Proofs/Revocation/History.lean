import AuthGate.Proofs.Revocation.Held
import Mathlib.Data.List.Dedup

namespace AuthGate

/-- A call of a registry, with the reading of the clock that it makes. -/
inductive RegistryCall where
  | revoke (raw : String) (expiry now : Instant)
  | isRevoked (raw : String) (now : Instant)
  | purgeExpired (now : Instant)

namespace RegistryCall

/-- The reading of the clock that a call makes. -/
def now : RegistryCall → Instant
  | revoke _ _ now | isRevoked _ now | purgeExpired now => now

/-- A call revokes a token. -/
def isRevocation : RegistryCall → Bool
  | revoke .. => true
  | _ => false

/-- Some revocation of a token in a history reaches past an instant. -/
def RevokedPast (calls : List RegistryCall) (raw : String) (now : Instant) : Prop :=
  ∃ expiry before, revoke raw expiry before ∈ calls ∧ now < expiry

/-- The key that a call revokes past an instant. -/
def liveKey? (now : Instant) : RegistryCall → Option String
  | revoke raw expiry _ => if now < expiry then some (revocationKey raw) else none
  | _ => none

/-- The keys that a history has revoked past an instant, each of them once. -/
def liveKeys (calls : List RegistryCall) (now : Instant) : List String :=
  (calls.filterMap (liveKey? now)).dedup

theorem liveKey?_eq_some_iff (call : RegistryCall) (now : Instant) (key : String) :
    call.liveKey? now = some key ↔
      ∃ raw expiry before, call = revoke raw expiry before ∧ now < expiry ∧
        revocationKey raw = key := by
  cases call with
  | revoke raw expiry before => simp [liveKey?]
  | isRevoked raw now => simp [liveKey?]
  | purgeExpired now => simp [liveKey?]

theorem mem_liveKeys_iff (calls : List RegistryCall) (now : Instant) (key : String) :
    key ∈ liveKeys calls now ↔ ∃ call ∈ calls, call.liveKey? now = some key := by
  rw [liveKeys, List.mem_dedup, List.mem_filterMap]

/-- Only its revocations count for the keys of a history. -/
theorem liveKeys_filter_isRevocation (calls : List RegistryCall) (now : Instant) :
    liveKeys (calls.filter isRevocation) now = liveKeys calls now := by
  unfold liveKeys
  rw [List.filterMap_filter]
  congr 2
  funext call
  cases call <;> rfl

/-- A token has been revoked past an instant exactly if its key is live, as long as
no other token of the history shares the key. -/
theorem revokedPast_iff_mem_liveKeys {calls : List RegistryCall} {raw : String} (now : Instant)
    (hkeys : ∀ other expiry before, revoke other expiry before ∈ calls →
      revocationKey other = revocationKey raw → other = raw) :
    RevokedPast calls raw now ↔ revocationKey raw ∈ liveKeys calls now := by
  rw [mem_liveKeys_iff]
  simp only [liveKey?_eq_some_iff]
  constructor
  · rintro ⟨expiry, before, hmem, hlater⟩
    exact ⟨_, hmem, raw, expiry, before, rfl, hlater, rfl⟩
  · rintro ⟨_, hmem, other, expiry, before, rfl, hlater, hkey⟩
    obtain rfl := hkeys other expiry before hmem hkey
    exact ⟨expiry, before, hmem, hlater⟩

end RegistryCall

namespace RevocationRegistry

/-- The registry after one call. -/
def handle (r : RevocationRegistry) : RegistryCall → RevocationRegistry
  | .revoke raw expiry now => (r.revoke raw expiry now).value
  | .isRevoked raw now => (r.isRevoked raw now).1
  | .purgeExpired now => (r.purgeExpired now).value.1

/-- The registry after a sequence of calls. -/
def handleAll (r : RevocationRegistry) (calls : List RegistryCall) : RevocationRegistry :=
  calls.foldl handle r

variable (r : RevocationRegistry)

/-- What is held past an instant after one call: what was held before it, and the
key of a revocation that reaches past the instant. Lookups and purges make no
difference. -/
theorem holds_handle_iff (call : RegistryCall) (key : String) {now : Instant}
    (hle : call.now ≤ now) :
    (r.handle call).holds key now = true ↔
      r.holds key now = true ∨ call.liveKey? now = some key := by
  cases call with
  | revoke raw expiry before =>
    have hle : before ≤ now := hle
    rw [handle, r.holds_revoke_iff raw key expiry hle, RegistryCall.liveKey?]
    by_cases hlater : now < expiry
    · simp [hlater]
    · simp [hlater]
  | isRevoked raw before =>
    have hle : before ≤ now := hle
    rw [handle, r.holds_isRevoked raw key hle]
    simp [RegistryCall.liveKey?]
  | purgeExpired before =>
    have hle : before ≤ now := hle
    rw [handle, r.holds_purgeExpired key hle]
    simp [RegistryCall.liveKey?]

theorem holds_handleAll_iff (calls : List RegistryCall) (key : String) {now : Instant}
    (hclock : ∀ call ∈ calls, call.now ≤ now) :
    (r.handleAll calls).holds key now = true ↔
      r.holds key now = true ∨ key ∈ RegistryCall.liveKeys calls now := by
  rw [RegistryCall.mem_liveKeys_iff]
  induction calls generalizing r with
  | nil => simp [handleAll]
  | cons call calls ih =>
    obtain ⟨hfirst, hrest⟩ := List.forall_mem_cons.1 hclock
    have hstep := ih (r.handle call) hrest
    rw [r.holds_handle_iff call key hfirst] at hstep
    simp only [List.mem_cons, exists_eq_or_imp, ← or_assoc]
    exact hstep

theorem holds_empty_handleAll_iff {calls : List RegistryCall} {now : Instant}
    (hclock : ∀ call ∈ calls, call.now ≤ now) (key : String) :
    (empty.handleAll calls).holds key now = true ↔ key ∈ RegistryCall.liveKeys calls now := by
  rw [holds_handleAll_iff empty calls key hclock, holds_empty]
  simp

theorem le_of_getElem?_revoke (raw : String) (expiry now : Instant) {key : String} {held : Instant}
    (hheld : r.entries[key]? = some held) :
    ∃ later, (r.revoke raw expiry now).value.entries[key]? = some later ∧ held ≤ later := by
  unfold revoke
  dsimp only
  split
  · exact ⟨held, hheld, Int.le_refl _⟩
  · exact le_getElem?_retain hheld _ _

theorem mem_entries_purgeExpired_iff (now : Instant) (key : String) :
    key ∈ (r.purgeExpired now).value.1.entries ↔ r.holds key now = true := by
  rw [value_purgeExpired_fst, Std.ExtTreeMap.mem_iff_isSome_getElem?, holds_iff,
    Std.ExtTreeMap.getElem?_filter']
  cases r.entries[key]? with
  | none => simp
  | some expiry => by_cases hlater : now < expiry <;> simp [hlater]

theorem size_purgeExpired (now : Instant) :
    (r.purgeExpired now).value.1.size + (r.purgeExpired now).value.2 = r.size := by
  have hcount : (r.purgeExpired now).value.2 = r.size - (r.purgeExpired now).value.1.size := by
    unfold purgeExpired
    dsimp only
    split <;> rfl
  have hle : (r.purgeExpired now).value.1.size ≤ r.size := by
    rw [value_purgeExpired_fst]
    exact Std.ExtTreeMap.size_filter_le_size
  omega

/-- At one instant there is nothing left for a second purge. -/
theorem purgeExpired_purgeExpired (now : Instant) :
    ((r.purgeExpired now).value.1.purgeExpired now).value = ((r.purgeExpired now).value.1, 0) := by
  have hsame :
      ((r.purgeExpired now).value.1.purgeExpired now).value.1 = (r.purgeExpired now).value.1 := by
    rw [value_purgeExpired_fst, value_purgeExpired_fst]
    apply congrArg RevocationRegistry.mk
    apply Std.ExtTreeMap.ext_getElem?
    intro key
    simp only [Std.ExtTreeMap.getElem?_filter', Option.filter_filter, Bool.and_self]
  have hcount := (r.purgeExpired now).value.1.size_purgeExpired now
  rw [hsame] at hcount
  exact Prod.ext hsame (by omega)

theorem size_eq_length {keys : List String} (hnodup : keys.Nodup)
    (hmem : ∀ key, key ∈ r.entries ↔ key ∈ keys) : r.size = keys.length := by
  unfold size
  rw [← Std.ExtTreeMap.length_keys]
  apply List.Perm.length_eq
  rw [List.perm_ext_iff_of_nodup Std.ExtTreeMap.nodup_keys hnodup]
  intro key
  rw [Std.ExtTreeMap.mem_keys, hmem]

/-- A registry answers as the history of its revocations does. A token is revoked
exactly if an earlier revocation of it reaches past the reading of the clock, so
that neither purges nor other lookups change an answer, and no revocation shortens
what an earlier one has set. A purge leaves one entry for every key that has been
revoked past its reading, counts what it takes away, and leaves nothing to a second
one. Of the clock only matters that no call has read it later. -/
theorem isRevoked_iff_history {calls : List RegistryCall} {now : Instant}
    (hclock : ∀ call ∈ calls, call.now ≤ now) :
    let r := empty.handleAll calls
    let purged := (r.purgeExpired now).value
    (∀ raw, (∀ other expiry before, .revoke other expiry before ∈ calls →
        revocationKey other = revocationKey raw → other = raw) →
      ((r.isRevoked raw now).2 = true ↔ RegistryCall.RevokedPast calls raw now)) ∧
    (∀ others : List RegistryCall, (∀ call ∈ others, call.now ≤ now) →
      others.filter RegistryCall.isRevocation = calls.filter RegistryCall.isRevocation →
      ∀ raw, ((empty.handleAll others).isRevoked raw now).2 = (r.isRevoked raw now).2) ∧
    (∀ (raw : String) (expiry : Instant) (key : String) (held : Instant),
      r.entries[key]? = some held →
        ∃ later, (r.revoke raw expiry now).value.entries[key]? = some later ∧ held ≤ later) ∧
    purged.1.size = (RegistryCall.liveKeys calls now).length ∧
    purged.1.size + purged.2 = r.size ∧
    (purged.1.purgeExpired now).value = (purged.1, 0) := by
  intro r purged
  have hholds : ∀ key, r.holds key now = true ↔ key ∈ RegistryCall.liveKeys calls now :=
    holds_empty_handleAll_iff hclock
  refine ⟨?_, ?_, ?_, ?_, r.size_purgeExpired now, r.purgeExpired_purgeExpired now⟩
  · intro raw hkeys
    rw [isRevoked_snd, hholds, RegistryCall.revokedPast_iff_mem_liveKeys now hkeys]
  · intro others hothers hsame raw
    rw [isRevoked_snd, isRevoked_snd, Bool.eq_iff_iff, hholds, holds_empty_handleAll_iff hothers,
      ← RegistryCall.liveKeys_filter_isRevocation others, hsame,
      RegistryCall.liveKeys_filter_isRevocation]
  · intro raw expiry key held hheld
    exact r.le_of_getElem?_revoke raw expiry now hheld
  · apply purged.1.size_eq_length (List.nodup_dedup _)
    intro key
    rw [r.mem_entries_purgeExpired_iff, hholds]
    rfl

/-- A second revocation that ends earlier, a lookup and a purge in between, and the
revocation of another token that has passed leave a token revoked for its minute,
and a purge finds it alone. -/
theorem isRevoked_between_purges :
    let second : Instant := ⟨1_000_000_000, by decide, by decide⟩
    let half : Instant := ⟨30_000_000_000, by decide, by decide⟩
    let minute : Instant := ⟨60_000_000_000, by decide, by decide⟩
    let calls : List RegistryCall := [.revoke "a" minute .epoch, .revoke "b" half .epoch,
      .revoke "a" half second, .isRevoked "b" half, .purgeExpired half]
    let now : Instant := ⟨59_999_999_999, by decide, by decide⟩
    (∀ call ∈ calls, call.now ≤ now) ∧
      (∀ other expiry before, .revoke other expiry before ∈ calls →
        revocationKey other = revocationKey "a" → other = "a") ∧
      ((empty.handleAll calls).isRevoked "a" now).2 = true ∧
      ((empty.handleAll calls).purgeExpired now).value.1.size = 1 := by
  intro second half minute calls now
  have hclock : ∀ call ∈ calls, call.now ≤ now := by decide
  have hkeys : ∀ other expiry before, .revoke other expiry before ∈ calls →
      revocationKey other = revocationKey "a" → other = "a" := by
    intro other expiry before hmem hkey
    have hdistinct : revocationKey "b" ≠ revocationKey "a" := by decide +kernel
    simp only [calls, List.mem_cons, RegistryCall.revoke.injEq, reduceCtorEq, List.not_mem_nil,
      or_false] at hmem
    obtain ⟨rfl, -⟩ | ⟨rfl, -⟩ | ⟨rfl, -⟩ := hmem
    · rfl
    · exact absurd hkey hdistinct
    · rfl
  obtain ⟨hrevoked, -, -, hsize, -⟩ := isRevoked_iff_history hclock
  refine ⟨hclock, hkeys, (hrevoked "a" hkeys).2 ?_, ?_⟩
  · exact ⟨minute, .epoch, by simp [calls], by decide⟩
  · rw [hsize]
    decide +kernel

end RevocationRegistry

end AuthGate

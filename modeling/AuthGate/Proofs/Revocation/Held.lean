import AuthGate.Revocation.Registry

namespace AuthGate.RevocationRegistry

variable (r : RevocationRegistry)

theorem holds_iff (key : String) (now : Instant) :
    r.holds key now = true ↔ ∃ expiry, r.entries[key]? = some expiry ∧ now < expiry := by
  unfold holds
  cases r.entries[key]? with
  | none => simp
  | some expiry => simp

@[simp] theorem holds_empty (key : String) (now : Instant) : empty.holds key now = false := by
  simp [holds, empty]

section Entries

variable {r} {key other : String} {expiry held now : Instant}

theorem getElem?_retain_of_ne (hne : key ≠ other) :
    (r.retain key expiry).entries[other]? = r.entries[other]? := by
  simp only [retain, Std.ExtTreeMap.getElem?_alter, Std.LawfulEqCmp.compare_eq_iff_eq, if_neg hne]

theorem getElem?_retain_self_of_none (hheld : r.entries[key]? = none) :
    (r.retain key expiry).entries[key]? = some expiry := by
  simp only [retain, Std.ExtTreeMap.getElem?_alter, Std.LawfulEqCmp.compare_eq_iff_eq, if_true,
    hheld]

theorem getElem?_retain_self_of_some (hheld : r.entries[key]? = some held) :
    (r.retain key expiry).entries[key]? = some (if held < expiry then expiry else held) := by
  simp only [retain, Std.ExtTreeMap.getElem?_alter, Std.LawfulEqCmp.compare_eq_iff_eq, if_true,
    hheld]

theorem exists_le_getElem?_retain_self (r : RevocationRegistry) (key : String) (expiry : Instant) :
    ∃ later, (r.retain key expiry).entries[key]? = some later ∧ expiry ≤ later := by
  cases hheld : r.entries[key]? with
  | none => exact ⟨expiry, getElem?_retain_self_of_none hheld, Int.le_refl _⟩
  | some held =>
    refine ⟨_, getElem?_retain_self_of_some hheld, ?_⟩
    split
    · exact Int.le_refl _
    · next hlonger => exact Int.not_lt.1 hlonger

/-- Retaining a key shortens no entry. -/
theorem le_getElem?_retain (hheld : r.entries[other]? = some held) (key : String)
    (expiry : Instant) :
    ∃ later, (r.retain key expiry).entries[other]? = some later ∧ held ≤ later := by
  by_cases hkey : key = other
  · subst hkey
    refine ⟨_, getElem?_retain_self_of_some hheld, ?_⟩
    split
    · next hlonger => exact Int.le_of_lt hlonger
    · exact Int.le_refl _
  · exact ⟨held, (getElem?_retain_of_ne hkey).trans hheld, Int.le_refl _⟩

/-- An entry that is there after a key has been retained was there before, or is the
one for the instant given. -/
theorem getElem?_of_retain (hentry : (r.retain key expiry).entries[other]? = some held) :
    r.entries[other]? = some held ∨ key = other ∧ expiry = held := by
  by_cases hkey : key = other
  · subst hkey
    cases hbefore : r.entries[key]? with
    | none =>
      rw [getElem?_retain_self_of_none hbefore] at hentry
      exact .inr ⟨rfl, Option.some.inj hentry⟩
    | some before =>
      rw [getElem?_retain_self_of_some hbefore] at hentry
      split at hentry
      · exact .inr ⟨rfl, Option.some.inj hentry⟩
      · exact .inl hentry
  · rw [getElem?_retain_of_ne hkey] at hentry
    exact .inl hentry

theorem retain_eq_self (hheld : r.entries[key]? = some held) (hle : expiry ≤ held) :
    r.retain key expiry = r := by
  apply congrArg mk
  apply Std.ExtTreeMap.ext_getElem?
  intro other
  by_cases hkey : key = other
  · subst hkey
    have hlonger : ¬ held < expiry := Int.not_lt.2 hle
    have hsame : (r.retain key expiry).entries[key]? = _ := getElem?_retain_self_of_some hheld
    rw [if_neg hlonger, ← hheld] at hsame
    exact hsame
  · exact getElem?_retain_of_ne hkey

end Entries

/-- Retaining a key only adds to what is held, and for that key only. An entry
that is held longer already stays as it is. -/
theorem holds_retain_iff (key other : String) (expiry now : Instant) :
    (r.retain key expiry).holds other now = true ↔
      r.holds other now = true ∨ key = other ∧ now < expiry := by
  simp only [holds_iff]
  by_cases hkey : key = other
  · subst hkey
    cases hheld : r.entries[key]? with
    | none => simp [getElem?_retain_self_of_none hheld]
    | some held =>
      by_cases hlonger : held < expiry
      · simp only [getElem?_retain_self_of_some hheld, if_pos hlonger, Option.some.injEq,
          exists_eq_left', true_and]
        simp only [Instant.lt_def] at hlonger ⊢
        omega
      · simp only [getElem?_retain_self_of_some hheld, if_neg hlonger, Option.some.injEq,
          exists_eq_left', true_and]
        simp only [Instant.lt_def] at hlonger ⊢
        omega
  · simp only [getElem?_retain_of_ne hkey, hkey, false_and, or_false]

/-- What has expired at one reading of the clock is not missed at a later one. -/
theorem holds_dropExpired (key other : String) {before now : Instant} (hle : before ≤ now) :
    (r.dropExpired key before).holds other now = r.holds other now := by
  unfold dropExpired
  cases hheld : r.entries[key]? with
  | none => rfl
  | some expiry =>
    dsimp only
    split
    · next hexpired =>
      rw [Bool.eq_iff_iff]
      simp only [holds_iff, Std.ExtTreeMap.getElem?_erase, Std.LawfulEqCmp.compare_eq_iff_eq]
      by_cases hkey : key = other
      · subst hkey
        simp only [if_true, reduceCtorEq, false_and, exists_false, hheld, Option.some.injEq,
          exists_eq_left', false_iff]
        simp only [Instant.le_def, Instant.lt_def] at hexpired hle ⊢
        omega
      · simp only [if_neg hkey]
    · rfl

theorem value_purgeExpired_fst (now : Instant) :
    (r.purgeExpired now).value.1 = ⟨r.entries.filter fun _ expiry => now < expiry⟩ := by
  unfold purgeExpired
  dsimp only
  split <;> rfl

theorem getElem?_of_purgeExpired {r : RevocationRegistry} {key : String} {now held : Instant}
    (hentry : (r.purgeExpired now).value.1.entries[key]? = some held) :
    r.entries[key]? = some held := by
  rw [value_purgeExpired_fst, Std.ExtTreeMap.getElem?_filter', Option.filter_eq_some_iff] at hentry
  exact hentry.1

theorem holds_purgeExpired (key : String) {before now : Instant} (hle : before ≤ now) :
    (r.purgeExpired before).value.1.holds key now = r.holds key now := by
  rw [value_purgeExpired_fst, Bool.eq_iff_iff]
  simp only [holds_iff, Std.ExtTreeMap.getElem?_filter']
  cases r.entries[key]? with
  | none => simp
  | some expiry =>
    simp only [Option.filter_some, decide_eq_true_eq, Option.ite_none_right_eq_some,
      Option.some.injEq, Instant.le_def, Instant.lt_def] at hle ⊢
    constructor
    · rintro ⟨_, ⟨_, rfl⟩, hlt⟩
      exact ⟨expiry, rfl, hlt⟩
    · rintro ⟨_, rfl, hlt⟩
      exact ⟨expiry, ⟨by omega, rfl⟩, hlt⟩

/-- A lookup leaves everything as it is, unless it finds the entry of its token
expired. -/
theorem isRevoked_fst (raw : String) (now : Instant) :
    (r.isRevoked raw now).1 = r ∨ ∃ expiry, r.entries[revocationKey raw]? = some expiry ∧
      expiry ≤ now ∧ (r.isRevoked raw now).1 = ⟨r.entries.erase (revocationKey raw)⟩ := by
  unfold isRevoked
  dsimp only
  split
  · exact .inl rfl
  · unfold dropExpired
    cases hheld : r.entries[revocationKey raw]? with
    | none => exact .inl rfl
    | some expiry =>
      dsimp only
      by_cases hexpired : expiry ≤ now
      · rw [if_pos hexpired]
        exact .inr ⟨expiry, rfl, hexpired, rfl⟩
      · rw [if_neg hexpired]
        exact .inl rfl

theorem getElem?_of_isRevoked {r : RevocationRegistry} {raw key : String} {now held : Instant}
    (hentry : (r.isRevoked raw now).1.entries[key]? = some held) :
    r.entries[key]? = some held := by
  obtain hsame | ⟨_, -, -, herased⟩ := r.isRevoked_fst raw now
  · rw [hsame] at hentry
    exact hentry
  · rw [herased, Std.ExtTreeMap.getElem?_erase] at hentry
    split at hentry
    · cases hentry
    · exact hentry

theorem isRevoked_snd (raw : String) (now : Instant) :
    (r.isRevoked raw now).2 = r.holds (revocationKey raw) now := by
  unfold isRevoked
  dsimp only
  split
  · next h => exact h.symm
  · next h => exact (Bool.eq_false_iff.2 h).symm

theorem holds_isRevoked (raw key : String) {before now : Instant} (hle : before ≤ now) :
    (r.isRevoked raw before).1.holds key now = r.holds key now := by
  unfold isRevoked
  dsimp only
  split
  · rfl
  · exact r.holds_dropExpired _ _ hle

theorem value_revoke_of_lt (raw : String) {expiry now : Instant} (hvalid : now < expiry) :
    (r.revoke raw expiry now).value = r.retain (revocationKey raw) expiry := by
  have hlasts : ¬ expiry ≤ now := Int.not_le.2 hvalid
  unfold revoke
  dsimp only
  rw [if_neg hlasts]
  rfl

/-- A revocation holds its token until the expiry given. One that comes at the
expiry or later writes nothing, and then there is nothing to hold either. -/
theorem holds_revoke_iff (raw key : String) (expiry : Instant) {before now : Instant}
    (hle : before ≤ now) :
    (r.revoke raw expiry before).value.holds key now = true ↔
      r.holds key now = true ∨ revocationKey raw = key ∧ now < expiry := by
  unfold revoke
  dsimp only
  split
  · next hexpired =>
    rw [Logged.value_bind, Logged.value_pure]
    simp only [Instant.le_def, Instant.lt_def] at hexpired hle ⊢
    have hpast : ¬ now.nanos < expiry.nanos := by omega
    simp only [hpast, and_false, or_false]
  · exact r.holds_retain_iff _ _ _ _

end AuthGate.RevocationRegistry

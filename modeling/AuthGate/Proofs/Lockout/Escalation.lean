import AuthGate.Proofs.Lockout.Window
import Mathlib.Algebra.Order.Ring.Nat

namespace AuthGate

/-- A number as a word of some bits. One that does not fit overflows. -/
def word? (bits : Nat) (n : Int) : Option Nat :=
  if 0 ≤ n ∧ n < 2 ^ bits then some n.toNat else none

theorem word?_natCast {bits n : Nat} (hfits : n < 2 ^ bits) : word? bits n = some n := by
  unfold word?
  rw [if_pos ⟨Int.natCast_nonneg n, by exact_mod_cast hfits⟩, Int.toNat_natCast]

theorem word?_natCast_eq_none {bits n : Nat} (hover : 2 ^ bits ≤ n) : word? bits n = none := by
  unfold word?
  rw [if_neg]
  rintro ⟨-, hlt⟩
  have : n < 2 ^ bits := by exact_mod_cast hlt
  omega

namespace Duration

theorem nanos_min (a b : Duration) : (min a b).nanos = min a.nanos b.nanos := by
  change (if a ≤ b then a else b).nanos = _
  by_cases hle : a ≤ b
  · rw [if_pos hle, Nat.min_eq_left hle]
  · rw [if_neg hle, Nat.min_eq_right (Nat.le_of_not_le hle)]

theorem nanos_of_scale? {d scaled : Duration} {factor : Nat} (h : d.scale? factor = some scaled) :
    scaled.nanos = d.nanos * factor := (ofNanos?_eq_some.1 h).symm

theorem scale?_eq_none_iff {d : Duration} {factor : Nat} :
    d.scale? factor = none ↔ 2 ^ 64 * 1_000_000_000 ≤ d.nanos * factor := by
  unfold scale? ofNanos?
  split
  · next h => exact iff_of_false (Option.some_ne_none _) (by omega)
  · next h => exact iff_of_true rfl (by omega)

/-- A multiple that is capped is exact, also where the multiple itself is no span. -/
theorem nanos_min_getD_scale? (d cap : Duration) (factor : Nat) :
    (min ((d.scale? factor).getD cap) cap).nanos = min (d.nanos * factor) cap.nanos := by
  rw [nanos_min]
  cases hscale : d.scale? factor with
  | some scaled => rw [Option.getD_some, nanos_of_scale? hscale]
  | none =>
    have hlong := scale?_eq_none_iff.1 hscale
    have hcap := cap.inRange
    rw [Option.getD_none, Nat.min_self, Nat.min_eq_right (by omega)]

/-- The whole seconds and the rest of a multiple, from those of the span. -/
private theorem mul_parts (secs rest factor : Nat) :
    (secs * 1_000_000_000 + rest) * factor =
      (secs * factor + rest * factor / 1_000_000_000) * 1_000_000_000 +
        rest * factor % 1_000_000_000 := by
  rw [Nat.add_mul, Nat.mul_right_comm]
  omega

/-- The multiple of a span in machine words, its whole seconds and the rest apart. Seconds
that overflow are no span; an overflow of the rest is a fault. -/
def scaleWords? (d : Duration) (factor : Nat) : Option (Option Duration) := do
  let rest ← word? 64 (d.subsecNanos * factor : Nat)
  return do
    let whole ← word? 64 (d.secs * factor : Nat)
    let secs ← word? 64 (whole + rest / 1_000_000_000 : Nat)
    ofNanos? (secs * 1_000_000_000 + rest % 1_000_000_000)

/-- A factor of 32 bits is no fault, and only a multiple that is no span overflows. -/
theorem scaleWords?_eq (d : Duration) {factor : Nat} (hfactor : factor < 2 ^ 32) :
    d.scaleWords? factor = some (d.scale? factor) := by
  have hrest : d.subsecNanos * factor < 2 ^ 64 := by
    have hsubsec : d.subsecNanos < 1_000_000_000 := Nat.mod_lt _ (by decide)
    have := Nat.mul_le_mul hsubsec.le hfactor.le
    omega
  have hproduct := mul_parts d.secs d.subsecNanos factor
  rw [d.secs_add_subsecNanos] at hproduct
  unfold scaleWords?
  simp only [word?_natCast hrest, Option.bind_eq_bind, Option.bind_some]
  refine congrArg some ?_
  by_cases hsecs : d.secs * factor + d.subsecNanos * factor / 1_000_000_000 < 2 ^ 64
  · have hwhole : d.secs * factor < 2 ^ 64 := by omega
    rw [word?_natCast hwhole, Option.bind_some, word?_natCast hsecs, Option.bind_some, scale?,
      hproduct]
  · have hscale : d.scale? factor = none := scale?_eq_none_iff.2 (by omega)
    rw [hscale]
    by_cases hwhole : d.secs * factor < 2 ^ 64
    · rw [word?_natCast hwhole, Option.bind_some, word?_natCast_eq_none (Nat.not_lt.1 hsecs),
        Option.bind_none]
    · rw [word?_natCast_eq_none (Nat.not_lt.1 hwhole), Option.bind_none]

end Duration

namespace LockoutPolicy

/-- The factor of a window is a power of two, up to the largest number of 32 bits. -/
theorem growth_eq_min (excess : Nat) : growth excess = min (2 ^ excess) (2 ^ 32 - 1) := by
  unfold growth
  split
  · next hsmall =>
    have hpow : 2 ^ excess ≤ 2 ^ 31 := Nat.pow_le_pow_right (by decide) (Nat.lt_succ_iff.1 hsmall)
    rw [Nat.one_shiftLeft]
    omega
  · next hlarge =>
    have hpow : 2 ^ 32 ≤ 2 ^ excess := Nat.pow_le_pow_right (by decide) (Nat.not_lt.1 hlarge)
    omega

theorem growth_mono {excess later : Nat} (hle : excess ≤ later) :
    growth excess ≤ growth later := by
  have hpow : 2 ^ excess ≤ 2 ^ later := Nat.pow_le_pow_right (by decide) hle
  rw [growth_eq_min, growth_eq_min]
  omega

theorem growth_lt (excess : Nat) : growth excess < 2 ^ 32 := by
  rw [growth_eq_min]
  omega

variable {p : LockoutPolicy} {failures : Nat} {window : Duration}

theorem window_fixed (hcurve : p.escalation = .fixed) (hwindow : p.window failures = some window) :
    window = p.lockoutDuration := by
  unfold LockoutPolicy.window at hwindow
  rw [hcurve] at hwindow
  split at hwindow
  · cases hwindow
  · exact (Option.some.inj hwindow).symm

/-- On the exponential curve, a window is the exact multiple of the configured duration, or
the cap if this is shorter. -/
theorem nanos_window_exponential (hcurve : p.escalation = .exponential)
    (hwindow : p.window failures = some window) :
    window.nanos = min (p.lockoutDuration.nanos * growth (failures - p.maxFailedAttempts.toNat))
      p.maxLockoutDuration.nanos := by
  unfold LockoutPolicy.window at hwindow
  rw [hcurve] at hwindow
  split at hwindow
  · cases hwindow
  · rw [← Option.some.inj hwindow]
    exact Duration.nanos_min_getD_scale? ..

/-- A further failure never opens a shorter window, whatever the policy. -/
theorem window_mono {later : Nat} {longer : Duration} (hle : failures ≤ later)
    (hwindow : p.window failures = some window) (hlonger : p.window later = some longer) :
    window ≤ longer := by
  cases hcurve : p.escalation with
  | fixed =>
    rw [window_fixed hcurve hwindow, window_fixed hcurve hlonger]
    exact Nat.le_refl _
  | exponential =>
    have hgrowth := growth_mono (Nat.sub_le_sub_right hle p.maxFailedAttempts.toNat)
    have hproduct := Nat.mul_le_mul_left p.lockoutDuration.nanos hgrowth
    rw [Duration.le_def, nanos_window_exponential hcurve hwindow,
      nanos_window_exponential hcurve hlonger]
    omega

theorem Usable.window_le_maxLockoutDuration (husable : p.Usable)
    (hwindow : p.window failures = some window) : window ≤ p.maxLockoutDuration := by
  cases hcurve : p.escalation with
  | fixed =>
    rw [window_fixed hcurve hwindow]
    exact husable.cap
  | exponential =>
    rw [Duration.le_def, nanos_window_exponential hcurve hwindow]
    exact Nat.min_le_right _ _

/-- The factor of a window in machine words. A shift by the width of a word has a way out,
any other overflow is a fault. -/
def growthWord? (excess : Nat) : Option Nat :=
  if excess < 32 then word? 32 (2 ^ excess : Nat) else some (2 ^ 32 - 1)

theorem growthWord?_eq (excess : Nat) : growthWord? excess = some (growth excess) := by
  have hgrowth := growth_eq_min excess
  unfold growthWord?
  split
  · next hsmall =>
    have hpow : 2 ^ excess < 2 ^ 32 := Nat.pow_lt_pow_right (by decide) hsmall
    rw [word?_natCast hpow, hgrowth, Nat.min_eq_left (by omega)]
  · next hlarge =>
    have hpow : 2 ^ 32 ≤ 2 ^ excess := Nat.pow_le_pow_right (by decide) (Nat.not_lt.1 hlarge)
    rw [hgrowth, Nat.min_eq_right (by omega)]

/-- The window that a failure opens, in machine words. A product that is no span has a way
out, any other overflow is a fault. -/
def windowWords? (p : LockoutPolicy) (failures : UInt32) : Option (Option Duration) :=
  if failures < p.maxFailedAttempts then some none
  else match p.escalation with
    | .fixed => some (some p.lockoutDuration)
    | .exponential => do
      let excess ← word? 32 ((failures.toNat : Int) - p.maxFailedAttempts.toNat)
      let factor ← growthWord? excess
      let scaled ← p.lockoutDuration.scaleWords? factor
      return some (min (scaled.getD p.maxLockoutDuration) p.maxLockoutDuration)

/-- Nothing on the way to a window overflows. -/
theorem windowWords?_eq (p : LockoutPolicy) (failures : UInt32) :
    p.windowWords? failures = some (p.window failures.toNat) := by
  unfold windowWords? LockoutPolicy.window
  by_cases hbelow : failures < p.maxFailedAttempts
  · rw [if_pos hbelow, if_pos (UInt32.lt_iff_toNat_lt.1 hbelow)]
  · have hreached := mt UInt32.lt_iff_toNat_lt.2 hbelow
    have hexcess : failures.toNat - p.maxFailedAttempts.toNat < 2 ^ 32 :=
      Nat.lt_of_le_of_lt (Nat.sub_le _ _) failures.toNat_lt
    rw [if_neg hbelow, if_neg hreached]
    cases p.escalation with
    | fixed => rfl
    | exponential =>
      dsimp only
      rw [← Int.ofNat_sub (Nat.not_lt.1 hreached), word?_natCast hexcess, Option.bind_eq_bind,
        Option.bind_some, growthWord?_eq, Option.bind_eq_bind, Option.bind_some,
        Duration.scaleWords?_eq _ (growth_lt _)]
      rfl

private theorem min_eq_min_iff {short long cap : Nat} (hlt : short < long) :
    min short cap = min long cap ↔ cap ≤ short := by
  omega

/-- The exponential curve is what it is meant to be, the configured duration times
`2 ^ excess` and no more than the cap, except where the cap is far away: from the 32nd
failure past the threshold on the factor stays at `2 ^ 32 - 1`. -/
theorem window_doubles_iff {s : AuthSettings} (hvalid : s.defect? = none)
    (hcurve : s.lockout.escalation = .exponential) {failures : Nat}
    (hreached : s.lockout.maxFailedAttempts.toNat ≤ failures) :
    let base := s.lockout.lockoutDuration.nanos
    let cap := s.lockout.maxLockoutDuration.nanos
    let excess := failures - s.lockout.maxFailedAttempts.toNat
    ∃ window, s.lockout.window failures = some window ∧
      window.nanos = min (base * min (2 ^ excess) (2 ^ 32 - 1)) cap ∧
      (window.nanos = min (base * 2 ^ excess) cap ↔
        excess < 32 ∨ cap ≤ base * (2 ^ 32 - 1)) := by
  intro base cap excess
  have hbase : 0 < base := (AuthSettings.usable_of_defect? hvalid).duration
  obtain ⟨window, hwindow⟩ := s.lockout.exists_window hreached
  have hnanos : window.nanos = min (base * min (2 ^ excess) (2 ^ 32 - 1)) cap := by
    rw [← growth_eq_min]
    exact nanos_window_exponential hcurve hwindow
  refine ⟨window, hwindow, hnanos, ?_⟩
  rw [hnanos]
  by_cases hsmall : excess < 32
  · have hpow : 2 ^ excess < 2 ^ 32 := Nat.pow_lt_pow_right (by decide) hsmall
    rw [Nat.min_eq_left (Nat.le_sub_one_of_lt hpow)]
    exact iff_of_true rfl (.inl hsmall)
  · have hpow : 2 ^ 32 - 1 < 2 ^ excess :=
      Nat.lt_of_lt_of_le (by decide) (Nat.pow_le_pow_right (by decide) (Nat.not_lt.1 hsmall))
    rw [Nat.min_eq_right hpow.le, or_iff_right hsmall]
    exact min_eq_min_iff (Nat.mul_lt_mul_of_pos_left hpow hbase)

/-- The last failure that doubles a window of a second and a half. -/
theorem last_doubled_window :
    let s := { AuthSettings.default with
      token := ⟨"0123456789abcdef0123456789abcdef", .seconds 3600⟩
      lockout := { LockoutPolicy.default with
        lockoutDuration := ⟨1_500_000_000, by decide⟩
        escalation := .exponential
        maxLockoutDuration := .seconds 4_000_000_000 } }
    s.defect? = none ∧ s.lockout.escalation = .exponential ∧
      s.lockout.maxFailedAttempts.toNat ≤ 36 ∧
      ∃ window, s.lockout.window 36 = some window ∧
        window.nanos = 1_500_000_000 * 2 ^ 31 := by
  intro s
  have hvalid : s.defect? = none := by decide +kernel
  obtain ⟨window, hwindow, -, hdoubles⟩ := window_doubles_iff hvalid rfl (by decide : 5 ≤ 36)
  refine ⟨hvalid, rfl, by decide, window, hwindow, ?_⟩
  rw [hdoubles.2 (.inl (by decide))]
  decide +kernel

/-- A window of a nanosecond is not doubled by the 32nd failure past the threshold. -/
theorem window_short_of_double :
    let s := { AuthSettings.default with
      token := ⟨"0123456789abcdef0123456789abcdef", .seconds 3600⟩
      lockout := { LockoutPolicy.default with
        maxFailedAttempts := 1
        lockoutDuration := ⟨1, by decide⟩
        escalation := .exponential } }
    s.defect? = none ∧ s.lockout.escalation = .exponential ∧
      s.lockout.maxFailedAttempts.toNat ≤ 33 ∧
      (s.lockout.window 33).map (·.nanos) = some 4_294_967_295 ∧
      min (s.lockout.lockoutDuration.nanos * 2 ^ (33 - s.lockout.maxFailedAttempts.toNat))
        s.lockout.maxLockoutDuration.nanos = 4_294_967_296 := by
  decide +kernel

/-- On either curve and for any policy, also one with a cap below its duration, a further
failure opens a window as well, and no shorter one. Under valid settings every window lies
between the configured duration, which is positive, and the cap. Nothing overflows on the
way to it. -/
theorem windows_never_shrink (p : LockoutPolicy) {failures later : UInt32}
    (hle : failures ≤ later) :
    (∀ window, p.window failures.toNat = some window →
      ∃ longer, p.window later.toNat = some longer ∧ window ≤ longer) ∧
    (∀ s : AuthSettings, s.defect? = none → s.lockout = p →
      ∀ window, p.window failures.toNat = some window →
        p.lockoutDuration ≤ window ∧ window ≤ p.maxLockoutDuration ∧ .zero < window) ∧
    p.windowWords? failures = some (p.window failures.toNat) := by
  refine ⟨?_, ?_, p.windowWords?_eq failures⟩
  · intro window hwindow
    obtain ⟨longer, hlonger⟩ :=
      p.exists_window (Nat.le_trans (threshold_le_of_window hwindow) hle)
    exact ⟨longer, hlonger, window_mono hle hwindow hlonger⟩
  · rintro s hvalid rfl window hwindow
    have husable := AuthSettings.usable_of_defect? hvalid
    have hshort := husable.lockoutDuration_le_window hwindow
    exact ⟨hshort, husable.window_le_maxLockoutDuration hwindow,
      Nat.lt_of_lt_of_le husable.duration hshort⟩

/-- Where the factor stops growing, under valid settings and for a policy with a cap below
its duration. -/
theorem windows_at_largest_factor :
    let p := { LockoutPolicy.default with
      lockoutDuration := .seconds 3, escalation := .exponential
      maxLockoutDuration := .seconds 0xffff_ffff_ffff_ffff }
    let s := { AuthSettings.default with
      token := ⟨"0123456789abcdef0123456789abcdef", .seconds 3600⟩, lockout := p }
    let low := { p with maxLockoutDuration := .seconds 2 }
    let window := .seconds 6_442_450_944
    (36 : UInt32) ≤ 37 ∧ s.defect? = none ∧ p.window 36 = some window ∧
      (∃ longer, p.window 37 = some longer ∧ window ≤ longer) ∧
      (p.lockoutDuration ≤ window ∧ window ≤ p.maxLockoutDuration ∧ .zero < window) ∧
      p.windowWords? 36 = some (p.window 36) ∧ low.window 36 = some (.seconds 2) ∧
      (∃ longer, low.window 37 = some longer ∧ .seconds 2 ≤ longer) := by
  intro p s low window
  have hle : (36 : UInt32) ≤ 37 := by decide
  have hvalid : s.defect? = none := by decide +kernel
  have hwindow : p.window 36 = some window := by decide +kernel
  have hcapped : low.window 36 = some (.seconds 2) := by decide +kernel
  obtain ⟨hlonger, hbounds, hwords⟩ := windows_never_shrink p hle
  exact ⟨hle, hvalid, hwindow, hlonger _ hwindow, hbounds s hvalid rfl _ hwindow, hwords, hcapped,
    (windows_never_shrink low hle).1 _ hcapped⟩

end LockoutPolicy

end AuthGate

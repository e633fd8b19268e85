import AuthGate.Proofs.Keys
import AuthGate.Proofs.Lockout.Batch

namespace AuthGate

namespace Instant

variable {start now : Instant} {window longer : Duration}

/-- Before the end of the calendar, only a window that ends inside it has ended. -/
theorem deadline_le_iff (hend : now < farFuture) :
    start.deadline window ≤ now ↔ ∃ due, start.add? window = some due ∧ due ≤ now := by
  unfold deadline
  cases hadd : start.add? window with
  | none => exact iff_of_false (Int.not_le.2 hend) (by simp)
  | some due => simp

theorem exists_add?_of_le {due : Instant} (hlonger : window ≤ longer)
    (hadd : start.add? longer = some due) :
    ∃ earlier, start.add? window = some earlier ∧ earlier ≤ due := by
  have hnanos : start.nanos + longer.nanos = due.nanos := ofNanos?_eq_some.1 hadd
  have hlow := start.lower
  have hhigh := due.upper
  rw [Duration.le_def] at hlonger
  refine ⟨⟨start.nanos + window.nanos, by omega, by omega⟩, ofNanos?_eq_some.2 rfl, ?_⟩
  rw [le_def]
  dsimp only
  omega

end Instant

namespace FailureRecord

variable {r : FailureRecord} {last now : Instant} {idle longer : Duration}

/-- A record is stale exactly if it is not locked and the idle time after its last
failure has come to an end. An end outside the calendar is never reached. -/
theorem isStale_iff (hlast : r.lastFailure = some last) (hend : now < .farFuture) :
    r.isStale now idle = true ↔
      r.isLockedAt now = false ∧ ∃ due, last.add? idle = some due ∧ due ≤ now := by
  unfold isStale
  rw [hlast, Bool.and_eq_true, Bool.not_eq_true']
  dsimp only
  rw [decide_eq_true_iff, Instant.remaining_eq_zero_iff, Instant.deadline_le_iff hend]

/-- What is kept for an idle time is kept for a longer one. -/
theorem isStale_of_le (hlast : r.lastFailure = some last) (hend : now < .farFuture)
    (hlonger : idle ≤ longer) (hstale : r.isStale now longer = true) :
    r.isStale now idle = true := by
  rw [isStale_iff hlast hend] at hstale ⊢
  obtain ⟨hopen, due, hdue, hpassed⟩ := hstale
  obtain ⟨earlier, hearlier, hle⟩ := Instant.exists_add?_of_le hlonger hdue
  exact ⟨hopen, earlier, hearlier, Int.le_trans hle hpassed⟩

end FailureRecord

namespace LockoutTracker

variable {t : LockoutTracker} {username : String} {now : Instant} {idle : Duration}

/-! ### What a purge takes away -/

theorem record?_purgeStale_eq_none_iff {r : FailureRecord} {last : Instant}
    (hrecord : t.record? username = some r) (hlast : r.lastFailure = some last)
    (hend : now < .farFuture) (idle : Duration) :
    (t.purgeStale idle now).value.1.record? username = none ↔
      r.isLockedAt now = false ∧ ∃ due, last.add? idle = some due ∧ due ≤ now := by
  rw [← FailureRecord.isStale_iff hlast hend, record?_purgeStale, hrecord, Option.filter_some]
  cases r.isStale now idle <;> simp

/-- A purge changes no record that it leaves. -/
theorem record?_purgeStale_eq_or (t : LockoutTracker) (idle : Duration) (now : Instant)
    (username : String) :
    (t.purgeStale idle now).value.1.record? username = none ∨
      (t.purgeStale idle now).value.1.record? username = t.record? username := by
  rw [record?_purgeStale]
  cases t.record? username with
  | none => exact .inl rfl
  | some r =>
    rw [Option.filter_some]
    split
    · exact .inr rfl
    · exact .inl rfl

theorem size_purgeStale (t : LockoutTracker) (idle : Duration) (now : Instant) :
    (t.purgeStale idle now).value.2 + (t.purgeStale idle now).value.1.size = t.size := by
  have hcount : (t.purgeStale idle now).value.2 =
      t.size - (t.purgeStale idle now).value.1.size := by
    rw [value_purgeStale]
    unfold purgeStale
    dsimp only
    split <;> rfl
  have hle : (t.purgeStale idle now).value.1.size ≤ t.size := by
    rw [value_purgeStale]
    exact Std.ExtTreeMap.size_filter_le_size
  omega

/-- A purge counts the accounts whose record it takes away. -/
theorem purgeStale_snd_eq_ncard (t : LockoutTracker) (idle : Duration) (now : Instant) :
    (t.purgeStale idle now).value.2 =
      {username | (t.record? username).isSome ∧
        (t.purgeStale idle now).value.1.record? username = none}.ncard := by
  have hsize := t.size_purgeStale idle now
  have hcount := ncard_filtered t.records fun _ r => !r.isStale now idle
  rw [value_purgeStale] at hsize ⊢
  simp only [record?, ← Option.not_isSome_iff_eq_none, ← Std.ExtTreeMap.mem_iff_isSome_getElem?]
  rw [hcount]
  exact Nat.eq_sub_of_add_eq hsize

/-- At one instant there is nothing left for a second purge with the same idle time or
a longer one. -/
theorem purgeStale_purgeStale (hrecords : t.KeepsRecords) (hend : now < .farFuture)
    {longer : Duration} (hlonger : idle ≤ longer) :
    ((t.purgeStale idle now).value.1.purgeStale longer now).value =
      ((t.purgeStale idle now).value.1, 0) := by
  have hsame : ((t.purgeStale idle now).value.1.purgeStale longer now).value.1 =
      (t.purgeStale idle now).value.1 := by
    refine eq_of_record?_eq (by simp) fun username => ?_
    rw [record?_purgeStale, record?_purgeStale, Option.filter_filter]
    cases hrecord : t.record? username with
    | none => rfl
    | some r =>
      obtain ⟨last, hlast⟩ := Option.isSome_iff_exists.1 (hrecords username r hrecord).dated
      have hkept := FailureRecord.isStale_of_le hlast hend hlonger
      rw [Option.filter_some, Option.filter_some]
      cases hstale : r.isStale now longer with
      | false => simp
      | true => simp [hkept hstale]
  have hsize := (t.purgeStale idle now).value.1.size_purgeStale longer now
  rw [hsame] at hsize
  exact Prod.ext hsame (by omega)

/-! ### What a purge leaves as it is -/

/-- A call other than a failure of an account drops its record or leaves it, by a test
of this record alone. -/
theorem exists_record?_handle {call : TrackerCall}
    (hcall : ∀ moment, call ≠ .recordFailure username moment) :
    ∃ keep : FailureRecord → Bool, ∀ t : LockoutTracker,
      (t.handle call).record? username = (t.record? username).filter keep := by
  cases call with
  | recordFailure name moment =>
    have hne : name ≠ username := by
      rintro rfl
      exact hcall moment rfl
    refine ⟨fun _ => true, fun t => ?_⟩
    rw [handle, record?_recordFailure, if_neg hne]
    cases t.record? username <;> rfl
  | clear name moment =>
    by_cases hname : name = username
    · refine ⟨fun _ => false, fun t => ?_⟩
      rw [handle, record?_clear, if_pos hname]
      cases t.record? username <;> rfl
    · refine ⟨fun _ => true, fun t => ?_⟩
      rw [handle, record?_clear, if_neg hname]
      cases t.record? username <;> rfl
  | purgeStale idle moment =>
    exact ⟨fun r => !r.isStale moment idle, fun t => t.record?_purgeStale idle moment username⟩

theorem isLocked_eq_false_of_le {later : Instant} (hopen : t.isLocked username now = false)
    (hlater : now ≤ later) : t.isLocked username later = false := by
  rw [← Bool.not_eq_true] at hopen ⊢
  exact fun hlocked => hopen (isLocked_of_le hlocked hlater)

/-- Two trackers have the same record of an account, or neither has a lock of it that
reaches past an instant. -/
def SameLockFrom (s t : LockoutTracker) (username : String) (now : Instant) : Prop :=
  s.record? username = t.record? username ∨
    s.isLocked username now = false ∧ t.isLocked username now = false

theorem isLocked_of_filter {s : LockoutTracker} {keep : FailureRecord → Bool}
    (hrecord : s.record? username = (t.record? username).filter keep)
    (hopen : t.isLocked username now = false) : s.isLocked username now = false := by
  rw [isLocked_eq_any] at hopen ⊢
  rw [hrecord]
  cases h : t.record? username with
  | none => rfl
  | some r =>
    rw [h] at hopen
    rw [Option.filter_some]
    split
    · exact hopen
    · rfl

namespace SameLockFrom

variable {s : LockoutTracker}

theorem handle (h : SameLockFrom s t username now) {call : TrackerCall}
    (hcall : ∀ moment, call ≠ .recordFailure username moment) :
    SameLockFrom (s.handle call) (t.handle call) username now := by
  obtain ⟨keep, hkeep⟩ := exists_record?_handle hcall
  obtain hsame | ⟨hs, ht⟩ := h
  · exact .inl (by rw [hkeep, hkeep, hsame])
  · exact .inr ⟨isLocked_of_filter (hkeep s) hs, isLocked_of_filter (hkeep t) ht⟩

theorem handleAll (h : SameLockFrom s t username now) {calls : List TrackerCall}
    (hcalls : ∀ call ∈ calls, ∀ moment, call ≠ .recordFailure username moment) :
    SameLockFrom (s.handleAll calls) (t.handleAll calls) username now := by
  induction calls generalizing s t with
  | nil => exact h
  | cons call calls ih =>
    exact ih (h.handle (hcalls call (List.mem_cons_self ..)))
      fun later hlater => hcalls later (List.mem_cons_of_mem _ hlater)

/-- From the instant on, such trackers answer alike about the lock of the account. -/
theorem answers (h : SameLockFrom s t username now) {later : Instant} (hlater : now ≤ later) :
    s.isLocked username later = t.isLocked username later ∧
      s.remaining username later = t.remaining username later := by
  obtain hsame | ⟨hs, ht⟩ := h
  · refine ⟨isLocked_eq_of_record?_eq hsame later, ?_⟩
    unfold remaining
    rw [info_eq_of_record?_eq hsame]
  · have hs' := isLocked_eq_false_of_le hs hlater
    have ht' := isLocked_eq_false_of_le ht hlater
    exact ⟨hs'.trans ht'.symm,
      ((s.remaining_eq_zero_iff username later).2 hs').trans
        ((t.remaining_eq_zero_iff username later).2 ht').symm⟩

end SameLockFrom

theorem sameLockFrom_purgeStale (t : LockoutTracker) (username : String) (idle : Duration)
    (now : Instant) :
    SameLockFrom (t.purgeStale idle now).value.1 t username now := by
  cases hlocked : t.isLocked username now with
  | true => exact .inl (t.record?_purgeStale_of_isLocked hlocked idle)
  | false =>
    exact .inr ⟨isLocked_of_filter (t.record?_purgeStale idle now username) hlocked, hlocked⟩

/-- A purge drops exactly the records that are not locked and whose last failure is the
idle time or longer ago. An idle time that ends outside the calendar has not passed.
Every other record stays as it is, and what is dropped is counted. At the same instant
a second purge finds nothing, unless it is for a shorter idle time. Nobody can tell
later from the lock of an account that there was a purge, whatever calls follow, as
long as the account does not fail again. -/
theorem purgeStale_drops_idle (policy : LockoutPolicy) (calls : List TrackerCall)
    (idle : Duration) {now : Instant} (hend : now < .farFuture) :
    let t := (new policy).handleAll calls
    let after := (t.purgeStale idle now).value.1
    let removed := (t.purgeStale idle now).value.2
    (∀ username r, t.record? username = some r → ∃ last, r.lastFailure = some last ∧
      (after.record? username = none ↔
        r.isLockedAt now = false ∧ ∃ due, last.add? idle = some due ∧ due ≤ now)) ∧
    (∀ username, after.record? username = none ∨ after.record? username = t.record? username) ∧
    after.policy = t.policy ∧
    removed + after.size = t.size ∧
    removed =
      {username | (t.record? username).isSome ∧ after.record? username = none}.ncard ∧
    (∀ longer, idle ≤ longer → (after.purgeStale longer now).value = (after, 0)) ∧
    ∀ username later others, now ≤ later →
      (∀ call ∈ others, ∀ moment, call ≠ .recordFailure username moment) →
      (after.handleAll others).isLocked username later =
        (t.handleAll others).isLocked username later ∧
      (after.handleAll others).remaining username later =
        (t.handleAll others).remaining username later := by
  intro t after removed
  have hrecords : t.KeepsRecords := (keepsRecords_new policy).handleAll calls
  refine ⟨?_, t.record?_purgeStale_eq_or idle now, t.policy_purgeStale idle now,
    t.size_purgeStale idle now, t.purgeStale_snd_eq_ncard idle now,
    fun longer => purgeStale_purgeStale hrecords hend, ?_⟩
  · intro username r hrecord
    obtain ⟨last, hlast⟩ := Option.isSome_iff_exists.1 (hrecords username r hrecord).dated
    exact ⟨last, hlast, record?_purgeStale_eq_none_iff hrecord hlast hend idle⟩
  · intro username later others hlater hothers
    exact ((t.sameLockFrom_purgeStale username idle now).handleAll hothers).answers hlater

/-- Of an account whose failure is a minute ago, one that is locked and one whose failure
is a second less ago, the purge for a minute takes the first record, and no purge for
longer takes another one. -/
theorem purge_of_idle_account :
    let policy := { LockoutPolicy.default with maxFailedAttempts := 2 }
    let second : Instant := ⟨1_000_000_000, by decide, by decide⟩
    let now : Instant := ⟨60_000_000_000, by decide, by decide⟩
    let calls : List TrackerCall := [.recordFailure "idle" .epoch,
      .recordFailure "locked" .epoch, .recordFailure "locked" .epoch,
      .recordFailure "recent" second]
    let after := (((new policy).handleAll calls).purgeStale (.seconds 60) now).value.1
    now < .farFuture ∧ after.record? "idle" = none ∧
      after.record? "locked" = ((new policy).handleAll calls).record? "locked" ∧
      after.record? "recent" ≠ none ∧ (after.purgeStale (.seconds 3600) now).value = (after, 0) ∧
      after.isLocked "idle" now = ((new policy).handleAll calls).isLocked "idle" now := by
  intro policy second now calls after
  have hend : now < .farFuture := by decide
  obtain ⟨hdropped, hkept, -, -, -, hsecond, hlock⟩ :=
    purgeStale_drops_idle policy calls (.seconds 60) hend
  have hidle : ((new policy).handleAll calls).record? "idle" =
      some ⟨1, none, some .epoch⟩ := by decide +kernel
  have hlocked : ((new policy).handleAll calls).record? "locked" =
      some ⟨2, some ⟨900_000_000_000, by decide, by decide⟩, some .epoch⟩ := by decide +kernel
  have hrecent : ((new policy).handleAll calls).record? "recent" =
      some ⟨1, none, some second⟩ := by decide +kernel
  obtain ⟨_, hlast, hdropsIdle⟩ := hdropped _ _ hidle
  obtain ⟨_, hlast', hdropsLocked⟩ := hdropped _ _ hlocked
  obtain ⟨_, hlast'', hdropsRecent⟩ := hdropped _ _ hrecent
  cases hlast; cases hlast'; cases hlast''
  refine ⟨hend, hdropsIdle.2 ⟨by decide, now, by decide +kernel, by decide⟩,
    (hkept _).resolve_left fun h => ?_, fun h => ?_, ?_, ?_⟩
  · exact absurd (hdropsLocked.1 h).1 (by decide)
  · obtain ⟨due, hdue, hpassed⟩ := (hdropsRecent.1 h).2
    have hlater : second.add? (.seconds 60) =
        some ⟨61_000_000_000, by decide, by decide⟩ := by decide +kernel
    rw [hlater] at hdue
    cases hdue
    exact absurd hpassed (by decide)
  · exact hsecond (.seconds 3600) (by decide)
  · exact (hlock "idle" now [] (Int.le_refl _) (List.forall_mem_nil _)).1

end LockoutTracker

end AuthGate

import AuthGate.Proofs.Interleaving.Stepwise

namespace AuthGate

namespace RevocationRegistry

/-- What every operation promises the others: nothing that is held now or later is
lost. -/
def Retains (now : Instant) (before after : RevocationRegistry) : Prop :=
  ∀ key later, now ≤ later → before.holds key later = true → after.holds key later = true

/-- A key is held at every time from now up to an expiry. -/
def Covers (key : String) (expiry : Instant) (here : Instant × RevocationRegistry) : Prop :=
  ∀ later, here.1 ≤ later → later < expiry → here.2.holds key later = true

theorem retains_refl (r : RevocationRegistry) (now : Instant) : Retains now r r :=
  fun _ _ _ hheld => hheld

theorem retains_retain (r : RevocationRegistry) (key : String) (expiry now : Instant) :
    Retains now r (r.retain key expiry) := by
  intro other later _ hheld
  exact (r.holds_retain_iff key other expiry later).2 (.inl hheld)

/-- Dropping what had expired by some reading of the clock loses nothing later,
also when the entry has been extended since the clock was read. -/
theorem retains_dropExpired (r : RevocationRegistry) (key : String) {read now : Instant}
    (hle : read ≤ now) : Retains now r (r.dropExpired key read) := by
  intro other later hlater hheld
  rw [r.holds_dropExpired key other (Int.le_trans hle hlater)]
  exact hheld

theorem covers_of_reaches {key : String} {expiry : Instant}
    {here there : Instant × RevocationRegistry} (hcovers : Covers key expiry here)
    (h : Thread.Reaches Retains here there) : Covers key expiry there := by
  refine Thread.of_reaches ?_ h hcovers
  intro here there hmove hheld later hlater hbefore
  cases hmove with
  | tick hle => exact hheld later (Int.le_trans hle hlater) hbefore
  | change hretains => exact hretains key later hlater (hheld later hlater hbefore)

/-- A key that is held at an instant is held at every earlier one. -/
theorem holds_of_le (r : RevocationRegistry) {key : String} {before now : Instant}
    (hheld : r.holds key now = true) (hle : before ≤ now) : r.holds key before = true := by
  rw [holds_iff] at hheld ⊢
  obtain ⟨expiry, hentry, hlater⟩ := hheld
  exact ⟨expiry, hentry, Int.lt_of_le_of_lt hle hlater⟩

end RevocationRegistry

namespace Stepwise

open RevocationRegistry Thread

/-! ### What every operation promises -/

theorem keeps_revoke (raw : String) (expiry since : Instant) :
    (revoke raw expiry).Keeps Retains since := by
  refine keeps_now fun now _ => ?_
  split
  · trivial
  · exact keeps_modify fun later r _ => r.retains_retain _ _ later

theorem keeps_isRevoked (raw : String) (since : Instant) :
    (isRevoked raw).Keeps Retains since := by
  refine keeps_now fun now _ => keeps_look (fun _ r => r.retains_refl _) fun r => ?_
  split
  · trivial
  · split
    · trivial
    · exact keeps_bind (keeps_modify fun later r hlater => r.retains_dropExpired _ hlater)
        fun _ _ _ => trivial

theorem keeps_dropAll {read since : Instant} (hle : read ≤ since) (keys : List String) :
    (dropAll read keys).Keeps Retains since := by
  induction keys generalizing since with
  | nil => trivial
  | cons key keys ih =>
    refine ⟨fun later r hlater => r.retains_dropExpired _ (Int.le_trans hle hlater), fun r => ?_⟩
    exact keeps_bind (ih hle) fun _ _ _ => trivial

theorem keeps_purgeExpired (keys : List String) (since : Instant) :
    (purgeExpired keys).Keeps Retains since :=
  keeps_now fun now _ => keeps_dropAll (Int.le_refl now.nanos) keys

theorem keeps_logout (codec : TokenCodec) (raw : String) (since : Instant) :
    (logout codec raw).Keeps Retains since := by
  unfold logout
  split
  · trivial
  · next claims _ =>
    refine keeps_now fun now _ => ?_
    split
    · trivial
    · exact keeps_bind (keeps_revoke raw claims.expiresAt now) fun _ _ _ => trivial

theorem keeps_evaluate (codec : TokenCodec) (header : Option String) (since : Instant) :
    (evaluate codec header).Keeps Retains since := by
  unfold evaluate BearerPipeline.evaluate
  split
  · trivial
  · trivial
  · trivial
  · next raw _ =>
    refine keeps_bind (keeps_isRevoked raw since) fun revoked now _ => ?_
    split
    · trivial
    · exact keeps_now fun _ _ => trivial

/-! ### What becomes of a revoked token -/

variable {raw : String} {expiry : Instant} {times : List Instant} {pending : List Instant → Prop}
  {here : Instant × RevocationRegistry}

/-- A revocation that has returned covers its token until the expiry. -/
theorem ensures_revoke (hfirst : pending times) (hsecond : ∀ read, pending (times ++ [read])) :
    (revoke raw expiry).Ensures Retains pending
      (fun _ _ there => Covers (revocationKey raw) expiry there) times here := by
  refine ensures_now hfirst fun read hread => ?_
  split
  · next hexpired =>
    intro there hthere later hlater hbefore
    have hpast := Int.le_trans hexpired (Int.le_trans (le_of_reaches hthere) hlater)
    exact absurd hbefore (Int.not_lt.2 hpast)
  · refine ⟨hsecond read.1, fun written hwritten there hthere => ?_⟩
    refine covers_of_reaches (fun later _ hbefore => ?_) hthere
    exact (written.2.holds_retain_iff _ _ _ _).2 (.inr ⟨rfl, hbefore⟩)

/-- A logout that has returned true covers its token until the expiry in its
claims. -/
theorem ensures_logout (codec : TokenCodec) :
    (logout codec raw).Ensures Retains (·.length < 3)
      (fun _ said there => said = true → ∃ claims, codec.verify raw = .ok claims ∧
        Covers (revocationKey raw) claims.expiresAt there) [] here := by
  unfold logout
  split
  · intro there _ hfalse
    cases hfalse
  · next claims hverify =>
    refine ensures_now (by decide) fun read _ => ?_
    split
    · intro there _ hfalse
      cases hfalse
    · refine ensures_bind (ensures_revoke (by simp) (by simp)) fun times _ there hcovers => ?_
      exact fun last hlast _ => ⟨claims, hverify, covers_of_reaches hcovers hlast⟩

/-- The second step of a lookup, the one that reads the entry, has not been taken
before the expiry. -/
def LooksLate (expiry : Instant) (times : List Instant) : Prop :=
  ∀ lookup, times[1]? = some lookup → expiry ≤ lookup

/-- A lookup of a covered token finds it, unless it looks late. -/
theorem ensures_isRevoked (hcovers : Covers (revocationKey raw) expiry here)
    (hpending : ∀ times, times.length < 3 → LooksLate expiry times → pending times) :
    (isRevoked raw).Ensures Retains pending
      (fun times revoked there => times.length ≤ 3 ∧
        (revoked = true ∨ LooksLate expiry times ∧ expiry ≤ there.1)) [] here := by
  refine ensures_now (hpending _ (by simp) (by simp [LooksLate])) fun read hread => ?_
  refine ensures_look (hpending _ (by simp) (by simp [LooksLate])) fun found hfound => ?_
  have hle : read.1 ≤ found.1 := le_of_reaches hfound
  have hcovered := covers_of_reaches hcovers (hread.trans hfound)
  -- a token that is not found although it is covered has expired meanwhile
  have hmissed : found.2.holds (revocationKey raw) read.1 = false → expiry ≤ found.1 := by
    intro hnone
    refine Int.not_lt.1 fun hbefore => ?_
    have hheld := found.2.holds_of_le (hcovered found.1 (Int.le_refl _) hbefore) hle
    exact Bool.false_ne_true (hnone.symm.trans hheld)
  have hlate : ∀ rest, expiry ≤ found.1 → LooksLate expiry ([read.1, found.1] ++ rest) := by
    intro rest hpast lookup hlookup
    obtain rfl : found.1 = lookup := by simpa using hlookup
    exact hpast
  unfold RevocationRegistry.holds at hmissed
  cases hentry : found.2.entries[revocationKey raw]? with
  | none =>
    rw [hentry] at hmissed
    have hpast := hmissed rfl
    intro there hthere
    exact ⟨by simp, .inr ⟨hlate [] hpast, Int.le_trans hpast (le_of_reaches hthere)⟩⟩
  | some held =>
    rw [hentry] at hmissed
    dsimp only
    split
    · exact fun there hthere => ⟨by simp, .inl rfl⟩
    · next hexpired =>
      have hpast := hmissed (decide_eq_false hexpired)
      refine ensures_modify (hpending _ (by simp) (hlate [] hpast)) fun dropped hdropped => ?_
      intro there hthere
      have hlast := le_of_reaches hthere
      exact ⟨by simp, .inr ⟨hlate [dropped.1] hpast,
        Int.le_trans hpast (Int.le_trans (le_of_reaches hdropped) hlast)⟩⟩

/-- A decision about a covered token rejects it, as revoked or as expired. -/
theorem ensures_evaluate {codec : TokenCodec} {header : String} {claims : Claims}
    (hbearer : bearerToken header = .ok (some raw)) (hverify : codec.verify raw = .ok claims)
    (hcovers : Covers (revocationKey raw) claims.expiresAt here) :
    (evaluate codec (some header)).Ensures Retains (·.length < 4)
      (fun _ outcome _ => ∃ error, outcome = .rejected error) [] here := by
  have hlookup : (isRevoked raw).Ensures Retains (·.length < 4) _ [] here :=
    ensures_isRevoked hcovers fun times hlength _ => Nat.lt_succ_of_lt hlength
  unfold evaluate
  rw [BearerPipeline.evaluate_of_bearer _ hbearer]
  refine ensures_bind hlookup fun times revoked there hfound => ?_
  obtain ⟨hlength, hfound⟩ := hfound
  cases revoked with
  | true => exact fun _ _ => ⟨_, rfl⟩
  | false =>
    refine ensures_now (Nat.lt_succ_of_le hlength) fun read hread last _ => ⟨.tokenExpired, ?_⟩
    obtain hfalse | ⟨-, hpast⟩ := hfound
    · cases hfalse
    · have hexpired : ¬ read.1 < claims.expiresAt :=
        Int.not_lt.2 (Int.le_trans hpast (le_of_reaches hread))
      rw [codec.validate_of_verify hverify, if_neg hexpired]
      rfl

end Stepwise

/-! ### Any number of callers -/

/-- What a caller may ask for. -/
inductive TokenRequest where
  | revoke (raw : String) (expiry : Instant)
  | logout (raw : String)
  | isRevoked (raw : String)
  | purgeExpired (keys : List String)
  | evaluate (header : Option String)

/-- What a caller is told in the end. -/
inductive TokenAnswer where
  | returned
  | said (answer : Bool)
  | removed (count : Nat)
  | decided (outcome : BearerOutcome)

namespace TokenRequest

open RevocationRegistry Thread

/-- The steps that a request is carried out in. -/
def thread (codec : TokenCodec) : TokenRequest → Thread RevocationRegistry TokenAnswer
  | revoke raw expiry => do
    Stepwise.revoke raw expiry
    return .returned
  | logout raw => return .said (← Stepwise.logout codec raw)
  | isRevoked raw => return .said (← Stepwise.isRevoked raw)
  | purgeExpired keys => return .removed (← Stepwise.purgeExpired keys)
  | evaluate header => return .decided (← Stepwise.evaluate codec header)

theorem keeps_thread (codec : TokenCodec) (request : TokenRequest) (since : Instant) :
    (request.thread codec).Keeps Retains since := by
  cases request with
  | revoke raw expiry =>
    exact keeps_bind (Stepwise.keeps_revoke raw expiry since) fun _ _ _ => trivial
  | logout raw => exact keeps_bind (Stepwise.keeps_logout codec raw since) fun _ _ _ => trivial
  | isRevoked raw => exact keeps_bind (Stepwise.keeps_isRevoked raw since) fun _ _ _ => trivial
  | purgeExpired keys =>
    exact keeps_bind (Stepwise.keeps_purgeExpired keys since) fun _ _ _ => trivial
  | evaluate header =>
    exact keeps_bind (Stepwise.keeps_evaluate codec header since) fun _ _ _ => trivial

variable {codec : TokenCodec} {start : Instant} {registry : RevocationRegistry}
  {raw : String} {moves : List (Move TokenRequest)}

theorem covers_of_revoked {expiry : Instant}
    (hrevoked : ((World.idle start registry).run (thread codec) moves).Answered
      (.revoke raw expiry) .returned) :
    Covers (revocationKey raw) expiry
      ((World.idle start registry).run (thread codec) moves).here := by
  have hfresh : (thread codec (.revoke raw expiry)).Ensures Retains (fun _ => True)
      (fun _ _ there => Covers (revocationKey raw) expiry there) [] (start, registry) :=
    ensures_bind (Stepwise.ensures_revoke trivial fun _ => trivial)
      fun _ _ _ hcovers _ hlast => covers_of_reaches hcovers hlast
  obtain ⟨_, hcovers⟩ := World.post_of_answered (keeps_thread codec) hfresh hrevoked
  exact hcovers

theorem covers_of_loggedOut
    (hlogout : ((World.idle start registry).run (thread codec) moves).Answered
      (.logout raw) (.said true)) :
    ∃ claims, codec.verify raw = .ok claims ∧ Covers (revocationKey raw) claims.expiresAt
      ((World.idle start registry).run (thread codec) moves).here := by
  have hfresh : (thread codec (.logout raw)).Ensures Retains (·.length < 3)
      (fun _ answer there => answer = .said true → ∃ claims, codec.verify raw = .ok claims ∧
        Covers (revocationKey raw) claims.expiresAt there) [] (start, registry) := by
    refine ensures_bind (Stepwise.ensures_logout codec) fun _ said _ hsaid last hlast htrue => ?_
    obtain ⟨claims, hverify, hcovers⟩ := hsaid (TokenAnswer.said.inj htrue)
    exact ⟨claims, hverify, covers_of_reaches hcovers hlast⟩
  obtain ⟨_, hsaid⟩ := World.post_of_answered (keeps_thread codec) hfresh hlogout
  exact hsaid rfl

-- Two short interleavings of a token that verifies: two callers log it out and
-- revoke it, and after that two others ask about it.

private theorem run_revoking {expiry : Instant} {claims : Claims}
    (hverify : codec.verify raw = .ok claims) (hexpiry : claims.expiresAt = expiry)
    (hvalid : start < expiry) :
    (World.idle start .empty).run (thread codec) [.begin (.logout raw),
        .begin (.revoke raw expiry), .advance 0, .advance 1, .advance 0, .advance 1, .advance 0] =
      ⟨start, .retain (.retain .empty (revocationKey raw) expiry) (revocationKey raw) expiry,
        [⟨.logout raw, [start, start, start], .done (.said true)⟩,
          ⟨.revoke raw expiry, [start, start], .done .returned⟩]⟩ := by
  have hearly : ¬ expiry ≤ start := Int.not_le.2 hvalid
  simp [World.run, World.step, World.idle, Call.advance, thread, Stepwise.logout,
    Stepwise.revoke, Thread.now, Thread.modify, hverify, hexpiry, hearly, hvalid,
    Claims.isExpiredAt_eq]

private theorem calls_run_asking {header : String} {expiry : Instant}
    {first second : Call TokenRequest RevocationRegistry TokenAnswer}
    (hbearer : bearerToken header = .ok (some raw))
    (hentry : registry.entries[revocationKey raw]? = some expiry) (hvalid : start < expiry) :
    ((⟨start, registry, [first, second]⟩ : World _ _ _).run (thread codec)
        [.begin (.evaluate (some header)), .begin (.isRevoked raw), .advance 3, .advance 2,
          .advance 3, .advance 2]).calls =
      [first, second,
        ⟨.evaluate (some header), [start, start], .done (.decided (.rejected .tokenRevoked))⟩,
        ⟨.isRevoked raw, [start, start], .done (.said true)⟩] := by
  simp [World.run, World.step, Call.advance, thread, Stepwise.evaluate, Stepwise.pipeline,
    BearerPipeline.evaluate, Stepwise.isRevoked, Thread.now, Thread.look, hbearer, hentry, hvalid]

/-- However the steps of any number of calls are interleaved, with a clock that
never goes back: a decision about a token that begins after some logout of it has
returned true ends in a rejection, within four steps of its own. And a lookup that
begins after a revocation has returned answers true, if the step that reads the
entry is taken before the expiry. -/
theorem revocation_effective (codec : TokenCodec) (start : Instant)
    (registry : RevocationRegistry) (earlier later : List (Move TokenRequest)) :
    let before := (World.idle start registry).run (thread codec) earlier
    let after := before.run (thread codec) later
    (∀ raw, before.Answered (.logout raw) (.said true) →
      ∀ header, bearerToken header = .ok (some raw) →
      ∀ call ∈ after.calls.drop before.calls.length, call.request = .evaluate (some header) →
        (∃ error, call.thread.answer? = some (.decided (.rejected error))) ∨
          call.thread.answer? = none ∧ call.times.length < 4) ∧
    ∀ raw expiry, before.Answered (.revoke raw expiry) .returned →
      ∀ call ∈ after.calls.drop before.calls.length, call.request = .isRevoked raw →
      ∀ lookup, call.times[1]? = some lookup → lookup < expiry →
        call.thread.answer? = some (.said true) := by
  intro before after
  have hkeeps : before.Keeps Retains :=
    World.keeps_run (keeps_thread codec) World.keeps_idle earlier
  constructor
  · intro raw hlogout header hbearer call hmem hrequest
    obtain ⟨claims, hverify, hcovers⟩ := covers_of_loggedOut hlogout
    have hfresh : (thread codec (.evaluate (some header))).Ensures Retains (·.length < 4)
        (fun _ answer _ => ∃ error, answer = .decided (.rejected error)) [] before.here := by
      refine ensures_bind (Stepwise.ensures_evaluate hbearer hverify hcovers) ?_
      rintro _ _ _ ⟨error, rfl⟩ _ _
      exact ⟨error, rfl⟩
    have hensures := World.ensures_of_begun (keeps_thread codec) hkeeps hfresh hmem hrequest
    cases hanswer : call.thread.answer? with
    | none => exact .inr ⟨rfl, pending_of_answer? hensures hanswer⟩
    | some answer =>
      obtain ⟨error, rfl⟩ := post_of_answer? hensures hanswer
      exact .inl ⟨error, rfl⟩
  · intro raw expiry hrevoked call hmem hrequest lookup hlookup hbefore
    have hcovers := covers_of_revoked hrevoked
    have hfresh : (thread codec (.isRevoked raw)).Ensures Retains (Stepwise.LooksLate expiry)
        (fun times answer _ => answer = .said true ∨ Stepwise.LooksLate expiry times) []
        before.here := by
      refine ensures_bind (Stepwise.ensures_isRevoked hcovers fun _ _ hlate => hlate) ?_
      rintro _ _ _ ⟨-, rfl | ⟨hlate, -⟩⟩ _ _
      · exact .inl rfl
      · exact .inr hlate
    have hensures := World.ensures_of_begun (keeps_thread codec) hkeeps hfresh hmem hrequest
    have hearly : ¬ Stepwise.LooksLate expiry call.times :=
      fun hlate => absurd hbefore (Int.not_lt.2 (hlate lookup hlookup))
    cases hanswer : call.thread.answer? with
    | none => exact absurd (pending_of_answer? hensures hanswer) hearly
    | some answer =>
      obtain rfl | hlate := post_of_answer? hensures hanswer
      · rfl
      · exact absurd hlate hearly

/-- A token of an hour is logged out and revoked at once by two callers. The
decision and the lookup of two others that take turns after that do not miss it. -/
theorem logged_out_token_rejected :
    let codec : TokenCodec := ⟨utf8 "0123456789abcdef0123456789abcdef", .seconds 3600⟩
    let expiry : Instant := ⟨3_600_000_000_000, by decide, by decide⟩
    let raw := codec.compact (.between "alice" "a" .epoch expiry)
    let header := "Bearer " ++ raw
    let earlier : List (Move TokenRequest) := [.begin (.logout raw), .begin (.revoke raw expiry),
      .advance 0, .advance 1, .advance 0, .advance 1, .advance 0]
    let later : List (Move TokenRequest) := [.begin (.evaluate (some header)),
      .begin (.isRevoked raw), .advance 3, .advance 2, .advance 3, .advance 2]
    let before := (World.idle .epoch .empty).run (thread codec) earlier
    let after := before.run (thread codec) later
    before.Answered (.logout raw) (.said true) ∧ before.Answered (.revoke raw expiry) .returned ∧
      bearerToken header = .ok (some raw) ∧
      (∃ call ∈ after.calls.drop before.calls.length, call.request = .evaluate (some header) ∧
        ∃ error, call.thread.answer? = some (.decided (.rejected error))) ∧
      ∃ call ∈ after.calls.drop before.calls.length, call.request = .isRevoked raw ∧
        call.times[1]? = some .epoch ∧ Instant.epoch < expiry ∧
        call.thread.answer? = some (.said true) := by
  intro codec expiry raw header earlier later before after
  have hverify : codec.verify raw = .ok (.between "alice" "a" .epoch expiry) :=
    TokenCodec.verify_compact_between _ _ _ _ _
  have hbearer : bearerToken header = .ok (some raw) :=
    bearerToken_of_unpadded (TokenCodec.compact_ne_empty _ _) (TokenCodec.unpadded_compact _ _)
  have hvalid : Instant.epoch < expiry := by decide
  have heffective := revocation_effective codec .epoch .empty earlier later
  have hstart : before = (World.idle .epoch .empty).run (thread codec) earlier := rfl
  have hafter : after = before.run (thread codec) later := rfl
  dsimp only at heffective
  rw [← hstart, ← hafter] at heffective
  have hbefore := hstart.trans (run_revoking hverify (Claims.expiresAt_between ..) hvalid)
  -- what is left must not evaluate the token
  clear_value after before
  obtain ⟨hdecided, hfound⟩ := heffective
  have hcalls : after.calls.drop before.calls.length =
      [⟨.evaluate (some header), [.epoch, .epoch], .done (.decided (.rejected .tokenRevoked))⟩,
        ⟨.isRevoked raw, [.epoch, .epoch], .done (.said true)⟩] := by
    rw [hafter, hbefore]
    exact congrArg (List.drop 2) (calls_run_asking hbearer (by simp [retain, empty]) hvalid)
  have hlogout : before.Answered (.logout raw) (.said true) := by
    rw [hbefore]
    exact ⟨_, List.mem_cons_self .., rfl, rfl⟩
  have hrevoked : before.Answered (.revoke raw expiry) .returned := by
    rw [hbefore]
    exact ⟨_, List.mem_cons_of_mem _ (List.mem_cons_self ..), rfl, rfl⟩
  have hdecision : _ ∈ after.calls.drop before.calls.length :=
    hcalls ▸ List.mem_cons_self ..
  have hlookup : _ ∈ after.calls.drop before.calls.length :=
    hcalls ▸ List.mem_cons_of_mem _ (List.mem_cons_self ..)
  refine ⟨hlogout, hrevoked, hbearer, ⟨_, hdecision, rfl, ?_⟩, _, hlookup, rfl, rfl, hvalid, ?_⟩
  · obtain hrejected | ⟨hnone, -⟩ := hdecided raw hlogout header hbearer _ hdecision rfl
    · exact hrejected
    · cases hnone
  · exact hfound raw expiry hrevoked _ hlookup rfl .epoch rfl hvalid

/-- That the clock is read before the expiry is not enough. The lookup of a
revoked token reads the clock, the expiry passes, a purge drops the entry, and the
lookup goes on and finds nothing. -/
theorem lookup_overtaken_by_purge :
    let expiry : Instant := ⟨1_000_000_000, by decide, by decide⟩
    let program := thread ⟨[], .zero⟩
    let before := (World.idle .epoch .empty).run program
      [.begin (.revoke "token" expiry), .advance 0, .advance 0]
    let after := before.run program
      [.begin (.isRevoked "token"), .advance 1, .tick expiry,
        .begin (.purgeExpired [revocationKey "token"]), .advance 2, .advance 2, .advance 1]
    before.Answered (.revoke "token" expiry) .returned ∧
      ∃ call ∈ after.calls.drop before.calls.length, call.request = .isRevoked "token" ∧
        call.times[0]? = some .epoch ∧ Instant.epoch < expiry ∧
        call.thread.answer? = some (.said false) := by
  intro expiry program before after
  have hearly : ¬ expiry ≤ .epoch := by decide
  have hreached : expiry ≤ expiry := Int.le_refl _
  have hmax : max .epoch expiry = expiry := by decide
  generalize hkey : revocationKey "token" = key at after
  have hbefore : before = ⟨.epoch, .retain .empty key expiry,
      [⟨.revoke "token" expiry, [.epoch, .epoch], .done .returned⟩]⟩ := by
    simp [before, program, World.run, World.step, World.idle, Call.advance, thread,
      Stepwise.revoke, Thread.now, Thread.modify, hearly, hkey]
  have hafter : after.calls.drop before.calls.length =
      [⟨.isRevoked "token", [.epoch, expiry], .done (.said false)⟩,
        ⟨.purgeExpired [key], [expiry, expiry], .done (.removed 1)⟩] := by
    simp [after, hbefore, program, World.run, World.step, Call.advance, thread,
      Stepwise.isRevoked, Stepwise.purgeExpired, Stepwise.dropAll, Thread.now, Thread.look, retain,
      empty, dropExpired, hasExpired, hkey, hmax, hreached]
  have hrevoked : before.Answered (.revoke "token" expiry) .returned := by
    rw [hbefore]
    exact ⟨_, List.mem_cons_self .., rfl, rfl⟩
  exact ⟨hrevoked, _, hafter ▸ List.mem_cons_self .., rfl, rfl, by decide, rfl⟩

end TokenRequest

end AuthGate

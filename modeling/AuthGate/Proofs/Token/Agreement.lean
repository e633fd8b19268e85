import AuthGate.Proofs.Token.Spelling

namespace AuthGate

theorem not_mem_of_mem_pieces {separator : Char} {cs piece : List Char}
    (h : piece ∈ pieces separator cs) : separator ∉ piece := by
  induction cs generalizing piece with
  | nil =>
    rw [pieces, List.mem_singleton] at h
    rw [h]
    exact List.not_mem_nil
  | cons c cs ih =>
    unfold pieces at h
    split at h
    · rcases List.mem_cons.1 h with rfl | hmem
      · exact List.not_mem_nil
      · exact ih hmem
    · next hne =>
      cases hpieces : pieces separator cs with
      | nil => exact absurd hpieces (pieces_ne_nil separator cs)
      | cons first rest =>
        rw [hpieces] at h ih
        rcases List.mem_cons.1 h with rfl | hmem
        · rw [List.mem_cons, not_or]
          exact ⟨Ne.symm hne, ih (List.mem_cons_self ..)⟩
        · exact ih (List.mem_cons_of_mem _ hmem)

/-- A text in front of its last separator and behind it. -/
def splitLast? (separator : Char) : List Char → Option (List Char × List Char)
  | [] => none
  | c :: cs => match splitLast? separator cs with
    | some (front, back) => some (c :: front, back)
    | none => if c = separator then some ([], cs) else none

theorem splitLast?_of_not_mem {separator : Char} {cs : List Char} (h : separator ∉ cs) :
    splitLast? separator cs = none := by
  induction cs with
  | nil => rfl
  | cons c cs ih =>
    rw [List.mem_cons, not_or] at h
    obtain ⟨hne, hmem⟩ := h
    rw [splitLast?, ih hmem]
    exact if_neg (Ne.symm hne)

theorem splitLast?_append_cons {separator : Char} {back : List Char} (h : separator ∉ back)
    (front : List Char) :
    splitLast? separator (front ++ separator :: back) = some (front, back) := by
  induction front with
  | nil =>
    rw [List.nil_append, splitLast?, splitLast?_of_not_mem h]
    exact if_pos rfl
  | cons c front ih => rw [List.cons_append, splitLast?, ih]

/-- An instant is the one of a Unix time exactly if the nanoseconds stay below a
second and both together count its nanoseconds. -/
theorem Instant.ofUnix?_eq_some {seconds : Int} {nanos : Nat} {t : Instant} :
    ofUnix? seconds nanos = some t ↔
      nanos < 1_000_000_000 ∧ t.nanos = seconds * 1_000_000_000 + nanos := by
  unfold ofUnix?
  split
  · next h => rw [ofNanos?_eq_some, eq_comm, and_iff_right h]
  · next h => exact ⟨nofun, fun hexact => absurd hexact.1 h⟩

namespace Claims

/-- Both times of claims are instants of the calendar, and the claims are read as
stating just these. -/
structure Dated (c : Claims) : Prop where
  issued : Instant.ofUnix? c.iat c.iatNanos = some c.issuedAt
  expires : Instant.ofUnix? c.exp c.expNanos = some c.expiresAt
  iatNanos_lt : c.iatNanos < 1_000_000_000
  expNanos_lt : c.expNanos < 1_000_000_000
  nanos_issuedAt : c.issuedAt.nanos = c.iat * 1_000_000_000 + c.iatNanos
  nanos_expiresAt : c.expiresAt.nanos = c.exp * 1_000_000_000 + c.expNanos

theorem badTime?_eq_none_iff (c : Claims) :
    c.badTime? = none ↔
      (∃ issued, Instant.ofUnix? c.iat c.iatNanos = some issued) ∧
        ∃ expiry, Instant.ofUnix? c.exp c.expNanos = some expiry := by
  unfold badTime?
  cases hissued : Instant.ofUnix? c.iat c.iatNanos with
  | none => simp
  | some issued =>
    cases hexpiry : Instant.ofUnix? c.exp c.expNanos with
    | none => simp
    | some expiry => simp

/-- Claims whose times have been checked never fall back on the epoch. -/
theorem dated_of_badTime? {c : Claims} (h : c.badTime? = none) : c.Dated := by
  obtain ⟨⟨issued, hissued⟩, expiry, hexpiry⟩ := c.badTime?_eq_none_iff.1 h
  have hreadIssued : c.issuedAt = issued := by rw [issuedAt, hissued, Option.getD_some]
  have hreadExpiry : c.expiresAt = expiry := by rw [expiresAt, hexpiry, Option.getD_some]
  rw [← hreadIssued] at hissued
  rw [← hreadExpiry] at hexpiry
  obtain ⟨hiat, hnanosIssued⟩ := Instant.ofUnix?_eq_some.1 hissued
  obtain ⟨hexp, hnanosExpiry⟩ := Instant.ofUnix?_eq_some.1 hexpiry
  exact ⟨hissued, hexpiry, hiat, hexp, hnanosIssued, hnanosExpiry⟩

end Claims

theorem ok_bind {ε α β : Type} (a : α) (f : α → Except ε β) : (.ok a >>= f) = f a := rfl

/-- A computation fails with no other errors than some. -/
def FailsOnly {ε α : Type} (p : ε → Prop) (x : Except ε α) : Prop := ∀ e, x = .error e → p e

namespace FailsOnly

variable {ε ε' α β : Type} {p q : ε → Prop}

theorem ok (a : α) : FailsOnly p (.ok a) := nofun

theorem error {e : ε} (h : p e) : FailsOnly p (.error e : Except ε α) := by
  intro _ he
  cases he
  exact h

protected theorem bind {x : Except ε α} {f : α → Except ε β} (hx : FailsOnly p x)
    (hf : ∀ a, FailsOnly p (f a)) : FailsOnly p (x >>= f) := by
  cases x with
  | error e => exact error (hx e rfl)
  | ok a => exact hf a

theorem mapError {q : ε' → Prop} (x : Except ε α) {f : ε → ε'} (h : ∀ e, q (f e)) :
    FailsOnly q (x.mapError f) := by
  cases x with
  | error e => exact error (h e)
  | ok a => exact ok a

theorem mono {x : Except ε α} (hx : FailsOnly p x) (h : ∀ e, p e → q e) : FailsOnly q x :=
  fun e he => h e (hx e he)

end FailsOnly

namespace TokenError

/-- The text is no token at all. -/
def IsMalformed (e : TokenError) : Prop := ∃ defect, e = .malformed defect

/-- The text is no token, or none that the codec has signed. -/
def IsForeign (e : TokenError) : Prop := e = .invalidSignature ∨ e.IsMalformed

end TokenError

namespace TokenCodec

theorem failsOnly_parse (raw : String) : FailsOnly TokenError.IsMalformed (parse raw) := by
  unfold parse
  refine .bind (.mapError _ fun defect => ⟨_, rfl⟩) fun token => ?_
  refine .bind (.mapError _ fun defect => ⟨_, rfl⟩) fun bytes => ?_
  refine .bind (.mapError _ fun failure => ⟨_, rfl⟩) fun claims => ?_
  split
  · exact .error ⟨_, rfl⟩
  · exact .ok claims

variable (codec : TokenCodec)

theorem failsOnly_checkSignature (token : RawToken) :
    FailsOnly TokenError.IsForeign (codec.checkSignature token) := by
  unfold checkSignature
  refine .bind (.mapError _ fun defect => .inr ⟨_, rfl⟩) fun header => ?_
  refine .bind (.mapError _ fun failure => .inr ⟨_, rfl⟩) fun algorithm => ?_
  split
  · exact .error (.inl rfl)
  refine .bind (.mapError _ fun defect => .inr ⟨_, rfl⟩) fun signature => ?_
  split
  · exact .error (.inl rfl)
  refine .bind (.mapError _ fun defect => .inr ⟨_, rfl⟩) fun payload => ?_
  exact .mapError _ fun failure => .inr ⟨_, rfl⟩

theorem failsOnly_verify (raw : String) : FailsOnly TokenError.IsForeign (codec.verify raw) := by
  unfold verify
  refine .bind ((failsOnly_parse raw).mono fun e h => .inr h) fun claims => ?_
  refine .bind (.mapError _ fun defect => .inr ⟨_, rfl⟩) fun token => ?_
  exact .bind (codec.failsOnly_checkSignature token) fun _ => .ok claims

/-- Verification gives no other claims than those that the payload states. -/
theorem parse_of_verify {raw : String} {claims : Claims} (h : codec.verify raw = .ok claims) :
    parse raw = .ok claims := by
  unfold verify at h
  simp only [bind_eq_ok_iff] at h
  obtain ⟨_, hparse, _, -, _, -, hsame⟩ := h
  cases hsame
  exact hparse

theorem verify_of_parse_error {raw : String} {error : TokenError} (h : parse raw = .error error) :
    codec.verify raw = .error error := by
  unfold verify
  rw [h]
  rfl

theorem validate_of_verify_error {raw : String} {error : TokenError}
    (h : codec.verify raw = .error error) (now : Instant) :
    codec.validate raw now = .error error := by
  unfold validate
  rw [h]
  rfl

theorem dated_of_parse {raw : String} {claims : Claims} (h : parse raw = .ok claims) :
    claims.Dated := by
  obtain ⟨_, _, -, -, -, htimes⟩ := parse_eq_ok_iff.1 h
  exact Claims.dated_of_badTime? htimes

theorem validate_eq_ok_iff {raw : String} {now : Instant} {claims : Claims} :
    codec.validate raw now = .ok claims ↔
      codec.verify raw = .ok claims ∧ now < claims.expiresAt := by
  cases hverify : codec.verify raw with
  | error error =>
    rw [codec.validate_of_verify_error hverify]
    exact ⟨nofun, fun h => nomatch h.1⟩
  | ok found =>
    rw [codec.validate_of_verify hverify]
    split
    · next hvalid =>
      constructor
      · rintro ⟨⟩
        exact ⟨rfl, hvalid⟩
      · rintro ⟨⟨⟩, -⟩
        rfl
    · next hexpired =>
      constructor
      · rintro ⟨⟩
      · rintro ⟨⟨⟩, hvalid⟩
        exact absurd hvalid hexpired

theorem validate_eq_expired_iff {raw : String} {now : Instant} :
    codec.validate raw now = .error .expired ↔
      ∃ claims, codec.verify raw = .ok claims ∧ claims.expiresAt ≤ now := by
  cases hverify : codec.verify raw with
  | error error =>
    rw [codec.validate_of_verify_error hverify]
    constructor
    · rintro ⟨⟩
      -- verification itself never says that a token has expired
      obtain h | ⟨_, h⟩ := codec.failsOnly_verify raw _ hverify <;> cases h
    · rintro ⟨_, ⟨⟩, -⟩
  | ok claims =>
    rw [codec.validate_of_verify hverify]
    split
    · next hvalid =>
      constructor
      · rintro ⟨⟩
      · rintro ⟨_, ⟨⟩, hexpired⟩
        exact absurd hvalid (Int.not_lt.2 hexpired)
    · next hexpired => exact ⟨fun _ => ⟨claims, rfl, Int.not_lt.1 hexpired⟩, fun _ => rfl⟩

/-- Reads the claims of a token from its end. The signature stands behind the last
dot, and the payload behind the last dot of the text that is signed. The header is
whatever comes before. Times are not looked at. -/
def decodeSigned (raw : String) : Except TokenError Claims :=
  match splitLast? '.' raw.toList with
  | none => .error (.malformed (.reported "InvalidToken"))
  | some (signed, signature) =>
    match splitLast? '.' signed with
    | none => .error (.malformed (.reported "InvalidToken"))
    | some (header, payload) => do
      let decode (part : List Char) : Except TokenError (List UInt8) :=
        (Base64.decode .urlSafe (.ofList part)).mapError fun defect => .malformed (.encoding defect)
      let algorithm ← (TokenHeader.ofBytes (← decode header)).mapError
        fun failure => .malformed (.document failure)
      if algorithm ≠ "HS256" then throw .invalidSignature
      if (← decode signature) ≠ codec.sign (.ofList signed) then throw .invalidSignature
      let bytes ← decode payload
      let claims ← (Claims.ofBytes bytes).mapError fun failure => .malformed (.document failure)
      (RegisteredClaims.check bytes).mapError fun failure => .malformed (.document failure)
      return claims

/-- A text of three parts is taken apart from its end as from its start. -/
theorem splitLast?_of_ofText {raw : String} {token : RawToken}
    (h : RawToken.ofText raw = .ok token) :
    splitLast? '.' raw.toList = some (token.signed.toList, token.signature.toList) ∧
      splitLast? '.' token.signed.toList = some (token.header.toList, token.payload.toList) := by
  obtain ⟨hraw, hpieces⟩ := RawToken.of_ofText_eq_ok h
  have hclean : ∀ part ∈ pieces '.' raw.toList, '.' ∉ part := fun _ => not_mem_of_mem_pieces
  rw [hpieces] at hclean
  have hpayload : '.' ∉ token.payload.toList := hclean _ (by simp)
  have hsignature : '.' ∉ token.signature.toList := hclean _ (by simp)
  have htext : raw.toList = token.signed.toList ++ '.' :: token.signature.toList := by
    rw [hraw]
    simp [RawToken.text]
  have hsigned : token.signed.toList = token.header.toList ++ '.' :: token.payload.toList := by
    simp [RawToken.signed]
  constructor
  · rw [htext, splitLast?_append_cons hsignature]
  · rw [hsigned, splitLast?_append_cons hpayload]

/-- Verification reads the claims twice, and gives what the second reading makes of
them. The two readings take the text apart from opposite ends, and only the first
one looks at the times. -/
theorem verify_eq_decodeSigned (raw : String) :
    codec.verify raw = (do let _ ← parse raw; codec.decodeSigned raw) := by
  cases hparse : parse raw with
  | error error =>
    rw [codec.verify_of_parse_error hparse]
    rfl
  | ok claims =>
    obtain ⟨token, bytes, htoken, hpayload, hstated, -⟩ := parse_eq_ok_iff.1 hparse
    obtain ⟨hlast, hmiddle⟩ := splitLast?_of_ofText htoken
    have hbytes := Base64.decode_eq_ok_iff.2 hpayload
    unfold verify decodeSigned checkSignature
    rw [hparse, htoken, hlast]
    dsimp only
    rw [hmiddle]
    simp only [String.ofList_toList, ok_bind, mapError_ok, hbytes, hstated, bind_assoc]
    refine bind_congr fun header => ?_
    refine bind_congr fun algorithm => ?_
    by_cases halgorithm : algorithm = "HS256"
    · simp only [ne_eq, halgorithm, not_true, if_false, bind_assoc]
      refine bind_congr fun signature => ?_
      by_cases hsignature : signature = codec.sign token.signed
      · simp only [hsignature, not_true, if_false]
      · simp only [hsignature, not_false_eq_true, if_true]
        rfl
    · simp only [ne_eq, halgorithm, not_false_eq_true, if_true]
      rfl

/-- Reading, verification and validation of a text agree. A text that is no token is
reported as just that by all three. Otherwise verification gives the claims that are
read, or finds a fault with the signature or the text, and never with the expiry: that
is for validation alone, and only where verification finds no fault. Whatever claims
are given, their times are instants of the calendar, and the expiry that validation
goes by is exactly the one stated. It holds of any text, whoever made it, under any
secret, and with verification as a second reading from the other end of the text. -/
theorem readings_agree (raw : String) (now : Instant) :
    (codec.verify raw = do let _ ← parse raw; codec.decodeSigned raw) ∧
    (∀ error, parse raw = .error error →
      error.IsMalformed ∧ codec.verify raw = .error error ∧
        codec.validate raw now = .error error) ∧
    (∀ claims, parse raw = .ok claims →
      codec.verify raw = .ok claims ∨ codec.verify raw = .error .invalidSignature ∨
        ∃ defect, codec.verify raw = .error (.malformed defect)) ∧
    (∀ error, codec.verify raw = .error error → codec.validate raw now = .error error) ∧
    (codec.validate raw now = .error .expired ↔ ∃ claims, codec.verify raw = .ok claims ∧
      claims.exp * 1_000_000_000 + claims.expNanos ≤ now.nanos) ∧
    (∀ claims, codec.validate raw now = .ok claims ↔ codec.verify raw = .ok claims ∧
      now.nanos < claims.exp * 1_000_000_000 + claims.expNanos) ∧
    ∀ claims, parse raw = .ok claims ∨ codec.verify raw = .ok claims ∨
      codec.validate raw now = .ok claims → claims.Dated := by
  have hdated : ∀ {claims}, codec.verify raw = .ok claims → claims.Dated :=
    fun h => dated_of_parse (codec.parse_of_verify h)
  refine ⟨codec.verify_eq_decodeSigned raw, ?_, ?_,
    fun error h => codec.validate_of_verify_error h now, ?_, ?_, ?_⟩
  · intro error hparse
    have hverify := codec.verify_of_parse_error hparse
    exact ⟨failsOnly_parse raw error hparse, hverify, codec.validate_of_verify_error hverify now⟩
  · intro claims hparse
    cases hverify : codec.verify raw with
    | ok verified =>
      rw [codec.parse_of_verify hverify] at hparse
      cases hparse
      exact .inl rfl
    | error error =>
      obtain rfl | ⟨defect, rfl⟩ := codec.failsOnly_verify raw error hverify
      · exact .inr (.inl rfl)
      · exact .inr (.inr ⟨defect, rfl⟩)
  · rw [validate_eq_expired_iff]
    constructor
    · rintro ⟨claims, hverify, hexpired⟩
      exact ⟨claims, hverify, (hdated hverify).nanos_expiresAt ▸ hexpired⟩
    · rintro ⟨claims, hverify, hexpired⟩
      rw [← (hdated hverify).nanos_expiresAt] at hexpired
      exact ⟨claims, hverify, hexpired⟩
  · intro claims
    rw [validate_eq_ok_iff]
    constructor
    · rintro ⟨hverify, hvalid⟩
      exact ⟨hverify, (hdated hverify).nanos_expiresAt ▸ hvalid⟩
    · rintro ⟨hverify, hvalid⟩
      rw [← (hdated hverify).nanos_expiresAt] at hvalid
      exact ⟨hverify, hvalid⟩
  · rintro claims (hparse | hverify | hvalidate)
    · exact dated_of_parse hparse
    · exact hdated hverify
    · exact hdated (codec.validate_eq_ok_iff.1 hvalidate).1

end TokenCodec

end AuthGate

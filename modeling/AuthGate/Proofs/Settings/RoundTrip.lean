import AuthGate.Proofs.Json.List
import AuthGate.Proofs.Json.Record
import AuthGate.Proofs.Time.Span
import AuthGate.Settings.App

namespace AuthGate

open Json

theorem Json.reads_readSpan (d : Duration) : Reads readSpan (Value.renderText d.render) d := by
  refine reads_readChecked ?_
  rw [spanOfText, d.parse_render]

/-- The name of a curve stands for that curve. -/
theorem Escalation.variantOfText_name (e : Escalation) : variantOfText variants e.name = .ok e := by
  cases e <;> rfl

/-- What is written of each part of the settings fills that part when it is read. -/
theorem TokenSettings.reads_toJson (s : TokenSettings) :
    Reads (readRecord (shape textFormat)) s.toJson.renderChars s := by
  have hfills : Fills (shape textFormat) [] (shape textFormat).initial
      [("secret", .text s.secret), ("ttl", .text s.ttl.render)] s :=
    .field rfl rfl ((reads_readText s.secret).set _) <|
    .field rfl rfl ((reads_readSpan s.ttl).set _) <|
    .done rfl
  exact hfills.reads

theorem SweepSettings.reads_toJson (s : SweepSettings) :
    Reads (readRecord (shape textFormat)) s.toJson.renderChars s := by
  have hfills : Fills (shape textFormat) [] (shape textFormat).initial
      [("sweep_interval", .text s.interval.render)] s :=
    .field rfl rfl ((reads_readSpan s.interval).set _) (.done rfl)
  exact hfills.reads

theorem LockoutPolicy.reads_toJson (p : LockoutPolicy) :
    Reads (readRecord (shape textFormat)) p.toJson.renderChars p := by
  have hthreshold := reads_readNatural .bits32 (by decide) p.maxFailedAttempts.toNat_lt
  have hescalation := reads_readChoice p.escalation.variantOfText_name
  have hfills : Fills (shape textFormat) [] (shape textFormat).initial
      [("max_failed_attempts", .natural p.maxFailedAttempts.toNat),
        ("lockout_duration", .text p.lockoutDuration.render),
        ("escalation", .text p.escalation.name),
        ("max_lockout_duration", .text p.maxLockoutDuration.render),
        ("idle_record_ttl", .text p.idleRecordTtl.render)]
      { p with maxFailedAttempts := .ofNat p.maxFailedAttempts.toNat } :=
    .field rfl rfl (hthreshold.set _) <|
    .field rfl rfl ((reads_readSpan p.lockoutDuration).set _) <|
    .field rfl rfl (hescalation.set _) <|
    .field rfl rfl ((reads_readSpan p.maxLockoutDuration).set _) <|
    .field rfl rfl ((reads_readSpan p.idleRecordTtl).set _) <|
    .done rfl
  rw [UInt32.ofNat_toNat] at hfills
  exact hfills.reads

theorem AuthSettings.reads_toJson (s : AuthSettings) :
    Reads (readRecord (shape textFormat)) s.toJson.renderChars s := by
  have hfills : Fills (shape textFormat) [] (shape textFormat).initial
      [("token", s.token.toJson), ("lockout", s.lockout.toJson), ("revocation", s.sweep.toJson)]
      s :=
    .field rfl rfl (s.token.reads_toJson.set _) <|
    .field rfl rfl (s.lockout.reads_toJson.set _) <|
    .field rfl rfl (s.sweep.reads_toJson.set _) <|
    .done rfl
  exact hfills.reads

theorem ServerSettings.reads_toJson (s : ServerSettings) :
    Reads (readRecord (shape textFormat)) s.toJson.renderChars s := by
  have hport := reads_readNatural .bits16 (by decide) s.port.toNat_lt
  have htimeout := reads_readNatural .bits64 (by decide) s.requestTimeoutMs.toNat_lt
  have hlimit := reads_readNatural .size (by decide) s.bodyLimitBytes.toNat_lt
  have hconcurrent := reads_readNatural .size (by decide) s.maxConcurrentRequests.toNat_lt
  have hfills : Fills (shape textFormat) [] (shape textFormat).initial
      [("host", .text s.host), ("port", .natural s.port.toNat),
        ("request_timeout_ms", .natural s.requestTimeoutMs.toNat),
        ("body_limit_bytes", .natural s.bodyLimitBytes.toNat),
        ("max_concurrent_requests", .natural s.maxConcurrentRequests.toNat)]
      ⟨s.host, .ofNat s.port.toNat, .ofNat s.requestTimeoutMs.toNat,
        .ofNat s.bodyLimitBytes.toNat, .ofNat s.maxConcurrentRequests.toNat⟩ :=
    .field rfl rfl ((reads_readText s.host).set _) <|
    .field rfl rfl (hport.set _) <|
    .field rfl rfl (htimeout.set _) <|
    .field rfl rfl (hlimit.set _) <|
    .field rfl rfl (hconcurrent.set _) <|
    .done rfl
  simp only [UInt16.ofNat_toNat, UInt64.ofNat_toNat] at hfills
  exact hfills.reads

theorem UserEntry.reads_toJson (u : UserEntry) :
    Reads (readRecord (shape textFormat)) u.toJson.renderChars u := by
  have hfills : Fills (shape textFormat) [] (shape textFormat).initial
      [("username", .text u.username), ("password", .text u.password)] u :=
    .field rfl rfl ((reads_readText u.username).set _) <|
    .field rfl rfl ((reads_readText u.password).set _) <|
    .done rfl
  exact hfills.reads

namespace AppSettings

theorem reads_logging (level : String) :
    Reads (readRecord (loggingShape textFormat))
      (Value.object [("level", .text level)]).renderChars level := by
  have hfills : Fills (loggingShape textFormat) [] (loggingShape textFormat).initial
      [("level", .text level)] level :=
    .field rfl rfl (reads_readText level) (.done rfl)
  exact hfills.reads

theorem reads_users (users : List UserEntry) :
    Reads (readList (readRecord (UserEntry.shape textFormat)))
      (Value.list (users.map (·.toJson))).renderChars users :=
  reads_readList fun u _ => readsItem_object u.reads_toJson

theorem reads_toJson (s : AppSettings) :
    Reads (readRecord (shape textFormat)) s.toJson.renderChars s := by
  have hfills : Fills (shape textFormat) [] (shape textFormat).initial
      [("server", s.server.toJson), ("logging", .object [("level", .text s.logLevel)]),
        ("auth", s.auth.toJson), ("users", .list (s.users.map (·.toJson)))] s :=
    .field rfl rfl (s.server.reads_toJson.set _) <|
    .field rfl rfl ((reads_logging s.logLevel).set _) <|
    .field rfl rfl (s.auth.reads_toJson.set _) <|
    .field rfl rfl ((reads_users s.users).set _) <|
    .done rfl
  exact hfills.reads

/-- Settings are read back from the document that they are written as, those of the server
and those of the authentication subsystem alone. No setting is changed by its text: no
name, secret or password, no number and no span. -/
theorem read_render :
    (∀ s : AppSettings,
      (readRecord (shape textFormat)).whole (.ofSymbols (symbols (utf8 s.toJson.render))) =
        .ok s) ∧
    ∀ s : AuthSettings,
      (readRecord (AuthSettings.shape textFormat)).whole
        (.ofSymbols (symbols (utf8 s.toJson.render))) = .ok s :=
  ⟨fun s => s.reads_toJson.whole, fun s => s.reads_toJson.whole⟩

end AppSettings

end AuthGate

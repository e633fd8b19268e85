import AuthGate.Http.App
import AuthGate.Proofs.Json.Record
import AuthGate.Proofs.Time.Timestamp

namespace AuthGate

open Json

namespace Identity

/-- The text of an expiry is read as that expiry. -/
theorem reads_readTimestamp {t : Timestamp} (hyear : 0 ≤ t.wall.date.year)
    (hoffset : t.offsetMinutes.natAbs < 1440) :
    Reads readTimestamp (Value.renderText (String.ofList t.chars)) t := by
  refine reads_readChecked ?_
  rw [Timestamp.parse_render hyear hoffset]
  rfl

/-- An identity whose expiry can be written is read back from its document, at any offset of
less than a day. -/
theorem ofText_toJson {i : Identity} (hyear : 0 ≤ i.expiresAt.wall.date.year)
    (hoffset : i.expiresAt.offsetMinutes.natAbs < 1440) :
    ∃ document, i.toJson? = some document ∧ ofText document.render = .ok i := by
  have hfills : Fills shape [] shape.initial
      [("subject", .text i.subject), ("jti", .text i.jti),
        ("expires_at", .text (String.ofList i.expiresAt.chars))] i :=
    .field rfl rfl ((reads_readText i.subject).set _) <|
    .field rfl rfl ((reads_readText i.jti).set _) <|
    .field rfl rfl ((reads_readTimestamp hyear hoffset).set _) <|
    .done rfl
  have hwhole := hfills.reads.whole
  rw [symbols_utf8] at hwhole
  refine ⟨_, ?_, hwhole⟩
  rw [toJson?, Timestamp.render?_of_le hyear]
  rfl

/-- No identity with an expiry before year zero has a document. -/
theorem toJson?_eq_none {i : Identity} (hyear : i.expiresAt.wall.date.year < 0) :
    i.toJson? = none := by
  rw [toJson?, Timestamp.render?_of_lt hyear]
  rfl

/-- The document about a session tells whom its token was issued to, by which identifier and
until when. For every expiry that is not before year zero there is such a document, it is what
the server answers, and reading it gives the same identity: the same subject and identifier,
whatever characters they have, and the same expiry to the nanosecond. For an expiry before year
zero there is none, and the server answers with an error. No expiry is after year 9999.

The times of the claims need not be in the calendar range, since an expiry outside it is taken
to be the epoch. -/
theorem session_document (c : Claims) :
    (ofClaims c).expiresAt.wall.date.year ≤ 9999 ∧
    (0 ≤ (ofClaims c).expiresAt.wall.date.year ↔
      -62_167_219_200 * 1_000_000_000 ≤ c.expiresAt.nanos) ∧
    (0 ≤ (ofClaims c).expiresAt.wall.date.year →
      ∃ document, (ofClaims c).toJson? = some document ∧
        ofText document.render = .ok (ofClaims c) ∧
        App.sessionResponse (some (ofClaims c)) = .json 200 document) ∧
    ((ofClaims c).expiresAt.wall.date.year < 0 →
      (ofClaims c).toJson? = none ∧
        App.sessionResponse (some (ofClaims c)) = .plain 500 unwritable) := by
  have hutc : (ofClaims c).expiresAt.offsetMinutes.natAbs < 1440 :=
    (by decide : (0 : Int).natAbs < 1440)
  refine ⟨Instant.year_date_le _, Instant.le_year_date_iff _ 0, fun hyear => ?_, fun hyear => ?_⟩
  · obtain ⟨document, hdocument, hread⟩ := ofText_toJson hyear hutc
    refine ⟨document, hdocument, hread, ?_⟩
    unfold App.sessionResponse
    simp only [hdocument]
  · have hnone := toJson?_eq_none hyear
    refine ⟨hnone, ?_⟩
    unfold App.sessionResponse
    simp only [hnone]

end Identity

end AuthGate

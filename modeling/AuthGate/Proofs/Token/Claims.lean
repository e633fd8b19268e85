import AuthGate.Proofs.Token.Header
import AuthGate.Token.Claims

namespace AuthGate

open Json Json.Reader

/-- The numbers of the claims fit in the words that they are read as. -/
structure Claims.Fits (c : Claims) : Prop where
  iat : -0x8000_0000_0000_0000 ≤ c.iat ∧ c.iat < 0x8000_0000_0000_0000
  exp : -0x8000_0000_0000_0000 ≤ c.exp ∧ c.exp < 0x8000_0000_0000_0000
  iatNanos : c.iatNanos < 0x1_0000_0000
  expNanos : c.expNanos < 0x1_0000_0000

/-- A field that is left out when it is zero is read as zero then. -/
theorem Json.Fills.optional {α : Type} {shape : Shape Reader Unit α} {seen : List String}
    {a b c : α} {key : String} {n : Nat} {members : List (String × Value)}
    {f : Field Reader Unit α} (hfield : shape.fields.find? (·.name = key) = some f)
    (hfresh : seen.contains key = false) (hzero : n = 0 → b = a)
    (hread : Reads (f.read () a) (Value.natural n).renderChars b)
    (habsent : Fills shape seen b members c) (hpresent : Fills shape (key :: seen) b members c) :
    Fills shape seen a ((if n = 0 then [] else [(key, .natural n)]) ++ members) c := by
  split
  · next h =>
    rw [hzero h] at habsent
    exact habsent
  · exact .field hfield hfresh hread hpresent

/-- A stranger that is left out when it is zero is passed over. -/
theorem Json.Fills.optional_stranger {α : Type} {shape : Shape Reader Unit α} {seen : List String}
    {a b : α} {key : String} {n : Nat} {members : List (String × Value)}
    (hfield : shape.fields.find? (·.name = key) = none) (hrest : Fills shape seen a members b) :
    Fills shape seen a ((if n = 0 then [] else [(key, .natural n)]) ++ members) b := by
  split
  · exact hrest
  · rw [← integer_natCast]
    exact .stranger hfield (reads_skipValue_integer n) hrest

namespace Claims

/-- The members of the document that claims are written as. -/
def members (c : Claims) : List (String × Value) :=
  ("sub", .text c.sub) :: ("iat", .integer c.iat) :: ("exp", .integer c.exp) ::
    ((if c.iatNanos = 0 then [] else [("iat_nanos", .natural c.iatNanos)]) ++
      ((if c.expNanos = 0 then [] else [("exp_nanos", .natural c.expNanos)]) ++
        [("jti", .text c.jti)]))

theorem toJson_eq (c : Claims) : c.toJson = .object c.members := by
  simp [toJson, members]

/-- The members that claims are written as are read back as the claims. -/
theorem fills_shape {c : Claims} (h : c.Fits) :
    Fills shape [] shape.initial c.members c := by
  obtain ⟨sub, iat, exp, iatNanos, expNanos, jti⟩ := c
  have hiat := reads_readInteger64 h.iat.1 h.iat.2
  have hexp := reads_readInteger64 h.exp.1 h.exp.2
  have hiatNanos := reads_readNatural .bits32 (by decide) h.iatNanos
  have hexpNanos := reads_readNatural .bits32 (by decide) h.expNanos
  unfold members
  refine .field rfl rfl ((reads_readText sub).set _) ?_
  refine .field rfl rfl (hiat.set _) ?_
  refine .field rfl rfl (hexp.set _) ?_
  refine .optional rfl rfl ?_ (hiatNanos.set _) ?_ ?_
  · rintro rfl
    rfl
  all_goals refine .optional rfl rfl ?_ (hexpNanos.set _) ?_ ?_
  all_goals first
    | exact .field rfl rfl ((reads_readText jti).set _) (.done rfl)
    | rintro rfl; rfl

/-- Claims are read back from the document that they are written as. -/
theorem ofBytes_render {c : Claims} (h : c.Fits) : ofBytes (utf8 c.toJson.render) = .ok c := by
  rw [toJson_eq]
  exact (fills_shape h).reads.whole

end Claims

namespace RegisteredClaims

/-- The claims with a registered meaning are in order in what is issued. -/
theorem check_render {c : Claims} (h : c.Fits) : check (utf8 c.toJson.render) = .ok () := by
  have hexp : IsExact c.exp := ⟨h.exp.1, Int.le_of_lt (Int.lt_of_lt_of_le h.exp.2 (by decide))⟩
  have hfills : Fills shape [] shape.initial c.members () := by
    unfold Claims.members
    refine .field rfl rfl (reads_passText c.sub) ?_
    refine .stranger rfl (reads_skipValue_integer c.iat) ?_
    refine .field rfl rfl (reads_passNumericDate hexp) ?_
    refine .optional_stranger rfl (.optional_stranger rfl ?_)
    exact .stranger rfl (reads_skipValue_text c.jti) (.done rfl)
  rw [Claims.toJson_eq]
  exact hfills.reads.whole

end RegisteredClaims

end AuthGate

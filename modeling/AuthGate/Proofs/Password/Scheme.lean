import AuthGate.Password.Scheme
import AuthGate.Proofs.Text.Base64

namespace AuthGate

namespace PasswordScheme

/-- A scheme tells a password from one that it keeps under a salt: it can read what it
keeps, and accepts the password exactly if it is the one that was kept. -/
structure TellsApart (scheme : PasswordScheme) (salt : List UInt8) (kept password : String) :
    Prop where
  readable : ∃ accepted, scheme.verify password (scheme.keep salt kept) = .ok accepted
  accepts_iff : scheme.verify password (scheme.keep salt kept) = .ok true ↔ password = kept

theorem TellsApart.verify_eq {scheme : PasswordScheme} {salt : List UInt8} {kept password : String}
    (h : scheme.TellsApart salt kept password) :
    scheme.verify password (scheme.keep salt kept) = .ok (decide (password = kept)) := by
  obtain ⟨accepted, haccepted⟩ := h.readable
  have hiff := h.accepts_iff
  rw [haccepted] at hiff ⊢
  cases accepted with
  | true => rw [decide_eq_true (hiff.1 rfl)]
  | false => rw [decide_eq_false fun h => nomatch hiff.2 h]

end PasswordScheme

namespace Blake2b

theorem length_toLittleEndian (count n : Nat) : (toLittleEndian count n).length = count := by
  induction count generalizing n with
  | zero => rfl
  | succ count ih => rw [toLittleEndian, List.length_cons, ih]

/-- The chain keeps its eight words. -/
theorem length_compress {chain : List UInt64} (hchain : chain.length = 8) (block : List UInt64)
    (count : Nat) (last : Bool) : (compress chain block count last).length = 8 := by
  simp [compress, Words16.toList, hchain]

theorem length_absorb {chain : List UInt64} (hchain : chain.length = 8) (fuel : Nat)
    (message : List UInt8) (count : Nat) : (absorb fuel message count chain).length = 8 := by
  induction fuel generalizing message count chain with
  | zero => exact hchain
  | succ fuel ih =>
    rw [absorb]
    split
    · exact length_compress hchain ..
    · exact ih (length_compress hchain ..) ..

/-- A digest has the length that it is asked for. -/
theorem length_hash {length : Nat} (hlength : length ≤ 64) (message : List UInt8) :
    (hash length message).length = length := by
  have hwords : ∀ ws : List UInt64,
      (ws.flatMap fun w => toLittleEndian 8 w.toNat).length = ws.length * 8 := by
    intro ws
    induction ws with
    | nil => rfl
    | cons w ws ih =>
      rw [List.flatMap_cons, List.length_append, ih, length_toLittleEndian, List.length_cons]
      omega
  rw [hash, List.length_take, hwords, length_absorb rfl]
  omega

end Blake2b

namespace EncodedPassword

open Base64

/-- Bytes in base 64 may stand in a value. -/
theorem of_mem_encodeChars {bytes : List UInt8} {c : Char}
    (h : c ∈ encodeChars .standard bytes) : isValueChar c = true ∧ c.utf8Size = 1 := by
  have hsextet : ∀ n < 64, isValueChar (Alphabet.standard.encode n) = true ∧
      (Alphabet.standard.encode n).utf8Size = 1 := by decide
  rw [encodeChars_eq_map] at h
  obtain ⟨n, hn, rfl⟩ := List.mem_map.1 h
  exact hsextet n (lt_of_mem_sextets hn)

theorem not_mem_encodeChars {separator : Char} (h : isValueChar separator = false)
    (bytes : List UInt8) : separator ∉ encodeChars .standard bytes := by
  intro hmem
  rw [(of_mem_encodeChars hmem).1] at h
  cases h

theorem byteCount_of_forall {cs : List Char} (h : ∀ c ∈ cs, c.utf8Size = 1) :
    byteCount cs = cs.length := by
  unfold byteCount
  induction cs with
  | nil => simp
  | cons c cs ih =>
    rw [List.forall_mem_cons] at h
    rw [String.ofList_cons, String.utf8ByteSize_append, String.utf8ByteSize_singleton, h.1,
      ih h.2, List.length_cons, Nat.add_comm]

theorem byteCount_encodeChars (bytes : List UInt8) :
    byteCount (encodeChars .standard bytes) = (bytes.length * 8 + 5) / 6 := by
  rw [byteCount_of_forall fun c hc => (of_mem_encodeChars hc).2, length_encodeChars]

/-- A salt of 3 to 48 bytes is read in base 64. -/
theorem readSalt_encodeChars {salt : List UInt8} (hlow : 3 ≤ salt.length)
    (hhigh : salt.length ≤ 48) :
    readSalt (encodeChars .standard salt) = .ok (encode .standard salt) := by
  have hnone : (encodeChars .standard salt).find? (!isValueChar ·) = none := by
    rw [List.find?_eq_none]
    intro c hc
    simp [(of_mem_encodeChars hc).1]
  rw [readSalt, if_neg (by rw [byteCount_encodeChars]; omega), readValue,
    if_neg (by rw [byteCount_encodeChars]; omega), hnone]
  rfl

/-- A hash of 10 to 64 bytes is read in base 64. -/
theorem readHash_encodeChars {hash : List UInt8} (hlow : 10 ≤ hash.length)
    (hhigh : hash.length ≤ 64) : readHash (encodeChars .standard hash) = .ok hash := by
  have hlength : ¬ maxPasswordHash < decodedLength (byteCount (encodeChars .standard hash)) := by
    rw [byteCount_encodeChars]
    unfold maxPasswordHash decodedLength
    omega
  have hdecode : decode .standard (.ofList (encodeChars .standard hash)) = .ok hash :=
    decode_encode .standard hash
  rw [readHash, if_neg hlength, hdecode]
  dsimp only
  exact if_neg (Nat.not_lt.2 hlow)

end EncodedPassword

namespace Argon2

/-- What Argon2 makes of a password under a salt, at the cost of stored passwords. -/
def resultOf (salt : List UInt8) (password : String) : List UInt8 :=
  Input.result ⟨.hybrid, .v19, passwordCost, utf8 password, salt, []⟩

theorem length_resultOf (salt : List UInt8) (password : String) :
    (resultOf salt password).length = 32 := by
  have hlength : passwordCost.length ≤ 64 := by decide
  unfold resultOf Input.result longHash
  dsimp only
  rw [if_pos hlength]
  exact Blake2b.length_hash hlength _

/-- A password that is encoded with a salt and a hash. -/
def encodedWith (salt hash : List UInt8) : EncodedPassword where
  algorithm := "argon2id"
  version := some 19
  parameters := [("m", "19456"), ("t", "2"), ("p", "1")]
  salt := some (Base64.encode .standard salt)
  hash := some hash

theorem encodePassword_eq (salt : List UInt8) (password : String) :
    encodePassword salt password = encodedWith salt (resultOf salt password) := by
  unfold encodePassword encodedWith resultOf
  congr 1

theorem fields_encodedWith (salt hash : List UInt8) :
    (encodedWith salt hash).fields = ["argon2id", "v=19", "m=19456,t=2,p=1",
      Base64.encode .standard salt, Base64.encode .standard hash] := by
  rfl

theorem toList_text_encodedWith (salt hash : List UInt8) :
    (encodedWith salt hash).text.toList =
      '$' :: ("argon2id".toList ++ '$' :: ("v=19".toList ++ '$' :: ("m=19456,t=2,p=1".toList ++
        '$' :: (Base64.encodeChars .standard salt ++
          '$' :: Base64.encodeChars .standard hash)))) := by
  rw [EncodedPassword.text, fields_encodedWith]
  simp [String.join, Base64.encode]

open EncodedPassword in
/-- What is kept of a password is read back. -/
theorem ofText_encodedWith {salt hash : List UInt8} (hsalt : 3 ≤ salt.length ∧ salt.length ≤ 48)
    (hhash : 10 ≤ hash.length ∧ hash.length ≤ 64) :
    ofText (encodedWith salt hash).text = .ok (encodedWith salt hash) := by
  have hdollar : isValueChar '$' = false := by decide
  have hname : readName "argon2id".toList = .ok "argon2id" := rfl
  have hversion : ∀ fields, takeVersion ("v=19".toList :: fields) = .ok (some 19, fields) := by
    intro fields
    rfl
  have hparameters : readParameters "m=19456,t=2,p=1".toList =
      .ok [("m", "19456"), ("t", "2"), ("p", "1")] := rfl
  have htake : ∀ fields, takeParameters ("m=19456,t=2,p=1".toList :: fields) =
      .ok ([("m", "19456"), ("t", "2"), ("p", "1")], fields) := by
    intro fields
    rw [takeParameters, hparameters]
    rfl
  have hpieces : pieces '$' (encodedWith salt hash).text.toList =
      [[], "argon2id".toList, "v=19".toList, "m=19456,t=2,p=1".toList,
        Base64.encodeChars .standard salt, Base64.encodeChars .standard hash] := by
    rw [toList_text_encodedWith, pieces, if_pos rfl, pieces_append_cons (by decide),
      pieces_append_cons (by decide), pieces_append_cons (by decide),
      pieces_append_cons (not_mem_encodeChars hdollar salt),
      pieces_of_not_mem (not_mem_encodeChars hdollar hash)]
  unfold ofText
  rw [hpieces]
  simp only [hname, hversion, htake, readSalt_encodeChars hsalt.1 hsalt.2,
    readHash_encodeChars hhash.1 hhash.2, bind, Except.bind]
  rfl

/-- What is kept of a password asks for the computation that it is the result of. -/
theorem inputOf?_encodedWith {salt hash : List UInt8} (hsalt : minSalt ≤ salt.length)
    (hhash : hash.length = 32) (password : String) :
    inputOf? (encodedWith salt hash) password =
      some (⟨.hybrid, .v19, passwordCost, utf8 password, salt, []⟩, hash) := by
  have hparameters : (encodedWith salt hash).parameters.foldlM setParameter
      ({ passwordCost with length := hash.length }, []) = some (passwordCost, []) := by
    rw [hhash]
    rfl
  have hvariant : Variant.ofName? (encodedWith salt hash).algorithm = some .hybrid := rfl
  have hversion : Version.ofCode? ((encodedWith salt hash).version.getD Version.v19.code) =
      some .v19 := rfl
  have hread : (Base64.decode .standard (Base64.encode .standard salt)).toOption = some salt := by
    rw [Base64.decode_encode]
    rfl
  have hvalid : passwordCost.isValid = true ∧ minSalt ≤ salt.length := ⟨by decide, hsalt⟩
  have hfields : (encodedWith salt hash).salt = some (Base64.encode .standard salt) ∧
      (encodedWith salt hash).hash = some hash := ⟨rfl, rfl⟩
  simp only [inputOf?, hfields, Option.bind_eq_bind, Option.bind_some, hparameters, hvariant,
    hversion, hread, if_pos hvalid]
  rfl

/-- The salts that a password can be kept under. -/
def IsSalt (salt : List UInt8) : Prop := minSalt ≤ salt.length ∧ salt.length ≤ 48

/-- A password is read from what is kept of it, and another one is accepted exactly if
Argon2 makes the same of both. -/
theorem verify_keep {salt : List UInt8} (hsalt : IsSalt salt) (kept password : String) :
    scheme.verify password (scheme.keep salt kept) =
      .ok (decide (resultOf salt password = resultOf salt kept)) := by
  have hlength := length_resultOf salt kept
  have hlow : 3 ≤ salt.length := Nat.le_trans (by decide) hsalt.1
  have hread : EncodedPassword.ofText (encodedWith salt (resultOf salt kept)).text = .ok _ :=
    ofText_encodedWith ⟨hlow, hsalt.2⟩ (by omega)
  change (do return accepts (← EncodedPassword.ofText (encodePassword salt kept).text) password) = _
  rw [encodePassword_eq, hread]
  change Except.ok (accepts (encodedWith salt (resultOf salt kept)) password) = _
  rw [accepts, inputOf?_encodedWith hsalt.1 hlength]
  rfl

/-- What Argon2 keeps can always be read. All that is left to ask of it is that it accepts
no other password. -/
theorem tellsApart_iff {salt : List UInt8} (hsalt : IsSalt salt) (kept password : String) :
    scheme.TellsApart salt kept password ↔
      (scheme.verify password (scheme.keep salt kept) = .ok true ↔ password = kept) :=
  ⟨fun h => h.accepts_iff, fun h => ⟨⟨_, verify_keep hsalt kept password⟩, h⟩⟩

end Argon2

end AuthGate

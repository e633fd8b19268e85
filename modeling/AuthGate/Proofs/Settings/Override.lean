import AuthGate.Proofs.Settings.Edit
import Mathlib.Data.String.Basic

namespace AuthGate

theorem utf8Len_le {cs : List Char} {k : Nat} (h : ∀ c ∈ cs, c.utf8Size ≤ k) :
    String.utf8Len cs ≤ k * cs.length := by
  induction cs with
  | nil => exact Nat.zero_le _
  | cons c cs ih =>
    have hc := h c List.mem_cons_self
    have hcs := ih fun c hc => h c (List.mem_cons_of_mem _ hc)
    rw [String.utf8Len_cons, List.length_cons, Nat.mul_succ]
    omega

theorem utf8ByteSize_repr_le {m k : Nat} (hk : 0 < k) (h : m < 10 ^ k) :
    m.repr.utf8ByteSize ≤ k := by
  have hdigits : ∀ c ∈ Nat.toDigits 10 m, c.utf8Size ≤ 1 := by
    intro c hc
    have hdigit := Decimal.isDigit_of_mem_digits hc
    simp only [Char.isDigit, Bool.and_eq_true, decide_eq_true_eq] at hdigit
    have hascii : c.val ≤ 127 :=
      UInt32.le_trans hdigit.2 (by decide)
    exact (Char.utf8Size_eq_one_iff.2 hascii).le
  rw [Nat.repr_eq_ofList_toDigits, String.utf8ByteSize_ofList]
  have hlength := (Nat.length_toDigits_le_iff (by decide) hk).2 h
  have hsize := utf8Len_le hdigits
  omega

/-- An integer of 64 bits with a sign is written in at most twenty bytes. -/
theorem Decimal.utf8ByteSize_signed_le {n m : Int} (h : inWord? n = some m) :
    (signed m).utf8ByteSize ≤ 20 := by
  obtain ⟨⟨hlow, hhigh⟩, hm⟩ := Option.ite_none_right_eq_some.1 h
  cases hm
  have hrepr := utf8ByteSize_repr_le (m := n.natAbs) (k := 19) (by decide) (by omega)
  have hsign : "-".utf8ByteSize = 1 := rfl
  rw [signed, Int.toString_eq_repr, Int.repr_eq_if]
  split
  · rw [show n.toNat = n.natAbs by omega]
    omega
  · rw [String.utf8ByteSize_append, show (-n).toNat = n.natAbs by omega]
    omega

theorem Scientific.positional_ne_nil (s : Scientific) : s.positional ≠ [] := by
  unfold positional
  obtain ⟨ds, power⟩ := s.leading
  simp only
  split
  · exact List.cons_ne_nil _ _
  · intro h
    simp only [List.append_eq_nil_iff, List.replicate_eq_nil_iff] at h
    have hlength := congrArg List.length h.1.1
    rw [List.length_nil] at hlength
    omega

theorem FloatText.positional_ne_empty (x : Float) : positional x ≠ "" := by
  unfold positional
  cases Magnitude.ofFloat x with
  | zero => simp
  | finite m e => simp [(Magnitude.shortest m e).positional_ne_nil]
  | infinite => simp
  | notANumber => simp

/-- The path of the secret that tokens are signed with. -/
def AppSettings.secretPath : String := "auth.token.secret"

namespace Environment

/-- The variable that sets the secret. -/
def secretVariable : String := "WARDEN__AUTH__TOKEN__SECRET"

/-- The text that a long value of a variable is to a setting that is a text: what
it writes, if that is a number. -/
def textOf (value : String) : String :=
  match integer? value.toList with
  | some n => Decimal.signed n
  | none => match FloatText.read? value.toList with
    | some x => FloatText.positional x
    | none => value

/-- Six symbols are 24 bytes at most, so that a longer text is no truth value. -/
theorem lowerAscii_ne_of_long {value word : String} (hlong : 24 < value.utf8ByteSize)
    (hword : word.toList.length ≤ 6) : lowerAscii value ≠ word := by
  rintro rfl
  have hsize := utf8Len_le fun c (_ : c ∈ value.toList) => c.utf8Size_le_four
  rw [lowerAscii, String.toList_ofList, List.length_map] at hword
  rw [String.utf8Len_toList] at hsize
  omega

theorem toText_scalarOf {value : String} (hlong : 24 < value.utf8ByteSize)
    (origin : Option String) :
    (Setting.scalar origin (scalarOf value)).toText = .ok (textOf value) := by
  unfold scalarOf textOf
  rw [if_neg (lowerAscii_ne_of_long hlong (by decide)),
    if_neg (lowerAscii_ne_of_long hlong (by decide))]
  cases integer? value.toList with
  | some n => rfl
  | none =>
    cases FloatText.read? value.toList with
    | some x => rfl
    | none => rfl

theorem utf8ByteSize_textOf_le {value : String} {n : Int} (h : integer? value.toList = some n) :
    (textOf value).utf8ByteSize ≤ 20 := by
  obtain ⟨m, -, hword⟩ := Option.bind_eq_some_iff.1 h
  unfold textOf
  rw [h]
  exact Decimal.utf8ByteSize_signed_le hword

/-- What is long and read as an integer is not how the integer is written. -/
theorem textOf_eq_self_iff {value : String} (hlong : 24 < value.utf8ByteSize) :
    textOf value = value ↔ integer? value.toList = none ∧
      ∀ x, FloatText.read? value.toList = some x → FloatText.positional x = value := by
  cases hinteger : integer? value.toList with
  | some n =>
    have hshort := utf8ByteSize_textOf_le hinteger
    refine ⟨fun h => ?_, fun h => nomatch h.1⟩
    rw [h] at hshort
    omega
  | none =>
    unfold textOf
    rw [hinteger]
    cases FloatText.read? value.toList with
    | none => simp
    | some x => simp

theorem textOf_ne_empty {value : String} (hlong : 24 < value.utf8ByteSize) :
    textOf value ≠ "" := by
  unfold textOf
  split
  · next n _ =>
    rw [Decimal.signed, Int.toString_eq_repr, Int.repr_eq_if]
    split
    · exact Nat.repr_ne_empty
    · simp
  · split
    · exact FloatText.positional_ne_empty _
    · rintro rfl
      exact absurd hlong (by decide)

/-- Variables that are no settings say nothing. -/
theorem settings_filter (environment : Environment) :
    settings (environment.filter fun entry => (path? entry.1).isSome) =
      settings environment := by
  unfold settings
  rw [List.filterMap_filter]
  refine congrArg (fun f => List.filterMap f environment) (funext fun entry => ?_)
  cases h : path? entry.1 with
  | none => simp [h]
  | some path => simp

theorem settings_of_only_secret {environment : Environment} {value : String}
    (honly : environment.filter (fun entry => (path? entry.1).isSome) =
      [(secretVariable, value)]) :
    settings environment =
      [(AppSettings.secretPath, .scalar (some sourceName) (scalarOf value))] := by
  have hpath : path? secretVariable = some AppSettings.secretPath := by decide +kernel
  rw [← settings_filter, honly]
  simp [settings, hpath]

end Environment

theorem AuthSettings.defect?_withSecret {s : AuthSettings} (hvalid : s.defect? = none)
    {secret : String} (hsecret : secret ≠ "") :
    { s with token.secret := secret }.defect? =
      if TokenSettings.minSecretBytes ≤ secret.utf8ByteSize then none else some .secretShort := by
  unfold defect? at hvalid ⊢
  simp only [if_neg hsecret]
  split at hvalid
  · cases hvalid
  · split at hvalid
    · cases hvalid
    · by_cases hlong : TokenSettings.minSecretBytes ≤ secret.utf8ByteSize
      · rw [if_neg (Nat.not_lt.2 hlong), if_pos hlong]
        exact hvalid
      · rw [if_pos (Nat.not_le.1 hlong), if_neg hlong]

namespace AppSettings

/-- Settings with another secret. -/
def withSecret (s : AppSettings) (secret : String) : AppSettings :=
  { s with auth.token.secret := secret }

/-- Valid settings stay so with another secret, unless that is short. -/
theorem defect?_withSecret {s : AppSettings} (hvalid : s.defect? = none) {secret : String}
    (hsecret : secret ≠ "") :
    (s.withSecret secret).defect? =
      if TokenSettings.minSecretBytes ≤ secret.utf8ByteSize then none
      else some (.auth .secretShort) := by
  unfold defect? at hvalid ⊢
  cases hauth : s.auth.defect? with
  | some defect =>
    rw [hauth] at hvalid
    split_ifs at hvalid
  | none =>
    rw [hauth] at hvalid
    simp only [withSecret, AuthSettings.defect?_withSecret hauth hsecret]
    split_ifs at hvalid ⊢
    · exact hvalid
    · rfl

/-- The settings that have been gathered, if they are valid. -/
def ofGathered (gathered : Setting) : Except LoadDefect AppSettings := do
  let settings ← (gathered.toRecord (shape settingFormat)).mapError .failed
  match settings.defect? with
  | some defect => .error (.invalid defect)
  | none => return settings

theorem load_eq (file : Option SettingsFile) (environment : Environment) :
    load file environment = gather file environment >>= ofGathered :=
  rfl

/-- The settings of a file with a secret in the place of what the file says about
it. -/
def loadWithSecret (file : Option SettingsFile) (secret : String) :
    Except LoadDefect AppSettings := do
  let gathered ← gather file []
  ofGathered (gathered.set secretPath (.scalar none (.text secret)))

theorem gather_eq_overlay (file : Option SettingsFile) (environment : Environment) :
    gather file environment = (gather file []).map (·.overlay environment.settings) := by
  unfold gather
  cases file with
  | none => rfl
  | some file =>
    cases h : file.settings? with
    | none =>
      simp only [h]
      rfl
    | some members =>
      simp only [h]
      rfl

theorem ofGathered_eq_ok_iff {gathered : Setting} {s : AppSettings} :
    ofGathered gathered = .ok s ↔
      gathered.toRecord (shape settingFormat) = .ok s ∧ s.defect? = none := by
  unfold ofGathered
  rw [bind_eq_ok_iff]
  simp only [mapError_eq_ok_iff]
  constructor
  · rintro ⟨t, ht, h⟩
    split at h
    · cases h
    · next hvalid =>
      cases h
      exact ⟨ht, hvalid⟩
  · rintro ⟨hs, hvalid⟩
    refine ⟨s, hs, ?_⟩
    rw [hvalid]
    rfl

theorem ofGathered_eq_invalid {gathered : Setting} {s : AppSettings} {defect : AppDefect}
    (hrecord : gathered.toRecord (shape settingFormat) = .ok s)
    (hdefect : s.defect? = some defect) : ofGathered gathered = .error (.invalid defect) := by
  unfold ofGathered
  rw [hrecord]
  change Except.bind (.ok s) _ = _
  rw [Except.bind]
  simp only [hdefect]

theorem set_secret (gathered : Setting) (origin : Option String) (value : Scalar) :
    gathered.set secretPath (.scalar origin value) =
      gathered.editAt (fun _ => .scalar origin value) secretSteps := by
  have hpath : Setting.pathOf secretPath = secretSteps := by decide +kernel
  unfold Setting.set
  rw [hpath]
  refine congrArg (fun f => gathered.editAt f secretSteps) (funext fun under => ?_)
  rw [Setting.overlaid]

/-- What the variable of the secret says counts instead of what the file says,
as the text that a setting makes of it. -/
theorem load_of_only_secret {file : Option SettingsFile} {environment : Environment}
    {value other : String} {s : AppSettings}
    (honly : environment.filter (fun entry => (Environment.path? entry.1).isSome) =
      [(Environment.secretVariable, value)])
    (hrest : loadWithSecret file other = .ok s)
    (hlong : TokenSettings.minSecretBytes ≤ value.utf8ByteSize) :
    load file environment =
      if TokenSettings.minSecretBytes ≤ (Environment.textOf value).utf8ByteSize then
        .ok (s.withSecret (Environment.textOf value))
      else .error (.invalid (.auth .secretShort)) := by
  have hlong : 24 < value.utf8ByteSize := Nat.lt_of_lt_of_le (by decide) hlong
  obtain ⟨gathered, hfile, hrest⟩ := bind_eq_ok_iff.1 hrest
  rw [set_secret, ofGathered_eq_ok_iff] at hrest
  obtain ⟨hrecord, hvalid⟩ := hrest
  -- The variable changes the tree at the place where the other secret was put.
  have hread := toRecord_editAt (fun _ => Environment.toText_scalarOf hlong
    (some Environment.sourceName)) hrecord
  have hgather : gather file environment = .ok (gathered.editAt (fun _ => .scalar
      (some Environment.sourceName) (Environment.scalarOf value)) secretSteps) := by
    rw [gather_eq_overlay, hfile, Environment.settings_of_only_secret honly, ← set_secret]
    rfl
  have hdefect := defect?_withSecret hvalid (Environment.textOf_ne_empty hlong)
  rw [load_eq, hgather]
  change ofGathered _ = _
  by_cases htext : TokenSettings.minSecretBytes ≤ (Environment.textOf value).utf8ByteSize
  · rw [if_pos htext] at hdefect ⊢
    exact ofGathered_eq_ok_iff.2 ⟨hread, hdefect⟩
  · rw [if_neg htext] at hdefect ⊢
    exact ofGathered_eq_invalid hread hdefect

/-- Settings from a file and from the variable of the secret alone. If the
settings of the file beside its secret are valid, loading takes the variable
word for word exactly when it writes no number, or one as that number is written
in full. An integer never gets through as a secret, since its digits without the
leading zeros are too few; any other number is replaced by how it is written in
full. What the file says about the secret makes no difference, and need not be
there or be of the right kind. -/
theorem load_secret_variable {file : Option SettingsFile} {environment : Environment}
    {value other : String} {s : AppSettings}
    (honly : environment.filter (fun entry => (Environment.path? entry.1).isSome) =
      [(Environment.secretVariable, value)])
    (hrest : loadWithSecret file other = .ok s)
    (hlong : TokenSettings.minSecretBytes ≤ value.utf8ByteSize) :
    (load file environment = .ok (s.withSecret value) ↔
      Environment.integer? value.toList = none ∧
        ∀ x, FloatText.read? value.toList = some x → FloatText.positional x = value) ∧
    (∀ n, Environment.integer? value.toList = some n →
      load file environment = .error (.invalid (.auth .secretShort))) ∧
    (∀ x, Environment.integer? value.toList = none → FloatText.read? value.toList = some x →
      load file environment =
        if TokenSettings.minSecretBytes ≤ (FloatText.positional x).utf8ByteSize then
          .ok (s.withSecret (FloatText.positional x))
        else .error (.invalid (.auth .secretShort))) := by
  have hload := load_of_only_secret honly hrest hlong
  have hverbatim : load file environment = .ok (s.withSecret value) ↔
      Environment.textOf value = value := by
    rw [hload]
    constructor
    · intro h
      split_ifs at h
      exact congrArg (·.auth.token.secret) (Except.ok.inj h)
    · intro h
      rw [h, if_pos hlong]
  refine ⟨?_, fun n hn => ?_, fun x hn hx => ?_⟩
  · rw [hverbatim, Environment.textOf_eq_self_iff (Nat.lt_of_lt_of_le (by decide) hlong)]
  · have hshort := Environment.utf8ByteSize_textOf_le hn
    rw [hload, if_neg (Nat.not_le.2 (Nat.lt_of_le_of_lt hshort (by decide)))]
  · rw [hload]
    simp only [Environment.textOf, hn, hx]

/-- A file that says how tokens are signed, and that they live for half an hour. -/
def tokenFile (secret : String) : SettingsFile :=
  ⟨"warden.toml", "[auth.token]\nsecret = \"" ++ secret ++ "\"\nttl = \"30m\"\n"⟩

/-- The settings that the file stands for. -/
def tokenSettings (secret : String) : AppSettings :=
  { default with auth.token := ⟨secret, .seconds 1800⟩ }

theorem loadWithSecret_tokenFile :
    loadWithSecret (some (tokenFile "file-secret-0123456789abcdefghijklmnop"))
      "any-secret-0123456789abcdefghijklmnop" =
        .ok (tokenSettings "any-secret-0123456789abcdefghijklmnop") :=
  ok_of_toOption_eq_some (by decide +kernel)

/-- A secret that begins like a number and is none. -/
theorem secret_variable_over_file :
    let hex := "0123456789abcdef0123456789abcdef"
    let environment : Environment := [("PATH", "/bin"), ("WARDEN__AUTH__TOKEN__SECRET", hex)]
    environment.filter (fun entry => (Environment.path? entry.1).isSome) =
        [(Environment.secretVariable, hex)] ∧
      loadWithSecret (some (tokenFile "file-secret-0123456789abcdefghijklmnop"))
        "any-secret-0123456789abcdefghijklmnop" =
          .ok (tokenSettings "any-secret-0123456789abcdefghijklmnop") ∧
      TokenSettings.minSecretBytes ≤ hex.utf8ByteSize ∧
      load (some (tokenFile "file-secret-0123456789abcdefghijklmnop")) environment =
        .ok (tokenSettings hex) := by
  intro hex environment
  have honly : environment.filter (fun entry => (Environment.path? entry.1).isSome) =
      [(Environment.secretVariable, hex)] := by decide +kernel
  have hlong : TokenSettings.minSecretBytes ≤ hex.utf8ByteSize := by decide +kernel
  have hread : FloatText.read? hex.toList = none :=
    Option.isNone_iff_eq_none.1 (by decide +kernel)
  refine ⟨honly, loadWithSecret_tokenFile, hlong,
    (load_secret_variable honly loadWithSecret_tokenFile hlong).1.2 ⟨by decide +kernel, ?_⟩⟩
  rw [hread]
  exact nofun

/-- A secret of digits is taken word for word from a file, but refused as too
short from the environment. -/
theorem numeric_secret_refused :
    let digits := "00000000000000000000000000000001"
    let environment : Environment := [("WARDEN__AUTH__TOKEN__SECRET", digits)]
    environment.filter (fun entry => (Environment.path? entry.1).isSome) =
        [(Environment.secretVariable, digits)] ∧
      loadWithSecret (some (tokenFile "file-secret-0123456789abcdefghijklmnop"))
        "any-secret-0123456789abcdefghijklmnop" =
          .ok (tokenSettings "any-secret-0123456789abcdefghijklmnop") ∧
      TokenSettings.minSecretBytes ≤ digits.utf8ByteSize ∧
      load (some (tokenFile digits)) [] = .ok (tokenSettings digits) ∧
      load (some (tokenFile "file-secret-0123456789abcdefghijklmnop")) environment =
        .error (.invalid (.auth .secretShort)) := by
  intro digits environment
  have honly : environment.filter (fun entry => (Environment.path? entry.1).isSome) =
      [(Environment.secretVariable, digits)] := by decide +kernel
  have hlong : TokenSettings.minSecretBytes ≤ digits.utf8ByteSize := by decide +kernel
  have hinteger : Environment.integer? digits.toList = some 1 := by decide +kernel
  have hshort := Environment.utf8ByteSize_textOf_le hinteger
  refine ⟨honly, loadWithSecret_tokenFile, hlong, ok_of_toOption_eq_some (by decide +kernel), ?_⟩
  rw [load_of_only_secret honly loadWithSecret_tokenFile hlong,
    if_neg (Nat.not_le.2 (Nat.lt_of_le_of_lt hshort (by decide)))]

end AppSettings

end AuthGate

import AuthGate.Proofs.Text.Base64Canonical
import AuthGate.Settings.Load

namespace AuthGate

variable {α : Type}

namespace Setting

theorem member?_edit_self (name : String) (f : Setting → Setting)
    (members : List (String × Setting)) :
    member? name (edit name f members) = some (f ((member? name members).getD unset)) := by
  induction members with
  | nil => simp [edit, member?]
  | cons entry members ih =>
    obtain ⟨key, s⟩ := entry
    by_cases h : key = name
    · simp [edit, member?, h]
    · simpa [edit, member?, h] using ih

theorem member?_edit_of_ne {name other : String} (h : other ≠ name) (f : Setting → Setting)
    (members : List (String × Setting)) :
    member? other (edit name f members) = member? other members := by
  induction members with
  | nil => simp [edit, member?, h.symm]
  | cons entry members ih =>
    obtain ⟨key, s⟩ := entry
    by_cases hkey : key = name
    · simp [edit, member?, hkey, h.symm]
    · by_cases hother : key = other
      · simp [edit, member?, hother, h]
      · simpa [edit, member?, hkey, hother] using ih

theorem within_eq_ok_iff {step : SettingStep} {read : SettingReader α} {a : α} :
    within step read = .ok a ↔ read = .ok a :=
  mapError_eq_ok_iff

/-- Reads a field of a record from the members of a table. One that is not among
them keeps what the record has. -/
def readField (members : List (String × Setting)) (a : α) (f : Field SettingReader Setting α) :
    SettingReader α :=
  match member? f.name members with
  | some s => within (.key f.name) (f.read s a)
  | none => .ok a

theorem fieldMembers_eq_foldlM {shape : Shape SettingReader Setting α}
    (hoptional : ∀ f ∈ shape.fields, f.required = false) (members : List (String × Setting))
    (a : α) : fieldMembers shape members a = shape.fields.foldlM (readField members) a := by
  have hmissing : shape.missing? (members.map (·.1)) = none := by
    unfold Shape.missing?
    rw [Option.map_eq_none_iff, List.find?_eq_none]
    intro f hf
    simp [hoptional f hf]
  unfold fieldMembers
  rw [hmissing]
  exact bind_pure _

/-- Fields of other names do not see a change of a member. -/
theorem foldlM_readField_edit {name : String} {fields : List (Field SettingReader Setting α)}
    (hnames : ∀ f ∈ fields, f.name ≠ name) (g : Setting → Setting)
    (members : List (String × Setting)) (a : α) :
    fields.foldlM (readField (edit name g members)) a = fields.foldlM (readField members) a := by
  induction fields generalizing a with
  | nil => rfl
  | cons f fields ih =>
    have hfield : readField (edit name g members) a f = readField members a f := by
      unfold readField
      rw [member?_edit_of_ne (hnames f List.mem_cons_self)]
    rw [List.foldlM_cons, List.foldlM_cons, hfield]
    exact bind_congr fun b => ih (fun f hf => hnames f (List.mem_cons_of_mem _ hf)) b

/-- An update that every field commutes with can be made before they are read. -/
theorem foldlM_readField_update {update : α → α} {fields : List (Field SettingReader Setting α)}
    (hcommutes : ∀ f ∈ fields, ∀ {s : Setting} {a b : α},
      f.read s a = .ok b → f.read s (update a) = .ok (update b))
    {members : List (String × Setting)} {a b : α}
    (hread : fields.foldlM (readField members) a = .ok b) :
    fields.foldlM (readField members) (update a) = .ok (update b) := by
  induction fields generalizing a with
  | nil =>
    cases hread
    rfl
  | cons f fields ih =>
    rw [List.foldlM_cons, bind_eq_ok_iff] at hread ⊢
    obtain ⟨c, hfield, hrest⟩ := hread
    refine ⟨update c, ?_, ih (fun f hf => hcommutes f (List.mem_cons_of_mem _ hf)) hrest⟩
    unfold readField at hfield ⊢
    split at hfield
    · rw [within_eq_ok_iff] at hfield ⊢
      exact hcommutes f List.mem_cons_self hfield
    · cases hfield
      rfl

end Setting

/-- A field of a shape stands apart when an update of records concerns it alone:
the other fields have other names, and those read after it are read into an
updated record as into the record itself. No field is required, so a table lacks
none. -/
structure Shape.Separates (shape : Shape SettingReader Setting α)
    (before : List (Field SettingReader Setting α)) (field : Field SettingReader Setting α)
    (after : List (Field SettingReader Setting α)) (update : α → α) : Prop where
  fields : shape.fields = before ++ field :: after
  optional : ∀ f ∈ shape.fields, f.required = false
  namesBefore : ∀ f ∈ before, f.name ≠ field.name
  namesAfter : ∀ f ∈ after, f.name ≠ field.name
  commutes : ∀ f ∈ after, ∀ {s : Setting} {a b : α},
    f.read s a = .ok b → f.read s (update a) = .ok (update b)

namespace Shape.Separates

open Setting

variable {shape : Shape SettingReader Setting α} {field : Field SettingReader Setting α}
  {before after : List (Field SettingReader Setting α)} {update : α → α}

/-- A table that is read as a record is read as the updated record once the
member of the field is changed to one that updates what the field reads. -/
theorem toRecord_edit (h : shape.Separates before field after update) {g g' : Setting → Setting}
    (hread : ∀ {s : Setting} {a b : α},
      field.read (g s) a = .ok b → field.read (g' s) a = .ok (update b))
    {origin : Option String} {members : List (String × Setting)} {a : α}
    (hrecord : (table origin (edit field.name g members)).toRecord shape = .ok a) :
    (table origin (edit field.name g' members)).toRecord shape = .ok (update a) := by
  have hfield (g : Setting → Setting) (b : α) : readField (edit field.name g members) b field =
      within (.key field.name) (field.read (g ((member? field.name members).getD unset)) b) := by
    unfold readField
    rw [member?_edit_self]
  change fieldMembers shape _ shape.initial = _ at hrecord ⊢
  rw [fieldMembers_eq_foldlM h.optional, h.fields, List.foldlM_append, bind_eq_ok_iff]
    at hrecord ⊢
  -- Up to the field both tables are the same, at the field the two changes come apart, and
  -- behind it one record is the update of the other.
  obtain ⟨b, hbefore, hrecord⟩ := hrecord
  refine ⟨b, by rwa [foldlM_readField_edit h.namesBefore] at hbefore ⊢, ?_⟩
  rw [List.foldlM_cons, bind_eq_ok_iff, hfield] at hrecord ⊢
  obtain ⟨c, hmember, hafter⟩ := hrecord
  refine ⟨update c, ?_, ?_⟩
  · rw [within_eq_ok_iff] at hmember ⊢
    exact hread hmember
  · rw [foldlM_readField_edit h.namesAfter] at hafter ⊢
    exact foldlM_readField_update h.commutes hafter

end Shape.Separates

theorem Setting.editAt_key (f : Setting → Setting) (name : String) (path : List SettingStep)
    (s : Setting) : s.editAt f (.key name :: path) =
      table s.asTable.1 (edit name (editAt f path) s.asTable.2) := by
  rw [editAt]

/-- Where the settings of the server have the secret. -/
def AppSettings.secretSteps : List SettingStep := [.key "auth", .key "token", .key "secret"]

section Secret

variable {f f' : Setting → Setting} {secret : String} {s : Setting}
  (hsecret : ∀ {s : Setting} {old : String},
    (f s).toText = .ok old → (f' s).toText = .ok secret)

include hsecret

/-- Where one change makes a record with some secret, another one that writes a
text there makes the same record with that text as its secret. -/
theorem TokenSettings.toRecord_editAt {t : TokenSettings}
    (hread : (s.editAt f [.key "secret"]).toRecord (shape settingFormat) = .ok t) :
    (s.editAt f' [.key "secret"]).toRecord (shape settingFormat) = .ok { t with secret } := by
  have hseparates : (shape settingFormat).Separates [] _ [_] fun t => { t with secret } :=
    { fields := rfl
      optional := by decide +kernel
      namesBefore := nofun
      namesAfter := by simp
      commutes := by
        simp only [List.mem_singleton, forall_eq, bind_eq_ok_iff]
        rintro s a _ ⟨ttl, httl, ⟨⟩⟩
        exact ⟨ttl, httl, rfl⟩ }
  rw [Setting.editAt_key] at hread ⊢
  refine hseparates.toRecord_edit ?_ hread
  intro s a b hfield
  obtain ⟨old, hold, hb⟩ := bind_eq_ok_iff.1 hfield
  cases hb
  exact bind_eq_ok_iff.2 ⟨secret, hsecret hold, rfl⟩

theorem AuthSettings.toRecord_editAt {a : AuthSettings}
    (hread : (s.editAt f [.key "token", .key "secret"]).toRecord (shape settingFormat) = .ok a) :
    (s.editAt f' [.key "token", .key "secret"]).toRecord (shape settingFormat) =
      .ok { a with token.secret := secret } := by
  have hseparates : (shape settingFormat).Separates [] _ [_, _]
      fun a => { a with token.secret := secret } :=
    { fields := rfl
      optional := by decide +kernel
      namesBefore := nofun
      namesAfter := by simp
      commutes := by
        simp only [List.mem_cons, List.not_mem_nil, or_false, forall_eq_or_imp, forall_eq,
          bind_eq_ok_iff]
        constructor
        · rintro s a _ ⟨lockout, hlockout, ⟨⟩⟩
          exact ⟨lockout, hlockout, rfl⟩
        · rintro s a _ ⟨sweep, hsweep, ⟨⟩⟩
          exact ⟨sweep, hsweep, rfl⟩ }
  rw [Setting.editAt_key] at hread ⊢
  refine hseparates.toRecord_edit ?_ hread
  intro s a b hfield
  obtain ⟨t, ht, hb⟩ := bind_eq_ok_iff.1 hfield
  cases hb
  exact bind_eq_ok_iff.2 ⟨_, TokenSettings.toRecord_editAt hsecret ht, rfl⟩

theorem AppSettings.toRecord_editAt {a : AppSettings}
    (hread : (s.editAt f secretSteps).toRecord (shape settingFormat) = .ok a) :
    (s.editAt f' secretSteps).toRecord (shape settingFormat) =
      .ok { a with auth.token.secret := secret } := by
  have hseparates : (shape settingFormat).Separates [_, _] _ [_]
      fun a => { a with auth.token.secret := secret } :=
    { fields := rfl
      optional := by decide +kernel
      namesBefore := by simp
      namesAfter := by simp
      commutes := by
        simp only [List.mem_singleton, forall_eq, bind_eq_ok_iff]
        rintro s a _ ⟨users, husers, ⟨⟩⟩
        exact ⟨users, husers, rfl⟩ }
  rw [secretSteps, Setting.editAt_key] at hread ⊢
  refine hseparates.toRecord_edit ?_ hread
  intro s a b hfield
  obtain ⟨auth, hauth, hb⟩ := bind_eq_ok_iff.1 hfield
  cases hb
  exact bind_eq_ok_iff.2 ⟨_, AuthSettings.toRecord_editAt hsecret hauth, rfl⟩

end Secret

end AuthGate

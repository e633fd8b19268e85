import AuthGate.Password.Store
import AuthGate.Proofs.Keys
import AuthGate.Proofs.Password.Scheme
import AuthGate.Text.Hex

namespace AuthGate

/-- A change of the accounts of a store. -/
inductive AccountChange where
  | set (username password : String)
  | remove (username : String)
deriving DecidableEq

namespace AccountChange

/-- The account that a change is about. -/
def username : AccountChange → String
  | set username _ | remove username => username

/-- The password that an account has after a change of it. -/
def password? : AccountChange → Option String
  | set _ password => some password
  | remove _ => none

/-- A change is the last one of its account in a history. -/
def IsLast (c : AccountChange) (history : List AccountChange) : Prop :=
  ∃ before after, history = before ++ c :: after ∧ ∀ d ∈ after, d.username ≠ c.username

/-- An account is absent after a history that never sets it or removes it last. -/
def Absent (username : String) (history : List AccountChange) : Prop :=
  (∀ c ∈ history, c.username ≠ username) ∨ (remove username).IsLast history

/-- An account that is changed at all has a last change. -/
theorem exists_isLast (username : String) (history : List AccountChange) :
    (∀ c ∈ history, c.username ≠ username) ∨
      ∃ c : AccountChange, c.IsLast history ∧ c.username = username := by
  induction history with
  | nil => exact .inl (List.forall_mem_nil _)
  | cons c history ih =>
    rcases ih with hnone | ⟨d, ⟨before, after, rfl, hafter⟩, hname⟩
    · by_cases hname : c.username = username
      · exact .inr ⟨c, ⟨[], history, rfl, fun d hd => hname ▸ hnone d hd⟩, hname⟩
      · exact .inl (List.forall_mem_cons.2 ⟨hname, hnone⟩)
    · exact .inr ⟨d, ⟨c :: before, after, rfl, hafter⟩, hname⟩

/-- The last change of an account has set a password, or the account is absent. -/
theorem exists_isLast_set_or_absent (username : String) (history : List AccountChange) :
    (∃ password, (set username password).IsLast history) ∨ Absent username history := by
  rcases exists_isLast username history with hnone | ⟨c, hlast, rfl⟩
  · exact .inr (.inl hnone)
  · cases c with
    | set username password => exact .inl ⟨password, hlast⟩
    | remove username => exact .inr (.inr hlast)

end AccountChange

namespace CredentialStore

variable {scheme : PasswordScheme}

/-- The store after a change, under the salt that was drawn for it. A removal draws none
and ignores it. -/
def change (store : CredentialStore scheme) : AccountChange × List UInt8 → CredentialStore scheme
  | (.set username password, salt) => store.set username password salt
  | (.remove username, _) => (store.remove username).1

/-- The store after a sequence of changes. -/
def changeAll (store : CredentialStore scheme) (changes : List (AccountChange × List UInt8)) :
    CredentialStore scheme :=
  changes.foldl change store

/-- The user that a store starts from as a change. -/
def settingOf : String × String × List UInt8 → AccountChange × List UInt8
  | (username, password, salt) => (.set username password, salt)

/-- Users are set one after the other. -/
theorem ofUsers_eq_changeAll (users : List (String × String × List UInt8)) :
    (ofUsers users : CredentialStore scheme) = empty.changeAll (users.map settingOf) := by
  rw [changeAll, List.foldl_map]
  rfl

theorem changeAll_append (store : CredentialStore scheme)
    (changes later : List (AccountChange × List UInt8)) :
    store.changeAll (changes ++ later) = (store.changeAll changes).changeAll later :=
  List.foldl_append

/-- What is kept of an account after a change: something new if the change is to the
account, and what was kept before otherwise. -/
theorem kept_change (store : CredentialStore scheme) (c : AccountChange) (salt : List UInt8)
    (username : String) :
    (store.change (c, salt)).kept[username]? =
      if c.username = username then c.password?.map (scheme.keep salt)
      else store.kept[username]? := by
  cases c with
  | set name password =>
    simp only [change, set, Std.ExtTreeMap.getElem?_insert, Std.LawfulEqCmp.compare_eq_iff_eq]
    rfl
  | remove name =>
    simp only [change, remove, Std.ExtTreeMap.getElem?_erase, Std.LawfulEqCmp.compare_eq_iff_eq]
    rfl

/-- Changes of other accounts leave alone what is kept of an account. -/
theorem kept_changeAll_of_forall_ne (store : CredentialStore scheme)
    {changes : List (AccountChange × List UInt8)} {username : String}
    (hother : ∀ c ∈ changes.map Prod.fst, c.username ≠ username) :
    (store.changeAll changes).kept[username]? = store.kept[username]? := by
  induction changes generalizing store with
  | nil => rfl
  | cons c changes ih =>
    obtain ⟨c, salt⟩ := c
    rw [List.map_cons, List.forall_mem_cons] at hother
    calc ((store.change (c, salt)).changeAll changes).kept[username]?
        = (store.change (c, salt)).kept[username]? := ih _ hother.2
      _ = store.kept[username]? := by rw [kept_change, if_neg hother.1]

/-- What is kept of an account is what its last change left, under the salt of that
change. -/
theorem kept_changeAll_of_isLast (store : CredentialStore scheme) {c : AccountChange}
    {changes : List (AccountChange × List UInt8)} (h : c.IsLast (changes.map Prod.fst)) :
    ∃ salt, (c, salt) ∈ changes ∧
      (store.changeAll changes).kept[c.username]? = c.password?.map (scheme.keep salt) := by
  obtain ⟨before, after, hsplit, hafter⟩ := h
  obtain ⟨before, rest, rfl, rfl, hrest⟩ := List.map_eq_append_iff.1 hsplit
  obtain ⟨⟨d, salt⟩, after, rfl, rfl, rfl⟩ := List.map_eq_cons_iff.1 hrest
  refine ⟨salt, by simp, ?_⟩
  rw [changeAll_append]
  calc (((store.changeAll before).change (d, salt)).changeAll after).kept[d.username]?
      = ((store.changeAll before).change (d, salt)).kept[d.username]? :=
        kept_changeAll_of_forall_ne _ hafter
    _ = d.password?.map (scheme.keep salt) := by rw [kept_change, if_pos rfl]

theorem kept_changeAll_of_absent {changes : List (AccountChange × List UInt8)} {username : String}
    (h : AccountChange.Absent username (changes.map Prod.fst)) :
    ((empty : CredentialStore scheme).changeAll changes).kept[username]? = none := by
  rcases h with hnone | hlast
  · rw [kept_changeAll_of_forall_ne _ hnone]
    exact Std.ExtTreeMap.getElem?_empty
  · obtain ⟨salt, -, hkept⟩ := kept_changeAll_of_isLast (empty : CredentialStore scheme) hlast
    exact hkept

/-- A scheme tells a password from all those that are set for an account. -/
def TellsApart (scheme : PasswordScheme) (changes : List (AccountChange × List UInt8))
    (username password : String) : Prop :=
  ∀ kept salt, (.set username kept, salt) ∈ changes → scheme.TellsApart salt kept password

variable {changes : List (AccountChange × List UInt8)} {username password : String}

theorem verify_of_isLast (hscheme : TellsApart scheme changes username password) {kept : String}
    (hlast : (AccountChange.set username kept).IsLast (changes.map Prod.fst)) :
    ((empty : CredentialStore scheme).changeAll changes).verify username password =
      .ok (decide (password = kept)) := by
  obtain ⟨salt, hmem, hkept⟩ := kept_changeAll_of_isLast (empty : CredentialStore scheme) hlast
  have hkept : ((empty : CredentialStore scheme).changeAll changes).kept[username]? =
      some (scheme.keep salt kept) := hkept
  rw [verify, hkept]
  dsimp only
  rw [(hscheme kept salt hmem).verify_eq]
  rfl

theorem verify_of_absent (h : AccountChange.Absent username (changes.map Prod.fst)) :
    ((empty : CredentialStore scheme).changeAll changes).verify username password =
      .error .userNotFound := by
  rw [verify, kept_changeAll_of_absent h]

/-- Each answer of a store says what the last change of the account was. -/
theorem verify_iff (hscheme : TellsApart scheme changes username password) :
    (((empty : CredentialStore scheme).changeAll changes).verify username password = .ok true ↔
      (AccountChange.set username password).IsLast (changes.map Prod.fst)) ∧
    (((empty : CredentialStore scheme).changeAll changes).verify username password = .ok false ↔
      ∃ kept, kept ≠ password ∧
        (AccountChange.set username kept).IsLast (changes.map Prod.fst)) ∧
    (((empty : CredentialStore scheme).changeAll changes).verify username password =
        .error .userNotFound ↔
      AccountChange.Absent username (changes.map Prod.fst)) := by
  refine ⟨⟨fun h => ?_, fun hlast => ?_⟩, ⟨fun h => ?_, fun ⟨kept, hne, hlast⟩ => ?_⟩,
    ⟨fun h => ?_, verify_of_absent⟩⟩
  · rcases AccountChange.exists_isLast_set_or_absent username (changes.map Prod.fst) with
      ⟨kept, hlast⟩ | habsent
    · rw [verify_of_isLast hscheme hlast] at h
      obtain rfl : password = kept := by simpa using h
      exact hlast
    · rw [verify_of_absent habsent] at h
      cases h
  · rw [verify_of_isLast hscheme hlast, decide_eq_true rfl]
  · rcases AccountChange.exists_isLast_set_or_absent username (changes.map Prod.fst) with
      ⟨kept, hlast⟩ | habsent
    · rw [verify_of_isLast hscheme hlast] at h
      have hne : password ≠ kept := by simpa using h
      exact ⟨kept, hne.symm, hlast⟩
    · rw [verify_of_absent habsent] at h
      cases h
  · rw [verify_of_isLast hscheme hlast, decide_eq_false hne.symm]
  · rcases AccountChange.exists_isLast_set_or_absent username (changes.map Prod.fst) with
      ⟨kept, hlast⟩ | habsent
    · rw [verify_of_isLast hscheme hlast] at h
      cases h
    · exact habsent

/-- The accounts that a store has are those whose last change set a password. -/
theorem isSome_kept_iff :
    (((empty : CredentialStore scheme).changeAll changes).kept[username]?).isSome = true ↔
      ∃ password, (AccountChange.set username password).IsLast (changes.map Prod.fst) := by
  constructor
  · intro h
    rcases AccountChange.exists_isLast_set_or_absent username (changes.map Prod.fst) with
      hset | habsent
    · exact hset
    · rw [kept_changeAll_of_absent habsent] at h
      cases h
  · rintro ⟨password, hlast⟩
    obtain ⟨salt, -, hkept⟩ := kept_changeAll_of_isLast (empty : CredentialStore scheme) hlast
    have hkept : ((empty : CredentialStore scheme).changeAll changes).kept[username]? =
        some (scheme.keep salt password) := hkept
    rw [hkept]
    rfl

theorem remove_snd_iff :
    (((empty : CredentialStore scheme).changeAll changes).remove username).2 = true ↔
      ∃ password, (AccountChange.set username password).IsLast (changes.map Prod.fst) := by
  rw [remove, Std.ExtTreeMap.contains_eq_isSome_getElem?]
  exact isSome_kept_iff

theorem size_changeAll (changes : List (AccountChange × List UInt8)) :
    ((empty : CredentialStore scheme).changeAll changes).size =
      {username | ∃ password,
        (AccountChange.set username password).IsLast (changes.map Prod.fst)}.ncard := by
  rw [size, ← ncard_keys]
  congr 1
  ext username
  rw [Set.mem_ofPred_eq, Std.ExtTreeMap.mem_iff_isSome_getElem?]
  exact isSome_kept_iff

/-- The same changes under other salts give the same answers. -/
theorem verify_congr {others : List (AccountChange × List UInt8)}
    (hsame : others.map Prod.fst = changes.map Prod.fst)
    (hscheme : TellsApart scheme changes username password)
    (hothers : TellsApart scheme others username password) :
    ((empty : CredentialStore scheme).changeAll others).verify username password =
      ((empty : CredentialStore scheme).changeAll changes).verify username password := by
  rcases AccountChange.exists_isLast_set_or_absent username (changes.map Prod.fst) with
    ⟨kept, hlast⟩ | habsent
  · rw [verify_of_isLast hscheme hlast, verify_of_isLast hothers (hsame ▸ hlast)]
  · rw [verify_of_absent habsent, verify_of_absent (hsame ▸ habsent)]

/-- A store answers by the last change of an account, whatever was changed before it: it
accepts the password that this change set, rejects every other one, and knows no account
that was never set or was removed last. Its size is the number of accounts it knows, and a
removal says whether it knew the account. No answer depends on the salts. Of Argon2 all
that this asks is that it accepts exactly the password that was kept. -/
theorem answers_by_last_change (scheme : PasswordScheme)
    (users : List (String × String × List UInt8)) (changes : List (AccountChange × List UInt8)) :
    let store : CredentialStore scheme := (ofUsers users).changeAll changes
    let history := (users.map settingOf ++ changes).map Prod.fst
    (∀ username password, TellsApart scheme (users.map settingOf ++ changes) username password →
      (store.verify username password = .ok true ↔
        (AccountChange.set username password).IsLast history) ∧
      (store.verify username password = .ok false ↔
        ∃ kept, kept ≠ password ∧ (AccountChange.set username kept).IsLast history) ∧
      (store.verify username password = .error .userNotFound ↔
        AccountChange.Absent username history)) ∧
    store.size =
      {username | ∃ password, (AccountChange.set username password).IsLast history}.ncard ∧
    (∀ username, (store.remove username).2 = true ↔
      ∃ password, (AccountChange.set username password).IsLast history) ∧
    (∀ users' changes', (users'.map settingOf ++ changes').map Prod.fst = history →
      let other : CredentialStore scheme := (ofUsers users').changeAll changes'
      other.size = store.size ∧
      (∀ username, (other.remove username).2 = (store.remove username).2) ∧
      ∀ username password, TellsApart scheme (users.map settingOf ++ changes) username password →
        TellsApart scheme (users'.map settingOf ++ changes') username password →
        other.verify username password = store.verify username password) ∧
    ∀ salt kept password, Argon2.IsSalt salt →
      (Argon2.scheme.TellsApart salt kept password ↔
        (Argon2.scheme.verify password (Argon2.scheme.keep salt kept) = .ok true ↔
          password = kept)) := by
  intro store history
  have hstore : store = empty.changeAll (users.map settingOf ++ changes) := by
    rw [changeAll_append, ← ofUsers_eq_changeAll]
  rw [hstore]
  refine ⟨fun username password => verify_iff, size_changeAll _, fun username => remove_snd_iff,
    fun users' changes' hsame => ?_,
    fun salt kept password hsalt => Argon2.tellsApart_iff hsalt kept password⟩
  intro other
  have hother : other = empty.changeAll (users'.map settingOf ++ changes') := by
    rw [changeAll_append, ← ofUsers_eq_changeAll]
  rw [hother]
  refine ⟨?_, fun username => ?_, fun username password => verify_congr hsame⟩
  · rw [size_changeAll, size_changeAll, hsame]
  · rw [Bool.eq_iff_iff, remove_snd_iff, remove_snd_iff, hsame]

/-- A scheme that keeps passwords in the clear, behind their salt. -/
def clearScheme : PasswordScheme where
  keep salt password := String.ofList ((hexText salt).toList ++ '$' :: password.toList)
  verify password stored :=
    .ok (decide (password.toList = (stored.toList.dropWhile (· ≠ '$')).drop 1))

theorem clearScheme_tellsApart (salt : List UInt8) (kept password : String) :
    clearScheme.TellsApart salt kept password := by
  have hdigit : ∀ n < 16, n.digitChar ≠ '$' := by decide
  have hsalt : ∀ c ∈ (hexText salt).toList, decide (c ≠ '$') = true := by
    intro c hc
    simp only [hexText, String.toList_ofList, List.mem_flatMap, hexByte, List.mem_cons,
      List.not_mem_nil, or_false] at hc
    obtain ⟨byte, -, rfl | rfl⟩ := hc
    · have := byte.toNat_lt
      exact decide_eq_true (hdigit _ (by omega))
    · exact decide_eq_true (hdigit _ (Nat.mod_lt _ (by decide)))
  have hdrop : ((hexText salt).toList ++ '$' :: kept.toList).dropWhile (· ≠ '$') =
      '$' :: kept.toList := by
    rw [List.dropWhile_append_of_pos hsalt]
    rfl
  have hverify : clearScheme.verify password (clearScheme.keep salt kept) =
      .ok (decide (password = kept)) := by
    simp only [clearScheme, String.toList_ofList, hdrop, List.drop_succ_cons, List.drop_zero,
      String.toList_inj]
  exact ⟨⟨_, hverify⟩, by simp [hverify]⟩

/-- Of two passwords of one name the second one counts, a removed account is unknown, and
one that is added again answers by its new password. All this is so under other salts. -/
theorem store_after_changes :
    let salt : UInt8 → List UInt8 := List.replicate 16
    let users := [("ann", "first", salt 1), ("bob", "hunter2", salt 2), ("ann", "second", salt 3)]
    let users' := [("ann", "first", salt 9), ("bob", "hunter2", salt 8), ("ann", "second", salt 8)]
    let changes : List (AccountChange × List UInt8) := [(.remove "bob", []),
      (.set "cid" "old", salt 4), (.remove "cid", []), (.set "cid" "new", salt 5)]
    let store : CredentialStore clearScheme := (ofUsers users).changeAll changes
    (∀ byte, Argon2.IsSalt (salt byte)) ∧
      TellsApart clearScheme (users.map settingOf ++ changes) "ann" "first" ∧
      store.verify "ann" "second" = .ok true ∧ store.verify "ann" "first" = .ok false ∧
      store.verify "bob" "hunter2" = .error .userNotFound ∧
      (store.remove "bob").2 = false ∧ (store.remove "cid").2 = true ∧
      ((ofUsers users' : CredentialStore clearScheme).changeAll changes).verify "ann" "first" =
        store.verify "ann" "first" := by
  intro salt users users' changes store
  have hsalt : ∀ byte, Argon2.IsSalt (salt byte) := fun byte => by
    have hlength : (salt byte).length = 16 := List.length_replicate
    unfold Argon2.IsSalt
    rw [hlength]
    decide
  have happart : ∀ history username password, TellsApart clearScheme history username password :=
    fun _ _ password kept salt _ => clearScheme_tellsApart salt kept password
  obtain ⟨hverify, -, hremove, hsalts, -⟩ := answers_by_last_change clearScheme users changes
  have hann : (AccountChange.set "ann" "second").IsLast
      ((users.map settingOf ++ changes).map Prod.fst) :=
    ⟨[.set "ann" "first", .set "bob" "hunter2"], _, rfl, by decide⟩
  have hbob : AccountChange.Absent "bob" ((users.map settingOf ++ changes).map Prod.fst) :=
    .inr ⟨[.set "ann" "first", .set "bob" "hunter2", .set "ann" "second"], _, rfl, by decide⟩
  have hcid : (AccountChange.set "cid" "new").IsLast
      ((users.map settingOf ++ changes).map Prod.fst) :=
    ⟨[.set "ann" "first", .set "bob" "hunter2", .set "ann" "second", .remove "bob",
      .set "cid" "old", .remove "cid"], [], rfl, List.forall_mem_nil _⟩
  have hothers := hsalts users' changes rfl
  exact ⟨hsalt, happart _ _ _, (hverify _ _ (happart _ _ _)).1.2 hann,
    (hverify _ _ (happart _ _ _)).2.1.2 ⟨"second", by decide, hann⟩,
    (hverify _ _ (happart _ _ _)).2.2.2 hbob, rfl, (hremove _).2 ⟨_, hcid⟩,
    hothers.2.2 _ _ (happart _ _ _) (happart _ _ _)⟩

end CredentialStore

end AuthGate

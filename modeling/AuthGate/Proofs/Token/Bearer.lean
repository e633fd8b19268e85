import AuthGate.Token.Bearer
import Mathlib.Data.List.DropRight

namespace AuthGate

/-- A text that neither starts nor ends with a blank. Blanks inside are allowed. -/
structure Unpadded (cs : List Char) : Prop where
  head : ∀ c ∈ cs.head?, isBlank c = false
  last : ∀ c ∈ cs.getLast?, isBlank c = false

theorem unpadded_of_forall {cs : List Char} (h : ∀ c ∈ cs, isBlank c = false) : Unpadded cs where
  head := fun c hc => h c (List.mem_of_mem_head? hc)
  last := fun c hc => h c (List.mem_of_getLast? hc)

theorem dropWhile_isBlank_of_head {cs : List Char} (h : ∀ c ∈ cs.head?, isBlank c = false) :
    cs.dropWhile isBlank = cs := by
  cases cs with
  | nil => rfl
  | cons c cs => rw [List.dropWhile_cons, h c rfl, if_neg Bool.false_ne_true]

/-- The scheme that an authorization header names, in lower case. -/
def authorizationScheme (header : String) : List Char :=
  ((trimBlanks header.toList).takeWhile (!isBlank ·)).map Char.toLower

theorem bearerToken_eq_none_iff (header : String) :
    bearerToken header = .ok none ↔ authorizationScheme header ≠ "bearer".toList := by
  unfold bearerToken authorizationScheme
  dsimp only
  constructor
  · intro h hscheme
    rw [if_neg (not_not_intro hscheme)] at h
    split at h <;> cases h
  · exact fun hscheme => if_pos hscheme

/-- A text of nothing but blanks. -/
def Blank (cs : List Char) : Prop := ∀ c ∈ cs, isBlank c = true

instance (cs : List Char) : Decidable (Blank cs) :=
  decidable_of_iff (cs.all isBlank = true) List.all_eq_true

/-- The word `bearer`, each of its letters in upper or lower case. -/
def NamesBearer (scheme : List Char) : Prop := scheme.map Char.toLower = "bearer".toList

instance (scheme : List Char) : Decidable (NamesBearer scheme) :=
  inferInstanceAs (Decidable (scheme.map Char.toLower = "bearer".toList))

/-- A text presents a token: the bearer scheme, then blanks, then the token, which
may have blanks inside but not at its ends. -/
structure Credential (cs scheme blanks token : List Char) : Prop where
  parts : cs = scheme ++ blanks ++ token
  namesBearer : NamesBearer scheme
  blanks_ne_nil : blanks ≠ []
  blank : Blank blanks
  token_ne_nil : token ≠ []
  unpadded : Unpadded token

/-! ### Blanks at the ends of a text -/

theorem dropWhile_isBlank_append {leading : List Char} (hleading : Blank leading)
    (cs : List Char) : (leading ++ cs).dropWhile isBlank = cs.dropWhile isBlank :=
  List.dropWhile_append_of_pos hleading

/-- Blanks around a text are all that is trimmed from it. -/
theorem trimBlanks_append {leading cs trailing : List Char} (hleading : Blank leading)
    (hcs : Unpadded cs) (htrailing : Blank trailing) :
    trimBlanks (leading ++ cs ++ trailing) = cs := by
  have hreverse : Blank trailing.reverse := fun c hc => htrailing c (List.mem_reverse.1 hc)
  unfold trimBlanks
  rw [List.append_assoc, dropWhile_isBlank_append hleading]
  cases cs with
  | nil =>
    rw [List.nil_append, List.dropWhile_eq_nil_iff.2 htrailing]
    rfl
  | cons c cs =>
    have hhead : ∀ d ∈ (c :: cs ++ trailing).head?, isBlank d = false := fun d hd => hcs.head d hd
    have hlast : ∀ d ∈ (c :: cs).reverse.head?, isBlank d = false := by
      rw [List.head?_reverse]
      exact hcs.last
    rw [dropWhile_isBlank_of_head hhead, List.reverse_append, dropWhile_isBlank_append hreverse,
      dropWhile_isBlank_of_head hlast, List.reverse_reverse]

theorem head?_dropWhile (p : Char → Bool) (cs : List Char) :
    ∀ c ∈ (cs.dropWhile p).head?, p c = false := by
  intro c hc
  have hhead := List.head?_dropWhile_not p cs
  rw [Option.mem_def.1 hc] at hhead
  exact hhead

/-- A text is what is trimmed from it with blanks around. -/
theorem exists_blank_around (cs : List Char) : ∃ leading trailing, Blank leading ∧
    Blank trailing ∧ cs = leading ++ trimBlanks cs ++ trailing := by
  refine ⟨cs.takeWhile isBlank, (cs.dropWhile isBlank).rtakeWhile isBlank,
    fun _ h => List.mem_takeWhile_imp h, fun _ h => List.mem_rtakeWhile_imp h, ?_⟩
  change cs = _ ++ (cs.dropWhile isBlank).rdropWhile isBlank ++ _
  rw [List.append_assoc, List.rdropWhile_append_rtakeWhile, List.takeWhile_append_dropWhile]

theorem unpadded_trimBlanks (cs : List Char) : Unpadded (trimBlanks cs) where
  head := by
    intro c hc
    -- what is dropped at the end leaves the first character where it is
    obtain ⟨trailing, htrimmed⟩ : trimBlanks cs <+: cs.dropWhile isBlank :=
      List.rdropWhile_prefix isBlank _
    apply head?_dropWhile isBlank cs
    rw [← htrimmed, Option.mem_def, List.head?_append, Option.mem_def.1 hc]
    rfl
  last := by
    intro c hc
    unfold trimBlanks at hc
    rw [List.getLast?_reverse] at hc
    exact head?_dropWhile isBlank _ c hc

/-- A text that does not end in a blank is trimmed at its start only. -/
theorem exists_blank_before {cs : List Char} (hlast : ∀ c ∈ cs.getLast?, isBlank c = false) :
    ∃ leading, Blank leading ∧ cs = leading ++ trimBlanks cs := by
  obtain ⟨leading, trailing, hleading, htrailing, hcs⟩ := exists_blank_around cs
  cases trailing using List.reverseRecOn with
  | nil => exact ⟨leading, hleading, by rwa [List.append_nil] at hcs⟩
  | append_singleton trailing c =>
    have hend : c ∈ cs.getLast? := by rw [hcs, ← List.append_assoc]; simp
    have hblank : isBlank c = true := htrailing c (by simp)
    rw [hlast c hend] at hblank
    cases hblank

/-! ### The scheme -/

/-- Lower case makes no letter of a blank. -/
theorem toLower_of_isBlank {c : Char} (h : isBlank c = true) : c.toLower = c := by
  unfold Char.toLower
  split
  · next hupper =>
    have hlow : 65 ≤ c.toNat := hupper.1
    have hhigh : c.toNat ≤ 90 := hupper.2
    simp [isBlank] at h
    omega
  · rfl

theorem NamesBearer.isBlank_eq_false {scheme : List Char} (h : NamesBearer scheme) :
    ∀ c ∈ scheme, isBlank c = false := by
  intro c hc
  have hletter : c.toLower ∈ "bearer".toList := h ▸ List.mem_map_of_mem hc
  cases hblank : isBlank c with
  | false => rfl
  | true =>
    rw [toLower_of_isBlank hblank] at hletter
    have hletters : ∀ d ∈ "bearer".toList, isBlank d = false := by simp [isBlank]
    rw [hletters c hletter] at hblank
    cases hblank

theorem NamesBearer.unpadded {scheme : List Char} (h : NamesBearer scheme) : Unpadded scheme :=
  unpadded_of_forall h.isBlank_eq_false

namespace Credential

variable {cs scheme blanks token : List Char}

theorem eq_takeWhile (h : Credential cs scheme blanks token) :
    scheme = cs.takeWhile (!isBlank ·) := by
  have hscheme : ∀ c ∈ scheme, (!isBlank c) = true := by simpa using h.namesBearer.isBlank_eq_false
  obtain ⟨blank, blanks, rfl⟩ := List.exists_cons_of_ne_nil h.blanks_ne_nil
  rw [h.parts, List.append_assoc, List.takeWhile_append_of_pos hscheme]
  simp [h.blank blank (List.mem_cons_self ..)]

theorem dropWhile_eq (h : Credential cs scheme blanks token) :
    cs.dropWhile (!isBlank ·) = blanks ++ token := by
  have hsplit : cs.takeWhile (!isBlank ·) ++ cs.dropWhile (!isBlank ·) = cs :=
    List.takeWhile_append_dropWhile
  rw [← h.eq_takeWhile] at hsplit
  exact List.append_cancel_left (hsplit.trans (h.parts.trans (List.append_assoc ..)))

theorem eq_trimBlanks (h : Credential cs scheme blanks token) :
    token = trimBlanks (cs.dropWhile (!isBlank ·)) := by
  have htrim := trimBlanks_append h.blank h.unpadded (List.forall_mem_nil _)
  rw [List.append_nil] at htrim
  rw [h.dropWhile_eq, htrim]

/-- A text presents a token in one way only. -/
theorem unique {scheme' blanks' token' : List Char} (h : Credential cs scheme blanks token)
    (h' : Credential cs scheme' blanks' token') :
    scheme = scheme' ∧ blanks = blanks' ∧ token = token' := by
  have hscheme : scheme = scheme' := h.eq_takeWhile.trans h'.eq_takeWhile.symm
  have htoken : token = token' := h.eq_trimBlanks.trans h'.eq_trimBlanks.symm
  have hblanks : blanks ++ token = blanks' ++ token' := h.dropWhile_eq.symm.trans h'.dropWhile_eq
  rw [htoken] at hblanks
  exact ⟨hscheme, List.append_cancel_right hblanks, htoken⟩

/-- What presents a token neither starts nor ends with a blank. -/
theorem unpadded_whole (h : Credential cs scheme blanks token) : Unpadded cs := by
  constructor
  · intro c hc
    have hscheme : scheme ≠ [] := by
      rintro rfl
      exact absurd h.namesBearer (by decide)
    rw [h.parts, List.append_assoc, List.head?_append, List.head?_eq_some_head hscheme,
      Option.some_or, ← List.head?_eq_some_head hscheme] at hc
    exact h.namesBearer.unpadded.head c hc
  · intro c hc
    rw [h.parts, List.getLast?_append, List.getLast?_eq_some_getLast h.token_ne_nil,
      Option.some_or, ← List.getLast?_eq_some_getLast h.token_ne_nil] at hc
    exact h.unpadded.last c hc

theorem not_namesBearer (h : Credential cs scheme blanks token) : ¬ NamesBearer cs := by
  intro hbearer
  obtain ⟨blank, hblank⟩ := List.exists_mem_of_ne_nil _ h.blanks_ne_nil
  have hmem : blank ∈ cs := by simp [h.parts, hblank]
  have hletter := hbearer.isBlank_eq_false blank hmem
  rw [h.blank blank hblank] at hletter
  cases hletter

end Credential

/-! ### What is read of a header -/

/-- What a trimmed header reads as: no bearer token where the scheme is another one, a
defect where the scheme stands alone, and otherwise the token that it presents. -/
inductive BearerForm (cs : List Char) : Except Malformation (Option String) → Prop
  | other (scheme : ¬ NamesBearer cs)
      (credential : ∀ scheme blanks token, ¬ Credential cs scheme blanks token) :
      BearerForm cs (.ok none)
  | alone (scheme : NamesBearer cs) : BearerForm cs (.error .emptyBearer)
  | presents {scheme blanks token : List Char} (credential : Credential cs scheme blanks token) :
      BearerForm cs (.ok (some (.ofList token)))

/-- Where a text is cut in front of its first blank, its second part starts with one. -/
theorem trimBlanks_dropWhile_ne {cs : List Char}
    (hne : trimBlanks (cs.dropWhile (!isBlank ·)) ≠ []) :
    trimBlanks (cs.dropWhile (!isBlank ·)) ≠ cs.dropWhile (!isBlank ·) := by
  intro hsame
  have htrimmed := (unpadded_trimBlanks (cs.dropWhile (!isBlank ·))).head
  have hfirst := head?_dropWhile (!isBlank ·) cs
  rw [hsame] at hne htrimmed
  obtain ⟨c, hc⟩ := Option.isSome_iff_exists.1 (List.isSome_head?.2 hne)
  simpa [htrimmed c hc] using hfirst c hc

theorem bearerForm_bearerToken (header : String) :
    BearerForm (trimBlanks header.toList) (bearerToken header) := by
  have hunpadded := unpadded_trimBlanks header.toList
  unfold bearerToken
  dsimp only
  generalize trimBlanks header.toList = cs at hunpadded ⊢
  have hsplit : cs.takeWhile (!isBlank ·) ++ cs.dropWhile (!isBlank ·) = cs :=
    List.takeWhile_append_dropWhile
  have hlast : ∀ c ∈ (cs.dropWhile (!isBlank ·)).getLast?, isBlank c = false := by
    intro c hc
    apply hunpadded.last
    rw [← hsplit, Option.mem_def, List.getLast?_append, Option.mem_def.1 hc, Option.some_or]
  obtain ⟨blanks, hblank, hrest⟩ := exists_blank_before hlast
  split
  · next hscheme =>
    refine .other (fun hbearer => hscheme ?_) fun scheme blanks token h => hscheme ?_
    · have hall : ∀ c ∈ cs, (!isBlank c) = true := by simpa using hbearer.isBlank_eq_false
      rw [List.takeWhile_eq_self_iff.2 hall]
      exact hbearer
    · rw [← h.eq_takeWhile]
      exact h.namesBearer
  · next hscheme =>
    have hbearer : NamesBearer (cs.takeWhile (!isBlank ·)) := not_not.1 hscheme
    split
    · next hempty =>
      rw [hempty, List.append_nil] at hrest
      have hnil : cs.dropWhile (!isBlank ·) = [] := by
        -- blanks behind the scheme would be at the end of a trimmed text
        by_contra hne
        rw [hrest] at hlast hne
        have hend := hlast _ (List.getLast?_eq_some_getLast hne)
        rw [hblank _ (List.getLast_mem hne)] at hend
        cases hend
      rw [hnil, List.append_nil] at hsplit
      rw [hsplit] at hbearer
      exact .alone hbearer
    · next hne =>
      refine .presents ⟨?_, hbearer, ?_, hblank, hne, unpadded_trimBlanks _⟩
      · rw [List.append_assoc, ← hrest, hsplit]
      · rintro rfl
        exact trimBlanks_dropWhile_ne hne hrest.symm

/-- A header has a token in it exactly if it presents one, blanks around it apart. -/
theorem bearerToken_eq_some_iff (header token : String) :
    bearerToken header = .ok (some token) ↔
      ∃ scheme blanks, Credential (trimBlanks header.toList) scheme blanks token.toList := by
  have hform := bearerForm_bearerToken header
  constructor
  · intro h
    rw [h] at hform
    generalize hresult : Except.ok (some token) = result at hform
    cases hform with
    | other => cases hresult
    | alone => cases hresult
    | presents credential =>
      cases hresult
      rw [String.toList_ofList]
      exact ⟨_, _, credential⟩
  · rintro ⟨scheme, blanks, h⟩
    generalize hresult : bearerToken header = result at hform
    cases hform with
    | other scheme credential => exact absurd h (credential _ _ _)
    | alone bearer => exact absurd bearer h.not_namesBearer
    | presents credential =>
      rw [(h.unique credential).2.2.symm, String.ofList_toList]

theorem bearerToken_eq_error_iff (header : String) (defect : Malformation) :
    bearerToken header = .error defect ↔
      defect = .emptyBearer ∧ NamesBearer (trimBlanks header.toList) := by
  have hform := bearerForm_bearerToken header
  generalize bearerToken header = result at hform
  cases hform with
  | other bearer => exact iff_of_false nofun fun h => bearer h.2
  | alone bearer =>
    rw [and_iff_left bearer, Except.error.injEq]
    exact eq_comm
  | presents credential => exact iff_of_false nofun fun h => credential.not_namesBearer h.2

theorem bearerToken_eq_none_iff_forall (header : String) :
    bearerToken header = .ok none ↔ ¬ NamesBearer (trimBlanks header.toList) ∧
      ∀ scheme blanks token, ¬ Credential (trimBlanks header.toList) scheme blanks token := by
  have hform := bearerForm_bearerToken header
  generalize bearerToken header = result at hform
  cases hform with
  | other bearer credential => exact iff_of_true rfl ⟨bearer, credential⟩
  | alone bearer => exact iff_of_false nofun fun h => h.1 bearer
  | presents credential => exact iff_of_false nofun fun h => h.2 _ _ _ credential

/-- A token is read as it is, whatever blanks stand around and between, and in
whatever case the scheme is. -/
theorem bearerToken_of_credential {header : String} {leading cs trailing : List Char}
    {scheme blanks token : List Char} (h : Credential cs scheme blanks token)
    (hleading : Blank leading) (htrailing : Blank trailing)
    (hheader : header.toList = leading ++ cs ++ trailing) :
    bearerToken header = .ok (some (.ofList token)) := by
  rw [bearerToken_eq_some_iff, String.toList_ofList, hheader,
    trimBlanks_append hleading h.unpadded_whole htrailing]
  exact ⟨scheme, blanks, h⟩

/-- A token behind its scheme and one space is read as it is. -/
theorem bearerToken_of_unpadded {raw : String} (hne : raw ≠ "") (h : Unpadded raw.toList) :
    bearerToken ("Bearer " ++ raw) = .ok (some raw) := by
  have hcredential : Credential ("Bearer " ++ raw).toList "Bearer".toList [' '] raw.toList := by
    refine ⟨?_, by decide, List.cons_ne_nil _ _, by decide, by simpa using hne, h⟩
    rw [String.toList_append]
    rfl
  have hheader : ("Bearer " ++ raw).toList = [] ++ ("Bearer " ++ raw).toList ++ [] :=
    (List.append_nil _).symm
  have hread := bearerToken_of_credential hcredential (List.forall_mem_nil _)
    (List.forall_mem_nil _) hheader
  rwa [String.ofList_toList] at hread

end AuthGate

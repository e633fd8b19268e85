import AuthGate.Proofs.Json.Yields

namespace AuthGate.Json

theorem hexUnit_of_digits {a b c d : Char} {p q r s : Nat} (ha : hexValue? a = some p)
    (hb : hexValue? b = some q) (hc : hexValue? c = some r) (hd : hexValue? d = some s)
    (hwide : 4 ≤ a.utf8Size + b.utf8Size + c.utf8Size + d.utf8Size) (rest : List Symbol) :
    hexUnit (.char a :: .char b :: .char c :: .char d :: rest) =
      .ok (((p * 16 + q) * 16 + r) * 16 + s) := by
  have hfour : bytesUpToFour (.char a :: .char b :: .char c :: .char d :: rest) = 4 := by
    simp only [bytesUpToFour, List.take_succ_cons, List.take_zero, List.foldl_cons, List.foldl_nil,
      Symbol.width]
    omega
  unfold hexUnit
  rw [hfour, if_neg (by decide)]
  simp [Symbol.char?, ha, hb, hc, hd]

/-- A control character is written as its code in four digits. -/
theorem hexUnit_control {c : Char} (hcontrol : c.val < 0x20) (rest : List Symbol) :
    hexUnit (.char '0' :: .char '0' :: .char (if c.val < 0x10 then '0' else '1') ::
      .char (c.toNat % 16).digitChar :: rest) = .ok c.toNat := by
  have hlt : c.toNat < 32 := hcontrol
  have hhigh : hexValue? (if c.val < 0x10 then '0' else '1') = some (c.toNat / 16) := by
    split
    · next h =>
      have h' : c.toNat < 16 := h
      rw [show c.toNat / 16 = 0 by omega]
      rfl
    · next h =>
      have h' : ¬ c.toNat < 16 := h
      rw [show c.toNat / 16 = 1 by omega]
      rfl
  have hlow : ∀ n < 16, hexValue? n.digitChar = some n := by decide
  have hwide := Char.utf8Size_pos
  rw [hexUnit_of_digits (p := 0) (q := 0) rfl rfl hhigh (hlow _ (Nat.mod_lt _ (by decide))) (by
    have := hwide '0'
    have := hwide (if c.val < 0x10 then '0' else '1')
    have := hwide (c.toNat % 16).digitChar
    omega)]
  congr 1
  omega

/-- A written character is either itself or an escape that begins with a
backslash. An escape says how long it is, also to a reader that does not ask
what it stands for. -/
theorem escapeChar_cases (c : Char) :
    (Value.escapeChar c = [c] ∧ c ≠ '"' ∧ c ≠ '\\' ∧ ¬ c.val < 0x20) ∨
      ∃ cs, Value.escapeChar c = '\\' :: cs ∧ ∀ rest : List Symbol,
        escape (cs.map .char ++ rest) = .char c cs.length ∧
        ∃ d, skippedEscape (cs.map .char ++ rest) = .char d cs.length := by
  by_cases hshort : c ∈ ['"', '\\', '\n', '\r', '\t', '\x08', '\x0c']
  · right
    simp only [List.mem_cons, List.not_mem_nil, or_false] at hshort
    rcases hshort with rfl | rfl | rfl | rfl | rfl | rfl | rfl
    all_goals exact ⟨[_], rfl, fun rest => ⟨rfl, _, rfl⟩⟩
  · simp only [List.mem_cons, List.not_mem_nil, or_false, not_or] at hshort
    obtain ⟨h1, h2, h3, h4, h5, h6, h7⟩ := hshort
    unfold Value.escapeChar
    rw [if_neg h1, if_neg h2, if_neg h3, if_neg h4, if_neg h5, if_neg h6, if_neg h7]
    split
    · next hcontrol =>
      have hlt : c.toNat < 32 := hcontrol
      have hunit := hexUnit_control hcontrol
      have hletter : shortEscape? 'u' = none := rfl
      refine .inr ⟨_, rfl, fun rest => ⟨?_, 'u', ?_⟩⟩
      · simp only [List.map_cons, List.map_nil, List.cons_append, List.nil_append, escape, hletter,
          hunit]
        simp [isTrailing, isLeading, show ¬ 0xDC00 ≤ c.toNat by omega,
          show ¬ 0xD800 ≤ c.toNat by omega]
      · simp only [List.map_cons, List.map_nil, List.cons_append, List.nil_append, skippedEscape,
          hletter, hunit]
        rfl
    · next hplain => exact .inl ⟨rfl, h1, h2, hplain⟩

theorem scanText_skipped (skipped rest : List Symbol) (taken : List Char) (position : Position) :
    ∃ after, scanText skipped.length taken none position (skipped ++ rest) =
      scanText 0 taken none after rest := by
  induction skipped generalizing position with
  | nil => exact ⟨position, rfl⟩
  | cons s skipped ih =>
    obtain ⟨after, h⟩ := ih (position.after s)
    exact ⟨after, by rw [← h, List.length_cons, List.cons_append, scanText]⟩

theorem skipText_skipped (skipped rest : List Symbol) (position : Position) :
    ∃ after, skipText skipped.length position (skipped ++ rest) = skipText 0 after rest := by
  induction skipped generalizing position with
  | nil => exact ⟨position, rfl⟩
  | cons s skipped ih =>
    obtain ⟨after, h⟩ := ih (position.after s)
    exact ⟨after, by rw [← h, List.length_cons, List.cons_append, skipText]⟩

/-- A written character is taken as the character that was written. -/
theorem scanText_escapeChar (c : Char) (rest : List Symbol) (taken : List Char)
    (position : Position) :
    ∃ after, scanText 0 taken none position ((Value.escapeChar c).map .char ++ rest) =
      scanText 0 (c :: taken) none after rest := by
  rcases escapeChar_cases c with ⟨hself, hquote, hslash, hplain⟩ | ⟨cs, hescape, hread⟩
  · refine ⟨position.after (.char c), ?_⟩
    rw [hself, List.map_cons, List.map_nil, List.cons_append, List.nil_append, scanText]
    dsimp only
    rw [if_neg hquote, if_neg hslash, if_neg hplain]
  · obtain ⟨after, h⟩ := scanText_skipped (cs.map .char) rest (c :: taken)
      (position.after (.char '\\'))
    refine ⟨after, ?_⟩
    rw [hescape, List.map_cons, List.cons_append, scanText]
    dsimp only
    rw [if_neg (by decide), if_pos rfl, (hread rest).1, ← h, List.length_map]

theorem skipText_escapeChar (c : Char) (rest : List Symbol) (position : Position) :
    ∃ after, skipText 0 position ((Value.escapeChar c).map .char ++ rest) =
      skipText 0 after rest := by
  rcases escapeChar_cases c with ⟨hself, hquote, hslash, hplain⟩ | ⟨cs, hescape, hread⟩
  · refine ⟨position.after (.char c), ?_⟩
    rw [hself, List.map_cons, List.map_nil, List.cons_append, List.nil_append, skipText]
    dsimp only
    rw [if_neg hquote, if_neg hslash, if_neg hplain]
  · obtain ⟨after, h⟩ := skipText_skipped (cs.map .char) rest (position.after (.char '\\'))
    obtain ⟨d, hskipped⟩ := (hread rest).2
    refine ⟨after, ?_⟩
    rw [hescape, List.map_cons, List.cons_append, skipText]
    dsimp only
    rw [if_neg (by decide), if_pos rfl, hskipped, ← h, List.length_map]

theorem scanText_written (cs : List Char) (rest : List Symbol) (taken : List Char)
    (position : Position) :
    ∃ after, scanText 0 taken none position
        ((cs.flatMap Value.escapeChar).map .char ++ .char '"' :: rest) =
      .ok (String.ofList (taken.reverse ++ cs)) ⟨rest, after⟩ := by
  induction cs generalizing taken position with
  | nil => exact ⟨_, by rw [List.append_nil]; rfl⟩
  | cons c cs ih =>
    obtain ⟨between, hfirst⟩ := scanText_escapeChar c
      ((cs.flatMap Value.escapeChar).map .char ++ .char '"' :: rest) taken position
    obtain ⟨after, hrest⟩ := ih (c :: taken) between
    refine ⟨after, ?_⟩
    rw [List.flatMap_cons, List.map_append, List.append_assoc, hfirst, hrest, List.reverse_cons,
      List.append_assoc, List.singleton_append]

theorem skipText_written (cs : List Char) (rest : List Symbol) (position : Position) :
    ∃ after, skipText 0 position
        ((cs.flatMap Value.escapeChar).map .char ++ .char '"' :: rest) = .ok () ⟨rest, after⟩ := by
  induction cs generalizing position with
  | nil => exact ⟨_, rfl⟩
  | cons c cs ih =>
    obtain ⟨between, hfirst⟩ := skipText_escapeChar c
      ((cs.flatMap Value.escapeChar).map .char ++ .char '"' :: rest) position
    obtain ⟨after, hrest⟩ := ih between
    refine ⟨after, ?_⟩
    rw [List.flatMap_cons, List.map_append, List.append_assoc, hfirst, hrest]

/-- The symbols of a text that is written in quotes, behind the first quote. -/
def quotedRest (s : String) (rest : List Symbol) : List Symbol :=
  (s.toList.flatMap Value.escapeChar).map .char ++ .char '"' :: rest

theorem map_renderText_append (s : String) (rest : List Symbol) :
    (Value.renderText s).map .char ++ rest = .char '"' :: quotedRest s rest := by
  simp [Value.renderText, quotedRest]

namespace Reader

/-- A text is read back behind its first quote. -/
theorem yields_text (s : String) (rest : List Symbol) : Yields text (quotedRest s rest) s rest := by
  intro position
  obtain ⟨after, h⟩ := scanText_written s.toList rest [] position
  refine ⟨after, ?_⟩
  rw [List.reverse_nil, List.nil_append, String.ofList_toList] at h
  exact h

theorem yields_passText (s : String) (rest : List Symbol) :
    Yields passText (quotedRest s rest) () rest := fun position =>
  skipText_written s.toList rest position

end Reader

end AuthGate.Json

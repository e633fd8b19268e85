namespace AuthGate

/-- The pieces of a text between its separators. There is one more of them than
there are separators. -/
def pieces (separator : Char) : List Char → List (List Char)
  | [] => [[]]
  | c :: cs =>
    if c = separator then [] :: pieces separator cs
    else match pieces separator cs with
      | [] => [[c]]
      | piece :: rest => (c :: piece) :: rest

theorem pieces_ne_nil (separator : Char) (cs : List Char) : pieces separator cs ≠ [] := by
  cases cs with
  | nil => exact List.cons_ne_nil _ _
  | cons c cs =>
    unfold pieces
    split
    · exact List.cons_ne_nil _ _
    · split <;> exact List.cons_ne_nil _ _

/-- Pieces with the separator between them are the text again. -/
theorem intercalate_pieces (separator : Char) (cs : List Char) :
    [separator].intercalate (pieces separator cs) = cs := by
  induction cs with
  | nil => rfl
  | cons c cs ih =>
    unfold pieces
    split
    · next h =>
      subst h
      match hp : pieces c cs with
      | [] => exact absurd hp (pieces_ne_nil c cs)
      | piece :: rest =>
        rw [hp] at ih
        rw [List.intercalate_cons_cons, ih]
        rfl
    · match hp : pieces separator cs with
      | [] => exact absurd hp (pieces_ne_nil separator cs)
      | [piece] =>
        rw [hp] at ih
        rw [List.intercalate_singleton] at ih ⊢
        rw [ih]
      | piece :: next :: rest =>
        rw [hp] at ih
        rw [List.intercalate_cons_cons] at ih ⊢
        rw [List.cons_append, List.cons_append, ih]

theorem pieces_of_not_mem {separator : Char} {cs : List Char} (h : separator ∉ cs) :
    pieces separator cs = [cs] := by
  induction cs with
  | nil => rfl
  | cons c cs ih =>
    rw [List.mem_cons, not_or] at h
    obtain ⟨hne, hmem⟩ := h
    rw [pieces, if_neg (Ne.symm hne), ih hmem]

/-- A text without separators is a piece of its own in front of one. -/
theorem pieces_append_cons {separator : Char} {cs : List Char} (h : separator ∉ cs)
    (rest : List Char) :
    pieces separator (cs ++ separator :: rest) = cs :: pieces separator rest := by
  induction cs with
  | nil => rw [List.nil_append, pieces, if_pos rfl]
  | cons c cs ih =>
    rw [List.mem_cons, not_or] at h
    obtain ⟨hne, hmem⟩ := h
    rw [List.cons_append, pieces, if_neg (Ne.symm hne), ih hmem]

end AuthGate

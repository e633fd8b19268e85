import AuthGate.Proofs.Json.Scalar

namespace AuthGate.Json

open Reader

variable {α : Type}

/-- The parts of a container as they are written. A comma stands in front of all but
the first. -/
def partChars : Bool → List (List Char) → List Char
  | _, [] => []
  | first, part :: parts => (if first then [] else [',']) ++ part ++ partChars false parts

theorem commaSeparated_eq_partChars (parts : List (List Char)) :
    Value.commaSeparated parts = partChars true parts := by
  unfold Value.commaSeparated
  induction parts with
  | nil => rfl
  | cons part parts ih =>
    cases parts with
    | nil => simp [partChars]
    | cons next parts =>
      rw [List.intercalate_cons_cons, ih]
      simp [partChars]

/-- Of all parts only the first may add no character. -/
theorem length_le_partChars (first : Bool) (parts : List (List Char)) :
    parts.length ≤ (partChars first parts).length + if first then 1 else 0 := by
  induction parts generalizing first with
  | nil => simp
  | cons part parts ih =>
    have hlater := ih false
    cases first <;> simp [partChars] at hlater ⊢ <;> omega

/-- What follows a part is a comma or the end of the container. -/
theorem delimited_partChars (parts : List (List Char)) {close : Char}
    (hclose : close = '}' ∨ close = ']') (rest : List Symbol) :
    Delimited ((partChars false parts).map .char ++ .char close :: rest) := by
  cases parts with
  | nil =>
    rintro _ ⟨⟩
    rcases hclose with rfl | rfl
    · exact .inr (.inl rfl)
    · exact .inr (.inr rfl)
  | cons part parts =>
    rintro _ ⟨⟩
    exact .inl rfl

theorem renderItems_map {write : α → Value} (items : List α) :
    Value.renderItems (items.map write) = items.map fun a => (write a).renderChars := by
  induction items with
  | nil => rfl
  | cons a items ih => rw [List.map_cons, List.map_cons, Value.renderItems, ih]

theorem yields_nextItem_false (first : Bool) (rest : List Symbol) :
    Yields (nextItem first) (.char ']' :: rest) false (.char ']' :: rest) := by
  have hpeek := yields_peekToken_cons (s := .char ']') rest rfl
  unfold nextItem
  exact hpeek.bind (yields_pure false _)

theorem yields_nextItem_true (first : Bool) {c : Char} (hspace : isSpace (.char c) = false)
    (hend : c ≠ ']') (rest : List Symbol) :
    Yields (nextItem first) ((if first then [] else [.char ',']) ++ .char c :: rest) true
      (.char c :: rest) := by
  have hitem := yields_peekToken_cons rest hspace
  have hother : some (Symbol.char c) ≠ some (.char ']') := by simpa using hend
  have hlast : Yields (do
      let ahead ← peekToken
      if ahead.isNone then failAhead .endInValue
      if ahead = some (.char ']') then failAhead .trailingComma
      return true) (.char c :: rest) true (.char c :: rest) := by
    refine hitem.bind ?_
    simp only [Option.isNone_some, Bool.false_eq_true, if_false, if_neg hother]
    exact yields_pure true _
  unfold nextItem
  cases first with
  | true =>
    refine hitem.bind ?_
    simp only [if_neg hother]
    exact hlast
  | false =>
    have hcomma := yields_peekToken_cons (s := .char ',') (.char c :: rest) rfl
    exact hcomma.bind ((yields_next _ _).bind hlast)

/-- A value can be an item of a list if it begins with neither space nor the end of
a list. A reader gets `a` from it. -/
structure ReadsItem (read : Reader α) (v : Value) (a : α) : Prop where
  opens : ∃ c cs, v.renderChars = c :: cs ∧ isSpace (.char c) = false ∧ c ≠ ']'
  reads : Reads read v.renderChars a

theorem yields_readItems {read : Reader α} {write : α → Value} {items : List α}
    (hitems : ∀ a ∈ items, ReadsItem read (write a) a) (first : Bool) {fuel : Nat}
    (hfuel : items.length < fuel) (taken : List α) (rest : List Symbol) :
    Yields (readItems read fuel first taken)
      ((partChars first (items.map fun a => (write a).renderChars)).map .char ++ .char ']' :: rest)
      (taken.reverse ++ items) (.char ']' :: rest) := by
  induction items generalizing first fuel taken with
  | nil =>
    obtain ⟨fuel, rfl⟩ : ∃ n, fuel = n + 1 := ⟨fuel - 1, by omega⟩
    unfold readItems
    refine (yields_nextItem_false first rest).bind ?_
    rw [List.append_nil]
    exact yields_pure _ _
  | cons a items ih =>
    rw [List.length_cons] at hfuel
    obtain ⟨fuel, rfl⟩ : ∃ n, fuel = n + 1 := ⟨fuel - 1, by omega⟩
    obtain ⟨⟨c, cs, hchars, hspace, hend⟩, hread⟩ := hitems a (List.mem_cons_self ..)
    let later := items.map fun b => (write b).renderChars
    have hvalue := hread _ (delimited_partChars later (.inr rfl) rest)
    have hrest := ih (fun b hb => hitems b (List.mem_cons_of_mem _ hb)) false
      (Nat.lt_of_succ_lt_succ hfuel) (a :: taken)
    have hnext := yields_nextItem_true first hspace hend
      (cs.map .char ++ ((partChars false later).map .char ++ .char ']' :: rest))
    have hinput : (partChars first ((write a).renderChars :: later)).map .char ++
        .char ']' :: rest = (if first then [] else [.char ',']) ++ .char c :: (cs.map .char ++
          ((partChars false later).map .char ++ .char ']' :: rest)) := by
      cases first <;> simp [partChars, hchars]
    rw [List.map_cons, hinput]
    unfold readItems
    refine hnext.bind ?_
    simp only [if_true]
    rw [hchars] at hvalue
    rw [List.reverse_cons, List.append_assoc, List.singleton_append] at hrest
    exact (Yields.within _ hvalue).bind hrest

theorem yields_endList (rest : List Symbol) : Yields endList (.char ']' :: rest) () rest := by
  have hpeek := yields_peekToken_cons (s := .char ']') rest rfl
  unfold endList
  exact hpeek.bind ((yields_next _ _).bind (yields_pure () rest))

/-- A list is read as the list of what its items are read as. -/
theorem reads_readList {read : Reader α} {write : α → Value} {items : List α}
    (hitems : ∀ a ∈ items, ReadsItem read (write a) a) :
    Reads (readList read) (Value.list (items.map write)).renderChars items := by
  intro rest _
  have hinput : (Value.list (items.map write)).renderChars.map .char ++ rest =
      .char '[' :: ((partChars true (items.map fun a => (write a).renderChars)).map .char ++
        .char ']' :: rest) := by
    simp [Value.renderChars, renderItems_map, commaSeparated_eq_partChars]
  rw [hinput]
  refine yields_readToken rfl ?_
  refine (yields_next _ _).bind (Yields.get fun position => ?_)
  refine Yields.closing (yields_readItems hitems true ?_ [] rest) (yields_endList rest)
  have hlength := length_le_partChars true (items.map fun a => (write a).renderChars)
  simp only [List.length_map, if_true] at hlength
  simp only [List.length_append, List.length_map, List.length_cons]
  omega

/-- An object begins with a brace, wherever it stands. -/
theorem readsItem_object {read : Reader α} {members : List (String × Value)} {a : α}
    (h : Reads read (Value.object members).renderChars a) : ReadsItem read (.object members) a :=
  ⟨⟨'{', _, rfl, rfl, by decide⟩, h⟩

end AuthGate.Json

import AuthGate.Json.Value

namespace AuthGate.Json.Reader

variable {α β : Type}

/-- A reader takes `input` down to `rest` and gets `a` from it, wherever in the
document that is. -/
def Yields (read : Reader α) (input : List Symbol) (a : α) (rest : List Symbol) : Prop :=
  ∀ position, ∃ after, read ⟨input, position⟩ = .ok a ⟨rest, after⟩

theorem yields_pure (a : α) (input : List Symbol) : Yields (pure a) input a input :=
  fun position => ⟨position, rfl⟩

theorem Yields.bind {read : Reader α} {andThen : α → Reader β} {input middle rest : List Symbol}
    {a : α} {b : β} (hread : Yields read input a middle)
    (hcontinue : Yields (andThen a) middle b rest) :
    Yields (read >>= andThen) input b rest := by
  intro position
  obtain ⟨between, hbetween⟩ := hread position
  obtain ⟨after, hafter⟩ := hcontinue between
  refine ⟨after, ?_⟩
  change EStateM.bind read andThen _ = _
  unfold EStateM.bind
  rw [hbetween]
  exact hafter

theorem Yields.map {read : Reader α} {input rest : List Symbol} {a : α} (f : α → β)
    (hread : Yields read input a rest) : Yields (f <$> read) input (f a) rest := by
  intro position
  obtain ⟨after, hafter⟩ := hread position
  refine ⟨after, ?_⟩
  change EStateM.map f read _ = _
  unfold EStateM.map
  rw [hafter]

/-- A reader may look at what is left, but not at where it is. -/
theorem Yields.get {andThen : Cursor → Reader β} {input rest : List Symbol} {b : β}
    (hcontinue : ∀ position, Yields (andThen ⟨input, position⟩) input b rest) :
    Yields (get >>= andThen) input b rest := fun position => hcontinue position position

theorem yields_peek (input : List Symbol) : Yields peek input input.head? input :=
  fun position => ⟨position, rfl⟩

theorem yields_next (s : Symbol) (rest : List Symbol) : Yields next (s :: rest) (some s) rest :=
  fun position => ⟨position.after s, rfl⟩

theorem yields_peekToken {input : List Symbol} (h : ∀ s ∈ input.head?, isSpace s = false) :
    Yields peekToken input input.head? input := by
  intro position
  have hpass : passWhile isSpace position input = ⟨input, position⟩ := by
    cases input with
    | nil => rfl
    | cons s rest => rw [passWhile, h s rfl, if_neg Bool.false_ne_true]
  refine ⟨position, ?_⟩
  unfold peekToken
  rw [hpass]

theorem yields_peekToken_cons {s : Symbol} (rest : List Symbol) (hspace : isSpace s = false) :
    Yields peekToken (s :: rest) (some s) (s :: rest) :=
  yields_peekToken (by rintro _ ⟨⟩; exact hspace)

theorem Yields.located {read : Reader α} {input rest : List Symbol} {a : α}
    (hread : Yields read input a rest) : Yields (located read) input a rest := by
  intro position
  obtain ⟨after, hafter⟩ := hread position
  refine ⟨after, ?_⟩
  unfold Reader.located
  rw [hafter]

theorem Yields.within {read : Reader α} {input rest : List Symbol} {a : α} (step : PathStep)
    (hread : Yields read input a rest) : Yields (within step read) input a rest := by
  intro position
  obtain ⟨after, hafter⟩ := hread position
  refine ⟨after, ?_⟩
  unfold Reader.within
  rw [hafter]

theorem Yields.attempt {read : Reader α} {input rest : List Symbol} {a : α}
    (hread : Yields read input a rest) : Yields (attempt read) input (.ok a) rest := by
  intro position
  obtain ⟨after, hafter⟩ := hread position
  refine ⟨after, ?_⟩
  unfold Reader.attempt
  rw [hafter]

theorem Yields.dropped {read : Reader α} {input rest : List Symbol} {a : α}
    (hread : Yields read input a rest) :
    Yields (do let _ ← Reader.attempt read) input () rest :=
  hread.attempt.bind (yields_pure () rest)

theorem Yields.closing {inside : Reader α} {close : Reader Unit} {input middle rest : List Symbol}
    {a : α} (hinside : Yields inside input a middle) (hclose : Yields close middle () rest) :
    Yields (closing inside close) input a rest := by
  unfold Json.closing
  exact hinside.attempt.bind (hclose.attempt.bind (yields_pure a rest))

/-- A reader that takes a whole document reads it. -/
theorem Yields.whole {read : Reader α} {input : List Symbol} {a : α}
    (hread : Yields read input a []) : read.whole (.ofSymbols input) = .ok a := by
  have hend : Yields peekToken [] none [] := yields_peekToken (by rintro _ ⟨⟩)
  have hfinish : Yields finish [] () [] := hend.bind (yields_pure () [])
  have hboth : Yields (do let a ← read; finish; return a) input a [] :=
    hread.bind (hfinish.bind (yields_pure a []))
  obtain ⟨after, hafter⟩ := hboth Position.start
  unfold Reader.whole Cursor.ofSymbols
  rw [hafter]

end AuthGate.Json.Reader

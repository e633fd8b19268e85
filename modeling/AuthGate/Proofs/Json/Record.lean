import AuthGate.Proofs.Json.List
import AuthGate.Proofs.Json.Skip

namespace AuthGate.Json

open Reader

variable {α : Type}

/-- The members of an object as they are written. A comma stands in front of all
but the first. -/
def memberChars : Bool → List (String × Value) → List Char
  | _, [] => []
  | first, (key, v) :: members =>
    (if first then [] else [',']) ++ Value.renderText key ++ ':' :: v.renderChars
      ++ memberChars false members

theorem memberChars_eq_partChars (first : Bool) (members : List (String × Value)) :
    memberChars first members = partChars first (Value.renderMembers members) := by
  induction members generalizing first with
  | nil => rfl
  | cons member members ih =>
    obtain ⟨key, v⟩ := member
    simp [memberChars, Value.renderMembers, partChars, ih]

theorem length_renderMembers (members : List (String × Value)) :
    (Value.renderMembers members).length = members.length := by
  induction members with
  | nil => rfl
  | cons member members ih =>
    obtain ⟨key, v⟩ := member
    rw [Value.renderMembers, List.length_cons, List.length_cons, ih]

theorem delimited_memberChars (members : List (String × Value)) (rest : List Symbol) :
    Delimited ((memberChars false members).map .char ++ .char '}' :: rest) := by
  rw [memberChars_eq_partChars]
  exact delimited_partChars _ (.inl rfl) rest

theorem yields_nextKey_none (first : Bool) (rest : List Symbol) :
    Yields (nextKey first) (.char '}' :: rest) none (.char '}' :: rest) := by
  have hpeek := yields_peekToken_cons (s := .char '}') rest rfl
  unfold nextKey
  exact hpeek.bind (yields_pure none _)

theorem yields_nextKey_some (first : Bool) (key : String) (rest : List Symbol) :
    Yields (nextKey first) ((if first then [] else [.char ',']) ++ .char '"' :: quotedRest key rest)
      (some key) rest := by
  have hquote := yields_peekToken_cons (s := .char '"') (quotedRest key rest) rfl
  have hkey : Yields (some <$> text) (quotedRest key rest) (some key) rest :=
    (yields_text key rest).map some
  unfold nextKey
  cases first with
  | true => exact hquote.bind (hquote.bind ((yields_next _ _).bind hkey))
  | false =>
    have hcomma := yields_peekToken_cons (s := .char ',')
      (.char '"' :: quotedRest key rest) rfl
    exact hcomma.bind ((yields_next _ _).bind (hquote.bind ((yields_next _ _).bind hkey)))

theorem yields_readColon (rest : List Symbol) : Yields readColon (.char ':' :: rest) () rest := by
  have hpeek := yields_peekToken_cons (s := .char ':') rest rfl
  unfold readColon
  exact hpeek.bind ((yields_next _ _).bind (yields_pure () rest))

theorem yields_endObject (rest : List Symbol) : Yields endObject (.char '}' :: rest) () rest := by
  have hpeek := yields_peekToken_cons (s := .char '}') rest rfl
  unfold endObject
  exact hpeek.bind ((yields_next _ _).bind (yields_pure () rest))

/-- The members of an object, in order, make a record `a` into a record `b` if
the fields in `seen` have been read before. Members that are no fields have to
be well-formed, and are passed over. -/
inductive Fills (shape : Shape Reader Unit α) :
    List String → α → List (String × Value) → α → Prop where
  | done {seen : List String} {a : α} (hcomplete : shape.missing? seen = none) :
    Fills shape seen a [] a
  | field {seen : List String} {a b c : α} {key : String} {v : Value}
    {members : List (String × Value)} {f : Field Reader Unit α}
    (hfield : shape.fields.find? (·.name = key) = some f) (hfresh : seen.contains key = false)
    (hread : Reads (f.read () a) v.renderChars b) (hrest : Fills shape (key :: seen) b members c) :
    Fills shape seen a ((key, v) :: members) c
  | stranger {seen : List String} {a b : α} {key : String} {v : Value}
    {members : List (String × Value)} (hfield : shape.fields.find? (·.name = key) = none)
    (hskip : Reads skipValue v.renderChars ()) (hrest : Fills shape seen a members b) :
    Fills shape seen a ((key, v) :: members) b

theorem map_memberChars_append (first : Bool) (key : String) (v : Value)
    (members : List (String × Value)) (rest : List Symbol) :
    (memberChars first ((key, v) :: members)).map .char ++ rest =
      (if first then [] else [.char ',']) ++ .char '"' :: quotedRest key (.char ':' ::
        (v.renderChars.map .char ++ ((memberChars false members).map .char ++ rest))) := by
  rw [← map_renderText_append]
  cases first <;> simp [memberChars]

theorem Fills.yields {shape : Shape Reader Unit α} {seen : List String} {a b : α}
    {members : List (String × Value)} (h : Fills shape seen a members b) (first : Bool)
    {fuel : Nat} (hfuel : members.length < fuel) (rest : List Symbol) :
    Yields (readFieldMembers shape fuel seen first a)
      ((memberChars first members).map .char ++ .char '}' :: rest) b (.char '}' :: rest) := by
  induction h generalizing first fuel with
  | done hcomplete =>
    obtain ⟨fuel, rfl⟩ : ∃ n, fuel = n + 1 := ⟨fuel - 1, by omega⟩
    unfold readFieldMembers
    refine (yields_nextKey_none first rest).bind ?_
    simp only [hcomplete]
    exact yields_pure _ _
  | @field seen a b c key v members f hfield hfresh hread _ ih =>
    rw [List.length_cons] at hfuel
    obtain ⟨fuel, rfl⟩ : ∃ n, fuel = n + 1 := ⟨fuel - 1, by omega⟩
    rw [map_memberChars_append]
    unfold readFieldMembers
    refine (yields_nextKey_some first key _).bind ?_
    simp only [hfield, hfresh, Bool.false_eq_true, if_false]
    have hvalue := hread _ (delimited_memberChars members rest)
    refine (Yields.within _ ((yields_readColon _).bind hvalue)).bind ?_
    exact ih false (by omega)
  | @stranger seen a b key v members hfield hskip _ ih =>
    rw [List.length_cons] at hfuel
    obtain ⟨fuel, rfl⟩ : ∃ n, fuel = n + 1 := ⟨fuel - 1, by omega⟩
    rw [map_memberChars_append]
    unfold readFieldMembers
    refine (yields_nextKey_some first key _).bind ?_
    simp only [hfield]
    have hvalue := hskip _ (delimited_memberChars members rest)
    refine (Yields.within _ ((yields_readColon _).bind hvalue)).bind ?_
    exact ih false (by omega)

theorem map_renderChars_object_append (members : List (String × Value)) (rest : List Symbol) :
    (Value.object members).renderChars.map .char ++ rest =
      .char '{' :: ((memberChars true members).map .char ++ .char '}' :: rest) := by
  simp [Value.renderChars, commaSeparated_eq_partChars, memberChars_eq_partChars]

/-- The number of symbols that are left is enough to read all members of an object,
since each of them is followed by a comma or the end. -/
theorem yields_object {read : Nat → Reader α} {members : List (String × Value)} {a : α}
    {rest : List Symbol}
    (hread : ∀ fuel, members.length < fuel → Yields (read fuel)
      ((memberChars true members).map .char ++ .char '}' :: rest) a (.char '}' :: rest)) :
    Yields (do let _ ← next; closing (read ((← get).rest.length + 1)) endObject)
      (.char '{' :: ((memberChars true members).map .char ++ .char '}' :: rest)) a rest := by
  have hlength : members.length ≤ (memberChars true members).length + 1 := by
    rw [memberChars_eq_partChars, ← length_renderMembers members]
    exact length_le_partChars true _
  refine (yields_next _ _).bind (Yields.get fun position => ?_)
  refine Yields.closing (hread _ ?_) (yields_endObject rest)
  rw [List.length_append, List.length_map, List.length_cons]
  omega

/-- An object whose members fill a record is read as that record. -/
theorem Fills.reads {shape : Shape Reader Unit α} {members : List (String × Value)} {a : α}
    (h : Fills shape [] shape.initial members a) :
    Reads (readRecord shape) (Value.object members).renderChars a := by
  intro rest _
  rw [map_renderChars_object_append]
  exact yields_readToken rfl (yields_object fun fuel hfuel => h.yields true hfuel rest)

end AuthGate.Json

namespace AuthGate

/-- A non-negative span of time, counted in nanoseconds. Its whole seconds fit
in 64 bits, so every span below `2 ^ 64` seconds has a value and no other. -/
structure Duration where
  nanos : Nat
  inRange : nanos < 0x1_0000_0000_0000_0000 * 1_000_000_000
deriving DecidableEq

namespace Duration

/-- The span of a number of nanoseconds, if its seconds fit in 64 bits. -/
def ofNanos? (nanos : Nat) : Option Duration :=
  if h : nanos < 0x1_0000_0000_0000_0000 * 1_000_000_000 then some ⟨nanos, h⟩ else none

/-- The empty span. -/
def zero : Duration := ⟨0, by decide⟩

instance : Inhabited Duration := ⟨zero⟩

/-- The span of a number of seconds below `2 ^ 64`. -/
def seconds (count : Nat) (h : count < 0x1_0000_0000_0000_0000 := by decide) : Duration :=
  ⟨count * 1_000_000_000, by omega⟩

/-- The whole seconds of a span. -/
def secs (d : Duration) : Nat := d.nanos / 1_000_000_000

/-- The nanoseconds of a span past its last whole second. -/
def subsecNanos (d : Duration) : Nat := d.nanos % 1_000_000_000

/-- The exact sum, if it is a span again. -/
def add? (a b : Duration) : Option Duration := ofNanos? (a.nanos + b.nanos)

/-- The exact multiple, if it is a span again. -/
def scale? (d : Duration) (factor : Nat) : Option Duration := ofNanos? (d.nanos * factor)

instance : LE Duration := ⟨fun a b => a.nanos ≤ b.nanos⟩

instance : LT Duration := ⟨fun a b => a.nanos < b.nanos⟩

instance (a b : Duration) : Decidable (a ≤ b) := inferInstanceAs (Decidable (a.nanos ≤ b.nanos))

instance (a b : Duration) : Decidable (a < b) := inferInstanceAs (Decidable (a.nanos < b.nanos))

instance : Min Duration := ⟨fun a b => if a ≤ b then a else b⟩

instance : Max Duration := ⟨fun a b => if a ≤ b then b else a⟩

theorem le_def {a b : Duration} : a ≤ b ↔ a.nanos ≤ b.nanos := Iff.rfl

theorem lt_def {a b : Duration} : a < b ↔ a.nanos < b.nanos := Iff.rfl

theorem eq_of_nanos_eq {a b : Duration} (h : a.nanos = b.nanos) : a = b := by
  cases a; cases b; cases h; rfl

theorem ofNanos?_eq_some {n : Nat} {d : Duration} : ofNanos? n = some d ↔ n = d.nanos := by
  unfold ofNanos?
  split
  · constructor
    · rintro h; cases h; rfl
    · rintro rfl; rfl
  · next h =>
    constructor
    · intro h'; cases h'
    · rintro rfl; exact absurd d.inRange h

@[simp] theorem ofNanos?_nanos (d : Duration) : ofNanos? d.nanos = some d :=
  ofNanos?_eq_some.2 rfl

theorem secs_add_subsecNanos (d : Duration) : d.secs * 1_000_000_000 + d.subsecNanos = d.nanos :=
  Nat.div_add_mod' ..

/-- Rounds a span up to whole seconds, stopping at the largest 64-bit count. -/
def ceilSecs (d : Duration) : Nat :=
  if 0 < d.subsecNanos then min (d.secs + 1) (0xffff_ffff_ffff_ffff) else d.secs

end Duration

end AuthGate

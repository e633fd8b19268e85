import AuthGate.Proofs.Text.Decimal
import AuthGate.Time.Span

namespace AuthGate

namespace SpanUnit

/-- A unit of a second or longer lasts whole seconds. -/
theorem div_mul_nanos {u : SpanUnit} (h : 1_000_000_000 ≤ u.nanos) :
    u.nanos / 1_000_000_000 * 1_000_000_000 = u.nanos := by
  cases u <;> simp only [nanos] at h ⊢ <;> omega

/-- A count of a unit comes apart into seconds and nanoseconds without loss. -/
theorem nanos_whole (u : SpanUnit) (n : Nat) :
    (u.whole n).1 * 1_000_000_000 + (u.whole n).2 = n * u.nanos := by
  unfold whole
  split
  · simp
  · next hlong =>
    dsimp only
    rw [Nat.add_zero, Nat.mul_assoc, div_mul_nanos (Nat.le_of_not_lt hlong)]

/-- A word of letters that spells a unit. -/
structure IsWord (u : SpanUnit) (word : String) : Prop where
  spells : ofName? word = some u
  nonempty : word.toList ≠ []
  letters : ∀ c ∈ word.toList, Duration.isUnitLetter c = true

/-- No spelling stands for two units. -/
theorem isWord_of_mem_names {u : SpanUnit} {word : String} (h : word ∈ u.names) :
    u.IsWord word := by
  have hword : ofName? word = some u ∧ word.toList ≠ [] ∧
      word.toList.all Duration.isUnitLetter = true := by
    revert word
    cases u <;> decide
  obtain ⟨hspells, hnonempty, hletters⟩ := hword
  exact ⟨hspells, hnonempty, List.all_eq_true.1 hletters⟩

end SpanUnit

namespace Duration

/-- A letter of a unit is neither part of a count nor a blank. -/
theorem class_of_isUnitLetter {c : Char} (h : isUnitLetter c = true) :
    c.isDigit = false ∧ isBlank c = false := by
  have hcode : (65 ≤ c.toNat ∧ c.toNat ≤ 90) ∨ (97 ≤ c.toNat ∧ c.toNat ≤ 122) ∨
      c.toNat = 181 := by
    change (decide ('A'.val ≤ c.val ∧ c.val ≤ 'Z'.val) ||
      decide ('a'.val ≤ c.val) && decide (c.val ≤ 'z'.val) || decide (c = 'µ')) = true at h
    simp only [Bool.or_eq_true, Bool.and_eq_true, decide_eq_true_eq, UInt32.le_iff_toNat_le] at h
    rcases h with (h | h) | rfl
    · exact .inl h
    · exact .inr (.inl h)
    · exact .inr (.inr rfl)
  have hdigit : ¬ (48 ≤ c.toNat ∧ c.toNat ≤ 57) := by omega
  constructor
  · rw [Bool.eq_false_iff]
    intro h
    simp only [Char.isDigit, Bool.and_eq_true, decide_eq_true_eq, UInt32.le_iff_toNat_le,
      ge_iff_le] at h
    exact hdigit h
  · simp only [isBlank, Bool.or_eq_false_iff, Bool.and_eq_false_iff, decide_eq_false_iff_not]
    omega

theorem word_of_lt {n : Nat} (h : n < 0x1_0000_0000_0000_0000) : word n = .ok n := if_pos h

/-- The digits that follow in a count are appended to it, if it stays below `2 ^ 64`. -/
theorem scan_digits (total : Duration) {ds : List Char} (hdigits : ∀ d ∈ ds, d.isDigit = true)
    {n : Nat} (hlimit : Nat.ofDigitChars 10 ds n < 0x1_0000_0000_0000_0000) (rest : List Char) :
    scan total (.digits n) (ds ++ rest) = scan total (.digits (Nat.ofDigitChars 10 ds n)) rest := by
  induction ds generalizing n with
  | nil => simp
  | cons d ds ih =>
    rw [Decimal.ofDigitChars_cons_value] at hlimit ⊢
    have hle := Decimal.le_ofDigitChars ds (n * 10 + Decimal.value [d])
    have hstep : step total (.digits n) d =
        .ok (total, .digits (n * 10 + Decimal.value [d])) := by
      simp [step, hdigits d, word_of_lt (Nat.lt_of_le_of_lt hle hlimit), Except.map]
    rw [List.cons_append, scan, hstep]
    exact ih (fun e he => hdigits e (List.mem_cons_of_mem _ he)) hlimit

/-- A written count is read at the start and between two items. -/
theorem scan_count (total : Duration) {phase : Phase} (hphase : phase = .start ∨ phase = .between)
    {n : Nat} (hlimit : n < 0x1_0000_0000_0000_0000) (rest : List Char) :
    scan total phase (Decimal.digits n ++ rest) = scan total (.digits n) rest := by
  obtain ⟨d, ds, hds, hdigit⟩ := Decimal.exists_digits_cons n
  have hvalue : Nat.ofDigitChars 10 ds (Decimal.value [d]) = n := by
    have hall := Decimal.value_digits n
    rwa [hds, Decimal.value, Decimal.ofDigitChars_cons_value, Nat.zero_mul, Nat.zero_add] at hall
  have hall : ∀ e ∈ ds, e.isDigit = true := fun e he =>
    Decimal.isDigit_of_mem_digits (hds ▸ List.mem_cons_of_mem d he)
  have hstep : step total phase d = .ok (total, .digits (Decimal.value [d])) := by
    rcases hphase with rfl | rfl <;> simp [step, hdigit]
  rw [hds, List.cons_append, scan, hstep]
  refine (scan_digits total hall ?_ rest).trans ?_
  · rwa [hvalue]
  · rw [hvalue]

theorem scan_letters (total : Duration) (count : Count) {cs : List Char}
    (hletters : ∀ c ∈ cs, isUnitLetter c = true) (taken rest : List Char) :
    scan total (.letters count taken) (cs ++ rest) =
      scan total (.letters count (cs.reverse ++ taken)) rest := by
  induction cs generalizing taken with
  | nil => rfl
  | cons c cs ih =>
    have hletter := hletters c (List.mem_cons_self ..)
    obtain ⟨hdigit, hblank⟩ := class_of_isUnitLetter hletter
    have hstep : step total (.letters count taken) c = .ok (total, .letters count (c :: taken)) := by
      simp [step, hdigit, hblank, hletter]
    rw [List.cons_append, scan, hstep]
    refine (ih (fun e he => hletters e (List.mem_cons_of_mem _ he)) (c :: taken)).trans ?_
    simp

/-- The word of a unit is read behind its count. -/
theorem scan_unit (total : Duration) (n : Nat) {cs : List Char} (hne : cs ≠ [])
    (hletters : ∀ c ∈ cs, isUnitLetter c = true) (rest : List Char) :
    scan total (.digits n) (cs ++ rest) = scan total (.letters ⟨n, none⟩ cs.reverse) rest := by
  cases cs with
  | nil => exact absurd rfl hne
  | cons c cs =>
    have hletter := hletters c (List.mem_cons_self ..)
    obtain ⟨hdigit, hblank⟩ := class_of_isUnitLetter hletter
    have hstep : step total (.digits n) c = .ok (total, .letters ⟨n, none⟩ [c]) := by
      simp [step, hdigit, hblank, hletter]
    rw [List.cons_append, scan, hstep, List.reverse_cons]
    exact scan_letters total ⟨n, none⟩ (fun e he => hletters e (List.mem_cons_of_mem _ he)) [c] rest

/-- An item of a written span counts a unit: its word spells the unit, and a count of
a unit below a second stays below a second. -/
structure Counts (item : Nat × String) (unit : SpanUnit) : Prop where
  word : unit.IsWord item.2
  short : unit.nanos < 1_000_000_000 → item.1 * unit.nanos < 1_000_000_000

theorem addParts_of_sum {total sum : Duration} {secs nanos : Nat} (hnanos : nanos < 1_000_000_000)
    (hsum : sum.nanos = total.nanos + secs * 1_000_000_000 + nanos) :
    total.addParts secs nanos = .ok sum := by
  have hcarried : ¬ 0x1_0000_0000_0000_0000 ≤ total.subsecNanos + nanos := by
    simp only [subsecNanos]
    omega
  simp [addParts, hcarried, ← hsum]

namespace Counts

variable {item : Nat × String} {unit : SpanUnit}

theorem whole_snd_lt (h : Counts item unit) : (unit.whole item.1).2 < 1_000_000_000 := by
  unfold SpanUnit.whole
  split
  · next hshort => exact h.short hshort
  · simp

/-- A count fits in 64 bits if what it counts is a span. -/
theorem count_lt (h : Counts item unit)
    (hspan : item.1 * unit.nanos < 0x1_0000_0000_0000_0000 * 1_000_000_000) :
    item.1 < 0x1_0000_0000_0000_0000 := by
  have hshort := h.short
  cases unit <;> simp only [SpanUnit.nanos] at hshort hspan <;> omega

/-- A count of a unit is added to a total, if the sum is a span. -/
theorem addCount (h : Counts item unit) {total sum : Duration}
    (hsum : sum.nanos = total.nanos + item.1 * unit.nanos) :
    total.addCount ⟨item.1, none⟩ item.2.toList.reverse = .ok sum := by
  have hwhole := unit.nanos_whole item.1
  have hnanos := h.whole_snd_lt
  have hrange := sum.inRange
  have hadd : total.addParts (unit.whole item.1).1 (unit.whole item.1).2 = .ok sum :=
    addParts_of_sum hnanos (by omega)
  have hsecs := word_of_lt (n := (unit.whole item.1).1) (by omega)
  have hword := word_of_lt (n := (unit.whole item.1).2) (by omega)
  unfold Duration.addCount
  rw [List.reverse_reverse, String.ofList_toList, h.word.spells]
  simp only [hsecs, hword, bind, Except.bind, hadd]
  rfl

end Counts

/-- The text of an item. -/
def itemChars (item : Nat × String) : List Char := Decimal.digits item.1 ++ item.2.toList

theorem scan_item {item : Nat × String} {unit : SpanUnit} (h : Counts item unit) (total : Duration)
    {phase : Phase} (hphase : phase = .start ∨ phase = .between)
    (hspan : item.1 * unit.nanos < 0x1_0000_0000_0000_0000 * 1_000_000_000) (rest : List Char) :
    scan total phase (itemChars item ++ rest) =
      scan total (.letters ⟨item.1, none⟩ item.2.toList.reverse) rest := by
  rw [itemChars, List.append_assoc, scan_count total hphase (h.count_lt hspan),
    scan_unit total item.1 h.word.nonempty h.word.letters]

/-- The items of a written span add up to a number of nanoseconds. -/
inductive Adds : List (Nat × String) → Nat → Prop where
  | nil : Adds [] 0
  | cons {item : Nat × String} {unit : SpanUnit} {items : List (Nat × String)} {nanos : Nat}
    (hcounts : Counts item unit) (hrest : Adds items nanos) :
    Adds (item :: items) (item.1 * unit.nanos + nanos)

/-- Items that count nothing may be left out. -/
theorem Adds.filter {items : List (Nat × String)} {nanos : Nat} (h : Adds items nanos) :
    Adds (items.filter fun (n, _) => n ≠ 0) nanos := by
  induction h with
  | nil => exact .nil
  | @cons item unit items nanos hcounts _ ih =>
    by_cases hzero : item.1 = 0
    · rw [List.filter_cons_of_neg (by simp [hzero]), hzero, Nat.zero_mul, Nat.zero_add]
      exact ih
    · rw [List.filter_cons_of_pos (by simp [hzero])]
      exact .cons hcounts ih

/-- Written items are read as the sum of what they count and the total that was
read before them. -/
theorem scan_items {items : List (Nat × String)} {nanos : Nat} (h : Adds items nanos)
    (hne : items ≠ []) {total sum : Duration} {phase : Phase}
    (hphase : phase = .start ∨ phase = .between) (hsum : sum.nanos = total.nanos + nanos) :
    ((scan total phase ([' '].intercalate (items.map itemChars))).bind
      fun (total, phase) => finish total phase) = .ok sum := by
  have hrange := sum.inRange
  induction h generalizing total phase with
  | nil => exact absurd rfl hne
  | @cons item unit items nanos hcounts hrest ih =>
    have hitem := scan_item hcounts total hphase (by omega)
    cases hrest with
    | nil =>
      have hlast := hitem []
      rw [List.append_nil] at hlast
      rw [List.map_cons, List.map_nil, List.intercalate_singleton, hlast]
      exact hcounts.addCount (by omega)
    | @cons next _ items _ hnext hlater =>
      -- The blank behind the item adds its count to the total.
      obtain ⟨between, hbetween⟩ : ∃ d : Duration, d.nanos = total.nanos + item.1 * unit.nanos :=
        ⟨⟨total.nanos + item.1 * unit.nanos, by omega⟩, rfl⟩
      have hblank : step total (.letters ⟨item.1, none⟩ item.2.toList.reverse) ' ' =
          .ok (between, .between) := by
        have hdigit : ' '.isDigit = false := rfl
        have hclass : isBlank ' ' = true := rfl
        simp [step, hdigit, hclass, hcounts.addCount hbetween, Except.map]
      rw [List.map_cons, List.map_cons, List.intercalate_cons_cons, List.append_assoc, hitem,
        List.singleton_append, scan, hblank]
      exact ih (List.cons_ne_nil _ _) (.inr rfl) (by omega)

theorem counts_long (n : Nat) {word : String} {unit : SpanUnit} (hword : word ∈ unit.names)
    (hlong : ¬ unit.nanos < 1_000_000_000) : Counts (n, word) unit :=
  ⟨SpanUnit.isWord_of_mem_names hword, fun hshort => absurd hshort hlong⟩

/-- The word of a unit has a plural, and either of the two spells it. -/
theorem counts_plural (n : Nat) {word : String} {unit : SpanUnit} (hword : word ∈ unit.names)
    (hplural : word ++ "s" ∈ unit.names) (hlong : ¬ unit.nanos < 1_000_000_000) :
    Counts (n, if n = 1 then word else word ++ "s") unit := by
  split
  · exact counts_long n hword hlong
  · exact counts_long n hplural hlong

theorem counts_short {n : Nat} {word : String} {unit : SpanUnit} (hword : word ∈ unit.names)
    (hshort : n * unit.nanos < 1_000_000_000) : Counts (n, word) unit :=
  ⟨SpanUnit.isWord_of_mem_names hword, fun _ => hshort⟩

/-- The counts of a span, from years down to nanoseconds, add up to it. -/
theorem adds_items (d : Duration) : Adds d.items d.nanos := by
  have hsub : d.subsecNanos < 1_000_000_000 := Nat.mod_lt _ (by decide)
  have hyear := counts_plural (d.secs / 31557600) (show "year" ∈ SpanUnit.year.names by decide)
    (by decide) (by decide)
  have hmonth := counts_plural (d.secs % 31557600 / 2630016)
    (show "month" ∈ SpanUnit.month.names by decide) (by decide) (by decide)
  have hday := counts_plural (d.secs % 31557600 % 2630016 / 86400)
    (show "day" ∈ SpanUnit.day.names by decide) (by decide) (by decide)
  have hhour := counts_long (d.secs % 31557600 % 2630016 % 86400 / 3600)
    (show "h" ∈ SpanUnit.hour.names by decide) (by decide)
  have hminute := counts_long (d.secs % 31557600 % 2630016 % 86400 % 3600 / 60)
    (show "m" ∈ SpanUnit.minute.names by decide) (by decide)
  have hsecond := counts_long (d.secs % 31557600 % 2630016 % 86400 % 60)
    (show "s" ∈ SpanUnit.second.names by decide) (by decide)
  have hmilli : Counts (d.subsecNanos / 1_000_000, "ms") .millisecond :=
    counts_short (by decide) (by simp only [SpanUnit.nanos]; omega)
  have hmicro : Counts (d.subsecNanos / 1000 % 1000, "us") .microsecond :=
    counts_short (by decide) (by simp only [SpanUnit.nanos]; omega)
  have hnano : Counts (d.subsecNanos % 1000, "ns") .nanosecond :=
    counts_short (by decide) (by simp only [SpanUnit.nanos]; omega)
  have hadds := Adds.filter (.cons hyear (.cons hmonth (.cons hday (.cons hhour (.cons hminute
    (.cons hsecond (.cons hmilli (.cons hmicro (.cons hnano .nil)))))))))
  refine Eq.subst (motive := Adds d.items) ?_ hadds
  simp only [SpanUnit.nanos, secs, subsecNanos]
  omega

/-- A span is read back from its text. -/
theorem parse_render (d : Duration) : parse d.render = .ok d := by
  unfold render
  split
  · next hzero =>
    rw [eq_of_nanos_eq (a := d) (b := zero) hzero]
    rfl
  · next hpos =>
    have hne : d.items ≠ [] := by
      intro hnil
      have hadds := d.adds_items
      rw [hnil] at hadds
      cases hnanos : d.nanos with
      | zero => exact hpos hnanos
      | succ n => rw [hnanos] at hadds; cases hadds
    have hsum : d.nanos = zero.nanos + d.nanos := (Nat.zero_add _).symm
    have hread := scan_items d.adds_items hne (.inl rfl) hsum
    unfold parse
    split
    · next hlone =>
      -- A lone zero is no item, so it is not what a span is written as.
      have hchars := congrArg String.toList hlone
      rw [String.toList_ofList] at hchars
      have hlist : [' '].intercalate (d.items.map itemChars) = ['0'] := hchars
      rw [hlist] at hread
      cases hread
    · rw [String.toList_ofList]
      exact hread

end Duration

end AuthGate

import AuthGate.Proofs.Text.Base64

namespace AuthGate

theorem bind_eq_ok_iff {ε α β : Type} {x : Except ε α} {f : α → Except ε β} {b : β} :
    x >>= f = .ok b ↔ ∃ a, x = .ok a ∧ f a = .ok b := by
  cases x with
  | error e => simp [bind, Except.bind]
  | ok a => simp [bind, Except.bind]

/-- A computation behind a test gets through only if nothing is thrown. -/
theorem unless_throw_eq_ok_iff {ε α β : Type} {p : Prop} [Decidable p] {e : ε}
    {f : α → Except ε β} {x : Except ε β} {b : β} :
    (if p then throw e >>= f else x) = .ok b ↔ ¬ p ∧ x = .ok b := by
  by_cases h : p <;> simp [h, bind, Except.bind, throw, throwThe, MonadExceptOf.throw]

theorem mapError_eq_ok_iff {ε ε' α : Type} {x : Except ε α} {f : ε → ε'} {a : α} :
    x.mapError f = .ok a ↔ x = .ok a := by
  cases x with
  | ok value =>
    change (Except.ok value : Except ε' α) = .ok a ↔ _
    rw [Except.ok.injEq, Except.ok.injEq]
  | error e =>
    change (Except.error (f e) : Except ε' α) = .ok a ↔ _
    exact ⟨nofun, nofun⟩

theorem ok_of_toOption_eq_some {ε α : Type} {x : Except ε α} {a : α}
    (h : x.toOption = some a) : x = .ok a := by
  cases x with
  | error e => cases h
  | ok value => exact congrArg Except.ok (Option.some.inj h)

theorem utf8_injective {a b : String} (h : utf8 a = utf8 b) : a = b := by
  have hchars : a.toList.map Symbol.char = b.toList.map Symbol.char := by
    rw [← symbols_utf8, ← symbols_utf8, h]
  exact String.toList_inj.1 ((List.map_inj_right fun _ _ => Symbol.char.inj).1 hchars)

namespace Base64

namespace Alphabet

theorem of_decode?_eq_some (alphabet : Alphabet) {byte : UInt8} {n : Nat}
    (h : alphabet.decode? byte = some n) : n < 64 ∧ byte = alphabet.byte n := by
  have hbytes : ∀ k < 256, ((alphabet.decode? (.ofNat k)).all
      fun n => decide (n < 64 ∧ UInt8.ofNat k = alphabet.byte n)) = true := by
    cases alphabet <;> decide +kernel
  have hbyte := hbytes byte.toNat byte.toNat_lt
  rw [UInt8.ofNat_toNat, h, Option.all_some, decide_eq_true_eq] at hbyte
  exact hbyte

end Alphabet

variable {alphabet : Alphabet}

theorem of_sextet_eq_ok {byte : UInt8} {offset n : Nat} (h : sextet alphabet byte offset = .ok n) :
    n < 64 ∧ byte = alphabet.byte n := by
  unfold sextet at h
  split at h
  · next hn =>
    cases h
    exact alphabet.of_decode?_eq_some hn
  · cases h

/-- Padding that has been read is not forgotten. -/
theorem isSome_paddedAt_readTail {start index : Nat} {before after : Tail} {bytes : List UInt8}
    (h : readTail alphabet start index before bytes = .ok after)
    (hpadded : before.paddedAt.isSome = true) : after.paddedAt.isSome = true := by
  induction bytes generalizing index before with
  | nil =>
    cases h
    exact hpadded
  | cons byte bytes ih =>
    rw [readTail] at h
    split at h
    · split at h
      · cases h
      · exact ih h (by simp)
    · rw [Option.isSome_iff_exists] at hpadded
      obtain ⟨padded, hpadded⟩ := hpadded
      rw [hpadded] at h
      cases h

/-- The last group without padding consists of written sextets only. -/
theorem of_readTail_eq_ok {start index : Nat} {read : List (Nat × UInt8)} {tail : Tail}
    {bytes : List UInt8} (h : readTail alphabet start index ⟨read, none⟩ bytes = .ok tail)
    (hunpadded : tail.paddedAt = none) :
    ∃ ns : List Nat, (∀ n ∈ ns, n < 64) ∧ bytes = ns.map alphabet.byte ∧
      tail.sextets = read ++ ns.map fun n => (n, alphabet.byte n) := by
  induction bytes generalizing index read with
  | nil =>
    cases h
    exact ⟨[], by simp⟩
  | cons byte bytes ih =>
    rw [readTail] at h
    split at h
    · split at h
      · cases h
      · have hpadded := isSome_paddedAt_readTail h (by simp)
        rw [hunpadded] at hpadded
        cases hpadded
    · dsimp only at h
      split at h
      · cases h
      · next n hn =>
        obtain ⟨hlt, hbyte⟩ := alphabet.of_decode?_eq_some hn
        obtain ⟨ns, hns, hbytes, hsextets⟩ := ih h
        refine ⟨n :: ns, ?_, ?_, ?_⟩
        · simpa using ⟨hlt, hns⟩
        · rw [List.map_cons, ← hbyte, ← hbytes]
        · rw [hsextets, hbyte, List.append_assoc, List.map_cons, List.singleton_append]

/-- The bits that two sextets leave over are zero in what is written. -/
theorem sextets_two {p q : Nat} (hp : p < 64) (hbits : q % 16 = 0) (hq : q < 64) :
    sextets [UInt8.ofNat (p * 4 + q / 16)] = [p, q] := by
  have hfirst : (UInt8.ofNat (p * 4 + q / 16)).toNat = p * 4 + q / 16 :=
    UInt8.toNat_ofNat_of_lt' (by change _ < 256; omega)
  simp only [sextets, hfirst, List.cons.injEq, and_true]
  omega

theorem sextets_three {p q r : Nat} (hp : p < 64) (hq : q < 64) (hbits : r % 4 = 0) (hr : r < 64) :
    sextets [UInt8.ofNat (p * 4 + q / 16), UInt8.ofNat (q % 16 * 16 + r / 4)] = [p, q, r] := by
  have hfirst : (UInt8.ofNat (p * 4 + q / 16)).toNat = p * 4 + q / 16 :=
    UInt8.toNat_ofNat_of_lt' (by change _ < 256; omega)
  have hsecond : (UInt8.ofNat (q % 16 * 16 + r / 4)).toNat = q % 16 * 16 + r / 4 :=
    UInt8.toNat_ofNat_of_lt' (by change _ < 256; omega)
  simp only [sextets, hfirst, hsecond, List.cons.injEq, and_true]
  omega

theorem sextets_four {p q r s : Nat} (hp : p < 64) (hq : q < 64) (hr : r < 64) (hs : s < 64)
    (bytes : List UInt8) :
    sextets (UInt8.ofNat (p * 4 + q / 16) :: UInt8.ofNat (q % 16 * 16 + r / 4) ::
      UInt8.ofNat (r % 4 * 64 + s) :: bytes) = p :: q :: r :: s :: sextets bytes := by
  have hfirst : (UInt8.ofNat (p * 4 + q / 16)).toNat = p * 4 + q / 16 :=
    UInt8.toNat_ofNat_of_lt' (by change _ < 256; omega)
  have hsecond : (UInt8.ofNat (q % 16 * 16 + r / 4)).toNat = q % 16 * 16 + r / 4 :=
    UInt8.toNat_ofNat_of_lt' (by change _ < 256; omega)
  have hthird : (UInt8.ofNat (r % 4 * 64 + s)).toNat = r % 4 * 64 + s :=
    UInt8.toNat_ofNat_of_lt' (by change _ < 256; omega)
  rw [sextets]
  simp only [hfirst, hsecond, hthird, List.cons.injEq, and_true]
  omega

/-- A last group decodes only if it is what its bytes are written as. Padding,
leftover bits and a lone symbol are all refused. -/
theorem eq_of_decodeTail {start : Nat} {input bytes : List UInt8} (hshort : input.length ≤ 4)
    (h : decodeTail alphabet start input = .ok bytes) :
    input = (sextets bytes).map alphabet.byte := by
  unfold decodeTail at h
  cases hread : readTail alphabet start 0 ⟨[], none⟩ input with
  | error defect =>
    rw [hread] at h
    cases h
  | ok tail =>
    rw [hread] at h
    simp only [bind, Except.bind, pure, Except.pure] at h
    split at h
    · cases h
    next hlength =>
      split at h
      · cases h
      next hunpadded =>
        rw [Option.not_isSome_iff_eq_none] at hunpadded
        obtain ⟨ns, hns, rfl, hsextets⟩ := of_readTail_eq_ok hread hunpadded
        rw [List.nil_append] at hsextets
        rw [hsextets] at h hlength
        rw [List.length_map] at hshort hlength
        match ns with
        | [] =>
          cases h
          rfl
        | [p] => simp at hlength
        | [p, q] =>
          simp only [List.mem_cons, List.not_mem_nil, or_false, forall_eq_or_imp, forall_eq] at hns
          simp only [List.map_cons, List.map_nil] at h
          split at h
          · cases h
          · next hbits =>
            cases h
            rw [sextets_two hns.1 (Decidable.not_not.1 hbits) hns.2]
        | [p, q, r] =>
          simp only [List.mem_cons, List.not_mem_nil, or_false, forall_eq_or_imp, forall_eq] at hns
          obtain ⟨hp, hq, hr⟩ := hns
          simp only [List.map_cons, List.map_nil] at h
          split at h
          · cases h
          · next hbits =>
            cases h
            rw [sextets_three hp hq (Decidable.not_not.1 hbits) hr]
        | [p, q, r, s] =>
          simp only [List.mem_cons, List.not_mem_nil, or_false, forall_eq_or_imp, forall_eq] at hns
          obtain ⟨hp, hq, hr, hs⟩ := hns
          cases h
          rw [sextets_four hp hq hr hs, sextets]
        | _ :: _ :: _ :: _ :: _ :: _ =>
          rw [List.length_cons, List.length_cons, List.length_cons, List.length_cons,
            List.length_cons] at hshort
          omega

/-- A byte text that decodes is what its bytes are written as, symbol by symbol. -/
theorem eq_of_decodeFrom {start : Nat} {input bytes : List UInt8}
    (h : decodeFrom alphabet start input = .ok bytes) :
    input = (sextets bytes).map alphabet.byte := by
  fun_induction decodeFrom alphabet start input generalizing bytes with
  | case1 start a b c d next rest ih =>
    simp only [bind_eq_ok_iff] at h
    obtain ⟨p, hfirst, q, hsecond, r, hthird, s, hfourth, written, hwritten, h⟩ := h
    cases h
    obtain ⟨hp, rfl⟩ := of_sextet_eq_ok hfirst
    obtain ⟨hq, rfl⟩ := of_sextet_eq_ok hsecond
    obtain ⟨hr, rfl⟩ := of_sextet_eq_ok hthird
    obtain ⟨hs, rfl⟩ := of_sextet_eq_ok hfourth
    rw [sextets_four hp hq hr hs, ih hwritten]
    rfl
  | case2 start tail hlong =>
    have hshort : tail.length ≤ 4 := by
      match tail with
      | [] | [_] | [_, _] | [_, _, _] | [_, _, _, _] => simp
      | a :: b :: c :: d :: next :: rest => exact absurd rfl (hlong a b c d next rest)
    exact eq_of_decodeTail hshort h

/-- A text is accepted for a byte text only if it is the one that is written for
it: no padding, no leftover bits, no symbol of another alphabet. -/
theorem decode_eq_ok_iff {text : String} {bytes : List UInt8} :
    decode alphabet text = .ok bytes ↔ text = encode alphabet bytes := by
  constructor
  · intro h
    apply utf8_injective
    rw [utf8_encode]
    unfold decode at h
    dsimp only at h
    split at h
    · split at h
      · cases h
      · exact eq_of_decodeFrom h
    · next hnone =>
      cases h
      exact List.getLast?_eq_none_iff.1 hnone
  · rintro rfl
    exact decode_encode alphabet bytes

theorem encode_injective {a b : List UInt8} (h : encode alphabet a = encode alphabet b) : a = b :=
  Except.ok.inj ((decode_encode alphabet a).symm.trans (decode_eq_ok_iff.2 h))

end Base64

end AuthGate

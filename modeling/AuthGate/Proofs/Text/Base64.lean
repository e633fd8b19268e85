import AuthGate.Text.Base64
import AuthGate.Text.Blank

namespace AuthGate.Base64

namespace Alphabet

variable (alphabet : Alphabet)

/-- The byte that a sextet is written as. -/
def byte (sextet : Nat) : UInt8 := UInt8.ofNat (alphabet.encode sextet).toNat

theorem decode?_byte {n : Nat} (h : n < 64) : alphabet.decode? (alphabet.byte n) = some n := by
  cases alphabet with
  | standard => revert n; decide
  | urlSafe => revert n; decide

theorem byte_ne_padByte {n : Nat} (h : n < 64) : alphabet.byte n ≠ padByte := by
  cases alphabet with
  | standard => revert n; decide
  | urlSafe => revert n; decide

theorem utf8EncodeChar_encode {n : Nat} (h : n < 64) :
    String.utf8EncodeChar (alphabet.encode n) = [alphabet.byte n] := by
  cases alphabet with
  | standard => revert n; decide
  | urlSafe => revert n; decide

end Alphabet

/-- The numbers of six bits that a byte text is cut into, four for three bytes.
Missing bits at the end are zero. -/
def sextets : List UInt8 → List Nat
  | a :: b :: c :: rest =>
    let n := (a.toNat * 256 + b.toNat) * 256 + c.toNat
    n / 262144 :: n / 4096 % 64 :: n / 64 % 64 :: n % 64 :: sextets rest
  | [a, b] =>
    let n := (a.toNat * 256 + b.toNat) * 4
    [n / 4096, n / 64 % 64, n % 64]
  | [a] =>
    let n := a.toNat * 16
    [n / 64, n % 64]
  | [] => []

theorem lt_of_mem_sextets {bytes : List UInt8} {n : Nat} (h : n ∈ sextets bytes) : n < 64 := by
  fun_induction sextets bytes with
  | case1 a b c rest m ih =>
    have ha := a.toNat_lt
    have hb := b.toNat_lt
    have hc := c.toNat_lt
    rcases List.mem_cons.1 h with rfl | h
    · omega
    · simp only [List.mem_cons] at h
      rcases h with rfl | rfl | rfl | h
      · exact Nat.mod_lt _ (by decide)
      · exact Nat.mod_lt _ (by decide)
      · exact Nat.mod_lt _ (by decide)
      · exact ih h
  | case2 a b m =>
    have ha := a.toNat_lt
    have hb := b.toNat_lt
    simp only [List.mem_cons, List.not_mem_nil, or_false] at h
    omega
  | case3 a m =>
    have ha := a.toNat_lt
    simp only [List.mem_cons, List.not_mem_nil, or_false] at h
    omega
  | case4 => cases h

theorem sextets_eq_nil_iff {bytes : List UInt8} : sextets bytes = [] ↔ bytes = [] := by
  fun_cases sextets bytes <;> simp

variable (alphabet : Alphabet)

theorem encodeChars_eq_map (bytes : List UInt8) :
    encodeChars alphabet bytes = (sextets bytes).map alphabet.encode := by
  fun_induction encodeChars alphabet bytes with
  | case1 a b c rest n ih => rw [sextets, ih]; rfl
  | case2 => rfl
  | case3 => rfl
  | case4 => rfl

/-- An encoded text is one byte for every sextet. -/
theorem utf8_encode (bytes : List UInt8) :
    utf8 (encode alphabet bytes) = (sextets bytes).map alphabet.byte := by
  have hbytes : ∀ ns : List Nat, (∀ n ∈ ns, n < 64) →
      (ns.map alphabet.encode).flatMap String.utf8EncodeChar = ns.map alphabet.byte := by
    intro ns hns
    induction ns with
    | nil => rfl
    | cons n ns ih =>
      rw [List.map_cons, List.flatMap_cons, ih fun m hm => hns m (List.mem_cons_of_mem _ hm),
        alphabet.utf8EncodeChar_encode (hns n (List.mem_cons_self ..))]
      rfl
  unfold utf8 encode
  rw [String.toList_ofList, encodeChars_eq_map]
  exact hbytes _ fun n h => lt_of_mem_sextets h

theorem sextet_byte {n : Nat} (h : n < 64) (offset : Nat) :
    sextet alphabet (alphabet.byte n) offset = .ok n := by
  unfold sextet
  rw [alphabet.decode?_byte h]

theorem readTail_byte {n : Nat} (h : n < 64) (start index : Nat) (read : List (Nat × UInt8))
    (bytes : List UInt8) :
    readTail alphabet start index ⟨read, none⟩ (alphabet.byte n :: bytes) =
      readTail alphabet start (index + 1) ⟨read ++ [(n, alphabet.byte n)], none⟩ bytes := by
  rw [readTail, if_neg (alphabet.byte_ne_padByte h)]
  dsimp only
  rw [alphabet.decode?_byte h]

theorem decodeTail_two {p q : Nat} (hp : p < 64) (hq : q < 64) (hbits : q % 16 = 0) (start : Nat) :
    decodeTail alphabet start [alphabet.byte p, alphabet.byte q] =
      .ok [UInt8.ofNat (p * 4 + q / 16)] := by
  unfold decodeTail
  rw [readTail_byte _ hp, readTail_byte _ hq, readTail]
  simp [bind, Except.bind, pure, Except.pure, hbits]

theorem decodeTail_three {p q r : Nat} (hp : p < 64) (hq : q < 64) (hr : r < 64)
    (hbits : r % 4 = 0) (start : Nat) :
    decodeTail alphabet start [alphabet.byte p, alphabet.byte q, alphabet.byte r] =
      .ok [UInt8.ofNat (p * 4 + q / 16), UInt8.ofNat (q % 16 * 16 + r / 4)] := by
  unfold decodeTail
  rw [readTail_byte _ hp, readTail_byte _ hq, readTail_byte _ hr, readTail]
  simp [bind, Except.bind, pure, Except.pure, hbits]

theorem decodeTail_four {p q r s : Nat} (hp : p < 64) (hq : q < 64) (hr : r < 64) (hs : s < 64)
    (start : Nat) :
    decodeTail alphabet start
        [alphabet.byte p, alphabet.byte q, alphabet.byte r, alphabet.byte s] =
      .ok [UInt8.ofNat (p * 4 + q / 16), UInt8.ofNat (q % 16 * 16 + r / 4),
        UInt8.ofNat (r % 4 * 64 + s)] := by
  unfold decodeTail
  rw [readTail_byte _ hp, readTail_byte _ hq, readTail_byte _ hr, readTail_byte _ hs, readTail]
  simp [bind, Except.bind, pure, Except.pure]

theorem decodeFrom_cons {p q r s : Nat} (hp : p < 64) (hq : q < 64) (hr : r < 64) (hs : s < 64)
    {start : Nat} {input bytes : List UInt8} (hne : input ≠ [])
    (hinput : decodeFrom alphabet (start + 4) input = .ok bytes) :
    decodeFrom alphabet start
        (alphabet.byte p :: alphabet.byte q :: alphabet.byte r :: alphabet.byte s :: input) =
      .ok (UInt8.ofNat (p * 4 + q / 16) :: UInt8.ofNat (q % 16 * 16 + r / 4) ::
        UInt8.ofNat (r % 4 * 64 + s) :: bytes) := by
  cases input with
  | nil => exact absurd rfl hne
  | cons next rest =>
    rw [decodeFrom, sextet_byte _ hp, sextet_byte _ hq, sextet_byte _ hr, sextet_byte _ hs, hinput]
    rfl

/-- The groups of an encoded text decode to its bytes. -/
theorem decodeFrom_sextets (start : Nat) {bytes : List UInt8} (hne : bytes ≠ []) :
    decodeFrom alphabet start ((sextets bytes).map alphabet.byte) = .ok bytes := by
  have hbyte : ∀ (a : UInt8) (n : Nat), n = a.toNat → UInt8.ofNat n = a := by
    rintro a _ rfl
    exact UInt8.ofNat_toNat
  fun_induction sextets bytes generalizing start with
  | case1 a b c rest n ih =>
    have ha := a.toNat_lt
    have hb := b.toNat_lt
    have hc := c.toNat_lt
    have hfirst : UInt8.ofNat (n / 262144 * 4 + n / 4096 % 64 / 16) = a := hbyte _ _ (by omega)
    have hsecond : UInt8.ofNat (n / 4096 % 64 % 16 * 16 + n / 64 % 64 / 4) = b :=
      hbyte _ _ (by omega)
    have hthird : UInt8.ofNat (n / 64 % 64 % 4 * 64 + n % 64) = c := hbyte _ _ (by omega)
    simp only [List.map_cons]
    by_cases hrest : rest = []
    · subst hrest
      change decodeTail alphabet start _ = _
      rw [sextets, List.map_nil, decodeTail_four _ (by omega) (by omega) (by omega) (by omega),
        hfirst, hsecond, hthird]
    · have hnext : (sextets rest).map alphabet.byte ≠ [] := by
        rwa [ne_eq, List.map_eq_nil_iff, sextets_eq_nil_iff]
      rw [decodeFrom_cons _ (by omega) (by omega) (by omega) (by omega) hnext (ih _ hrest),
        hfirst, hsecond, hthird]
  | case2 a b n =>
    have ha := a.toNat_lt
    have hb := b.toNat_lt
    simp only [List.map_cons, List.map_nil]
    change decodeTail alphabet start _ = _
    rw [decodeTail_three _ (by omega) (by omega) (by omega) (by omega),
      hbyte a _ (by omega), hbyte b _ (by omega)]
  | case3 a n =>
    have ha := a.toNat_lt
    simp only [List.map_cons, List.map_nil]
    change decodeTail alphabet start _ = _
    rw [decodeTail_two _ (by omega) (by omega) (by omega), hbyte a _ (by omega)]
  | case4 => exact absurd rfl hne

/-- Decoding reads an encoded text back. -/
theorem decode_encode (bytes : List UInt8) :
    decode alphabet (encode alphabet bytes) = .ok bytes := by
  unfold decode
  rw [utf8_encode]
  by_cases hne : bytes = []
  · subst hne
    rfl
  · dsimp only
    split
    · next last hlast =>
      have hmem := List.mem_of_getLast? hlast
      obtain ⟨n, hn, rfl⟩ := List.mem_map.1 hmem
      rw [alphabet.decode?_byte (lt_of_mem_sextets hn), if_neg (by simp)]
      exact decodeFrom_sextets alphabet 0 hne
    · next hlast =>
      rw [List.getLast?_eq_none_iff, List.map_eq_nil_iff, sextets_eq_nil_iff] at hlast
      exact absurd hlast hne

/-- Every six bits that are begun are written as a character. -/
theorem length_encodeChars (bytes : List UInt8) :
    (encodeChars alphabet bytes).length = (bytes.length * 8 + 5) / 6 := by
  fun_induction encodeChars alphabet bytes with
  | case1 a b c rest n ih =>
    simp only [List.length_cons, ih]
    omega
  | case2 => simp
  | case3 => simp
  | case4 => rfl

/-- Nothing of an encoded text is a blank or separates the parts of a token. -/
theorem of_mem_encode {bytes : List UInt8} {c : Char}
    (h : c ∈ (encode .urlSafe bytes).toList) : c ≠ '.' ∧ isBlank c = false := by
  have hsextet : ∀ n < 64, Alphabet.urlSafe.encode n ≠ '.' ∧
      isBlank (Alphabet.urlSafe.encode n) = false := by decide
  unfold encode at h
  rw [String.toList_ofList, encodeChars_eq_map] at h
  obtain ⟨n, hn, rfl⟩ := List.mem_map.1 h
  exact hsextet n (lt_of_mem_sextets hn)

theorem encode_eq_empty_iff {bytes : List UInt8} : encode alphabet bytes = "" ↔ bytes = [] := by
  unfold encode
  rw [String.ofList_eq_empty_iff, encodeChars_eq_map, List.map_eq_nil_iff, sextets_eq_nil_iff]

end AuthGate.Base64

import AuthGate.Crypto.Words

namespace AuthGate.Blake2b

/-- The fractions of the square roots of the first eight primes. -/
def initial : List UInt64 :=
  [0x6a09e667f3bcc908, 0xbb67ae8584caa73b, 0x3c6ef372fe94f82b, 0xa54ff53a5f1d36f1,
    0x510e527fade682d1, 0x9b05688c2b3e6c1f, 0x1f83d9abfb41bd6b, 0x5be0cd19137e2179]

/-- The order in which each round takes the words of a block. -/
def schedule : List (List Nat) :=
  [[0, 1, 2, 3, 4, 5, 6, 7, 8, 9, 10, 11, 12, 13, 14, 15],
    [14, 10, 4, 8, 9, 15, 13, 6, 1, 12, 0, 2, 11, 7, 5, 3],
    [11, 8, 12, 0, 5, 2, 15, 13, 10, 14, 3, 6, 7, 1, 9, 4],
    [7, 9, 3, 1, 13, 12, 11, 14, 2, 6, 5, 10, 4, 0, 15, 8],
    [9, 0, 5, 7, 2, 4, 10, 15, 14, 1, 11, 12, 6, 8, 3, 13],
    [2, 12, 6, 10, 0, 11, 8, 3, 4, 13, 7, 5, 15, 14, 1, 9],
    [12, 5, 1, 15, 14, 13, 4, 10, 0, 7, 6, 3, 9, 2, 8, 11],
    [13, 11, 7, 14, 12, 1, 3, 9, 5, 0, 15, 4, 8, 6, 2, 10],
    [6, 15, 14, 9, 11, 3, 0, 8, 12, 2, 13, 7, 1, 4, 10, 5],
    [10, 2, 8, 4, 7, 6, 1, 5, 15, 11, 9, 14, 3, 12, 13, 0],
    [0, 1, 2, 3, 4, 5, 6, 7, 8, 9, 10, 11, 12, 13, 14, 15],
    [14, 10, 4, 8, 9, 15, 13, 6, 1, 12, 0, 2, 11, 7, 5, 3]]

/-- The number that bytes write, least significant first. -/
def littleEndian : List UInt8 → Nat
  | [] => 0
  | b :: bs => b.toNat + 256 * littleEndian bs

/-- The bytes of a number, least significant first. -/
def toLittleEndian : Nat → Nat → List UInt8
  | 0, _ => []
  | count + 1, n => UInt8.ofNat n :: toLittleEndian count (n / 256)

/-- The words of a byte text, least significant byte first. Up to seven bytes at
the end are no word. -/
def words : List UInt8 → List UInt64
  | a :: b :: c :: d :: e :: f :: g :: h :: rest =>
    UInt64.ofNat (littleEndian [a, b, c, d, e, f, g, h]) :: words rest
  | _ => []

/-- One round of mixing with the words of a block. -/
def round (v m : Words16) : Words16 := Words16.mixAll (fun a b x => a + b + x) m v

/-- Mixes a block of sixteen words into the chain. `count` is the number of bytes
so far, and the last block is marked. -/
def compress (chain block : List UInt64) (count : Nat) (last : Bool) : List UInt64 :=
  let counted := initial.zipWith (· ^^^ ·)
    [0, 0, 0, 0, UInt64.ofNat count, UInt64.ofNat (count / 0x1_0000_0000_0000_0000),
      if last then ~~~0 else 0, 0]
  let v := schedule.foldl (fun v order =>
    round v (Words16.ofList (order.map fun i => block.getD i 0)))
    (Words16.ofList (chain ++ counted))
  let mixed := v.toList
  (chain.zipWith (· ^^^ ·) (mixed.take 8)).zipWith (· ^^^ ·) (mixed.drop 8)

/-- Mixes the blocks of a message into the chain. The last block may be short,
and is the only one of an empty message. -/
def absorb : Nat → List UInt8 → Nat → List UInt64 → List UInt64
  | 0, _, _, chain => chain
  | fuel + 1, message, count, chain =>
    let block := message.take 128
    let filled := words (block ++ List.replicate (128 - block.length) 0)
    let count := count + block.length
    if message.length ≤ 128 then compress chain filled count true
    else absorb fuel (message.drop 128) count (compress chain filled count false)

/-- The digest of a message, of a length from one to sixty-four bytes. -/
def hash (length : Nat) (message : List UInt8) : List UInt8 :=
  let chain := match initial with
    | [] => []
    | w :: ws => (w ^^^ 0x01010000 ^^^ UInt64.ofNat length) :: ws
  let digest := absorb (message.length / 128 + 1) message 0 chain
  (digest.flatMap fun w => toLittleEndian 8 w.toNat).take length

end AuthGate.Blake2b

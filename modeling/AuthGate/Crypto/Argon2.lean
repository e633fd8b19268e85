import AuthGate.Crypto.Blake2b

namespace AuthGate.Argon2

open Blake2b

/-- How the blocks of memory are chosen that a new block is made from: by the
blocks before it, by their place alone, or by their place in the first half of
the first pass only. -/
inductive Variant where
  | dependent
  | independent
  | hybrid
deriving DecidableEq

namespace Variant

/-- The number of a variant. -/
def code : Variant → Nat
  | dependent => 0
  | independent => 1
  | hybrid => 2

/-- The name of a variant. -/
def name : Variant → String
  | dependent => "argon2d"
  | independent => "argon2i"
  | hybrid => "argon2id"

/-- The variant of a name. -/
def ofName? (name : String) : Option Variant :=
  [dependent, independent, hybrid].find? (·.name = name)

end Variant

/-- The two versions of the function. The older one writes over the memory of
the pass before, the newer one adds to it. -/
inductive Version where
  | v16
  | v19
deriving DecidableEq

namespace Version

/-- The number of a version. -/
def code : Version → Nat
  | v16 => 16
  | v19 => 19

/-- The version of a number. -/
def ofCode? (n : Nat) : Option Version :=
  if n = 16 then some v16 else if n = 19 then some v19 else none

end Version

/-- The cost of a computation: the memory in blocks, the passes over it, and the
lanes it is divided into. The length of the result is part of it. -/
structure Cost where
  memory : Nat
  passes : Nat
  lanes : Nat
  length : Nat
deriving DecidableEq

namespace Cost

/-- Whether a cost can be computed with: every lane has eight blocks, and there
is a pass and a lane. -/
def isValid (c : Cost) : Bool :=
  8 ≤ c.memory && 1 ≤ c.passes && 1 ≤ c.lanes && c.lanes ≤ 0xFFFFFF
    && 8 * c.lanes ≤ c.memory && 4 ≤ c.length

/-- The blocks of a quarter of a lane. -/
def segment (c : Cost) : Nat := c.memory / (4 * c.lanes)

/-- The blocks of a lane. -/
def lane (c : Cost) : Nat := 4 * c.segment

end Cost

/-- A block of memory: eight rows of sixteen words. -/
structure Block where
  r0 : Words16
  r1 : Words16
  r2 : Words16
  r3 : Words16
  r4 : Words16
  r5 : Words16
  r6 : Words16
  r7 : Words16

namespace Block

/-- A block of zeros. -/
def zero : Block := ⟨.zero, .zero, .zero, .zero, .zero, .zero, .zero, .zero⟩

instance : Inhabited Block := ⟨zero⟩

/-- The bitwise difference of two blocks. -/
def xor (a b : Block) : Block :=
  ⟨a.r0.xor b.r0, a.r1.xor b.r1, a.r2.xor b.r2, a.r3.xor b.r3, a.r4.xor b.r4, a.r5.xor b.r5,
    a.r6.xor b.r6, a.r7.xor b.r7⟩

/-- The block of 128 words. -/
def ofWords (ws : List UInt64) : Block :=
  let row (i : Nat) : Words16 := .ofList (ws.drop (16 * i))
  ⟨row 0, row 1, row 2, row 3, row 4, row 5, row 6, row 7⟩

/-- The rows of a block. -/
def rows (b : Block) : List Words16 := [b.r0, b.r1, b.r2, b.r3, b.r4, b.r5, b.r6, b.r7]

/-- The bytes of a block. -/
def toBytes (b : Block) : List UInt8 :=
  b.rows.flatMap fun row => row.toList.flatMap fun w => toLittleEndian 8 w.toNat

/-- A sum of two words with twice the product of their lower halves. -/
@[inline] def sum (a b : UInt64) : UInt64 :=
  a + b + 2 * (a &&& 0xFFFFFFFF) * (b &&& 0xFFFFFFFF)

/-- Mixes sixteen words. -/
def permute (v : Words16) : Words16 := Words16.mixAll (fun a b _ => sum a b) .zero v

/-- Mixes each row of a block. -/
def permuteRows (b : Block) : Block :=
  ⟨permute b.r0, permute b.r1, permute b.r2, permute b.r3, permute b.r4, permute b.r5,
    permute b.r6, permute b.r7⟩

/-- Exchanges rows and columns. Two neighbouring words count as one entry. -/
def transpose (b : Block) : Block :=
  ⟨⟨b.r0.w0, b.r0.w1, b.r1.w0, b.r1.w1, b.r2.w0, b.r2.w1, b.r3.w0, b.r3.w1,
      b.r4.w0, b.r4.w1, b.r5.w0, b.r5.w1, b.r6.w0, b.r6.w1, b.r7.w0, b.r7.w1⟩,
    ⟨b.r0.w2, b.r0.w3, b.r1.w2, b.r1.w3, b.r2.w2, b.r2.w3, b.r3.w2, b.r3.w3,
      b.r4.w2, b.r4.w3, b.r5.w2, b.r5.w3, b.r6.w2, b.r6.w3, b.r7.w2, b.r7.w3⟩,
    ⟨b.r0.w4, b.r0.w5, b.r1.w4, b.r1.w5, b.r2.w4, b.r2.w5, b.r3.w4, b.r3.w5,
      b.r4.w4, b.r4.w5, b.r5.w4, b.r5.w5, b.r6.w4, b.r6.w5, b.r7.w4, b.r7.w5⟩,
    ⟨b.r0.w6, b.r0.w7, b.r1.w6, b.r1.w7, b.r2.w6, b.r2.w7, b.r3.w6, b.r3.w7,
      b.r4.w6, b.r4.w7, b.r5.w6, b.r5.w7, b.r6.w6, b.r6.w7, b.r7.w6, b.r7.w7⟩,
    ⟨b.r0.w8, b.r0.w9, b.r1.w8, b.r1.w9, b.r2.w8, b.r2.w9, b.r3.w8, b.r3.w9,
      b.r4.w8, b.r4.w9, b.r5.w8, b.r5.w9, b.r6.w8, b.r6.w9, b.r7.w8, b.r7.w9⟩,
    ⟨b.r0.w10, b.r0.w11, b.r1.w10, b.r1.w11, b.r2.w10, b.r2.w11, b.r3.w10, b.r3.w11,
      b.r4.w10, b.r4.w11, b.r5.w10, b.r5.w11, b.r6.w10, b.r6.w11, b.r7.w10, b.r7.w11⟩,
    ⟨b.r0.w12, b.r0.w13, b.r1.w12, b.r1.w13, b.r2.w12, b.r2.w13, b.r3.w12, b.r3.w13,
      b.r4.w12, b.r4.w13, b.r5.w12, b.r5.w13, b.r6.w12, b.r6.w13, b.r7.w12, b.r7.w13⟩,
    ⟨b.r0.w14, b.r0.w15, b.r1.w14, b.r1.w15, b.r2.w14, b.r2.w15, b.r3.w14, b.r3.w15,
      b.r4.w14, b.r4.w15, b.r5.w14, b.r5.w15, b.r6.w14, b.r6.w15, b.r7.w14, b.r7.w15⟩⟩

/-- Makes a block from two others: their difference, mixed along its rows and
then along its columns, is added to itself. -/
def compress (a b : Block) : Block :=
  let difference := a.xor b
  difference.xor (transpose (permuteRows (transpose (permuteRows difference))))

end Block

/-- Bytes with their number in front, as four bytes. -/
def counted (bytes : List UInt8) : List UInt8 := toLittleEndian 4 bytes.length ++ bytes

/-- A digest of any length. Long ones are a chain of digests, of each of which
half is kept. -/
def longHash (length : Nat) (message : List UInt8) : List UInt8 :=
  let message := toLittleEndian 4 length ++ message
  if length ≤ 64 then hash length message
  else
    let links := (length + 31) / 32 - 2
    let first := hash 64 message
    let (last, kept) := (List.range (links - 1)).foldl (fun (link, kept) _ =>
      let link := hash 64 link
      (link, kept ++ link.take 32)) (first, first.take 32)
    kept ++ hash (length - 32 * links) last

/-- What a computation starts from. -/
structure Input where
  variant : Variant
  version : Version
  cost : Cost
  password : List UInt8
  salt : List UInt8
  data : List UInt8

/-- The digest of everything that a computation depends on. -/
def Input.digest (i : Input) : List UInt8 :=
  hash 64 ([i.cost.lanes, i.cost.length, i.cost.memory, i.cost.passes, i.version.code,
      i.variant.code].flatMap (toLittleEndian 4)
    ++ counted i.password ++ counted i.salt ++ counted [] ++ counted i.data)

/-- The memory with the first two blocks of every lane. -/
def Input.initialMemory (i : Input) : Array Block :=
  let digest := i.digest
  let first (lane index : Nat) : Block :=
    .ofWords (words (longHash 1024 (digest ++ toLittleEndian 4 index ++ toLittleEndian 4 lane)))
  (List.range i.cost.lanes).foldl (fun memory lane =>
    let start := lane * i.cost.lane
    (memory.setIfInBounds start (first lane 0)).setIfInBounds (start + 1) (first lane 1))
    (Array.replicate (i.cost.lanes * i.cost.lane) .zero)

/-- A segment of memory: a quarter of a lane in one of the passes. -/
structure Segment where
  pass : Nat
  slice : Nat
  lane : Nat

namespace Segment

/-- Whether the blocks of a segment are made from blocks chosen by their place. -/
def isIndependent (s : Segment) : Variant → Bool
  | .dependent => false
  | .independent => true
  | .hybrid => s.pass = 0 && s.slice < 2

/-- The pseudo-random words for 128 places of a segment, the `count`-th such
block from one on. -/
def addresses (s : Segment) (i : Input) (count : Nat) : Array UInt64 :=
  let numbers : List Nat := [s.pass, s.lane, s.slice, i.cost.lanes * i.cost.lane, i.cost.passes,
    i.variant.code, count]
  let input := Block.ofWords (numbers.map UInt64.ofNat)
  ((Block.zero.compress (Block.zero.compress input)).rows.flatMap (·.toList)).toArray

/-- The place of the block that a new one refers to, by a pseudo-random word. The
lower half chooses among the blocks that are already there, later ones more
often; the upper half chooses the lane. -/
def reference (s : Segment) (cost : Cost) (index : Nat) (word : UInt64) : Nat :=
  let low := word.toNat % 0x1_0000_0000
  let high := word.toNat / 0x1_0000_0000
  let lane := if s.pass = 0 ∧ s.slice = 0 then s.lane else high % cost.lanes
  let finished := if s.pass = 0 then s.slice * cost.segment else cost.lane - cost.segment
  let area :=
    if lane = s.lane then finished + index - 1
    else if index = 0 then finished - 1
    else finished
  let back := area * (low * low / 0x1_0000_0000) / 0x1_0000_0000
  let start := if s.pass = 0 ∨ s.slice = 3 then 0 else (s.slice + 1) * cost.segment
  lane * cost.lane + (start + (area - 1 - back)) % cost.lane

/-- Makes the block at a place of a segment. -/
def fillOne (s : Segment) (i : Input) (memory : Array Block) (index : Nat) (word : UInt64) :
    Array Block :=
  let cost := i.cost
  let offset := s.slice * cost.segment + index
  let current := s.lane * cost.lane + offset
  let previous := if offset = 0 then s.lane * cost.lane + cost.lane - 1 else current - 1
  let made := (memory.getD previous .zero).compress
    (memory.getD (s.reference cost index word) .zero)
  let block :=
    if s.pass = 0 ∨ i.version = .v16 then made else made.xor (memory.getD current .zero)
  memory.setIfInBounds current block

/-- Makes the `remaining` blocks of a segment from `index` on. `addressed` holds
the pseudo-random words of the 128 places around `index`, if they are chosen by
place. -/
def fillFrom (s : Segment) (i : Input) (independent : Bool) :
    Nat → Nat → Array UInt64 → Array Block → Array Block
  | 0, _, _, memory => memory
  | remaining + 1, index, addressed, memory =>
    let addressed :=
      if independent ∧ (addressed.isEmpty ∨ index % 128 = 0) then
        s.addresses i (index / 128 + 1)
      else addressed
    let word :=
      if independent then addressed.getD (index % 128) 0
      else
        let offset := s.slice * i.cost.segment + index
        let base := s.lane * i.cost.lane
        (memory.getD (base + if offset = 0 then i.cost.lane - 1 else offset - 1) .zero).r0.w0
    fillFrom s i independent remaining (index + 1) addressed (s.fillOne i memory index word)

/-- Makes the blocks of a segment. The first two of a lane are there from the
start. -/
def fill (s : Segment) (i : Input) (memory : Array Block) : Array Block :=
  let first := if s.pass = 0 ∧ s.slice = 0 then 2 else 0
  s.fillFrom i (s.isIndependent i.variant) (i.cost.segment - first) first #[] memory

end Segment

/-- The memory after all passes. -/
def Input.finalMemory (i : Input) : Array Block :=
  (List.range i.cost.passes).foldl (fun memory pass =>
    (List.range 4).foldl (fun memory slice =>
      (List.range i.cost.lanes).foldl (fun memory lane =>
        (Segment.mk pass slice lane).fill i memory) memory) memory) i.initialMemory

/-- The result of a computation: a digest of the last blocks of all lanes. -/
def Input.result (i : Input) : List UInt8 :=
  let memory := i.finalMemory
  let last := (List.range i.cost.lanes).foldl (fun block lane =>
    block.xor (memory.getD (lane * i.cost.lane + i.cost.lane - 1) .zero)) Block.zero
  longHash i.cost.length last.toBytes

end AuthGate.Argon2

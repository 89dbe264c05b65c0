import ConfigRegistry.Digest.Blake2b

/-!
The memory-hard password hash Argon2 in its three variants and two versions. Memory is a list of
lanes of blocks; every block mixes the one before it with an earlier one whose place depends on
the password, on the position alone, or first on the one and then on the other.
-/
namespace ConfigRegistry.Digest.Argon2

/-- How the place of the earlier block is chosen. -/
inductive Variant where
  | dependent
  | independent
  | hybrid
deriving DecidableEq, Repr

def Variant.code : Variant → UInt64
  | .dependent => 0
  | .independent => 1
  | .hybrid => 2

/-- The two versions; the later one xors into blocks that are written again. -/
inductive Version where
  | v16
  | v19
deriving DecidableEq, Repr

def Version.number : Version → Nat
  | .v16 => 0x10
  | .v19 => 0x13

/-- Costs of one hash: memory in blocks of 1024 bytes, passes over it, and lanes. -/
structure Cost where
  memory : Nat
  passes : Nat
  lanes : Nat
deriving DecidableEq, Repr

/-- Everything that the hash depends on besides the password. -/
structure Setting where
  variant : Variant
  version : Version
  cost : Cost
  salt : List UInt8
  associated : List UInt8
  size : Nat

/-- Sixteen words of a block. -/
structure Row where
  w0 : UInt64
  w1 : UInt64
  w2 : UInt64
  w3 : UInt64
  w4 : UInt64
  w5 : UInt64
  w6 : UInt64
  w7 : UInt64
  w8 : UInt64
  w9 : UInt64
  w10 : UInt64
  w11 : UInt64
  w12 : UInt64
  w13 : UInt64
  w14 : UInt64
  w15 : UInt64

/-- A block of 1024 bytes: eight rows of sixteen words. -/
structure Block where
  r0 : Row
  r1 : Row
  r2 : Row
  r3 : Row
  r4 : Row
  r5 : Row
  r6 : Row
  r7 : Row

/-- Four words on their way through a mixing step. -/
structure Quad where
  a : UInt64
  b : UInt64
  c : UInt64
  d : UInt64

/-- Addition with twice the product of the lower halves. -/
@[inline] def blend (x y : UInt64) : UInt64 :=
  x + y + 2 * ((x &&& 0xffffffff) * (y &&& 0xffffffff))

@[inline] def mix (a b c d : UInt64) : Quad :=
  let a := blend a b
  let d := Blake2b.rotateRight (d ^^^ a) 32
  let c := blend c d
  let b := Blake2b.rotateRight (b ^^^ c) 24
  let a := blend a b
  let d := Blake2b.rotateRight (d ^^^ a) 16
  let c := blend c d
  let b := Blake2b.rotateRight (b ^^^ c) 63
  ⟨a, b, c, d⟩

/-- Mixes sixteen words: the columns of a four by four square, then its diagonals. -/
def Row.mixed (r : Row) : Row :=
  let p0 := mix r.w0 r.w4 r.w8 r.w12
  let p1 := mix r.w1 r.w5 r.w9 r.w13
  let p2 := mix r.w2 r.w6 r.w10 r.w14
  let p3 := mix r.w3 r.w7 r.w11 r.w15
  let q0 := mix p0.a p1.b p2.c p3.d
  let q1 := mix p1.a p2.b p3.c p0.d
  let q2 := mix p2.a p3.b p0.c p1.d
  let q3 := mix p3.a p0.b p1.c p2.d
  ⟨q0.a, q1.a, q2.a, q3.a, q3.b, q0.b, q1.b, q2.b, q2.c, q3.c, q0.c, q1.c, q1.d, q2.d, q3.d, q0.d⟩

def Row.xor (x y : Row) : Row :=
  ⟨x.w0 ^^^ y.w0, x.w1 ^^^ y.w1, x.w2 ^^^ y.w2, x.w3 ^^^ y.w3, x.w4 ^^^ y.w4, x.w5 ^^^ y.w5,
   x.w6 ^^^ y.w6, x.w7 ^^^ y.w7, x.w8 ^^^ y.w8, x.w9 ^^^ y.w9, x.w10 ^^^ y.w10, x.w11 ^^^ y.w11,
   x.w12 ^^^ y.w12, x.w13 ^^^ y.w13, x.w14 ^^^ y.w14, x.w15 ^^^ y.w15⟩

def Row.zero : Row :=
  ⟨0, 0, 0, 0, 0, 0, 0, 0, 0, 0, 0, 0, 0, 0, 0, 0⟩

def Block.xor (x y : Block) : Block :=
  ⟨x.r0.xor y.r0, x.r1.xor y.r1, x.r2.xor y.r2, x.r3.xor y.r3, x.r4.xor y.r4, x.r5.xor y.r5,
   x.r6.xor y.r6, x.r7.xor y.r7⟩

def Block.zero : Block :=
  ⟨.zero, .zero, .zero, .zero, .zero, .zero, .zero, .zero⟩

@[inline] def Block.column (x : Block) (first second : Row → UInt64) : Row :=
  Row.mixed ⟨first x.r0, second x.r0, first x.r1, second x.r1, first x.r2, second x.r2, first
   x.r3, second x.r3, first x.r4, second x.r4, first x.r5, second x.r5, first x.r6, second x.r6,
   first x.r7, second x.r7⟩

def Block.mixed (x : Block) : Block :=
  let y : Block := ⟨x.r0.mixed, x.r1.mixed, x.r2.mixed, x.r3.mixed, x.r4.mixed, x.r5.mixed,
    x.r6.mixed, x.r7.mixed⟩
  let c0 := y.column (·.w0) (·.w1)
  let c1 := y.column (·.w2) (·.w3)
  let c2 := y.column (·.w4) (·.w5)
  let c3 := y.column (·.w6) (·.w7)
  let c4 := y.column (·.w8) (·.w9)
  let c5 := y.column (·.w10) (·.w11)
  let c6 := y.column (·.w12) (·.w13)
  let c7 := y.column (·.w14) (·.w15)
  ⟨⟨c0.w0, c0.w1, c1.w0, c1.w1, c2.w0, c2.w1, c3.w0, c3.w1, c4.w0, c4.w1, c5.w0, c5.w1, c6.w0,
    c6.w1, c7.w0, c7.w1⟩,
   ⟨c0.w2, c0.w3, c1.w2, c1.w3, c2.w2, c2.w3, c3.w2, c3.w3, c4.w2, c4.w3, c5.w2, c5.w3, c6.w2,
    c6.w3, c7.w2, c7.w3⟩,
   ⟨c0.w4, c0.w5, c1.w4, c1.w5, c2.w4, c2.w5, c3.w4, c3.w5, c4.w4, c4.w5, c5.w4, c5.w5, c6.w4,
    c6.w5, c7.w4, c7.w5⟩,
   ⟨c0.w6, c0.w7, c1.w6, c1.w7, c2.w6, c2.w7, c3.w6, c3.w7, c4.w6, c4.w7, c5.w6, c5.w7, c6.w6,
    c6.w7, c7.w6, c7.w7⟩,
   ⟨c0.w8, c0.w9, c1.w8, c1.w9, c2.w8, c2.w9, c3.w8, c3.w9, c4.w8, c4.w9, c5.w8, c5.w9, c6.w8,
    c6.w9, c7.w8, c7.w9⟩,
   ⟨c0.w10, c0.w11, c1.w10, c1.w11, c2.w10, c2.w11, c3.w10, c3.w11, c4.w10, c4.w11, c5.w10,
    c5.w11, c6.w10, c6.w11, c7.w10, c7.w11⟩,
   ⟨c0.w12, c0.w13, c1.w12, c1.w13, c2.w12, c2.w13, c3.w12, c3.w13, c4.w12, c4.w13, c5.w12,
    c5.w13, c6.w12, c6.w13, c7.w12, c7.w13⟩,
   ⟨c0.w14, c0.w15, c1.w14, c1.w15, c2.w14, c2.w15, c3.w14, c3.w15, c4.w14, c4.w15, c5.w14,
    c5.w15, c6.w14, c6.w15, c7.w14, c7.w15⟩⟩

def Block.combine (x y : Block) : Block :=
  let z := x.xor y
  z.xor z.mixed

def Row.toList (r : Row) : List UInt64 :=
  [r.w0, r.w1, r.w2, r.w3, r.w4, r.w5, r.w6, r.w7, r.w8, r.w9, r.w10, r.w11, r.w12, r.w13, r.w14,
    r.w15]

def Block.toList (x : Block) : List UInt64 :=
  x.r0.toList ++ x.r1.toList ++ x.r2.toList ++ x.r3.toList ++ x.r4.toList ++ x.r5.toList ++
    x.r6.toList ++ x.r7.toList

def Row.ofArray (ws : Array UInt64) (start : Nat) : Row :=
  ⟨ws.getD (start + 0) 0, ws.getD (start + 1) 0, ws.getD (start + 2) 0, ws.getD (start + 3) 0,
   ws.getD (start + 4) 0, ws.getD (start + 5) 0, ws.getD (start + 6) 0, ws.getD (start + 7) 0,
   ws.getD (start + 8) 0, ws.getD (start + 9) 0, ws.getD (start + 10) 0, ws.getD (start + 11) 0,
   ws.getD (start + 12) 0, ws.getD (start + 13) 0, ws.getD (start + 14) 0, ws.getD (start + 15)
   0⟩

def Block.ofArray (ws : Array UInt64) : Block :=
  ⟨.ofArray ws 0, .ofArray ws 16, .ofArray ws 32, .ofArray ws 48, .ofArray ws 64, .ofArray ws
   80, .ofArray ws 96, .ofArray ws 112⟩

def wordsOfBytes (bytes : List UInt8) : List UInt64 :=
  match bytes with
  | [] => []
  | b :: rest => Blake2b.word (b :: rest) :: wordsOfBytes ((b :: rest).drop 8)
termination_by bytes.length
decreasing_by simp only [List.length_drop, List.length_cons]; omega

/-- A number as four bytes, least significant first. -/
def bytes32 (n : Nat) : List UInt8 :=
  (Blake2b.bytesOfWord (UInt64.ofNat n)).take 4

/-- The digest of any size: long ones are chained from halves of digests of 64 bytes. -/
def longDigest (size : Nat) (message : List UInt8) : List UInt8 :=
  let headed := bytes32 size ++ message
  if size ≤ 64 then Blake2b.digest size headed
  else
    let rounds := (size + 31) / 32 - 2
    let first := Blake2b.digest 64 headed
    let (done, last) := Nat.fold (rounds - 1)
      (fun _ _ (s : List (List UInt8) × List UInt8) =>
        let next := Blake2b.digest 64 s.2
        (next.take 32 :: s.1, next))
      ([first.take 32], first)
    done.reverse.flatten ++ Blake2b.digest (size - 32 * rounds) last

/-- The digest of all parameters and of the password, from which the first blocks are made. -/
def seedDigest (s : Setting) (password : List UInt8) : List UInt8 :=
  Blake2b.digest 64 <|
    bytes32 s.cost.lanes ++ bytes32 s.size ++ bytes32 s.cost.memory ++ bytes32 s.cost.passes
      ++ bytes32 s.version.number ++ bytes32 s.variant.code.toNat
      ++ bytes32 password.length ++ password ++ bytes32 s.salt.length ++ s.salt
      ++ bytes32 0 ++ bytes32 s.associated.length ++ s.associated

def Setting.segment (s : Setting) : Nat :=
  s.cost.memory / (4 * s.cost.lanes)

def Setting.lane (s : Setting) : Nat :=
  4 * s.segment

/-- A place in the filling order: pass, quarter, lane and index in the quarter. -/
structure Place where
  pass : Nat
  quarter : Nat
  lane : Nat
  index : Nat

/-- Whether the earlier block is chosen without looking at memory. -/
def Setting.positional (s : Setting) (p : Place) : Bool :=
  match s.variant with
  | .dependent => false
  | .independent => true
  | .hybrid => p.pass = 0 && p.quarter < 2

/-- The pseudorandom words that choose earlier blocks by position, for 128 indices in a row. -/
def Setting.addresses (s : Setting) (p : Place) : Block :=
  let header : Row :=
    { Row.zero with
      w0 := UInt64.ofNat p.pass
      w1 := UInt64.ofNat p.lane
      w2 := UInt64.ofNat p.quarter
      w3 := UInt64.ofNat (s.lane * s.cost.lanes)
      w4 := UInt64.ofNat s.cost.passes
      w5 := s.variant.code
      w6 := UInt64.ofNat (p.index / 128 + 1) }
  Block.zero.combine (Block.zero.combine { Block.zero with r0 := header })

/-- The lane and column of the earlier block that a pseudorandom word selects. -/
def Setting.reference (s : Setting) (p : Place) (random : UInt64) : Nat × Nat :=
  let lane :=
    if p.pass = 0 ∧ p.quarter = 0 then p.lane else (random >>> 32).toNat % s.cost.lanes
  let own := lane = p.lane
  let finished := if p.pass = 0 then p.quarter * s.segment else s.lane - s.segment
  let area :=
    if own then finished + p.index - 1
    else if p.index = 0 then finished - 1
    else finished
  let low := (random &&& 0xffffffff).toNat
  let offset := area - 1 - area * (low * low / UInt32.size) / UInt32.size
  let start := if p.pass = 0 then 0 else (p.quarter + 1) * s.segment
  (lane, (start + offset) % s.lane)

def Setting.fill (s : Setting) (p : Place) (addresses : Array UInt64) (memory : Array Block) :
    Array Block :=
  let column := p.quarter * s.segment + p.index
  let base := p.lane * s.lane
  let previous := memory.getD (base + (column + s.lane - 1) % s.lane) .zero
  let random :=
    if s.positional p then addresses.getD (p.index % 128) 0 else previous.r0.w0
  let (lane, earlier) := s.reference p random
  let fresh := previous.combine (memory.getD (lane * s.lane + earlier) .zero)
  let written :=
    if p.pass = 0 ∨ s.version = .v16 then fresh
    else fresh.xor (memory.getD (base + column) .zero)
  memory.setIfInBounds (base + column) written

def Setting.fillSegment (s : Setting) (pass quarter lane : Nat) (memory : Array Block) :
    Array Block :=
  (Nat.fold s.segment
    (fun index _ (st : Array UInt64 × Array Block) =>
      let p : Place := ⟨pass, quarter, lane, index⟩
      let addresses :=
        if index % 128 = 0 ∧ s.positional p then (s.addresses p).toList.toArray else st.1
      if pass = 0 ∧ quarter = 0 ∧ index < 2 then (addresses, st.2)
      else (addresses, s.fill p addresses st.2))
    (#[], memory)).2

def Setting.start (s : Setting) (seed : List UInt8) : Array Block :=
  Nat.fold s.cost.lanes
    (fun lane _ memory =>
      let block (column : Nat) : Block :=
        .ofArray (wordsOfBytes (longDigest 1024 (seed ++ bytes32 column ++ bytes32 lane))).toArray
      (memory.setIfInBounds (lane * s.lane) (block 0)).setIfInBounds (lane * s.lane + 1) (block 1))
    (Array.replicate (s.lane * s.cost.lanes) .zero)

def hash (s : Setting) (password : List UInt8) : List UInt8 :=
  let filled := Nat.fold s.cost.passes
    (fun pass _ memory => Nat.fold 4
      (fun quarter _ memory => Nat.fold s.cost.lanes
        (fun lane _ memory => s.fillSegment pass quarter lane memory) memory) memory)
    (s.start (seedDigest s password))
  let last := Nat.fold s.cost.lanes
    (fun lane _ (x : Block) => x.xor (filled.getD (lane * s.lane + s.lane - 1) .zero)) .zero
  longDigest s.size (last.toList.flatMap Blake2b.bytesOfWord)

end ConfigRegistry.Digest.Argon2

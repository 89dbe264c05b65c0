/-!
BLAKE2b without a key, over byte lists, with a digest of 1 to 64 bytes. Blocks have 128 bytes;
the last one is padded with zeros and marked.
-/
namespace ConfigRegistry.Digest.Blake2b

def initial : Array UInt64 :=
  #[0x6a09e667f3bcc908, 0xbb67ae8584caa73b, 0x3c6ef372fe94f82b, 0xa54ff53a5f1d36f1,
    0x510e527fade682d1, 0x9b05688c2b3e6c1f, 0x1f83d9abfb41bd6b, 0x5be0cd19137e2179]

/-- The order in which each round takes the message words. -/
def permutations : List (List Nat) :=
  [[0, 1, 2, 3, 4, 5, 6, 7, 8, 9, 10, 11, 12, 13, 14, 15],
   [14, 10, 4, 8, 9, 15, 13, 6, 1, 12, 0, 2, 11, 7, 5, 3],
   [11, 8, 12, 0, 5, 2, 15, 13, 10, 14, 3, 6, 7, 1, 9, 4],
   [7, 9, 3, 1, 13, 12, 11, 14, 2, 6, 5, 10, 4, 0, 15, 8],
   [9, 0, 5, 7, 2, 4, 10, 15, 14, 1, 11, 12, 6, 8, 3, 13],
   [2, 12, 6, 10, 0, 11, 8, 3, 4, 13, 7, 5, 15, 14, 1, 9],
   [12, 5, 1, 15, 14, 13, 4, 10, 0, 7, 6, 3, 9, 2, 8, 11],
   [13, 11, 7, 14, 12, 1, 3, 9, 5, 0, 15, 4, 8, 6, 2, 10],
   [6, 15, 14, 9, 11, 3, 0, 8, 12, 2, 13, 7, 1, 4, 10, 5],
   [10, 2, 8, 4, 7, 6, 1, 5, 15, 11, 9, 14, 3, 12, 13, 0],
   [0, 1, 2, 3, 4, 5, 6, 7, 8, 9, 10, 11, 12, 13, 14, 15],
   [14, 10, 4, 8, 9, 15, 13, 6, 1, 12, 0, 2, 11, 7, 5, 3]]

/-- The four places that each of the eight mixing steps of a round works on. -/
def lanes : List (Nat × Nat × Nat × Nat) :=
  [(0, 4, 8, 12), (1, 5, 9, 13), (2, 6, 10, 14), (3, 7, 11, 15),
   (0, 5, 10, 15), (1, 6, 11, 12), (2, 7, 8, 13), (3, 4, 9, 14)]

@[inline] def rotateRight (x n : UInt64) : UInt64 :=
  (x >>> n) ||| (x <<< (64 - n))

def mix (v : Array UInt64) (lane : Nat × Nat × Nat × Nat) (x y : UInt64) : Array UInt64 :=
  let (i, j, k, l) := lane
  let a := v.getD i 0 + v.getD j 0 + x
  let d := rotateRight (v.getD l 0 ^^^ a) 32
  let c := v.getD k 0 + d
  let b := rotateRight (v.getD j 0 ^^^ c) 24
  let a := a + b + y
  let d := rotateRight (d ^^^ a) 16
  let c := c + d
  let b := rotateRight (b ^^^ c) 63
  (((v.setIfInBounds i a).setIfInBounds j b).setIfInBounds k c).setIfInBounds l d

def round (message v : Array UInt64) (order : List Nat) : Array UInt64 :=
  let rec go : List (Nat × Nat × Nat × Nat) → List Nat → Array UInt64 → Array UInt64
    | lane :: rest, x :: y :: order, v =>
      go rest order (mix v lane (message.getD x 0) (message.getD y 0))
    | _, _, v => v
  go lanes order v

/-- Eight bytes read as one little-endian word; missing bytes count as zero. -/
def word (bytes : List UInt8) : UInt64 :=
  (bytes.take 8).foldr (fun b acc => (acc <<< 8) ||| b.toUInt64) 0

/-- A word as eight bytes, least significant first. -/
def bytesOfWord (x : UInt64) : List UInt8 :=
  [x.toUInt8, (x >>> 8).toUInt8, (x >>> 16).toUInt8, (x >>> 24).toUInt8,
   (x >>> 32).toUInt8, (x >>> 40).toUInt8, (x >>> 48).toUInt8, (x >>> 56).toUInt8]

/-- Mixes one block into the state; `count` bytes have been taken in all. -/
def compress (state : Array UInt64) (block : List UInt8) (count : Nat) (last : Bool) :
    Array UInt64 :=
  let message := Array.ofFn fun i : Fin 16 => word (block.drop (8 * i))
  let start := state ++ initial
  let start := start.modify 12 (· ^^^ UInt64.ofNat count)
  let start := start.modify 13 (· ^^^ UInt64.ofNat (count / UInt64.size))
  let start := if last then start.modify 14 (~~~ ·) else start
  let v := permutations.foldl (round message) start
  Array.ofFn fun i : Fin 8 => state.getD i 0 ^^^ v.getD i 0 ^^^ v.getD (i + 8) 0

/-- Mixes in all blocks; the last one is the one that nothing follows. -/
def absorb (state : Array UInt64) (count : Nat) (bytes : List UInt8) : Array UInt64 :=
  match _rest : bytes.drop 128 with
  | [] => compress state bytes (count + bytes.length) true
  | b :: rest =>
    absorb (compress state (bytes.take 128) (count + 128) false) (count + 128) (b :: rest)
termination_by bytes.length
decreasing_by
  have := congrArg List.length _rest
  simp at this
  simp
  omega

def digest (size : Nat) (message : List UInt8) : List UInt8 :=
  let start := initial.modify 0 (· ^^^ (0x01010000 ^^^ UInt64.ofNat size))
  ((absorb start 0 message).toList.flatMap bytesOfWord).take size

end ConfigRegistry.Digest.Blake2b

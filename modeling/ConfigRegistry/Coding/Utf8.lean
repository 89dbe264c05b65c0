/-!
UTF-8. A sequence that cannot be continued is one fault up to the byte that rules it out; the
lenient reader puts a replacement character in its place.
-/
namespace ConfigRegistry.Coding.Utf8

def encode (s : String) : List UInt8 := s.toUTF8.toList

/-- What a first byte asks for: how many bytes follow, the bits it carries itself, and the bounds
of the byte after it. -/
structure Lead where
  owed : Nat
  bits : Nat
  low : UInt8
  high : UInt8

def lead? (b : UInt8) : Option Lead :=
  let n := b.toNat
  if n < 0x80 then some ⟨0, n, 0x80, 0xbf⟩
  else if 0xc2 ≤ n ∧ n ≤ 0xdf then some ⟨1, n - 0xc0, 0x80, 0xbf⟩
  else if n = 0xe0 then some ⟨2, 0, 0xa0, 0xbf⟩
  else if n = 0xed then some ⟨2, 0xd, 0x80, 0x9f⟩
  else if 0xe1 ≤ n ∧ n ≤ 0xef then some ⟨2, n - 0xe0, 0x80, 0xbf⟩
  else if n = 0xf0 then some ⟨3, 0, 0x90, 0xbf⟩
  else if 0xf1 ≤ n ∧ n ≤ 0xf3 then some ⟨3, n - 0xf0, 0x80, 0xbf⟩
  else if n = 0xf4 then some ⟨3, 4, 0x80, 0x8f⟩
  else none

/-- Reads the bytes that are owed; the rest starts at the first byte that does not fit. -/
def readTail : Nat → UInt8 → UInt8 → Nat → List UInt8 → Option Nat × List UInt8
  | 0, _, _, acc, rest => (some acc, rest)
  | _ + 1, _, _, _, [] => (none, [])
  | n + 1, low, high, acc, b :: rest =>
    if low ≤ b ∧ b ≤ high then readTail n 0x80 0xbf (acc * 64 + (b.toNat - 0x80)) rest
    else (none, b :: rest)

/-- The character that starts with a byte, or a fault, and the bytes behind it. -/
def readChar (b : UInt8) (rest : List UInt8) : Option Char × List UInt8 :=
  match lead? b with
  | none => (none, rest)
  | some lead =>
    let (code, rest) := readTail lead.owed lead.low lead.high lead.bits rest
    (code.map Char.ofNat, rest)

/-- Reading a character leaves no more bytes than there were, which is why decoding ends. -/
theorem length_readTail_le (n : Nat) (low high : UInt8) (acc : Nat) (l : List UInt8) :
    (readTail n low high acc l).2.length ≤ l.length := by
  induction n generalizing low high acc l with
  | zero => simp [readTail]
  | succ n ih =>
    cases l with
    | nil => simp [readTail]
    | cons b rest =>
      simp only [readTail]
      split
      · exact Nat.le_succ_of_le (ih ..)
      · simp

theorem length_readChar_le (b : UInt8) (rest : List UInt8) :
    (readChar b rest).2.length ≤ rest.length := by
  unfold readChar
  split
  · simp
  · exact length_readTail_le ..

def decodeLossy (bytes : List UInt8) : List Char :=
  match bytes with
  | [] => []
  | b :: rest => ((readChar b rest).1.getD '\ufffd') :: decodeLossy (readChar b rest).2
termination_by bytes.length
decreasing_by have := length_readChar_le b rest; simp; omega

def decode? (bytes : List UInt8) : Option (List Char) :=
  match bytes with
  | [] => some []
  | b :: rest =>
    match (readChar b rest).1 with
    | none => none
    | some c => (decode? (readChar b rest).2).map (c :: ·)
termination_by bytes.length
decreasing_by have := length_readChar_le b rest; simp; omega

/-- A fault: how many bytes stand before it, and how many belong to it, unless the fault is that the
bytes end within a character. -/
structure Fault where
  index : Nat
  length : Option Nat
deriving DecidableEq, Repr

def Fault.message (f : Fault) : String :=
  match f.length with
  | some n => "invalid utf-8 sequence of " ++ toString n ++ " bytes from index " ++ toString f.index
  | none => "incomplete utf-8 byte sequence from index " ++ toString f.index

def faultAt (index : Nat) (b : UInt8) (rest : List UInt8) : Fault :=
  let behind := (readChar b rest).2
  ⟨index, if (lead? b).isSome && behind.isEmpty then none
    else some (1 + rest.length - behind.length)⟩

/-- The first fault behind a number of bytes without one. -/
def faultFrom? (index : Nat) (bytes : List UInt8) : Option Fault :=
  match bytes with
  | [] => none
  | b :: rest =>
    match (readChar b rest).1 with
    | none => some (faultAt index b rest)
    | some c => faultFrom? (index + c.utf8Size) (readChar b rest).2
termination_by bytes.length
decreasing_by have := length_readChar_le b rest; simp; omega

def fault? (bytes : List UInt8) : Option Fault := faultFrom? 0 bytes

def lossy (bytes : List UInt8) : String := String.ofList (decodeLossy bytes)

def string? (bytes : List UInt8) : Option String := (decode? bytes).map String.ofList

end ConfigRegistry.Coding.Utf8

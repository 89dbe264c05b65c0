import ConfigRegistry.Cipher.Aes

/-!
AES-256 in Galois counter mode, with a nonce of twelve bytes, a tag of sixteen bytes and no
associated data. Enciphering and deciphering xor the same keystream, so the second undoes the
first.
-/
namespace ConfigRegistry.Cipher.Gcm

/-- A block counter: the nonce followed by a big-endian number. -/
def counterBlock (nonce : List UInt8) (counter : UInt32) : List UInt8 :=
  nonce ++ [(counter >>> 24).toUInt8, (counter >>> 16).toUInt8, (counter >>> 8).toUInt8,
    counter.toUInt8]

def applyKeystream (keys : Array (List UInt8)) (nonce : List UInt8) (counter : UInt32)
    (bytes : List UInt8) : List UInt8 :=
  match bytes with
  | [] => []
  | b :: rest =>
    Aes.xor ((b :: rest).take 16) (Aes.encipher keys (counterBlock nonce counter))
      ++ applyKeystream keys nonce (counter + 1) ((b :: rest).drop 16)
termination_by bytes.length
decreasing_by simp only [List.length_drop, List.length_cons]; omega

def field (bytes : List UInt8) : BitVec 128 :=
  bytes.foldl (fun acc b => (acc <<< 8) ||| (BitVec.ofNat 128 b.toNat)) 0

/-- Multiplication in the field of 2^128 elements, most significant bit first. -/
def multiply (x y : BitVec 128) : BitVec 128 :=
  (Nat.fold 128
    (fun i _ (zv : BitVec 128 × BitVec 128) =>
      let z := if x.getMsbD i then zv.1 ^^^ zv.2 else zv.1
      let v := if zv.2.getLsbD 0 then (zv.2 >>> 1) ^^^ (0xe1#128 <<< 120) else zv.2 >>> 1
      (z, v))
    (0, y)).1

def hashBlocks (h acc : BitVec 128) (bytes : List UInt8) : BitVec 128 :=
  match bytes with
  | [] => acc
  | b :: rest =>
    let block := (b :: rest).take 16
    hashBlocks h
      (multiply (acc ^^^ field (block ++ List.replicate (16 - block.length) 0)) h)
      ((b :: rest).drop 16)
termination_by bytes.length
decreasing_by simp only [List.length_drop, List.length_cons]; omega

def tag (keys : Array (List UInt8)) (nonce ciphertext : List UInt8) : List UInt8 :=
  let h := field (Aes.encipher keys (List.replicate 16 0))
  let hashed := hashBlocks h 0 ciphertext
  let lengths := BitVec.ofNat 128 (8 * ciphertext.length % UInt64.size)
  let digest := multiply (hashed ^^^ lengths) h
  let mask := field (Aes.encipher keys (counterBlock nonce 1))
  let bits := digest ^^^ mask
  List.ofFn fun i : Fin 16 => UInt8.ofNat ((bits >>> (8 * (15 - i.val))).toNat % 256)

def encrypt (key nonce plaintext : List UInt8) : List UInt8 :=
  let keys := Aes.roundKeys key
  let ciphertext := applyKeystream keys nonce 2 plaintext
  ciphertext ++ tag keys nonce ciphertext

/-- The plaintext, when the tag at the end fits the ciphertext before it. -/
def decrypt? (key nonce sealed : List UInt8) : Option (List UInt8) :=
  let keys := Aes.roundKeys key
  let split := sealed.length - 16
  let ciphertext := sealed.take split
  if sealed.drop split = tag keys nonce ciphertext then
    some (applyKeystream keys nonce 2 ciphertext)
  else none

theorem length_tag (keys : Array (List UInt8)) (nonce ciphertext : List UInt8) :
    (tag keys nonce ciphertext).length = 16 := by
  simp [tag]

end ConfigRegistry.Cipher.Gcm

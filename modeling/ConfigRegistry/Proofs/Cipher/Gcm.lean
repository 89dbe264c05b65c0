import ConfigRegistry.Cipher.Gcm

/-!
What is enciphered under a key of 32 bytes and a nonce of twelve is deciphered again. The cipher
keeps the length of a block, so that the keystream reaches every byte, and xoring the same
keystream twice changes nothing.
-/
namespace ConfigRegistry.Cipher

namespace Aes

theorem length_xor {xs ys : List UInt8} {n : Nat} (hxs : xs.length = n) (hys : ys.length = n) :
    (xor xs ys).length = n := by
  rw [xor, List.length_zipWith, hxs, hys, Nat.min_self]

/-- Xoring with the same bytes twice changes nothing. -/
theorem xor_xor {xs ys : List UInt8} (h : xs.length ≤ ys.length) : xor (xor xs ys) ys = xs := by
  induction xs generalizing ys with
  | nil => rfl
  | cons x xs ih =>
    cases ys with
    | nil => exact absurd h (by simp)
    | cons y ys =>
      have hx : x ^^^ y ^^^ y = x := by rw [UInt8.xor_assoc, UInt8.xor_self, UInt8.xor_zero]
      have hxs := ih (Nat.le_of_succ_le_succ h)
      simp only [xor, List.zipWith_cons_cons, hx] at hxs ⊢
      rw [hxs]

theorem length_shiftRows (l : List UInt8) : (shiftRows l).length = l.length := by
  unfold shiftRows
  split <;> rfl

theorem length_mixColumns {l : List UInt8} (h : l.length % 4 = 0) :
    (mixColumns l).length = l.length := by
  fun_induction mixColumns l with
  | case1 a b c d rest ih =>
    simp only [List.length_cons] at h ⊢
    rw [ih (by omega)]
  | case2 l hshort =>
    match l, hshort with
    | [], _ => rfl
    | [_], _ => simp at h
    | [_, _], _ => simp at h
    | [_, _, _], _ => simp at h
    | a :: b :: c :: d :: rest, hshort => exact absurd rfl (hshort a b c d rest)

/-! Round keys. -/

theorem length_nextKeyWord {index : Nat} {roundConstant : UInt8} {previous earlier : List UInt8}
    (hprevious : previous.length = 4) (hearlier : earlier.length = 4) :
    (nextKeyWord index roundConstant previous earlier).length = 4 := by
  have hrotated : ((previous.drop 1 ++ previous.take 1).map substitute).length = 4 := by
    simp [hprevious]
  unfold nextKeyWord
  simp only
  split
  · exact length_xor hearlier (length_xor hrotated rfl)
  · split
    · exact length_xor hearlier (by rw [List.length_map, hprevious])
    · exact length_xor hearlier hprevious

/-- So many words of a key schedule, each of four bytes. -/
def Words (n : Nat) (words : Array (List UInt8)) : Prop :=
  words.size = n ∧ ∀ i < n, (words.getD i []).length = 4

theorem Words.push {n : Nat} {words : Array (List UInt8)} {word : List UInt8} (h : Words n words)
    (hword : word.length = 4) : Words (n + 1) (words.push word) := by
  refine ⟨by rw [Array.size_push, h.1], fun i hi => ?_⟩
  by_cases hlast : i = n
  · rw [hlast, ← h.1]
    simpa [Array.getD] using hword
  · have hi' : i < words.size := by rw [h.1]; omega
    have hold := h.2 i (by omega)
    simp only [Array.getD, Array.size_push, hi', Nat.lt_succ_of_lt hi', dif_pos,
      Array.getInternal_eq_getElem] at hold ⊢
    rwa [Array.getElem_push_lt hi']

theorem words_first {key : List UInt8} (hkey : key.length = 32) :
    Words 8 (Array.ofFn fun i : Fin 8 => (key.drop (4 * i)).take 4) := by
  refine ⟨by simp, fun i hi => ?_⟩
  simp only [Array.getD, Array.size_ofFn, hi, dif_pos, Array.getInternal_eq_getElem,
    Array.getElem_ofFn, List.length_take, List.length_drop, hkey]
  omega

/-- Every round key has the length of a block. -/
theorem length_roundKeys {key : List UInt8} (hkey : key.length = 32) {i : Nat} (hi : i < 15) :
    ((roundKeys key).getD i []).length = 16 := by
  have hwords : ∀ n, Words (n + 8) (Nat.fold n
      (fun n _ ws =>
        let index := n + 8
        ws.push (nextKeyWord index (roundConstants.getD (index / 8 - 1) 0)
          (ws.getD (index - 1) []) (ws.getD n [])))
      (Array.ofFn fun i : Fin 8 => (key.drop (4 * i)).take 4)) := by
    intro n
    induction n with
    | zero => exact words_first hkey
    | succ n ih =>
      rw [Nat.fold_succ, Nat.succ_add]
      exact ih.push (length_nextKeyWord (ih.2 _ (by omega)) (ih.2 _ (by omega)))
  have hall := (hwords 52).2
  rw [roundKeys]
  generalize Nat.fold 52 _ _ = all at hall ⊢
  have hround : ((Array.ofFn fun i : Fin 15 => all.getD (4 * i) [] ++ all.getD (4 * i + 1) [] ++
      all.getD (4 * i + 2) [] ++ all.getD (4 * i + 3) []).getD i []) =
      all.getD (4 * i) [] ++ all.getD (4 * i + 1) [] ++ all.getD (4 * i + 2) [] ++
        all.getD (4 * i + 3) [] := by
    rw [← Array.getElem_eq_getD (h := by simpa using hi), Array.getElem_ofFn]
  rw [hround]
  simp only [List.length_append]
  rw [hall (4 * i) (by omega), hall (4 * i + 1) (by omega), hall (4 * i + 2) (by omega),
    hall (4 * i + 3) (by omega)]

/-- A block is enciphered to a block. -/
theorem length_encipher {keys : Array (List UInt8)} {block : List UInt8}
    (hkeys : ∀ i < 15, (keys.getD i []).length = 16) (hblock : block.length = 16) :
    (encipher keys block).length = 16 := by
  have hrounds : ∀ n ≤ 13, (Nat.fold n
      (fun n _ s => xor (mixColumns (shiftRows (s.map substitute))) (keys.getD (n + 1) []))
      (xor block (keys.getD 0 []))).length = 16 := by
    intro n hn
    induction n with
    | zero => exact length_xor hblock (hkeys 0 (by omega))
    | succ n ih =>
      rw [Nat.fold_succ]
      refine length_xor ?_ (hkeys (n + 1) (by omega))
      rw [length_mixColumns, length_shiftRows, List.length_map, ih (by omega)]
      rw [length_shiftRows, List.length_map, ih (by omega)]
  have hlast := hrounds 13 (Nat.le_refl 13)
  rw [encipher]
  generalize Nat.fold 13 _ _ = inner at hlast ⊢
  refine length_xor ?_ (hkeys 14 (by omega))
  rw [length_shiftRows, List.length_map, hlast]

end Aes

namespace Gcm

variable {keys : Array (List UInt8)} {nonce : List UInt8}

@[simp] theorem applyKeystream_nil (keys : Array (List UInt8)) (nonce : List UInt8)
    (counter : UInt32) : applyKeystream keys nonce counter [] = [] :=
  applyKeystream.eq_def keys nonce counter []

/-- The first sixteen bytes meet the keystream of the counter, the others that of the next. -/
theorem applyKeystream_of_ne_nil {bytes : List UInt8} (h : bytes ≠ []) (counter : UInt32) :
    applyKeystream keys nonce counter bytes =
      Aes.xor (bytes.take 16) (Aes.encipher keys (counterBlock nonce counter)) ++
        applyKeystream keys nonce (counter + 1) (bytes.drop 16) := by
  cases bytes with
  | nil => exact absurd rfl h
  | cons b rest => exact applyKeystream.eq_def keys nonce counter (b :: rest)

/-- A first block is full unless nothing follows it. -/
theorem take_drop_append {first rest : List UInt8} {n : Nat} (hfirst : first.length = min 16 n)
    (hrest : n < 16 → rest = []) :
    (first ++ rest).take 16 = first ∧ (first ++ rest).drop 16 = rest := by
  by_cases hn : n < 16
  · rw [hrest hn, List.append_nil]
    exact ⟨List.take_of_length_le (by omega), List.drop_of_length_le (by omega)⟩
  · have hfull : first.length = 16 := by omega
    exact ⟨List.take_left' hfull, List.drop_left' hfull⟩

section

variable (hkeys : ∀ i < 15, (keys.getD i []).length = 16) (hnonce : nonce.length = 12)
include hkeys hnonce

theorem length_keystream (counter : UInt32) :
    (Aes.encipher keys (counterBlock nonce counter)).length = 16 := by
  refine Aes.length_encipher hkeys ?_
  rw [counterBlock, List.length_append, hnonce]
  rfl

/-- Applying a keystream twice changes nothing. -/
theorem applyKeystream_applyKeystream (counter : UInt32) (bytes : List UInt8) :
    applyKeystream keys nonce counter (applyKeystream keys nonce counter bytes) = bytes := by
  induction hlength : bytes.length using Nat.strongRecOn generalizing counter bytes with
  | ind n ih =>
    by_cases hempty : bytes = []
    · rw [hempty, applyKeystream_nil, applyKeystream_nil]
    · have hstream := length_keystream hkeys hnonce counter
      have hpositive := List.length_pos_iff.mpr hempty
      have hrest := ih (bytes.length - 16) (by omega) (counter + 1) (bytes.drop 16) (by simp)
      have hfirst : (Aes.xor (bytes.take 16)
          (Aes.encipher keys (counterBlock nonce counter))).length = min 16 bytes.length := by
        rw [Aes.xor, List.length_zipWith, List.length_take, hstream]
        omega
      rw [applyKeystream_of_ne_nil hempty]
      generalize happlied : applyKeystream keys nonce (counter + 1) (bytes.drop 16) = applied
        at hrest ⊢
      have hlast : bytes.length < 16 → applied = [] := fun hshort => by
        rw [← happlied, List.drop_of_length_le (Nat.le_of_lt hshort), applyKeystream_nil]
      have hcut := take_drop_append hfirst hlast
      rw [applyKeystream_of_ne_nil, hcut.1, hcut.2, Aes.xor_xor, hrest, List.take_append_drop]
      · rw [List.length_take, hstream]
        omega
      · intro hnil
        have hlength := congrArg List.length hnil
        rw [List.length_append, hfirst, List.length_nil] at hlength
        omega

end

/-- What is enciphered is deciphered again. -/
theorem decrypt?_encrypt {key : List UInt8} (hkey : key.length = 32) (hnonce : nonce.length = 12)
    (plaintext : List UInt8) :
    decrypt? key nonce (encrypt key nonce plaintext) = some plaintext := by
  have hkeys : ∀ i < 15, ((Aes.roundKeys key).getD i []).length = 16 := fun i hi =>
    Aes.length_roundKeys hkey hi
  have hsplit : ∀ ciphertext, (ciphertext ++ tag (Aes.roundKeys key) nonce ciphertext).length - 16 =
      ciphertext.length := fun ciphertext => by
    rw [List.length_append, length_tag, Nat.add_sub_cancel]
  simp only [decrypt?, encrypt, hsplit, List.take_left, List.drop_left, if_true,
    applyKeystream_applyKeystream hkeys hnonce]

theorem length_encrypt (key nonce plaintext : List UInt8) :
    16 ≤ (encrypt key nonce plaintext).length := by
  simp only [encrypt]
  rw [List.length_append, length_tag]
  omega

end Gcm

end ConfigRegistry.Cipher

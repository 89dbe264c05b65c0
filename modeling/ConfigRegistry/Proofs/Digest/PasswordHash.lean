import ConfigRegistry.Digest.PasswordHash
import ConfigRegistry.Proofs.Coding.Base64
import ConfigRegistry.Proofs.Coding.Utf8
import ConfigRegistry.Proofs.Sequencing
import ConfigRegistry.Proofs.Text.Decimal

/-!
The hash of a new password is read back from its text, and verifies the password.
-/
namespace ConfigRegistry.Digest

/-! Sizes of digests. -/

namespace Blake2b

theorem size_absorb (state : Array UInt64) (count : Nat) (bytes : List UInt8) :
    (absorb state count bytes).size = 8 := by
  fun_induction absorb state count bytes with
  | case1 => simp [compress]
  | case2 _ _ _ _ _ _ ih => exact ih

/-- A digest has the size that was asked for. -/
theorem length_digest {size : Nat} (h : size ≤ 64) (message : List UInt8) :
    (digest size message).length = size := by
  have hwords : ∀ l : List UInt64, (l.flatMap bytesOfWord).length = 8 * l.length := by
    intro l
    induction l with
    | nil => rfl
    | cons x rest ih =>
      rw [List.flatMap_cons, List.length_append, ih, List.length_cons]
      simp only [bytesOfWord, List.length_cons, List.length_nil]
      omega
  simp only [digest, List.length_take, hwords, Array.length_toList, size_absorb]
  omega

end Blake2b

theorem Argon2.length_hash {s : Argon2.Setting} (h : s.size ≤ 64) (password : List UInt8) :
    (Argon2.hash s password).length = s.size := by
  unfold Argon2.hash Argon2.longDigest
  simp only [if_pos h]
  exact Blake2b.length_digest h _

/-! Texts of hashes. -/

namespace PasswordHash

open Coding

theorem isValueChar_char : ∀ n : Fin 64,
    isValueChar (Base64.standard.char n) = true ∧ (Base64.standard.char n).toNat < 128 := by decide

/-- The text of bytes is a value, if there are not too many of them. -/
theorem value_encode {bytes : List UInt8} (h : bytes.length ≤ 48) :
    (Base64.encode Base64.standard bytes).utf8ByteSize ≤ 64 ∧
      4 * bytes.length ≤ 3 * (Base64.encode Base64.standard bytes).utf8ByteSize ∧
      value (Base64.encode Base64.standard bytes) = .ok (Base64.encode Base64.standard bytes) := by
  have hchar : ∀ c ∈ (Base64.encode Base64.standard bytes).toList,
      isValueChar c = true ∧ c.toNat < 128 := by
    intro c hc
    obtain ⟨n, hn, rfl⟩ := Base64.mem_encode hc
    exact isValueChar_char ⟨n, hn⟩
  have hlength := Base64.length_encode Base64.standard bytes
  have hsize := Utf8.utf8ByteSize_of_small fun c hc => (hchar c hc).2
  rw [← hsize] at hlength
  have hfind : (Base64.encode Base64.standard bytes).toList.find? (!isValueChar ·) = none :=
    List.find?_eq_none.mpr fun c hc => by simp [(hchar c hc).1]
  refine ⟨by omega, hlength.2, ?_⟩
  unfold value
  rw [if_neg (by omega), hfind]

theorem saltText_encode {salt : List UInt8} (hlow : 8 ≤ salt.length) (hhigh : salt.length ≤ 48) :
    saltText (Base64.encode Base64.standard salt) = .ok (Base64.encode Base64.standard salt) := by
  obtain ⟨hmax, hmin, hvalue⟩ := value_encode hhigh
  unfold saltText
  rw [if_neg (by omega), if_neg (by omega), hvalue]
  rfl

theorem outputBytes_encode (output : List UInt8) (hlow : 10 ≤ output.length)
    (hhigh : output.length ≤ 48) :
    outputBytes (Base64.encode Base64.standard output) = .ok output := by
  obtain ⟨hmax, hmin, _⟩ := value_encode hhigh
  unfold outputBytes
  rw [if_neg (by omega), Base64.decode_encode Base64.faithful_standard]
  simp only [if_neg (Nat.not_lt.mpr hlow)]

theorem dollar_not_mem_encode (bytes : List UInt8) :
    '$' ∉ (Base64.encode Base64.standard bytes).toList := by
  intro h
  obtain ⟨n, hn, hc⟩ := Base64.mem_encode h
  have hvalue := (isValueChar_char ⟨n, hn⟩).1
  rw [← hc] at hvalue
  exact absurd hvalue (by decide)

def newSetting (salt : List UInt8) : Argon2.Setting := ⟨.hybrid, .v19, defaultCost, salt, [], 32⟩

theorem create_eq (password salt : List UInt8) :
    create password salt = ⟨"argon2id", some 19, [("m", "19456"), ("t", "2"), ("p", "1")],
      some (Base64.encode Base64.standard salt),
      some (Argon2.hash (newSetting salt) password)⟩ := by
  have hmemory : toString defaultCost.memory = "19456" := by decide
  have hpasses : toString defaultCost.passes = "2" := by decide
  have hlanes : toString defaultCost.lanes = "1" := by decide
  simp only [create, newSetting, hmemory, hpasses, hlanes]

/-- The fields of a hash with the parameters of new ones. -/
theorem split_render (salt output : List UInt8) :
    Text.split '$' (render ⟨"argon2id", some 19, [("m", "19456"), ("t", "2"), ("p", "1")],
        some (Base64.encode Base64.standard salt), some output⟩) =
      ["", "argon2id", "v=19", "m=19456,t=2,p=1", Base64.encode Base64.standard salt,
        Base64.encode Base64.standard output] := by
  have hrender : render ⟨"argon2id", some 19, [("m", "19456"), ("t", "2"), ("p", "1")],
      some (Base64.encode Base64.standard salt), some output⟩ =
      "$argon2id$v=19$m=19456,t=2,p=1" ++ String.ofList ['$'] ++
        Base64.encode Base64.standard salt ++ String.ofList ['$'] ++
        Base64.encode Base64.standard output := by
    have hparameters : "$" ++ String.intercalate "," ([("m", "19456"), ("t", "2"), ("p", "1")].map
        fun p => p.1 ++ "=" ++ p.2) = "$m=19456,t=2,p=1" := by decide
    have hversion : "$v=" ++ toString 19 = "$v=19" := by decide
    have hfront : "$argon2id$v=19$m=19456,t=2,p=1" =
        "$" ++ "argon2id" ++ "$v=19" ++ "$m=19456,t=2,p=1" := by decide
    have hmark : String.ofList ['$'] = "$" := rfl
    simp only [render, hversion, hparameters, List.isEmpty_cons, Bool.false_eq_true, if_false]
    simp only [hfront, hmark, String.append_assoc]
  have hfields : Text.split '$' "$argon2id$v=19$m=19456,t=2,p=1" =
      ["", "argon2id", "v=19", "m=19456,t=2,p=1"] := by decide
  rw [hrender, Text.split_append_mark, Text.split_append_mark, hfields,
    Text.split_of_not_mem (dollar_not_mem_encode _),
    Text.split_of_not_mem (dollar_not_mem_encode _)]
  rfl

/-- The hash of a new password is read back from its text. -/
theorem parse_render_create (password : List UInt8) {salt : List UInt8} (hlow : 8 ≤ salt.length)
    (hhigh : salt.length ≤ 48) :
    parse (create password salt).render = .ok (create password salt) := by
  have hlength : (Argon2.hash (newSetting salt) password).length = 32 :=
    Argon2.length_hash (s := newSetting salt) (Nat.le_of_ble_eq_true rfl) password
  rw [create_eq]
  generalize Argon2.hash (newSetting salt) password = output at hlength
  have hsalt := saltText_encode hlow hhigh
  have houtput := outputBytes_encode output (by omega) (by omega)
  have hversion : "v=19".startsWith "v=" = true := by decide +kernel
  have hdrop : ("v=19".drop 2).copy = "19" := by decide +kernel
  have hparameters : parameterList "m=19456,t=2,p=1" =
      .ok [("m", "19456"), ("t", "2"), ("p", "1")] := rfl
  have hname : name "argon2id" = .ok "argon2id" := rfl
  have hvalue : value "19" = .ok "19" := rfl
  have hdecimal : decimal "19" = .ok 19 := rfl
  simp [parse, split_render, hname, parseVersion, hversion, hdrop, hvalue, hdecimal,
    parseParameters, hparameters, parseEnd, hsalt, houtput]

/-- The hash of a new password describes how it was made. -/
theorem setting?_create (password : List UInt8) {salt : List UInt8} (hlow : 8 ≤ salt.length) :
    setting? (create password salt) =
      some (newSetting salt, Argon2.hash (newSetting salt) password) := by
  have hlength : (Argon2.hash (newSetting salt) password).length = 32 :=
    Argon2.length_hash (s := newSetting salt) (Nat.le_of_ble_eq_true rfl) password
  have hparameters : applyParameters [("m", "19456"), ("t", "2"), ("p", "1")] (defaultCost, []) =
      some (defaultCost, []) := rfl
  have hdecode := Base64.decode_encode Base64.faithful_standard salt
  have hcost : admissible defaultCost = true := by decide
  rw [create_eq]
  generalize Argon2.hash (newSetting salt) password = output at hlength
  simp [setting?, hparameters, variant?, versionOf?, hcost, hdecode, Nat.not_lt.mpr hlow, hlength,
    newSetting]

/-- The hash of a new password verifies it. -/
theorem verifies_create (password : List UInt8) {salt : List UInt8} (hlow : 8 ≤ salt.length) :
    (create password salt).verifies password = true := by
  rw [verifies, setting?_create password hlow]
  simp

end PasswordHash

end ConfigRegistry.Digest

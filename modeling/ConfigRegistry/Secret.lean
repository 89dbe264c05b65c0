import ConfigRegistry.Coding.Utf8
import ConfigRegistry.Digest.Sha256

/-!
Keys derived from the secret of the process by authentication codes. Every purpose has a key of its
own.
-/
namespace ConfigRegistry

/-! HMAC with SHA-256. A key longer than a block is hashed first; the padded key, masked in two
ways, is hashed before the message and before the inner digest. -/

namespace Digest.Hmac

def blockKey (key : List UInt8) : List UInt8 :=
  let short := if key.length ≤ 64 then key else Sha256.digest key
  short ++ List.replicate (64 - short.length) 0

def mac (key message : List UInt8) : List UInt8 :=
  let block := blockKey key
  let inner := Sha256.digest (block.map (· ^^^ 0x36) ++ message)
  Sha256.digest (block.map (· ^^^ 0x5c) ++ inner)

theorem length_mac (key message : List UInt8) : (mac key message).length = 32 :=
  Sha256.length_digest _

end Digest.Hmac

namespace Secret

def deriveKey (secret purpose : List UInt8) : List UInt8 := Digest.Hmac.mac secret purpose

def authCodePurpose : List UInt8 := Coding.Utf8.encode "stratus/authorization-code/v1"

def signedUrlPurpose : List UInt8 := Coding.Utf8.encode "stratus/signed-url/v1"

end Secret

end ConfigRegistry

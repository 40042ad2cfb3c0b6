import Formwork.Digest.Sha256

/-! # Keyed digests

HMAC over SHA-256 (RFC 2104): a key of any length is brought to one block, and
the message is hashed twice, under the key mixed with an inner and an outer
constant.
-/

namespace Formwork.Hmac

/-- The key as one block of 64 octets: longer keys are hashed first. -/
def blockKey (key : Bytes) : Bytes :=
  let short := if key.length > 64 then Sha256.digest key else key
  short ++ List.replicate (64 - short.length) 0

/-- The authentication code of a message under a key: 32 octets. -/
def sign (key message : Bytes) : Bytes :=
  let block := blockKey key
  let inner := Sha256.digest (block.map (· ^^^ 0x36) ++ message)
  Sha256.digest (block.map (· ^^^ 0x5C) ++ inner)

@[simp] theorem length_sign (key message : Bytes) : (sign key message).length = 32 := by
  simp [sign]

end Formwork.Hmac

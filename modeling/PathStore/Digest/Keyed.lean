/-
This file computes message authentication codes over SHA-1.
-/
import PathStore.Digest.Sha1

namespace PathStore.KeyedDigest

/-- The secret filled with zeros to one block; a longer secret is replaced by its digest. -/
def blockKey (secret : Bytes) : Bytes :=
  let short := if secret.length > 64 then Sha1.digest secret else secret
  short ++ Bytes.zeros (64 - short.length)

/-- The authentication code of a message under a secret. -/
def code (secret message : Bytes) : Bytes :=
  let key := blockKey secret
  Sha1.digest (key.map (· ^^^ 0x5C) ++ Sha1.digest (key.map (· ^^^ 0x36) ++ message))

end PathStore.KeyedDigest

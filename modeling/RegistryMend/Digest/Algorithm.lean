import RegistryMend.Digest.Sha1
import RegistryMend.Digest.Sha512
import RegistryMend.Text.Base64
import RegistryMend.Text.Casing
import RegistryMend.Text.Hex
import RegistryMend.Text.Split
import RegistryMend.Text.Wide

/-! # Integrity texts

An integrity text is an algorithm tag, a hyphen and a digest in Base64. Only the tag of SHA-1 is
told apart, without regard to case and blanks around it; every other tag stands for SHA-512, one
with a lone surrogate in it as well.
-/

namespace RegistryMend.Digest

/-- The hashes that integrity texts use. -/
inductive Algorithm where
  | sha1
  | sha512
deriving DecidableEq, Repr

namespace Algorithm

/-- The name of the hash. -/
def name : Algorithm → String
  | sha1 => "sha1"
  | sha512 => "sha512"

/-- The hash that a tag stands for. -/
def ofTag (tag : WideText) : Algorithm :=
  if tag.trim.plain?.map Text.lowerCase = some sha1.name then sha1 else sha512

/-- The digest of a whole message. -/
def digest (algorithm : Algorithm) (message : List UInt8) : List UInt8 :=
  match algorithm with
  | sha1 => Digest.sha1.digest message
  | sha512 => Digest.sha512.digest message

/-- The digest of a message that arrives in pieces. -/
def digestPieces (algorithm : Algorithm) (pieces : List (List UInt8)) : List UInt8 :=
  match algorithm with
  | sha1 => Digest.sha1.finish (pieces.foldl Digest.sha1.update Digest.sha1.begin)
  | sha512 => Digest.sha512.finish (pieces.foldl Digest.sha512.update Digest.sha512.begin)

end Algorithm

/-- The tag of an integrity text: all that stands before its first hyphen. -/
def integrityTag (integrity : WideText) : WideText :=
  .ofCodes (Text.before (.char '-') integrity.codes)

/-- The integrity text with a tag and a digest. -/
def integrityText (tag : WideText) (digest : List UInt8) : WideText :=
  tag ++ "-" ++ Text.base64 digest

/-- The SHA-1 of bytes as hexadecimal text. -/
def sha1Text (bytes : List UInt8) : String :=
  Text.hexOfBytes (sha1.digest bytes)

end RegistryMend.Digest

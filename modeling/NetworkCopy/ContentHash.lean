import NetworkCopy.IoResult

/-!
# File contents and digests

A file content is a list of bytes.  Digests are 32 bytes long; the length is
part of the type, so a digest read from the wire and a digest computed by
BLAKE3 are values of the same type.
-/

namespace NetworkCopy

/-- A byte string. -/
abbrev Bytes := List UInt8

/-- `CONTENT_DIGEST_BYTES`. -/
def contentDigestBytes : Nat := 32

/-- `[u8; CONTENT_DIGEST_BYTES]`. -/
abbrev Digest := { bytes : Bytes // bytes.length = contentDigestBytes }

/-- `format_digest`: two lower-case hexadecimal digits per byte. -/
def formatDigest (digest : Digest) : String :=
  String.ofList (digest.1.flatMap (fun byte =>
    [Nat.digitChar (byte.toNat / 16), Nat.digitChar (byte.toNat % 16)]))

/-- One above the greatest size of a file.  A Windows file size is a signed 64-bit
number. -/
@[irreducible] def fileSizeLimit : Nat := 2 ^ 63

/-- The content of a file. -/
abbrev FileContent := { bytes : Bytes // bytes.length < fileSizeLimit }

theorem fileSizeLimit_lt : fileSizeLimit < u64Limit := by
  norm_num [fileSizeLimit, u64Limit]

end NetworkCopy

/-
Digests of bytes. The algorithm fixes the number of bytes in its digest, and
the text of a digest always has the form that checksums ask for.
-/

import ArtifactCatalog.Checksum
import ArtifactCatalog.Digest.Blake3
import ArtifactCatalog.Digest.Md5
import ArtifactCatalog.Digest.Sha1
import ArtifactCatalog.Digest.Sha256
import ArtifactCatalog.Digest.Sha3

namespace ArtifactCatalog

def Algorithm.digest : (algorithm : Algorithm) → List UInt8 → Vector UInt8 algorithm.digestLength
  | md5 => Digest.Md5.digest
  | sha1 => Digest.Sha1.digest
  | sha256 => Digest.Sha256.digest
  | sha3_256 => Digest.Sha3.digest
  | blake3 => Digest.Blake3.digest

def Algorithm.hexDigest (algorithm : Algorithm) (message : List UInt8) : String :=
  String.ofList (Text.hexBytes (algorithm.digest message).toList)

def Checksum.ofBytes (algorithm : Algorithm) (message : List UInt8) : Checksum :=
  { algorithm, value := algorithm.hexDigest message }

theorem length_toList_hexDigest (algorithm : Algorithm) (message : List UInt8) :
    (algorithm.hexDigest message).toList.length = algorithm.hexLength := by
  simp [Algorithm.hexDigest, Text.length_hexBytes, Algorithm.hexLength]

end ArtifactCatalog

/-
The policy of indexing: which packagings are inspected, and which algorithm
makes their checksums.
-/

import ArtifactCatalog.Checksum
import ArtifactCatalog.Json.Form

namespace ArtifactCatalog

structure IndexingPolicy where
  algorithm : Algorithm := .default
  packagings : List String := ["jar", "maven-plugin"]
deriving DecidableEq, Repr

def IndexingPolicy.covers (policy : IndexingPolicy) (packaging : String) : Bool :=
  policy.packagings.contains packaging

instance : JsonForm IndexingPolicy where
  write policy := .object <|
    Json.field "checksum_algorithm" policy.algorithm ++
    Json.field "indexable_types" policy.packagings
  read? := Json.readRecord do
    let standard : IndexingPolicy := {}
    let algorithm ← FieldReader.defaulted "checksum_algorithm" standard.algorithm
    let packagings ← FieldReader.defaulted "indexable_types" standard.packagings
    return { algorithm, packagings }

end ArtifactCatalog

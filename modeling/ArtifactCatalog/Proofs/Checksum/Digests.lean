/-
The text of a digest. Every byte gives two small digits, the high half first, and none is
left out, so the text has the form that checksums ask for. A checksum of bytes that is put
together without a check is therefore the one that is made of its text.
-/

import ArtifactCatalog.Archive
import ArtifactCatalog.Proofs.Checksum.Matching
import ArtifactCatalog.Proofs.Sighting.Distinctness

namespace ArtifactCatalog

namespace Text

/-! ### Digits of bytes -/

theorem hexChar_mem {n : Nat} (small : n < 16) : hexChar n ∈ lowerHexDigits := by
  have listed : ∀ n < 16, hexChar n ∈ lowerHexDigits := by decide
  exact listed n small

theorem hexValue?_hexChar {n : Nat} (small : n < 16) : hexValue? (hexChar n) = some n := by
  have read : ∀ n < 16, hexValue? (hexChar n) = some n := by decide
  exact read n small

theorem mem_lowerHexDigits_of_mem_hexBytes {bytes : List UInt8} {c : Char}
    (member : c ∈ hexBytes bytes) : c ∈ lowerHexDigits := by
  obtain ⟨byte, _, isDigit⟩ := List.mem_flatMap.1 member
  have bounded := byte.toNat_lt
  rcases List.mem_pair.1 isDigit with high | low
  · rw [high]
    exact hexChar_mem (by omega)
  · rw [low]
    exact hexChar_mem (by omega)

def halves (bytes : List UInt8) : List Nat :=
  bytes.flatMap fun byte => [byte.toNat / 16, byte.toNat % 16]

theorem map_hexValue?_hexBytes (bytes : List UInt8) :
    (hexBytes bytes).map hexValue? = (halves bytes).map some := by
  unfold hexBytes halves
  rw [List.map_flatMap, List.map_flatMap]
  congr 1
  funext byte
  have bounded := byte.toNat_lt
  unfold hexByte
  rw [List.map_cons, List.map_singleton, hexValue?_hexChar (by omega), hexValue?_hexChar (by omega)]
  rfl

theorem mem_hexDigits_of_mem_lowerHexDigits {c : Char} (small : c ∈ lowerHexDigits) :
    c ∈ hexDigits :=
  List.mem_append_left "ABCDEF".toList small

theorem asciiLower_of_lowerHexDigits {text : List Char} (small : ∀ c ∈ text, c ∈ lowerHexDigits) :
    asciiLower text = text := by
  have noCapital : lowerHexDigits.all (isAsciiUpper · = false) = true := by decide
  refine asciiLower_eq_self fun c member => ?_
  exact of_decide_eq_true (List.all_eq_true.1 noCapital c (small c member))

end Text

/-! ### Digests -/

namespace Algorithm

/-- The text has one small digit for each half of the bytes, and thus the form of a digest. -/
structure IsTextOf (algorithm : Algorithm) (text : String) (bytes : List UInt8) : Prop where
  values : text.toList.map Text.hexValue? = (Text.halves bytes).map some
  accepted : algorithm.checkDigest text = .ok ()
  small : Text.lowerString text = text

theorem mem_lowerHexDigits_of_mem_hexDigest {algorithm : Algorithm} {message : List UInt8} {c : Char}
    (member : c ∈ (algorithm.hexDigest message).toList) : c ∈ Text.lowerHexDigits := by
  unfold hexDigest at member
  rw [String.toList_ofList] at member
  exact Text.mem_lowerHexDigits_of_mem_hexBytes member

theorem admits_hexDigest (algorithm : Algorithm) (message : List UInt8) :
    algorithm.Admits (algorithm.hexDigest message) where
  length := length_toList_hexDigest algorithm message
  digits _ member :=
    Text.mem_hexDigits_of_mem_lowerHexDigits (mem_lowerHexDigits_of_mem_hexDigest member)

theorem asciiLowerString_hexDigest (algorithm : Algorithm) (message : List UInt8) :
    Text.asciiLowerString (algorithm.hexDigest message) = algorithm.hexDigest message := by
  unfold Text.asciiLowerString
  rw [Text.asciiLower_of_lowerHexDigits fun c => mem_lowerHexDigits_of_mem_hexDigest,
    String.ofList_toList]

theorem isTextOf_hexDigest (algorithm : Algorithm) (message : List UInt8) :
    algorithm.IsTextOf (algorithm.hexDigest message) (algorithm.digest message).toList where
  values := by
    unfold hexDigest
    rw [String.toList_ofList]
    exact Text.map_hexValue?_hexBytes _
  accepted := checkDigest_eq_ok_iff.2 (algorithm.admits_hexDigest message)
  small := (algorithm.admits_hexDigest message).lowerString_eq.trans
    (algorithm.asciiLowerString_hexDigest message)

end Algorithm

theorem Checksum.ofText_hexDigest (algorithm : Algorithm) (message : List UInt8) :
    ofText algorithm (algorithm.hexDigest message) = .ok (ofBytes algorithm message) := by
  refine ofText_eq_ok_iff.2 ⟨algorithm.admits_hexDigest message, ?_⟩
  rw [algorithm.asciiLowerString_hexDigest]
  rfl

/-! ### Inspections -/

namespace Archive

variable {algorithm : Algorithm} {files : Files.FileTree} {path : String}
  {contents : ArchiveContents}

theorem checksum_of_inspect? {bytes : List UInt8}
    (inspected : inspect? algorithm bytes = some contents) :
    contents.checksum = .ofBytes algorithm bytes := by
  unfold inspect? at inspected
  obtain ⟨entryNames, _listed, rfl⟩ := Option.map_eq_some_iff.1 inspected
  rfl

theorem checksum_of_inspectAt (inspected : inspectAt algorithm files path = .ok contents) :
    ∃ file, files.fileAt? path = some file ∧
      contents.checksum = .ofBytes algorithm file.bytes := by
  unfold inspectAt at inspected
  cases found : files.fileAt? path with
  | none =>
      rw [found] at inspected
      cases inspected
  | some file =>
      rw [found] at inspected
      dsimp only at inspected
      cases opened : inspect? algorithm file.bytes with
      | none =>
          rw [opened] at inspected
          cases inspected
      | some read =>
          rw [opened] at inspected
          cases inspected
          exact ⟨file, rfl, checksum_of_inspect? opened⟩

/-- The digest of every message has the text that checksums ask for, in small letters and with
one digit for each half of a byte. So the checksum that an inspection puts together without a
check is the one that is made of its own text. -/
theorem ofText_checksum_inspectAt (algorithm : Algorithm) (message : List UInt8) :
    algorithm.IsTextOf (algorithm.hexDigest message) (algorithm.digest message).toList ∧
    Checksum.ofText algorithm (algorithm.hexDigest message) =
      .ok { algorithm, value := algorithm.hexDigest message } ∧
    ∀ files path contents, inspectAt algorithm files path = .ok contents →
      ∃ file, files.fileAt? path = some file ∧
        contents.checksum = { algorithm, value := algorithm.hexDigest file.bytes } ∧
        Checksum.ofText algorithm contents.checksum.value = .ok contents.checksum := by
  refine ⟨algorithm.isTextOf_hexDigest message, Checksum.ofText_hexDigest algorithm message, ?_⟩
  intro files path contents inspected
  obtain ⟨file, found, isDigest⟩ := checksum_of_inspectAt inspected
  refine ⟨file, found, isDigest, ?_⟩
  rw [isDigest]
  exact Checksum.ofText_hexDigest algorithm file.bytes

theorem ofText_checksum_inspectAt_bareArchive :
    inspectAt .blake3 Sighting.releasedTree "org/lib/1.0/lib-1.0.jar" =
      .ok { checksum := .ofBytes .blake3 Sighting.bareArchive.bytes, entryNames := []
            sizeInBytes := 22 } ∧
    Checksum.ofText .blake3 (Algorithm.blake3.hexDigest Sighting.bareArchive.bytes) =
      .ok (.ofBytes .blake3 Sighting.bareArchive.bytes) := by
  have inspected : inspectAt .blake3 Sighting.releasedTree "org/lib/1.0/lib-1.0.jar" =
      .ok { checksum := .ofBytes .blake3 Sighting.bareArchive.bytes, entryNames := []
            sizeInBytes := 22 } := by
    have found : Sighting.releasedTree.fileAt? "org/lib/1.0/lib-1.0.jar" =
        some Sighting.bareArchive := by decide
    have listed : fileNames? Sighting.bareArchive.bytes = some [] := by decide
    unfold inspectAt inspect?
    rw [found]
    dsimp only
    rw [listed]
    rfl
  obtain ⟨_isText, _made, unchanged⟩ := ofText_checksum_inspectAt .blake3 []
  obtain ⟨_file, _found, _isDigest, again⟩ := unchanged _ _ _ inspected
  exact ⟨inspected, again⟩

end Archive

end ArtifactCatalog

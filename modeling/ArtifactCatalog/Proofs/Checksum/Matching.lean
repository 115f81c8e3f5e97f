/-
Which texts are checksums, and which texts a checksum agrees with. A text is taken when it
has the digits of a digest in either case, and its letters are then made small. A checksum
agrees with exactly the texts of which the same checksum is made.
-/

import ArtifactCatalog.Checksum
import ArtifactCatalog.Proofs.Text.HexDigits

namespace ArtifactCatalog

namespace Algorithm

variable {algorithm : Algorithm} {text : String}

/-- The text has as many hexadecimal digits as a digest, in either case, and nothing else. -/
structure Admits (algorithm : Algorithm) (text : String) : Prop where
  length : text.toList.length = algorithm.hexLength
  digits : ∀ c ∈ text.toList, c ∈ Text.hexDigits

theorem admits_iff : algorithm.Admits text ↔
    text.toList.length = algorithm.hexLength ∧ ∀ c ∈ text.toList, Text.isHexDigit c = true := by
  simp only [Text.isHexDigit_iff_mem]
  exact ⟨fun admits => ⟨admits.length, admits.digits⟩, fun parts => ⟨parts.1, parts.2⟩⟩

instance (algorithm : Algorithm) (text : String) : Decidable (algorithm.Admits text) :=
  decidable_of_iff
    (text.toList.length = algorithm.hexLength ∧ text.toList.all Text.isHexDigit = true)
    ((and_congr_right fun _ => List.all_eq_true).trans admits_iff.symm)

/-- The length is counted in bytes, which makes no difference for digits. -/
theorem checkDigest_eq_ok_iff : algorithm.checkDigest text = .ok () ↔ algorithm.Admits text := by
  have sameLength : (∀ c ∈ text.toList, Text.isHexDigit c = true) →
      text.utf8ByteSize = text.toList.length := by
    intro digits
    rw [← String.utf8Len_toList]
    exact Text.utf8Len_of_lt fun c member => Text.toNat_lt_of_isHexDigit (digits c member)
  rw [admits_iff, ← List.all_eq_true]
  unfold checkDigest
  by_cases size : text.utf8ByteSize = algorithm.hexLength
  · rw [if_neg (not_not.2 size)]
    by_cases digits : text.toList.all Text.isHexDigit = true
    · rw [if_pos digits]
      exact iff_of_true rfl ⟨(sameLength (List.all_eq_true.1 digits)).symm.trans size, digits⟩
    · rw [if_neg digits]
      exact iff_of_false (fun impossible => by cases impossible) fun admitted => digits admitted.2
  · rw [if_pos size]
    refine iff_of_false (fun impossible => by cases impossible) fun admitted => size ?_
    exact (sameLength (List.all_eq_true.1 admitted.2)).trans admitted.1

theorem Admits.lowerString_eq (admits : algorithm.Admits text) :
    Text.lowerString text = Text.asciiLowerString text :=
  congrArg String.ofList (Text.lower_of_hexDigits (admits_iff.1 admits).2)

theorem admits_lowerString_iff :
    algorithm.Admits (Text.lowerString text) ↔ algorithm.Admits text := by
  rw [admits_iff, admits_iff]
  unfold Text.lowerString
  rw [String.toList_ofList, Text.forall_isHexDigit_lower]
  refine and_congr_left fun digits => ?_
  rw [Text.lower_of_hexDigits digits, Text.length_asciiLower]

theorem admits_congr {other : String}
    (alike : Text.asciiLower text.toList = Text.asciiLower other.toList) :
    algorithm.Admits text ↔ algorithm.Admits other := by
  rw [admits_iff, admits_iff, ← Text.length_asciiLower text.toList,
    ← @Text.forall_isHexDigit_asciiLower text.toList, alike, Text.length_asciiLower,
    Text.forall_isHexDigit_asciiLower]

end Algorithm

namespace Checksum

variable {algorithm : Algorithm} {text : String} {checksum : Checksum}

theorem ofText_eq_ok_iff_checkDigest : ofText algorithm text = .ok checksum ↔
    algorithm.checkDigest (Text.lowerString text) = .ok () ∧
      checksum = { algorithm, value := Text.lowerString text } := by
  unfold ofText
  dsimp only
  cases algorithm.checkDigest (Text.lowerString text) with
  | error fault =>
      exact iff_of_false (fun impossible => by cases impossible) fun both => by cases both.1
  | ok done =>
      change Except.ok { algorithm, value := Text.lowerString text } = Except.ok checksum ↔ _
      rw [and_iff_right rfl, Except.ok.injEq, eq_comm]

theorem ofText_eq_ok_iff : ofText algorithm text = .ok checksum ↔
    algorithm.Admits text ∧ checksum = { algorithm, value := Text.asciiLowerString text } := by
  rw [ofText_eq_ok_iff_checkDigest, Algorithm.checkDigest_eq_ok_iff,
    Algorithm.admits_lowerString_iff]
  refine and_congr_right fun admits => ?_
  rw [admits.lowerString_eq]

theorem agreesWith_iff {other : String} : checksum.agreesWith other = true ↔
    Text.asciiLower checksum.value.toList = Text.asciiLower other.toList := by
  unfold agreesWith Text.sameIgnoringAsciiCase
  exact beq_iff_eq

theorem ofText_asciiLowerString (admits : algorithm.Admits text) :
    ofText algorithm (Text.asciiLowerString text) =
      .ok { algorithm, value := Text.asciiLowerString text } := by
  have alike := Text.asciiLower_toList_asciiLowerString text
  have twice : Text.asciiLowerString (Text.asciiLowerString text) = Text.asciiLowerString text :=
    congrArg String.ofList alike
  exact ofText_eq_ok_iff.2 ⟨(Algorithm.admits_congr alike).2 admits, by rw [twice]⟩

/-- A checksum is made of a text exactly if the text has the digits of a digest. Its value is
then the text with small letters, of which the same checksum is made again, and it agrees with
exactly those texts of which it is made. -/
theorem ofText_agreesWith (algorithm : Algorithm) (text : String) :
    ((∃ checksum, ofText algorithm text = .ok checksum) ↔ algorithm.Admits text) ∧
    ∀ checksum, ofText algorithm text = .ok checksum →
      checksum = { algorithm, value := Text.asciiLowerString text } ∧
      ofText algorithm checksum.value = .ok checksum ∧
      ∀ other, checksum.agreesWith other = true ↔
        ofText checksum.algorithm other = .ok checksum := by
  constructor
  · simp only [ofText_eq_ok_iff, exists_and_left, exists_eq, and_true]
  · intro checksum made
    obtain ⟨admits, rfl⟩ := ofText_eq_ok_iff.1 made
    refine ⟨rfl, ofText_asciiLowerString admits, fun other => ?_⟩
    rw [agreesWith_iff, ofText_eq_ok_iff]
    dsimp only
    rw [Text.asciiLower_toList_asciiLowerString, Checksum.mk.injEq, and_iff_right rfl]
    unfold Text.asciiLowerString
    rw [String.ofList_inj, iff_and_self]
    intro alike
    exact (Algorithm.admits_congr alike).1 admits

def capitalDigest : String := "D41D8CD98F00B204E9800998ECF8427E"

def emptyChecksum : Checksum where
  algorithm := .md5
  value := "d41d8cd98f00b204e9800998ecf8427e"

theorem ofText_agreesWith_capitalDigest :
    ofText .md5 capitalDigest = .ok emptyChecksum ∧
      ofText .md5 emptyChecksum.value = .ok emptyChecksum ∧
      (emptyChecksum.agreesWith capitalDigest = true ↔
        ofText .md5 capitalDigest = .ok emptyChecksum) := by
  have made : ofText .md5 capitalDigest = .ok emptyChecksum :=
    ofText_eq_ok_iff.2 ⟨by decide, by decide⟩
  obtain ⟨_value, again, agrees⟩ := (ofText_agreesWith .md5 capitalDigest).2 emptyChecksum made
  exact ⟨made, again, agrees capitalDigest⟩

end Checksum

end ArtifactCatalog

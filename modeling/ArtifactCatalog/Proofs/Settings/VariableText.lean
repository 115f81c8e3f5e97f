/-
Texts in the settings that a variable sets. A variable is read before it is known what
setting it is for, so its text is taken for a flag or a number where it reads as one, and
printed again for a setting that is a text. Nothing else depends on the text; it is kept just
where reading and printing leave its spelling alone, which is not so for every text.
-/

import ArtifactCatalog.Proofs.Number.DecimalText
import ArtifactCatalog.Proofs.Text.HexDigits
import ArtifactCatalog.Proofs.Settings.TextGroups

namespace ArtifactCatalog.Settings

/-! ### Spellings that are kept -/

def flagWords : List String := ["true", "false"]

/-- Texts that reading as a flag or a number and printing leave alone. -/
inductive KeepsSpelling : String → Prop
  | flag {s : String} (isWord : s ∈ flagWords) : KeepsSpelling s
  | integer {n : Int} (fits : Number.fitsInt64 n = true) : KeepsSpelling (Number.intText n)
  | number {s : String} {x : Number.Binary64} (noFlag : Text.lowerString s ∉ flagWords)
      (noInteger : Number.parseInt64? s.toList = none)
      (reads : Number.parseBinary64? s.toList = some x) (shortest : s.toList = x.text) :
      KeepsSpelling s
  | plain {s : String} (noFlag : Text.lowerString s ∉ flagWords)
      (noInteger : Number.parseInt64? s.toList = none)
      (noNumber : Number.parseBinary64? s.toList = none) : KeepsSpelling s

theorem lower_eq_self {text : List Char} (small : ∀ c ∈ text, c.toNat < 0x41) :
    Text.lower text = text := by
  unfold Text.lower
  rw [Text.lowerAfter_of_lt fun c member => (small c member).trans (by decide)]
  refine Text.asciiLower_eq_self fun c member => ?_
  have below := small c member
  simp only [Text.isAsciiUpper, Bool.and_eq_false_imp, decide_eq_true_eq]
  omega

theorem lowerString_intText_not_mem_flagWords (n : Int) :
    Text.lowerString (Number.intText n) ∉ flagWords := by
  have small : ∀ c ∈ Number.intDigits n, c.toNat ≤ 0x39 :=
    fun _ => Number.toNat_le_of_mem_intDigits
  have letters : ∀ word ∈ flagWords, 'e' ∈ word.toList := by decide
  intro isWord
  have letter := letters _ isWord
  unfold Text.lowerString Number.intText at letter
  rw [String.toList_ofList, String.toList_ofList,
    lower_eq_self fun c member => (small c member).trans_lt (by decide)] at letter
  exact absurd (small 'e' letter) (by decide)

theorem print_readScalar_of_mem {s : String} (isWord : Text.lowerString s ∈ flagWords) :
    (readScalar s).print = Text.lowerString s := by
  unfold readScalar
  dsimp only
  rcases List.mem_pair.1 isWord with isTrue | isFalse
  · rw [isTrue, if_pos rfl]
    rfl
  · rw [isFalse, if_neg (by decide), if_pos rfl]
    rfl

theorem readScalar_of_not_mem {s : String} (noFlag : Text.lowerString s ∉ flagWords) :
    readScalar s =
      match Number.parseInt64? s.toList with
      | some n => .integer n
      | none =>
        match Number.parseBinary64? s.toList with
        | some x => .number x
        | none => .text s := by
  obtain ⟨notTrue, others⟩ := not_or.1 (mt List.mem_cons.2 noFlag)
  have notFalse := mt List.mem_singleton.2 others
  exact (if_neg notTrue).trans (if_neg notFalse)

/-- Reading a text and printing it again keeps just the spellings that it leaves alone. -/
theorem print_readScalar_eq_iff {s : String} : (readScalar s).print = s ↔ KeepsSpelling s := by
  constructor
  · intro kept
    by_cases isFlag : Text.lowerString s ∈ flagWords
    · rw [print_readScalar_of_mem isFlag] at kept
      exact .flag (kept ▸ isFlag)
    · rw [readScalar_of_not_mem isFlag] at kept
      cases isInteger : Number.parseInt64? s.toList with
      | some n =>
          rw [isInteger] at kept
          have spelled : Number.intText n = s := kept
          rw [← spelled]
          exact .integer (Option.filter_eq_some_iff.1 isInteger).2
      | none =>
          rw [isInteger] at kept
          cases isNumber : Number.parseBinary64? s.toList with
          | some x =>
              rw [isNumber] at kept
              have spelled : String.ofList x.text = s := kept
              exact .number isFlag isInteger isNumber (by rw [← spelled, String.toList_ofList])
          | none => exact .plain isFlag isInteger isNumber
  · intro keeps
    cases keeps with
    | flag isWord =>
        have lower : ∀ word ∈ flagWords, Text.lowerString word = word := by decide
        have isFlag : Text.lowerString s ∈ flagWords := by rwa [lower s isWord]
        rw [print_readScalar_of_mem isFlag, lower s isWord]
    | @integer n fits =>
        have reads : Number.parseInt64? (Number.intText n).toList = some n := by
          unfold Number.intText
          rw [String.toList_ofList, Number.parseInt64?_intDigits fits]
        rw [readScalar_of_not_mem (lowerString_intText_not_mem_flagWords n), reads]
        rfl
    | number noFlag noInteger reads shortest =>
        rw [readScalar_of_not_mem noFlag, noInteger, reads]
        change String.ofList _ = s
        rw [← shortest, String.ofList_toList]
    | plain noFlag noInteger noNumber =>
        rw [readScalar_of_not_mem noFlag, noInteger, noNumber]
        rfl

/-! ### Loading -/

theorem failsOnly_fileLayer (k : TextSetting) (files : FileBytes) (folder name : String) :
    FailsOnly (Fault.Spares k) (fileLayer files folder name) := by
  unfold fileLayer layerOfBytes
  dsimp only
  split
  · exact failsOnly_pure _
  · split
    · exact failsOnly_pure _
    · split
      · exact failsOnly_pure _
      · rintro _ ⟨⟩
        nofun

/-- What each value of a variable for a text makes of settings that are `without` it. -/
structure TakesText (k : TextSetting) (without : Except Fault Settings)
    (loaded : String → Except Fault Settings) : Prop where
  succeeds : ∀ s, without.isOk = true → (loaded s).isOk = true
  /-- Whatever else is wrong, no fault names the setting. -/
  spared : ∀ s, FailsOnly (Fault.Spares k) (loaded s)
  /-- The setting is the value as it is printed once it is read. -/
  printed : ∀ s settings, loaded s = .ok settings →
    k.value? settings = some (readScalar s).print
  /-- The setting is the value itself for just the spellings that are kept. -/
  kept_iff : ∀ s settings, loaded s = .ok settings →
    (k.value? settings = some s ↔ KeepsSpelling s)
  /-- Settings for two values differ in this one alone, and there are faults for both or none. -/
  elsewhere : ∀ s t, loaded s = k.set (readScalar s).print <$> loaded t

theorem TakesText.of_elsewhere {k : TextSetting} {without : Except Fault Settings}
    {loaded : String → Except Fault Settings}
    (succeeds : ∀ s, without.isOk = true → (loaded s).isOk = true)
    (spared : ∀ s, FailsOnly (Fault.Spares k) (loaded s))
    (elsewhere : ∀ s t, loaded s = k.set (readScalar s).print <$> loaded t) :
    TakesText k without loaded := by
  have printed (s settings) (isLoaded : loaded s = .ok settings) :
      k.value? settings = some (readScalar s).print := by
    have again := elsewhere s s
    rw [isLoaded] at again
    rw [Except.ok.inj again, k.value?_set]
  refine ⟨succeeds, spared, printed, fun s settings isLoaded => ?_, elsewhere⟩
  rw [printed s settings isLoaded, Option.some_inj]
  exact print_readScalar_eq_iff

/-- A variable for a text takes the place of whatever the files set there, provided that all
other variables spare it. It does so at whatever place among them it is laid. -/
theorem load_takesText {k : TextSetting} {variableName : String} {before after : Environment}
    (sets : settingPath? variableName = some k.path)
    (spared : ∀ other ∈ before ++ after, k.IsSparedBy other.1) (files : FileBytes)
    (folder stage : String) :
    TakesText k (load files folder stage (before ++ after))
      fun s => load files folder stage (before ++ (variableName, s) :: after) := by
  have later : ∀ other ∈ after, k.IsSparedBy other.1 :=
    fun other member => spared other (List.mem_append_right before member)
  have carries (s : String) (standard special : List (String × Value)) :=
    carries_layered sets later s before [standard, special]
  refine .of_elsewhere (fun s => ?_) (fun s => ?_) fun s t => ?_
  · unfold load
    cases fileLayer files folder standardName with
    | error fault => exact id
    | ok standard =>
        cases fileLayer files folder stage with
        | error fault => exact id
        | ok special => exact isOk_ofValue (carries s standard special)
  · refine FailsOnly.bind (failsOnly_fileLayer k files folder standardName) fun standard => ?_
    refine FailsOnly.bind (failsOnly_fileLayer k files folder stage) fun special => ?_
    exact failsOnly_ofValue (carries s standard special)
  · unfold load
    rw [map_bind]
    refine bind_congr fun standard => ?_
    rw [map_bind]
    refine bind_congr fun special => ?_
    exact ofValue_eq_map_set (carries s standard special) (carries t standard special)

def sparingVariables : Environment :=
  [("ARTIFACT_SEARCH__LOGGING__LEVEL", "debug"), ("ARTIFACT_SEARCH__REPOSITORY__ROOT", "/srv")]

theorem isSparedBy_sparingVariables :
    ∀ other ∈ sparingVariables, TextSetting.repositoryId.IsSparedBy other.1 := by
  intro other member
  rcases List.mem_pair.1 member with isLevel | isRoot
  · rw [isLevel]
    have sets : settingPath? "ARTIFACT_SEARCH__LOGGING__LEVEL" = some "logging.level" := by decide
    have steps : pathSteps "logging.level".toList =
        [.name "logging".toList, .name "level".toList] := by decide
    refine TextSetting.isSparedBy_of_settingPath? sets (by decide) ?_
    rw [steps]
    exact .atGroup _ (by decide)
  · rw [isRoot]
    have sets : settingPath? "ARTIFACT_SEARCH__REPOSITORY__ROOT" = some "repository.root" := by
      decide
    have steps : pathSteps "repository.root".toList =
        [.name "repository".toList, .name "root".toList] := by decide
    refine TextSetting.isSparedBy_of_settingPath? sets (by decide) ?_
    rw [steps]
    exact .inGroup _ (by decide) (by decide)

theorem load_takesText_snapshots :
    settingPath? "ARTIFACT_SEARCH__REPOSITORY__ID" = some TextSetting.repositoryId.path ∧
    (∀ other ∈ sparingVariables, TextSetting.repositoryId.IsSparedBy other.1) ∧
    ∃ settings, load (fun _ => none) "config" "development"
      [("ARTIFACT_SEARCH__LOGGING__LEVEL", "debug"),
        ("ARTIFACT_SEARCH__REPOSITORY__ID", "snapshots"),
        ("ARTIFACT_SEARCH__REPOSITORY__ROOT", "/srv")] = .ok settings ∧
      settings.repository.id = "snapshots" := by
  have sets : settingPath? "ARTIFACT_SEARCH__REPOSITORY__ID" =
      some TextSetting.repositoryId.path := by decide
  have takes := @load_takesText .repositoryId _
    [("ARTIFACT_SEARCH__LOGGING__LEVEL", "debug")] [("ARTIFACT_SEARCH__REPOSITORY__ROOT", "/srv")]
    sets isSparedBy_sparingVariables (fun _ => none) "config" "development"
  have keeps : KeepsSpelling "snapshots" := .plain (by decide) (by decide) (by decide)
  obtain ⟨settings, isLoaded⟩ := exists_eq_ok_iff.2 (takes.succeeds "snapshots" (by decide +kernel))
  have isKept := (takes.kept_iff "snapshots" settings isLoaded).2 keeps
  exact ⟨sets, isSparedBy_sparingVariables, settings, isLoaded, Option.some.inj isKept⟩

/-- Digits lose zeros at the front, flags their case and numbers their exponent. -/
theorem load_respellsTexts :
    load (fun _ => none) "config" "development"
      [("ARTIFACT_SEARCH__REPOSITORY__ID", "007"), ("ARTIFACT_SEARCH__LOGGING__LEVEL", "TRUE"),
        ("ARTIFACT_SEARCH__DATABASE__DATABASE_URL", "1e3")] =
      .ok { repository := { id := "7" }, logging := { level := "true" },
            database := some { address := "1000" } } := by
  decide +kernel

end ArtifactCatalog.Settings

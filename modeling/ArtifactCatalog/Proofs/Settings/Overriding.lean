/-
Variables that override a text in the settings. Whatever the layers in front hold, a variable
puts its value at its place, and variables for other places leave it there. So the layers with
the variable hold what they hold without it, but for that place.
-/

import ArtifactCatalog.Settings

namespace ArtifactCatalog.Settings

/-! ### Settings that are texts -/

inductive TextSetting where
  | repositoryId
  | loggingLevel
  | databaseAddress
deriving DecidableEq, Repr

namespace TextSetting

def group : TextSetting → String
  | repositoryId => "repository"
  | loggingLevel => "logging"
  | databaseAddress => "database"

def name : TextSetting → String
  | repositoryId => "id"
  | loggingLevel => "level"
  | databaseAddress => "database_url"

def path (k : TextSetting) : String := k.group ++ "." ++ k.name

def value? (k : TextSetting) (settings : Settings) : Option String :=
  match k with
  | repositoryId => some settings.repository.id
  | loggingLevel => some settings.logging.level
  | databaseAddress => settings.database.map (·.address)

def set (k : TextSetting) (text : String) (settings : Settings) : Settings :=
  match k with
  | repositoryId => { settings with repository := { settings.repository with id := text } }
  | loggingLevel => { settings with logging := { settings.logging with level := text } }
  | databaseAddress =>
      { settings with database := some { settings.database.getD {} with address := text } }

theorem value?_set (k : TextSetting) (text : String) (settings : Settings) :
    k.value? (k.set text settings) = some text := by
  cases k <;> rfl

/-- The steps part from those of the setting at a name, that of the group or that in it. -/
inductive PartsFrom (k : TextSetting) : List Step → Prop
  | atGroup {first : List Char} (steps : List Step) (other : normalName first ≠ k.group) :
      PartsFrom k (.name first :: steps)
  | inGroup {first second : List Char} (steps : List Step) (same : normalName first = k.group)
      (other : normalName second ≠ k.name) : PartsFrom k (.name first :: .name second :: steps)

/-- The variable sets nothing at, above or below the place of the setting, and has no place
of a list in its path. -/
def IsSparedBy (k : TextSetting) (variableName : String) : Prop :=
  ∀ path, settingPath? variableName = some path →
    '[' ∉ path.toList ∧ k.PartsFrom (pathSteps path.toList)

theorem isSparedBy_of_settingPath? {k : TextSetting} {variableName path : String}
    (sets : settingPath? variableName = some path) (plain : '[' ∉ path.toList)
    (parts : k.PartsFrom (pathSteps path.toList)) : k.IsSparedBy variableName := by
  intro other isPath
  rw [← Option.some.inj (sets.symm.trans isPath)]
  exact ⟨plain, parts⟩

theorem pathSteps_path (k : TextSetting) :
    pathSteps k.path.toList = [.name k.group.toList, .name k.name.toList] := by
  cases k <;> decide

theorem normalName_group (k : TextSetting) : normalName k.group.toList = k.group := by
  cases k <;> decide

theorem normalName_name (k : TextSetting) : normalName k.name.toList = k.name := by
  cases k <;> decide

theorem path_not_mem_listKeys (k : TextSetting) : k.path ∉ listKeys := by
  cases k <;> decide

end TextSetting

theorem variableValue_of_not_mem {path : String} (single : path ∉ listKeys) (s : String) :
    variableValue path s = .scalar .environment (readScalar s) := by
  unfold variableValue
  cases readScalar s with
  | text s =>
      dsimp only
      rw [if_neg single]
  | integer n => rfl
  | number x => rfl
  | boolean b => rfl

/-! ### A text at its place -/

def TextSetting.entriesIn (k : TextSetting) (root : Value) : List (String × Value) :=
  ((root.entries.lookup k.group).map Value.entries).getD []

/-- The settings hold a scalar for a text and, for everything else, what others hold. -/
structure Carries (k : TextSetting) (content : Scalar) (others root : Value) : Prop where
  groups : ∀ group, group ≠ k.group → root.entries.lookup group = others.entries.lookup group
  group : ∃ entries, root.entries.lookup k.group = some (.table none entries) ∧
    (∀ name, name ≠ k.name → entries.lookup name = (k.entriesIn others).lookup name) ∧
    entries.lookup k.name = some (.scalar .environment content)

theorem putAt_name (value : Value) (first : List Char) (steps : List Step) (old : Option Value) :
    putAt value (.name first :: steps) old =
      .table none (setEntry (normalName first)
        (putAt value steps (((old.map Value.entries).getD []).lookup (normalName first)))
        ((old.map Value.entries).getD [])) := by
  rw [putAt]

theorem lookup_setEntry_congr {entries others : List (String × Value)} {other : String}
    (same : entries.lookup other = others.lookup other) (name : String) (value : Value) :
    (setEntry name value entries).lookup other = (setEntry name value others).lookup other := by
  by_cases isName : other = name
  · rw [isName, lookup_setEntry_self, lookup_setEntry_self]
  · rw [lookup_setEntry_of_ne value isName, lookup_setEntry_of_ne value isName, same]

/-- Whatever a place held before, it holds a text that is put there, and nothing else changes. -/
theorem carries_putNamed (k : TextSetting) (content : Scalar) (root : Value) :
    Carries k content root (putNamed root (k.path, .scalar .environment content)) := by
  have put : putNamed root (k.path, .scalar .environment content) =
      .table none (setEntry k.group
        (.table none (setEntry k.name (.scalar .environment content) (k.entriesIn root)))
        root.entries) := by
    unfold putNamed
    rw [k.pathSteps_path, putAt_name, putAt_name, putAt, k.normalName_group, k.normalName_name,
      Value.over]
    · rfl
    · exact fun _ _ => Value.noConfusion
  rw [put]
  refine ⟨fun group other => lookup_setEntry_of_ne _ other _, _, lookup_setEntry_self _ _ _,
    fun name other => lookup_setEntry_of_ne _ other _, lookup_setEntry_self _ _ _⟩

section Carries

variable {k : TextSetting} {content : Scalar} {others root : Value}

/-- What is put at a place that parts from that of the text leaves the text where it is. -/
theorem Carries.putAt (carries : Carries k content others root) {steps : List Step}
    (parts : k.PartsFrom steps) (value : Value) :
    Carries k content (putAt value steps (some others)) (putAt value steps (some root)) := by
  obtain ⟨sameGroups, entries, isGroup, sameNames, isText⟩ := carries
  cases parts with
  | @atGroup first steps other =>
      -- The group of the text is not touched.
      have known := sameGroups _ other
      rw [putAt_name, putAt_name]
      simp only [Option.map_some, Option.getD_some, known]
      have kept (known : List (String × Value)) (put : Value) :
          (setEntry (normalName first) put known).lookup k.group = known.lookup k.group :=
        lookup_setEntry_of_ne put other.symm known
      refine ⟨fun group notGroup => ?_, entries, (kept _ _).trans isGroup, ?_, isText⟩
      · exact lookup_setEntry_congr (sameGroups group notGroup) _ _
      · unfold TextSetting.entriesIn at sameNames ⊢
        rwa [Value.entries, kept]
  | @inGroup first second steps same other =>
      -- The group is put in its own place again, with another of its settings changed.
      have known := sameNames _ other
      rw [putAt_name, putAt_name, putAt_name, putAt_name]
      simp only [Option.map_some, Option.getD_some, same, isGroup]
      rw [Value.entries, known]
      refine ⟨fun group notGroup => ?_, _, lookup_setEntry_self _ _ _, fun name notName => ?_, ?_⟩
      · rw [Value.entries, Value.entries, lookup_setEntry_of_ne _ notGroup,
          lookup_setEntry_of_ne _ notGroup, sameGroups group notGroup]
      · unfold TextSetting.entriesIn
        rw [Value.entries, lookup_setEntry_self, Option.map_some, Option.getD_some, Value.entries]
        exact lookup_setEntry_congr (sameNames name notName) _ _
      · exact (lookup_setEntry_of_ne _ other.symm _).trans isText

theorem Carries.foldl {entries : List (String × Value)}
    (parts : ∀ entry ∈ entries, k.PartsFrom (pathSteps entry.1.toList))
    (carries : Carries k content others root) :
    Carries k content (entries.foldl putNamed others) (entries.foldl putNamed root) := by
  induction entries generalizing others root with
  | nil => exact carries
  | cons entry entries ih =>
      obtain ⟨first, later⟩ := List.forall_mem_cons.1 parts
      exact ih later (carries.putAt first entry.2)

end Carries

/-! ### Variables among others -/

theorem partsFrom_of_mem_environmentLayer {k : TextSetting} {environment : Environment}
    (spared : ∀ other ∈ environment, k.IsSparedBy other.1) :
    ∀ entry ∈ environmentLayer environment, k.PartsFrom (pathSteps entry.1.toList) := by
  intro entry member
  obtain ⟨⟨variableName, value⟩, isVariable, sets⟩ := List.mem_filterMap.1 member
  obtain ⟨path, isPath, rfl⟩ := Option.map_eq_some_iff.1 sets
  exact (spared _ isVariable path isPath).2

theorem environmentLayer_append (before after : Environment) :
    environmentLayer (before ++ after) = environmentLayer before ++ environmentLayer after :=
  List.filterMap_append

theorem environmentLayer_cons_text {k : TextSetting} {variableName : String}
    (sets : settingPath? variableName = some k.path) (s : String) (after : Environment) :
    environmentLayer ((variableName, s) :: after) =
      (k.path, .scalar .environment (readScalar s)) :: environmentLayer after := by
  have one : (settingPath? variableName).map (fun path => (path, variableValue path s)) =
      some (k.path, Value.scalar .environment (readScalar s)) := by
    rw [sets, Option.map_some, variableValue_of_not_mem k.path_not_mem_listKeys]
  unfold environmentLayer
  rw [List.filterMap_cons]
  dsimp only
  rw [one]

/-- The layers with and without a variable for a text that no later variable sets. -/
theorem carries_layered {k : TextSetting} {variableName : String} {after : Environment}
    (sets : settingPath? variableName = some k.path)
    (spared : ∀ other ∈ after, k.IsSparedBy other.1) (s : String) (before : Environment)
    (front : List (List (String × Value))) :
    Carries k (readScalar s)
      (.table none (layered (front ++ [environmentLayer (before ++ after)])))
      (.table none
        (layered (front ++ [environmentLayer (before ++ (variableName, s) :: after)]))) := by
  let inFront := (environmentLayer before).foldl putNamed
    (front.flatten.foldl putNamed (.table none []))
  have carries := (carries_putNamed k (readScalar s) inFront).foldl
    (partsFrom_of_mem_environmentLayer spared)
  unfold layered
  simp only [environmentLayer_append, environmentLayer_cons_text sets, List.flatten_append,
    List.flatten_singleton, List.foldl_append, List.foldl_cons]
  exact ⟨carries.groups, carries.group⟩

end ArtifactCatalog.Settings

/-
Groups of settings whose first setting is a text. Once a variable has put the text in its
place, the text reads as it is printed, the rest of the group is read as before, and no fault
names the text. The same holds for the settings as a whole.
-/

import ArtifactCatalog.Proofs.Settings.GroupReading
import ArtifactCatalog.Proofs.Settings.Overriding

namespace ArtifactCatalog.Settings

/-! ### Groups that begin with a text -/

def Fault.Spares (k : TextSetting) (fault : Fault) : Prop := fault.key? ≠ some k.path

/-- A name in the group of a text, no place in a list, whose path parts from that of the text. -/
def TextSetting.IsBeside (k : TextSetting) (name : String) : Prop :=
  (name.toList.head?.any (· != '[')) = true ∧
    ¬ (k.group ++ "." ++ name).toList <+: k.path.toList

instance (k : TextSetting) (name : String) : Decidable (k.IsBeside name) :=
  inferInstanceAs (Decidable (_ ∧ _))

theorem TextSetting.IsBeside.ne {k : TextSetting} {name : String} (beside : k.IsBeside name) :
    name ≠ k.name := by
  rintro rfl
  exact beside.2 List.prefix_rfl

/-- A group that reads a text first and then settings that do not depend on it. -/
structure TextGroup (k : TextSetting) (α : Type) where
  kind : String
  standard : String
  next : String → GroupReader α
  put : String → α → α
  names : List String
  next_eq_map : ∀ s t, next s = put s <$> next t
  readsOnly : ∀ s, ReadsOnly names (next s)
  beside : ∀ name ∈ names, k.IsBeside name

theorem settingOf_readText (name standard : String) (origin : Origin) (content : Scalar) :
    settingOf name readText standard (some (.scalar origin content)) = pure content.print :=
  rfl

namespace TextGroup

variable {k : TextSetting} {α : Type} {s t : Scalar} {entries others : List (String × Value)}

def read (group : TextGroup k α) : Value → Except Fault α :=
  readGroup group.kind (setting k.name readText group.standard >>= group.next)

theorem read_table (group : TextGroup k α) (origin : Option Origin)
    (entries : List (String × Value)) :
    group.read (.table origin entries) =
      settingOf k.name readText group.standard (entries.lookup k.name) >>= fun text =>
        readNamed (group.next text) entries := by
  unfold read
  rw [readGroup_table, readNamed_setting_bind]

theorem read_of_text (group : TextGroup k α)
    (isText : entries.lookup k.name = some (.scalar .environment s)) :
    group.read (.table none entries) = readNamed (group.next s.print) entries := by
  rw [read_table, isText, settingOf_readText, pure_bind]

theorem readNamed_next_congr (group : TextGroup k α)
    (same : ∀ name, name ≠ k.name → entries.lookup name = others.lookup name) (text : String) :
    readNamed (group.next text) entries = readNamed (group.next text) others :=
  (group.readsOnly text).congr fun name member => same name (group.beside name member).ne

theorem read_eq_map (group : TextGroup k α)
    (same : ∀ name, name ≠ k.name → entries.lookup name = others.lookup name)
    (isText : entries.lookup k.name = some (.scalar .environment s))
    (wasText : others.lookup k.name = some (.scalar .environment t)) :
    group.read (.table none entries) =
      group.put s.print <$> group.read (.table none others) := by
  rw [group.read_of_text isText, group.read_of_text wasText, group.readNamed_next_congr same,
    group.next_eq_map s.print t.print, readNamed_map]

theorem failsOnly_read (group : TextGroup k α)
    (isText : entries.lookup k.name = some (.scalar .environment s)) :
    FailsOnly (fun fault => (fault.under k.group).Spares k) (group.read (.table none entries)) := by
  rw [group.read_of_text isText]
  refine ((group.readsOnly s.print).failsOnly entries).mono fun fault => ?_
  rintro ⟨name, member, within⟩
  obtain ⟨named, apart⟩ := group.beside name member
  exact (within.under named k.group).key?_ne apart

theorem isOk_read (group : TextGroup k α)
    (same : ∀ name, name ≠ k.name → entries.lookup name = others.lookup name)
    (isText : entries.lookup k.name = some (.scalar .environment s))
    (wasOk : (group.read (.table none others)).isOk = true) :
    (group.read (.table none entries)).isOk = true := by
  rw [read_table, isOk_bind_iff] at wasOk
  obtain ⟨text, -, restIsOk⟩ := wasOk
  rw [group.read_of_text isText, group.readNamed_next_congr same, group.next_eq_map _ text,
    readNamed_map]
  exact (isOk_map _ _).trans restIsOk

end TextGroup

/-! ### The groups of the settings -/

def repositoryGroup : TextGroup .repositoryId RepositorySettings where
  kind := "struct RepositoryConfig"
  standard := ({} : RepositorySettings).id
  next id := do
    let standard : RepositorySettings := {}
    let root ← setting "root" (readOptional readText) standard.root
    return { id, root }
  put id group := { group with id }
  names := ["root"]
  next_eq_map s t := by simp only [map_bind, map_pure]
  readsOnly _ := readsOnly_setting_bind (fun _ => readsOnly_pure _) _ _ _
  beside := by decide

def loggingGroup : TextGroup .loggingLevel LoggingSettings where
  kind := "struct LoggingConfig"
  standard := ({} : LoggingSettings).level
  next level := do
    let standard : LoggingSettings := {}
    let asJson ← setting "json_format" readFlag standard.asJson
    let showsThreads ← setting "include_thread_ids" readFlag standard.showsThreads
    let showsTarget ← setting "include_target" readFlag standard.showsTarget
    return { level, asJson, showsThreads, showsTarget }
  put level group := { group with level }
  names := ["json_format", "include_thread_ids", "include_target"]
  next_eq_map s t := by simp only [map_bind, map_pure]
  readsOnly _ := by
    iterate 3 refine readsOnly_setting_bind (fun _ => ?_) _ _ _
    exact readsOnly_pure _
  beside := by decide

def databaseGroup : TextGroup .databaseAddress PoolSettings where
  kind := "struct PoolConfig"
  standard := ({} : PoolSettings).address
  next address := do
    let standard : PoolSettings := {}
    let fewest ← setting "min_connections" readWord standard.fewest
    let most ← setting "max_connections" readWord standard.most
    let connectSeconds ← setting "connect_timeout_secs" readUnsigned standard.connectSeconds
    let idleSeconds ← setting "idle_timeout_secs" readUnsigned standard.idleSeconds
    let logsStatements ← setting "enable_logging" readFlag standard.logsStatements
    let migrates ← setting "run_migrations" readFlag standard.migrates
    return { address, fewest, most, connectSeconds, idleSeconds, logsStatements, migrates }
  put address group := { group with address }
  names := ["min_connections", "max_connections", "connect_timeout_secs", "idle_timeout_secs",
    "enable_logging", "run_migrations"]
  next_eq_map s t := by simp only [map_bind, map_pure]
  readsOnly _ := by
    iterate 6 refine readsOnly_setting_bind (fun _ => ?_) _ _ _
    exact readsOnly_pure _
  beside := by decide

theorem readRepository_eq : readRepository = repositoryGroup.read :=
  rfl

theorem readLogging_eq : readLogging = loggingGroup.read :=
  rfl

theorem readDatabase_eq : readDatabase = databaseGroup.read :=
  rfl

theorem ofValue_table (origin : Option Origin) (entries : List (String × Value)) :
    ofValue (.table origin entries) = do
      let indexer ← settingOf "indexer" readIndexer {} (entries.lookup "indexer")
      let repository ← settingOf "repository" repositoryGroup.read {} (entries.lookup "repository")
      let database ←
        settingOf "database" (readOptional databaseGroup.read) none (entries.lookup "database")
      let logging ← settingOf "logging" loggingGroup.read {} (entries.lookup "logging")
      return { indexer, repository, database, logging } := by
  simp only [ofValue, readGroup_table, readNamed_setting_bind, readNamed_pure, readRepository_eq,
    readLogging_eq, readDatabase_eq]

/-! ### The settings around a text -/

section OptionalGroups

variable {α : Type} {read : Value → Except Fault α} {entries others : List (String × Value)}

theorem readOptional_table (read : Value → Except Fault α) (entries : List (String × Value)) :
    readOptional read (.table none entries) = (read (.table none entries)).map some :=
  rfl

theorem readOptional_eq_map {change : α → α}
    (changed : read (.table none entries) = change <$> read (.table none others)) (standard : α) :
    readOptional read (.table none entries) =
      (fun found => some (change (found.getD standard))) <$>
        readOptional read (.table none others) := by
  rw [readOptional_table, readOptional_table, changed]
  cases read (.table none others) <;> rfl

theorem failsOnly_readOptional {allowed : Fault → Prop}
    (only : FailsOnly allowed (read (.table none entries))) :
    FailsOnly allowed (readOptional read (.table none entries)) :=
  only.map some

/-- A group that is read from whatever its name stands for is read from the entries of that:
what is no table has none, and then each setting has its standard value. -/
theorem isOk_read_entries {name : String} {standard : α} {found : Option Value}
    (nothing : (read (.table none [])).isOk = true)
    (anyOrigin : ∀ origin entries, read (.table origin entries) = read (.table none entries))
    (wasOk : (settingOf name read standard found).isOk = true) :
    (read (.table none ((found.map Value.entries).getD []))).isOk = true := by
  cases found with
  | none => exact nothing
  | some value =>
      rw [isOk_settingOf_some] at wasOk
      cases value with
      | table origin entries => rwa [anyOrigin] at wasOk
      | missing => exact nothing
      | scalar origin content => exact nothing
      | list origin items => exact nothing

end OptionalGroups

section Groups

variable {k : TextSetting} {s t : Scalar} {old : Value} {entries others : List (String × Value)}

/-- The settings read from tables that differ in a text differ in that setting alone. -/
theorem ofValue_eq_map_set (carries : Carries k s old (.table none entries))
    (carried : Carries k t old (.table none others)) :
    ofValue (.table none entries) = k.set s.print <$> ofValue (.table none others) := by
  obtain ⟨sameGroups, group, isGroup, sameNames, isText⟩ := carries
  obtain ⟨wereGroups, oldGroup, wasGroup, wereNames, wasText⟩ := carried
  have same (name) (other : name ≠ k.group) : entries.lookup name = others.lookup name :=
    (sameGroups name other).trans (wereGroups name other).symm
  have sameIn (name) (other : name ≠ k.name) : group.lookup name = oldGroup.lookup name :=
    (sameNames name other).trans (wereNames name other).symm
  cases k with
  | repositoryId =>
      have isGroup : entries.lookup "repository" = _ := isGroup
      have wasGroup : others.lookup "repository" = _ := wasGroup
      have changed := settingOf_some_eq_map (repositoryGroup.read_eq_map sameIn isText wasText)
      simp only [ofValue_table, isGroup, wasGroup, changed, same "indexer" (by decide),
        same "database" (by decide), same "logging" (by decide), map_bind, map_pure,
        bind_map_left, TextSetting.set]
      rfl
  | loggingLevel =>
      have isGroup : entries.lookup "logging" = _ := isGroup
      have wasGroup : others.lookup "logging" = _ := wasGroup
      have changed := settingOf_some_eq_map (loggingGroup.read_eq_map sameIn isText wasText)
      simp only [ofValue_table, isGroup, wasGroup, changed, same "indexer" (by decide),
        same "repository" (by decide), same "database" (by decide), map_bind, map_pure,
        bind_map_left, TextSetting.set]
      rfl
  | databaseAddress =>
      have isGroup : entries.lookup "database" = _ := isGroup
      have wasGroup : others.lookup "database" = _ := wasGroup
      have changed := settingOf_some_eq_map
        (readOptional_eq_map (databaseGroup.read_eq_map sameIn isText wasText) {})
      simp only [ofValue_table, isGroup, wasGroup, changed, same "indexer" (by decide),
        same "repository" (by decide), same "logging" (by decide), map_bind, map_pure,
        bind_map_left, TextSetting.set]
      rfl

/-- A text in its place is never what is wrong with settings. -/
theorem failsOnly_ofValue (carries : Carries k s old (.table none entries)) :
    FailsOnly (Fault.Spares k) (ofValue (.table none entries)) := by
  obtain ⟨-, group, isGroup, -, isText⟩ := carries
  have beside {α : Type} {name : String} (apart : ¬ name.toList <+: k.path.toList)
      (read : Value → Except Fault α) (standard : α) (found : Option Value) :
      FailsOnly (Fault.Spares k) (settingOf name read standard found) :=
    failsOnly_settingOf (fun _ within => within.key?_ne apart) read standard found
  rw [ofValue_table]
  cases k with
  | repositoryId =>
      have isGroup : entries.lookup "repository" = _ := isGroup
      have here := failsOnly_settingOf_some (repositoryGroup.failsOnly_read isText)
      rw [isGroup]
      refine FailsOnly.bind (beside (by decide) _ _ _) fun _ => ?_
      refine FailsOnly.bind (here _) fun _ => ?_
      iterate 2 refine FailsOnly.bind (beside (by decide) _ _ _) fun _ => ?_
      exact failsOnly_pure _
  | loggingLevel =>
      have isGroup : entries.lookup "logging" = _ := isGroup
      have here := failsOnly_settingOf_some (loggingGroup.failsOnly_read isText)
      rw [isGroup]
      iterate 3 refine FailsOnly.bind (beside (by decide) _ _ _) fun _ => ?_
      refine FailsOnly.bind (here _) fun _ => ?_
      exact failsOnly_pure _
  | databaseAddress =>
      have isGroup : entries.lookup "database" = _ := isGroup
      have here := failsOnly_settingOf_some
        (failsOnly_readOptional (databaseGroup.failsOnly_read isText))
      rw [isGroup]
      iterate 2 refine FailsOnly.bind (beside (by decide) _ _ _) fun _ => ?_
      refine FailsOnly.bind (here _) fun _ => ?_
      refine FailsOnly.bind (beside (by decide) _ _ _) fun _ => ?_
      exact failsOnly_pure _

theorem isOk_ofValue (carries : Carries k s (.table none others) (.table none entries))
    (wasOk : (ofValue (.table none others)).isOk = true) :
    (ofValue (.table none entries)).isOk = true := by
  obtain ⟨sameGroups, group, isGroup, sameNames, isText⟩ := carries
  have same (name) (other : name ≠ k.group) : entries.lookup name = others.lookup name :=
    sameGroups name other
  simp only [ofValue_table, isOk_bind_iff, isOk_pure, and_true, exists_and_right,
    exists_eq_ok_iff] at wasOk ⊢
  obtain ⟨indexer, repository, database, logging⟩ := wasOk
  cases k with
  | repositoryId =>
      have isGroup : entries.lookup "repository" = _ := isGroup
      have wasRead := isOk_read_entries rfl (fun _ _ => rfl) repository
      rw [same "indexer" (by decide), same "database" (by decide), same "logging" (by decide),
        isGroup, isOk_settingOf_some]
      exact ⟨indexer, repositoryGroup.isOk_read sameNames isText wasRead, database, logging⟩
  | loggingLevel =>
      have isGroup : entries.lookup "logging" = _ := isGroup
      have wasRead := isOk_read_entries rfl (fun _ _ => rfl) logging
      rw [same "indexer" (by decide), same "repository" (by decide), same "database" (by decide),
        isGroup, isOk_settingOf_some]
      exact ⟨indexer, repository, database, loggingGroup.isOk_read sameNames isText wasRead⟩
  | databaseAddress =>
      -- Without the variable the group may be absent; its entries are read as a group all the same.
      have isGroup : entries.lookup "database" = _ := isGroup
      have wasRead := isOk_read_entries rfl (fun _ _ => rfl) database
      rw [readOptional_table, isOk_map] at wasRead
      rw [same "indexer" (by decide), same "repository" (by decide), same "logging" (by decide),
        isGroup, isOk_settingOf_some, readOptional_table, isOk_map]
      exact ⟨indexer, repository, databaseGroup.isOk_read sameNames isText wasRead, logging⟩

end Groups

end ArtifactCatalog.Settings

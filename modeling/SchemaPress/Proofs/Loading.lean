import SchemaPress.Loading
import SchemaPress.Proofs.Files.Writing

/-!
# What is loaded from a tree of files

Loading changes no tree. What it gives depends only on what there is at the path, and it fails for
one of six reasons: two of them are about the settings, the others about the schema
(`FileTree.LoadingFails`).
-/

set_option autoImplicit false

namespace SchemaPress

variable {tree after : FileTree} {config path : String}

/-- What is logged when settings are loaded from a path: only that nothing is there. -/
def FileTree.settingsLog (tree : FileTree) (path : String) : List LogEntry :=
  if tree.isThere path then [] else [.settingsNotFound path]

/-- Settings are read from a file; where there is none they are the standard ones, and that is
logged. -/
theorem openSettings_eq (path : String) (tree : FileTree) :
    (openSettings path : StateM FileTree _) tree =
      (if tree.isThere path then
        (explained ("read " ++ path) FileError.message (tree.read path) >>=
          Settings.ofFile path).map fun settings => ⟨settings, []⟩
      else .ok ⟨{}, [.settingsNotFound path]⟩, tree) := by
  rw [openSettings, FileTree.bind_run]
  change (if tree.isThere path then _ else _ : StateM FileTree _) tree = _
  split <;> rfl

/-- The settings are those in the file at a path, or the standard ones where nothing is there. -/
theorem loadSettings_run (path : String) (tree : FileTree) :
    (loadSettings path : StateM FileTree _) tree =
      (if tree.isThere path then
        explained ("read " ++ path) FileError.message (tree.read path) >>= Settings.ofFile path
      else .ok {}, tree) := by
  rw [loadSettings, FileTree.bind_run, openSettings_eq]
  by_cases there : tree.isThere path = true
  · rw [if_pos there, if_pos there]
    cases explained ("read " ++ path) FileError.message (tree.read path) >>=
      Settings.ofFile path <;> rfl
  · rw [if_neg there, if_neg there]
    rfl

/-- With the settings comes what is logged about them. -/
theorem openSettings_run (path : String) (tree : FileTree) :
    (openSettings path : StateM FileTree _) tree =
      (((loadSettings path : StateM FileTree _) tree).1.map fun settings =>
        ⟨settings, tree.settingsLog path⟩, tree) := by
  rw [loadSettings_run, openSettings_eq, FileTree.settingsLog]
  by_cases there : tree.isThere path = true
  · rw [if_pos there, if_pos there, if_pos there]
  · rw [if_neg there, if_neg there, if_neg there]
    rfl

/-- A schema is read from the file at a path, in the notation of its extension. -/
theorem loadSchema_run (path : String) (tree : FileTree) :
    (loadSchema path : StateM FileTree _) tree =
      (explained ("read schema file: " ++ path) FileError.message (tree.read path) >>=
        Schema.ofFile path, tree) := by
  have opened : (openSchema path : StateM FileTree _) tree =
      ((explained ("read schema file: " ++ path) FileError.message (tree.read path) >>=
        Schema.ofFile path).map fun schema => ⟨schema, [loadedEntry path schema]⟩, tree) := rfl
  rw [loadSchema, FileTree.bind_run, opened]
  cases explained ("read schema file: " ++ path) FileError.message (tree.read path) >>=
    Schema.ofFile path <;> rfl

/-- With a schema comes what is logged about it. -/
theorem openSchema_run (path : String) (tree : FileTree) :
    (openSchema path : StateM FileTree _) tree =
      (((loadSchema path : StateM FileTree _) tree).1.map fun schema =>
        ⟨schema, [loadedEntry path schema]⟩, tree) := by
  rw [loadSchema_run]
  rfl

/-- To load settings changes nothing. -/
theorem loadSettings_tree (path : String) (tree : FileTree) :
    ((loadSettings path : StateM FileTree _) tree).2 = tree := by
  rw [loadSettings_run]

/-- From a file that can be read the settings are those in its text. -/
theorem loadSettings_of_read {text : String} (read : tree.read path = .ok text) :
    ((loadSettings path : StateM FileTree _) tree).1 = Settings.ofFile path text := by
  rw [loadSettings_run, if_pos (FileTree.isThere_of_read read), read]
  rfl

/-- Where there is no file, the settings are the standard ones. -/
theorem loadSettings_of_absent (absent : tree.isThere path = false) :
    (loadSettings path : StateM FileTree _) tree = (.ok {}, tree) := by
  rw [loadSettings_run, if_neg (Bool.eq_false_iff.mp absent)]

/-- From a file that has just been written the settings are those in the text. -/
theorem loadSettings_of_write {text : String} {settings : Settings}
    (wrote : tree.write path text = .ok after) (read : Settings.ofJson text = .ok settings) :
    (loadSettings path : StateM FileTree _) after = (.ok settings, after) := by
  have loaded := loadSettings_of_read (FileTree.read_write wrote)
  rw [Settings.ofFile, read] at loaded
  exact Prod.ext loaded (loadSettings_tree path after)

/-- There is something at a path wherever the same is at it. -/
theorem isThere_of_entry (same : (after.entry path).toOption = (tree.entry path).toOption) :
    after.isThere path = tree.isThere path := by
  have isOk (answer : Except FileError FileTree.Entry) :
      answer.isOk = answer.toOption.isSome := by
    cases answer <;> rfl
  rw [FileTree.isThere, FileTree.isThere, isOk, isOk, same]

/-- What is logged about settings is the same wherever the same is at their path, or nothing. -/
theorem settingsLog_of_entry (same : (after.entry path).toOption = (tree.entry path).toOption) :
    after.settingsLog path = tree.settingsLog path := by
  rw [FileTree.settingsLog, FileTree.settingsLog, isThere_of_entry same]

/-- The settings are the same wherever the same is at their path, or nothing. -/
theorem loadSettings_of_entry
    (same : (after.entry path).toOption = (tree.entry path).toOption) :
    ((loadSettings path : StateM FileTree _) after).1 =
      ((loadSettings path : StateM FileTree _) tree).1 := by
  rw [loadSettings_run, loadSettings_run]
  unfold FileTree.isThere FileTree.read
  cases before : tree.entry path with
  | ok entry =>
    cases now : after.entry path with
    | ok other =>
      rw [before, now] at same
      rw [Option.some.inj same]
    | error error =>
      rw [before, now] at same
      cases same
  | error error =>
    cases now : after.entry path with
    | ok other =>
      rw [before, now] at same
      cases same
    | error other => rfl

/-- From a file that can be read the schema is the one in its text. -/
theorem loadSchema_of_read {text : String} (read : tree.read path = .ok text) :
    ((loadSchema path : StateM FileTree _) tree).1 = Schema.ofFile path text := by
  rw [loadSchema_run, read]
  rfl

/-- From a file that is called so a schema is read as JSON. -/
theorem loadSchema_of_json {text : String} {schema : Schema}
    (json : (Files.extension? path).bind Notation.ofExtension? = some .json)
    (held : tree.read path = .ok text) (read : Schema.ofJson text = .ok schema) :
    ((loadSchema path : StateM FileTree _) tree).1 = .ok schema := by
  rw [loadSchema_of_read held, Schema.ofFile, json]
  change explained _ _ (Schema.ofJson text) = _
  rw [read]
  rfl

/-! ## Reasons not to be loaded -/

/-- Says that the settings or the schema of an export cannot be loaded. -/
inductive FileTree.LoadingFails (tree : FileTree) (config path : String) : Prop where
  | settingsUnread {error : FileError} (there : tree.isThere config = true)
      (unread : tree.read config = .error error)
  | settingsMalformed {text : String} {fault : Json.Fault} (read : tree.read config = .ok text)
      (malformed : Settings.ofJson text = .error fault)
  | schemaUnread {error : FileError} (unread : tree.read path = .error error)
  | schemaUnsupported (unsupported : (Files.extension? path).bind Notation.ofExtension? = none)
  | schemaMalformedJson {text : String} {fault : Json.Fault}
      (json : (Files.extension? path).bind Notation.ofExtension? = some .json)
      (read : tree.read path = .ok text) (malformed : Schema.ofJson text = .error fault)
  | schemaMalformedYaml {text : String} {fault : Yaml.Fault}
      (yaml : (Files.extension? path).bind Notation.ofExtension? = some .yaml)
      (read : tree.read path = .ok text) (malformed : Schema.ofYaml text = .error fault)

/-- A text that holds no settings is reported. -/
theorem Settings.ofFile_of_error {text : String} {fault : Json.Fault} (path : String)
    (malformed : Settings.ofJson text = .error fault) :
    ∃ failure, Settings.ofFile path text = .error failure := by
  rw [Settings.ofFile, malformed]
  exact ⟨_, rfl⟩

/-- A file whose name says no notation is reported, whatever is in it. -/
theorem Schema.ofFile_of_unsupported (text : String)
    (unsupported : (Files.extension? path).bind Notation.ofExtension? = none) :
    ∃ failure, Schema.ofFile path text = .error failure := by
  rw [Schema.ofFile, unsupported]
  exact ⟨_, rfl⟩

/-- A text that holds no schema in JSON is reported. -/
theorem Schema.ofFile_of_json_error {text : String} {fault : Json.Fault}
    (json : (Files.extension? path).bind Notation.ofExtension? = some .json)
    (malformed : Schema.ofJson text = .error fault) :
    ∃ failure, Schema.ofFile path text = .error failure := by
  rw [Schema.ofFile, json]
  change ∃ failure, explained _ _ (Schema.ofJson text) = .error failure
  rw [malformed]
  exact ⟨_, rfl⟩

/-- A text that holds no schema in YAML is reported. -/
theorem Schema.ofFile_of_yaml_error {text : String} {fault : Yaml.Fault}
    (yaml : (Files.extension? path).bind Notation.ofExtension? = some .yaml)
    (malformed : Schema.ofYaml text = .error fault) :
    ∃ failure, Schema.ofFile path text = .error failure := by
  rw [Schema.ofFile, yaml]
  change ∃ failure, explained _ _ (Schema.ofYaml text) = .error failure
  rw [malformed]
  exact ⟨_, rfl⟩

/-- For whichever reason loading fails, the settings or the schema are not loaded. -/
theorem FileTree.LoadingFails.exists_failure (fails : tree.LoadingFails config path) :
    ∃ failure, ((loadSettings config : StateM FileTree _) tree).1 = .error failure ∨
      ((loadSchema path : StateM FileTree _) tree).1 = .error failure := by
  have schema {text : String} (read : tree.read path = .ok text)
      (malformed : ∃ failure, Schema.ofFile path text = .error failure) :
      ∃ failure, ((loadSettings config : StateM FileTree _) tree).1 = .error failure ∨
        ((loadSchema path : StateM FileTree _) tree).1 = .error failure := by
    obtain ⟨failure, error⟩ := malformed
    exact ⟨failure, .inr ((loadSchema_of_read read).trans error)⟩
  have unread {error : FileError} (refused : tree.read path = .error error) :
      ∃ failure, ((loadSettings config : StateM FileTree _) tree).1 = .error failure ∨
        ((loadSchema path : StateM FileTree _) tree).1 = .error failure := by
    rw [loadSchema_run, refused]
    exact ⟨_, .inr rfl⟩
  cases fails with
  | settingsUnread there refused =>
    rw [loadSettings_run, if_pos there, refused]
    exact ⟨_, .inl rfl⟩
  | settingsMalformed read malformed =>
    obtain ⟨failure, error⟩ := Settings.ofFile_of_error config malformed
    exact ⟨failure, .inl ((loadSettings_of_read read).trans error)⟩
  | schemaUnread refused => exact unread refused
  | schemaUnsupported unsupported =>
    cases read : tree.read path with
    | error error => exact unread read
    | ok text => exact schema read (Schema.ofFile_of_unsupported text unsupported)
  | schemaMalformedJson json read malformed =>
    exact schema read (Schema.ofFile_of_json_error json malformed)
  | schemaMalformedYaml yaml read malformed =>
    exact schema read (Schema.ofFile_of_yaml_error yaml malformed)

end SchemaPress

import SchemaGen.Proofs.Grammar.Failure
import SchemaGen.Proofs.Run.Settings

namespace SchemaGen

namespace Files

theorem has_withInput (files : Files) (text : Option String) :
    (files.withInput text).has = files.has := by
  funext path
  unfold has withInput
  cases files path <;> rfl

/-- What is read at a path depends on nothing but what the path leads to. -/
theorem readText_congr {files others : Files} {path : String} (hsame : others path = files path)
    (text : Option String) :
    (others.withInput text).readText path = (files.withInput text).readText path := by
  unfold readText withInput
  rw [hsame]

theorem has_congr {files others : Files} {path : String} (hsame : others path = files path) :
    others.has path = files.has path := by
  unfold has
  rw [hsame]

end Files

theorem Settings.find?_withInput (files : Files) (text : Option String) (directory : String) :
    find? (files.withInput text) directory = find? files directory := by
  rw [find?, find?, Files.has_withInput]

/-- The end of a run that failed: nothing but the report. -/
def RunError.outcome (colour : Bool) (error : RunError) : Outcome where
  status := 1
  output := ""
  errors := error.report.render colour

namespace Invocation

/-- The settings file that counts: the one on the command line, else the first of the two known
names that is there. -/
inductive GoesBy (invocation : Invocation) (files : Files) : Option String → Prop
  | given {path : String} (hgiven : invocation.config = some path) :
    GoesBy invocation files (some path)
  | preferred (hgiven : invocation.config = none)
    (hthere : files.has "./.gqlgenrc.toml" = true) :
    GoesBy invocation files (some "./.gqlgenrc.toml")
  | other (hgiven : invocation.config = none)
    (hmissing : files.has "./.gqlgenrc.toml" = false) (hthere : files.has "./.gqlgenrc" = true) :
    GoesBy invocation files (some "./.gqlgenrc")
  | none (hgiven : invocation.config = none)
    (hmissing : files.has "./.gqlgenrc.toml" = false) (hnone : files.has "./.gqlgenrc" = false) :
    GoesBy invocation files none

/-- What comes of the settings, before the command line has its say. -/
inductive Settled (invocation : Invocation) (decode : Settings.Decoder)
    (toml : String → Option Settings.Table) (surroundings : Surroundings) :
    Except SettingsError Settings → Prop
  | default (hfile : invocation.GoesBy surroundings.files none) :
    Settled invocation decode toml surroundings
      (.ok ⟨none, false, "resolve", ["Query", "Mutation"]⟩)
  | unreadable {path : String} {reason : ReadError}
    (hfile : invocation.GoesBy surroundings.files (some path))
    (hread : (surroundings.files.withInput surroundings.input).readText path = .error reason) :
    Settled invocation decode toml surroundings (.error (.unreadable path reason))
  | invalid {path source words : String}
    (hfile : invocation.GoesBy surroundings.files (some path))
    (hread : (surroundings.files.withInput surroundings.input).readText path = .ok source)
    (hnone : Settings.meant? toml source = none) (hwords : decode source = .error words) :
    Settled invocation decode toml surroundings (.error (.invalidToml path words))
  | loaded {path source : String} {settings : Settings}
    (hfile : invocation.GoesBy surroundings.files (some path))
    (hread : (surroundings.files.withInput surroundings.input).readText path = .ok source)
    (hmeant : Settings.meant? toml source = some settings) :
    Settled invocation decode toml surroundings (.ok settings)

/-- What standard input still holds for the schema. -/
inductive Leaves (invocation : Invocation) (surroundings : Surroundings) : Option String → Prop
  | taken {path : String} (hfile : invocation.GoesBy surroundings.files (some path))
    (hinput : surroundings.files path = .input) : Leaves invocation surroundings (some "")
  | whole (hfile : ∀ path, invocation.GoesBy surroundings.files (some path) →
      surroundings.files path ≠ .input) : Leaves invocation surroundings surroundings.input

/-- What comes of reading the schema. -/
inductive SchemaRead (invocation : Invocation) (surroundings : Surroundings) :
    Except ReadError String → Prop
  | file {path : String} {left : Option String} {result : Except ReadError String}
    (hschema : invocation.schema = some path) (hleft : invocation.Leaves surroundings left)
    (hread : (surroundings.files.withInput left).readText path = result) :
    SchemaRead invocation surroundings result
  | input {text : String} (hschema : invocation.schema = none)
    (hleft : invocation.Leaves surroundings (some text)) :
    SchemaRead invocation surroundings (.ok text)
  | notText (hschema : invocation.schema = none) (hleft : invocation.Leaves surroundings none) :
    SchemaRead invocation surroundings (.error .notText)

/-- What comes of the task, once there are settings and a document. Only the Go generators need a
package. -/
inductive Generated (invocation : Invocation) (environment : List (String × String))
    (settings : Settings) (document : Document) : Except PackageError String → Prop
  | refused {flag : Option String} {error : PackageError}
    (htask : invocation.task = .types flag ∨ invocation.task = .inputs flag)
    (hpackage : settings.PackageChosen environment flag (.error error)) :
    Generated invocation environment settings document (.error error)
  | types {flag : Option String} {package : String} (htask : invocation.task = .types flag)
    (hpackage : settings.PackageChosen environment flag (.ok package)) :
    Generated invocation environment settings document (.ok (Go.outputTypes
      ⟨package, settings.rootTypes, invocation.resolveDirective.getD settings.resolveDirective⟩
      document))
  | inputs {flag : Option String} {package : String} (htask : invocation.task = .inputs flag)
    (hpackage : settings.PackageChosen environment flag (.ok package)) :
    Generated invocation environment settings document (.ok (Go.inputTypes
      ⟨package, settings.rootTypes, invocation.resolveDirective.getD settings.resolveDirective⟩
      document))
  | manifest (htask : invocation.task = .manifest) :
    Generated invocation environment settings document (.ok (Manifest.render
      (invocation.resolveDirective.getD settings.resolveDirective) document ++ "\n"))
  | list {sort : Bool} (htask : invocation.task = .list sort) :
    Generated invocation environment settings document
      (.ok (Listing.render (sort || settings.sort) document))

/-- How a run ends. A stage is looked at only if all stages before it succeed. -/
inductive Ends (invocation : Invocation) (decode : Settings.Decoder)
    (toml : String → Option Settings.Table) (colour : Bool) (surroundings : Surroundings) :
    Outcome → Prop
  | settings {error : SettingsError}
    (hsettings : invocation.Settled decode toml surroundings (.error error)) :
    Ends invocation decode toml colour surroundings (RunError.outcome colour (.settings error))
  | unreadable {settings : Settings} {reason : ReadError}
    (hsettings : invocation.Settled decode toml surroundings (.ok settings))
    (hread : invocation.SchemaRead surroundings (.error reason)) :
    Ends invocation decode toml colour surroundings
      (RunError.outcome colour (.unreadableSchema invocation.schema reason))
  | invalid {settings : Settings} {source : String} {error : SyntaxError}
    (hsettings : invocation.Settled decode toml surroundings (.ok settings))
    (hread : invocation.SchemaRead surroundings (.ok source))
    (hparse : Document.ofText source = .error error) :
    Ends invocation decode toml colour surroundings
      (RunError.outcome colour (.invalidSchema invocation.schema source error))
  | refused {settings : Settings} {source : String} {document : Document} {error : PackageError}
    (hsettings : invocation.Settled decode toml surroundings (.ok settings))
    (hread : invocation.SchemaRead surroundings (.ok source))
    (hparse : Document.ofText source = .ok document)
    (htask : invocation.Generated surroundings.environment settings document (.error error)) :
    Ends invocation decode toml colour surroundings (RunError.outcome colour (.package error))
  | done {settings : Settings} {source : String} {document : Document} {text : String}
    (hsettings : invocation.Settled decode toml surroundings (.ok settings))
    (hread : invocation.SchemaRead surroundings (.ok source))
    (hparse : Document.ofText source = .ok document)
    (htask : invocation.Generated surroundings.environment settings document (.ok text)) :
    Ends invocation decode toml colour surroundings { status := 0, output := text, errors := "" }

/-- The paths that a run looks at. The other name for settings is one of them only if the preferred
one is not there. -/
inductive LooksAt (invocation : Invocation) (files : Files) : String → Prop
  | given {path : String} (hgiven : invocation.config = some path) : LooksAt invocation files path
  | preferred (hgiven : invocation.config = none) : LooksAt invocation files "./.gqlgenrc.toml"
  | other (hgiven : invocation.config = none)
    (hmissing : files.has "./.gqlgenrc.toml" = false) : LooksAt invocation files "./.gqlgenrc"
  | schema {path : String} (hschema : invocation.schema = some path) :
    LooksAt invocation files path

variable {invocation : Invocation} {surroundings : Surroundings} {files others : Files}
  {decode : Settings.Decoder} {toml : String → Option Settings.Table} {colour : Bool}

theorem settingsNames_here :
    settingsNames.map (joinPath ".") = ["./.gqlgenrc.toml", "./.gqlgenrc"] := by
  decide

theorem settingsPath?_of_goesBy {path : Option String} (hfile : invocation.GoesBy files path) :
    invocation.settingsPath? files = path := by
  unfold settingsPath? Settings.find?
  rw [settingsNames_here]
  cases hfile with
  | given hgiven => simp [hgiven]
  | preferred hgiven hthere => simp [hgiven, hthere]
  | other hgiven hmissing hthere => simp [hgiven, hmissing, hthere]
  | none hgiven hmissing hnone => simp [hgiven, hmissing, hnone]

theorem exists_goesBy (invocation : Invocation) (files : Files) :
    ∃ path, invocation.GoesBy files path := by
  cases hgiven : invocation.config with
  | some path => exact ⟨_, .given hgiven⟩
  | none =>
    cases hpreferred : files.has "./.gqlgenrc.toml" with
    | true => exact ⟨_, .preferred hgiven hpreferred⟩
    | false =>
      cases hother : files.has "./.gqlgenrc" with
      | true => exact ⟨_, .other hgiven hpreferred hother⟩
      | false => exact ⟨_, .none hgiven hpreferred hother⟩

/-- The settings with what the command line says on top. -/
def merged (invocation : Invocation) (loaded : Settings) : Settings :=
  loaded.merge (settings.sort invocation) invocation.resolveDirective

/-- The settings come from the file that counts. -/
theorem settings_eq (invocation : Invocation) (decode : Settings.Decoder)
    (surroundings : Surroundings) :
    invocation.settings decode surroundings =
      (((invocation.settingsPath? surroundings.files).elim (.ok {})
        (Settings.loadFile decode (surroundings.files.withInput surroundings.input))).mapError
          RunError.settings).map invocation.merged := by
  unfold settings settingsPath?
  cases invocation.config with
  | some path =>
    change _ = ((Settings.loadFile decode _ path).mapError RunError.settings).map invocation.merged
    simp only
    cases Settings.loadFile decode (surroundings.files.withInput surroundings.input) path <;> rfl
  | none =>
    simp only [Settings.loadIn, Settings.find?_withInput]
    cases Settings.find? surroundings.files "." with
    | none => rfl
    | some path =>
      change _ = ((Settings.loadFile decode _ path).mapError RunError.settings).map invocation.merged
      simp only
      cases Settings.loadFile decode (surroundings.files.withInput surroundings.input) path <;> rfl

theorem settings_of_settled (hdecode : decode.Follows toml)
    {result : Except SettingsError Settings}
    (hsettings : invocation.Settled decode toml surroundings result) :
    invocation.settings decode surroundings =
      (result.mapError RunError.settings).map invocation.merged := by
  rw [settings_eq]
  cases hsettings with
  | default hfile => simp only [settingsPath?_of_goesBy hfile, Option.elim_none]
  | unreadable hfile hread =>
    simp only [settingsPath?_of_goesBy hfile, Option.elim_some, Settings.loadFile, hread]
  | invalid hfile hread _ hwords =>
    simp only [settingsPath?_of_goesBy hfile, Option.elim_some, Settings.loadFile, hread, hwords]
  | loaded hfile hread hmeant =>
    have hsettings := hdecode.accepts _ _ hmeant
    simp only [settingsPath?_of_goesBy hfile, Option.elim_some, Settings.loadFile, hread,
      hsettings]

theorem exists_settled (hdecode : decode.Follows toml) (invocation : Invocation)
    (surroundings : Surroundings) :
    ∃ result, invocation.Settled decode toml surroundings result := by
  obtain ⟨path?, hfile⟩ := exists_goesBy invocation surroundings.files
  cases path? with
  | none => exact ⟨_, .default hfile⟩
  | some path =>
    cases hread : (surroundings.files.withInput surroundings.input).readText path with
    | error reason => exact ⟨_, .unreadable hfile hread⟩
    | ok source =>
      cases hmeant : Settings.meant? toml source with
      | none =>
        obtain ⟨words, hwords⟩ := hdecode.refuses source hmeant
        exact ⟨_, .invalid hfile hread hmeant hwords⟩
      | some settings => exact ⟨_, .loaded hfile hread hmeant⟩

theorem inputLeft_of_leaves {left : Option String} (hleft : invocation.Leaves surroundings left) :
    invocation.inputLeft surroundings = left := by
  unfold inputLeft
  cases hleft with
  | taken hfile hinput => simp [settingsPath?_of_goesBy hfile, hinput]
  | whole hfile =>
    obtain ⟨path?, hpath⟩ := exists_goesBy invocation surroundings.files
    cases path? with
    | none => simp [settingsPath?_of_goesBy hpath]
    | some path => simp [settingsPath?_of_goesBy hpath, hfile path hpath]

theorem exists_leaves (invocation : Invocation) (surroundings : Surroundings) :
    ∃ left, invocation.Leaves surroundings left := by
  by_cases htaken : ∃ path, invocation.GoesBy surroundings.files (some path) ∧
      surroundings.files path = .input
  · obtain ⟨path, hfile, hinput⟩ := htaken
    exact ⟨_, .taken hfile hinput⟩
  · exact ⟨_, .whole fun path hfile hinput => htaken ⟨path, hfile, hinput⟩⟩

theorem source_of_schemaRead {result : Except ReadError String}
    (hread : invocation.SchemaRead surroundings result) :
    invocation.source surroundings =
      result.mapError (RunError.unreadableSchema invocation.schema) := by
  unfold source
  cases hread with
  | file hschema hleft hread =>
    simp only [hschema, inputLeft_of_leaves hleft, hread]
    cases result <;> rfl
  | input hschema hleft | notText hschema hleft =>
    simp only [hschema, inputLeft_of_leaves hleft]
    rfl

theorem exists_schemaRead (invocation : Invocation) (surroundings : Surroundings) :
    ∃ result, invocation.SchemaRead surroundings result := by
  obtain ⟨left, hleft⟩ := exists_leaves invocation surroundings
  cases hschema : invocation.schema with
  | some path => exact ⟨_, .file hschema hleft rfl⟩
  | none =>
    cases left with
    | none => exact ⟨_, .notText hschema hleft⟩
    | some text => exact ⟨_, .input hschema hleft⟩

theorem goOptions_of_packageChosen {settings : Settings} {flag : Option String}
    {result : Except PackageError String}
    (hpackage : settings.PackageChosen surroundings.environment flag result) :
    goOptions (invocation.merged settings) surroundings flag =
      (result.mapError RunError.package).map fun package =>
        { package, rootTypes := settings.rootTypes,
          resolveDirective := invocation.resolveDirective.getD settings.resolveDirective } := by
  have hsame : (invocation.merged settings).choosePackage flag surroundings.package? =
      settings.choosePackage flag surroundings.package? := rfl
  rw [goOptions, hsame, Settings.choosePackage_of_packageChosen hpackage]
  cases result <;> rfl

theorem sort_merged {sort : Bool} (htask : invocation.task = .list sort) (loaded : Settings) :
    (invocation.merged loaded).sort = (sort || loaded.sort) := by
  simp [merged, Settings.merge, settings.sort, htask, Bool.or_comm]

theorem output_of_ok {settings : Settings} {document : Document}
    (hsettings : invocation.settings decode surroundings = .ok settings)
    (hdocument : invocation.document surroundings = .ok document) :
    invocation.output decode surroundings =
      match invocation.task with
      | .types flag => (goOptions settings surroundings flag).map (Go.outputTypes · document)
      | .inputs flag => (goOptions settings surroundings flag).map (Go.inputTypes · document)
      | .manifest => .ok (Manifest.render settings.resolveDirective document ++ "\n")
      | .list _ => .ok (Listing.render settings.sort document) := by
  rw [output, hsettings, hdocument]
  cases invocation.task with
  | types flag | inputs flag =>
    simp only [bind, Except.bind]
    cases goOptions settings surroundings flag <;> rfl
  | manifest | list _ => rfl

theorem output_of_generated (hdecode : decode.Follows toml) {loaded : Settings} {document : Document}
    {result : Except PackageError String}
    (hsettings : invocation.Settled decode toml surroundings (.ok loaded))
    (hdocument : invocation.document surroundings = .ok document)
    (htask : invocation.Generated surroundings.environment loaded document result) :
    invocation.output decode surroundings = result.mapError RunError.package := by
  rw [output_of_ok (settings_of_settled hdecode hsettings) hdocument]
  cases htask with
  | refused htask hpackage =>
    rcases htask with htask | htask
    all_goals
      simp only [htask, goOptions_of_packageChosen hpackage]
      rfl
  | types htask hpackage | inputs htask hpackage =>
    simp only [htask, goOptions_of_packageChosen hpackage]
    rfl
  | manifest htask =>
    simp only [htask]
    rfl
  | list htask =>
    simp only [htask, sort_merged htask]
    rfl

theorem exists_generated (invocation : Invocation) (environment : List (String × String))
    (settings : Settings) (document : Document) :
    ∃ result, invocation.Generated environment settings document result := by
  cases htask : invocation.task with
  | types flag =>
    obtain ⟨result, hpackage⟩ := settings.exists_packageChosen environment flag
    cases result with
    | error error => exact ⟨_, .refused (.inl htask) hpackage⟩
    | ok package => exact ⟨_, .types htask hpackage⟩
  | inputs flag =>
    obtain ⟨result, hpackage⟩ := settings.exists_packageChosen environment flag
    cases result with
    | error error => exact ⟨_, .refused (.inr htask) hpackage⟩
    | ok package => exact ⟨_, .inputs htask hpackage⟩
  | manifest => exact ⟨_, .manifest htask⟩
  | list sort => exact ⟨_, .list htask⟩

theorem output_of_settled_error (hdecode : decode.Follows toml) {error : SettingsError}
    (hsettings : invocation.Settled decode toml surroundings (.error error)) :
    invocation.output decode surroundings = .error (.settings error) := by
  rw [output, settings_of_settled hdecode hsettings]
  rfl

theorem output_of_document_error (hdecode : decode.Follows toml) {loaded : Settings}
    {error : RunError}
    (hsettings : invocation.Settled decode toml surroundings (.ok loaded))
    (hdocument : invocation.document surroundings = .error error) :
    invocation.output decode surroundings = .error error := by
  rw [output, settings_of_settled hdecode hsettings, hdocument]
  rfl

theorem document_of_unreadable {reason : ReadError}
    (hread : invocation.SchemaRead surroundings (.error reason)) :
    invocation.document surroundings = .error (.unreadableSchema invocation.schema reason) := by
  rw [document, source_of_schemaRead hread]
  rfl

theorem document_of_schemaRead {source : String}
    (hread : invocation.SchemaRead surroundings (.ok source)) :
    invocation.document surroundings =
      (Document.ofText source).mapError (RunError.invalidSchema invocation.schema source) := by
  have hsource : invocation.source surroundings = .ok source := source_of_schemaRead hread
  rw [document, hsource]
  simp only [bind, Except.bind]
  cases Document.ofText source <;> rfl

theorem document_of_invalid {source : String} {error : SyntaxError}
    (hread : invocation.SchemaRead surroundings (.ok source))
    (hparse : Document.ofText source = .error error) :
    invocation.document surroundings =
      .error (.invalidSchema invocation.schema source error) := by
  rw [document_of_schemaRead hread, hparse]
  rfl

theorem document_of_parsed {source : String} {content : Document}
    (hread : invocation.SchemaRead surroundings (.ok source))
    (hparse : Document.ofText source = .ok content) :
    invocation.document surroundings = .ok content := by
  rw [document_of_schemaRead hread, hparse]
  rfl

theorem perform_of_ends (hdecode : decode.Follows toml) {outcome : Outcome}
    (hends : invocation.Ends decode toml colour surroundings outcome) :
    invocation.perform decode colour surroundings = outcome := by
  unfold perform
  cases hends with
  | settings hsettings =>
    rw [output_of_settled_error hdecode hsettings]
    rfl
  | unreadable hsettings hread =>
    rw [output_of_document_error hdecode hsettings (document_of_unreadable hread)]
    rfl
  | invalid hsettings hread hparse =>
    rw [output_of_document_error hdecode hsettings (document_of_invalid hread hparse)]
    rfl
  | refused hsettings hread hparse htask =>
    rw [output_of_generated hdecode hsettings (document_of_parsed hread hparse) htask]
    rfl
  | done hsettings hread hparse htask =>
    rw [output_of_generated hdecode hsettings (document_of_parsed hread hparse) htask]
    rfl

theorem exists_ends (hdecode : decode.Follows toml) (invocation : Invocation) (colour : Bool)
    (surroundings : Surroundings) :
    ∃ outcome, invocation.Ends decode toml colour surroundings outcome := by
  obtain ⟨settled, hsettings⟩ := exists_settled hdecode invocation surroundings
  obtain ⟨read, hread⟩ := exists_schemaRead invocation surroundings
  cases settled with
  | error error => exact ⟨_, .settings hsettings⟩
  | ok settings =>
    cases read with
    | error reason => exact ⟨_, .unreadable hsettings hread⟩
    | ok source =>
      cases hparse : Document.ofText source with
      | error error => exact ⟨_, .invalid hsettings hread hparse⟩
      | ok document =>
        obtain ⟨result, htask⟩ := exists_generated invocation surroundings.environment settings
          document
        cases result with
        | error error => exact ⟨_, .refused hsettings hread hparse htask⟩
        | ok text => exact ⟨_, .done hsettings hread hparse htask⟩

theorem perform_eq_iff_ends (hdecode : decode.Follows toml) {outcome : Outcome} :
    invocation.perform decode colour surroundings = outcome ↔
      invocation.Ends decode toml colour surroundings outcome := by
  constructor
  · rintro rfl
    obtain ⟨outcome, hends⟩ := exists_ends hdecode invocation colour surroundings
    rw [perform_of_ends hdecode hends]
    exact hends
  · exact perform_of_ends hdecode

/-- Other files among which the run sees the same. -/
def SeenAlike (invocation : Invocation) (files others : Files) : Prop :=
  ∀ path, invocation.LooksAt files path → others path = files path

theorem LooksAt.mem_paths {path : String} (hlooks : invocation.LooksAt files path) :
    path ∈ invocation.paths := by
  unfold paths
  rw [settingsNames_here]
  cases hlooks with
  | given hgiven => simp [hgiven]
  | preferred hgiven | other hgiven _ => simp [hgiven]
  | schema hschema => simp [hschema]

theorem GoesBy.looksAt {path : String} (hfile : invocation.GoesBy files (some path)) :
    invocation.LooksAt files path := by
  cases hfile with
  | given hgiven => exact .given hgiven
  | preferred hgiven _ => exact .preferred hgiven
  | other hgiven hmissing _ => exact .other hgiven hmissing

theorem GoesBy.congr {path? : Option String} (hfile : invocation.GoesBy files path?)
    (halike : invocation.SeenAlike files others) : invocation.GoesBy others path? := by
  cases hfile with
  | given hgiven => exact .given hgiven
  | preferred hgiven hthere =>
    refine .preferred hgiven ?_
    rwa [Files.has_congr (halike _ (.preferred hgiven))]
  | other hgiven hmissing hthere =>
    refine .other hgiven ?_ ?_
    · rwa [Files.has_congr (halike _ (.preferred hgiven))]
    · rwa [Files.has_congr (halike _ (.other hgiven hmissing))]
  | none hgiven hmissing hnone =>
    refine .none hgiven ?_ ?_
    · rwa [Files.has_congr (halike _ (.preferred hgiven))]
    · rwa [Files.has_congr (halike _ (.other hgiven hmissing))]

theorem Settled.congr {result : Except SettingsError Settings}
    (hsettings : invocation.Settled decode toml surroundings result)
    (halike : invocation.SeenAlike surroundings.files others) :
    invocation.Settled decode toml { surroundings with files := others } result := by
  cases hsettings with
  | default hfile => exact .default (hfile.congr halike)
  | unreadable hfile hread =>
    refine .unreadable (hfile.congr halike) ?_
    rwa [Files.readText_congr (halike _ hfile.looksAt)]
  | invalid hfile hread hnone hwords =>
    refine .invalid (hfile.congr halike) ?_ hnone hwords
    rwa [Files.readText_congr (halike _ hfile.looksAt)]
  | loaded hfile hread hmeant =>
    refine .loaded (hfile.congr halike) ?_ hmeant
    rwa [Files.readText_congr (halike _ hfile.looksAt)]

theorem Leaves.congr {left : Option String} (hleft : invocation.Leaves surroundings left)
    (halike : invocation.SeenAlike surroundings.files others) :
    invocation.Leaves { surroundings with files := others } left := by
  cases hleft with
  | taken hfile hinput =>
    exact .taken (hfile.congr halike) ((halike _ hfile.looksAt).trans hinput)
  | whole hfile =>
    refine .whole fun path hother hinput => ?_
    -- No other file counts than before.
    obtain ⟨path?, hsame⟩ := exists_goesBy invocation surroundings.files
    obtain rfl : path? = some path :=
      (settingsPath?_of_goesBy (hsame.congr halike)).symm.trans (settingsPath?_of_goesBy hother)
    exact hfile path hsame ((halike _ hsame.looksAt).symm.trans hinput)

theorem SchemaRead.congr {result : Except ReadError String}
    (hread : invocation.SchemaRead surroundings result)
    (halike : invocation.SeenAlike surroundings.files others) :
    invocation.SchemaRead { surroundings with files := others } result := by
  cases hread with
  | file hschema hleft hread =>
    refine .file hschema (hleft.congr halike) ?_
    rwa [Files.readText_congr (halike _ (.schema hschema))]
  | input hschema hleft => exact .input hschema (hleft.congr halike)
  | notText hschema hleft => exact .notText hschema (hleft.congr halike)

theorem Ends.congr {outcome : Outcome} (hends : invocation.Ends decode toml colour surroundings outcome)
    (halike : invocation.SeenAlike surroundings.files others) :
    invocation.Ends decode toml colour { surroundings with files := others } outcome := by
  cases hends with
  | settings hsettings => exact .settings (hsettings.congr halike)
  | unreadable hsettings hread =>
    exact .unreadable (hsettings.congr halike) (hread.congr halike)
  | invalid hsettings hread hparse =>
    exact .invalid (hsettings.congr halike) (hread.congr halike) hparse
  | refused hsettings hread hparse htask =>
    exact .refused (hsettings.congr halike) (hread.congr halike) hparse htask
  | done hsettings hread hparse htask =>
    exact .done (hsettings.congr halike) (hread.congr halike) hparse htask

end Invocation

/-- A run is decided by its first failing stage, and prints nothing but the report then. The text of
a settings file is decoded by rules of its own; all that is asked of the decoder is that it goes by
TOML. Files that the run does not look at make no difference: with a settings file on the command
line the usual ones are such files, and so is the other one where the preferred one is there,
whether or not it is any good. What the run looks at is known before it. -/
theorem run_decided_by_first_failure {decode : Settings.Decoder}
    {toml : String → Option Settings.Table} (hdecode : decode.Follows toml)
    (invocation : Invocation) (colour : Bool) (surroundings : Surroundings) :
    (∀ outcome, invocation.perform decode colour surroundings = outcome ↔
      invocation.Ends decode toml colour surroundings outcome) ∧
    (∀ others, invocation.SeenAlike surroundings.files others →
      invocation.perform decode colour { surroundings with files := others } =
        invocation.perform decode colour surroundings) ∧
    ∀ path, invocation.LooksAt surroundings.files path → path ∈ invocation.paths := by
  refine ⟨fun outcome => Invocation.perform_eq_iff_ends hdecode, fun others halike => ?_,
    fun path hlooks => hlooks.mem_paths⟩
  have hends : invocation.Ends decode toml colour surroundings
      (invocation.perform decode colour surroundings) :=
    (Invocation.perform_eq_iff_ends hdecode).mp rfl
  exact Invocation.perform_of_ends hdecode (hends.congr halike)

/-- The preferred settings file names a package that is no identifier, which is noticed only when
the schema has been read. The other settings file is no TOML, and might as well not be there. -/
theorem run_decided_by_first_failure_package :
    let source := "package = \"my-pkg\"\n"
    let toml (text : String) : Option Settings.Table :=
      if text = source then
        some fun key => if key = "package" then some (.string "my-pkg") else none
      else none
    let decode := Settings.Decoder.ofToml toml fun _ => "invalid"
    let files : Files := fun path =>
      if path = "./.gqlgenrc.toml" then .file (some source)
      else if path = "./.gqlgenrc" then .file (some "sort = maybe\n")
      else if path = "s" then .file (some "type A \x7b x: Int \x7d")
      else .absent .missing
    let others : Files := fun path =>
      if path = "./.gqlgenrc.toml" then .file (some source)
      else if path = "s" then .file (some "type A \x7b x: Int \x7d")
      else .absent .missing
    let invocation : Invocation := { task := .types none, schema := some "s" }
    decode.Follows toml ∧
      invocation.perform decode false { files } = {
        status := 1
        output := ""
        errors := "error: 'my-pkg' is not a valid Go package name\n" ++
          "\nhelp: Go package names use letters, digits and underscores\n" } ∧
      invocation.perform decode false { files := others } =
        invocation.perform decode false { files } := by
  intro source toml decode files others invocation
  have hdecode : decode.Follows toml := Settings.Decoder.follows_ofToml toml _
  obtain ⟨hends, halike, _⟩ := run_decided_by_first_failure hdecode invocation false { files }
  refine ⟨hdecode, (hends _).mpr ?_, halike others ?_⟩
  · have hreport : (RunError.package (.invalid "my-pkg")).report.render false =
        "error: 'my-pkg' is not a valid Go package name\n" ++
          "\nhelp: Go package names use letters, digits and underscores\n" := by
      decide +kernel
    have hparse : Document.ofText "type A \x7b x: Int \x7d" = .ok ⟨⟨0, 0⟩, [.typeDef ⟨⟨0, 0⟩, "A",
        [⟨⟨0, 9⟩, "x", ⟨⟨0, 12⟩, "Int", false, false, false⟩, [], []⟩], false⟩]⟩ := by
      decide +kernel
    have hbad : ¬ IsAsciiIdentifier "my-pkg" := by
      rw [← isPackageName_iff]
      decide
    rw [← hreport]
    refine .refused (.loaded (.preferred rfl rfl) rfl rfl) (.file rfl (.whole ?_) rfl) hparse
      (.refused (.inl rfl) (.invalid (.settings rfl ?_) hbad))
    · rintro path (hgiven | _ | ⟨_, hmissing⟩)
      · cases hgiven
      · decide
      · cases hmissing
    · intro name hset
      cases hset
  · rintro path (hgiven | _ | ⟨_, hmissing⟩ | hschema)
    · cases hgiven
    · rfl
    · cases hmissing
    · cases hschema
      rfl

end SchemaGen

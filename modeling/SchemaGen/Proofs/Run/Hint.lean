import Mathlib.Data.List.Nodup
import Mathlib.Data.List.TakeWhile
import SchemaGen.Proofs.Run.Stages
import SchemaGen.Proofs.Text.Search

namespace SchemaGen

/-- Advice on a failure that is told in words. -/
inductive Hint where
  /-- How to name a package. -/
  | package
  /-- What a package name is made of. -/
  | packageName
  /-- Where a schema comes from. -/
  | schema
  /-- What settings there are. -/
  | settings
deriving DecidableEq

namespace Hint

/-- The phrase that calls for the advice. -/
def phrase : Hint → String
  | package => "GOPACKAGE"
  | packageName => "not a valid Go package name"
  | schema => "Failed to read schema"
  | settings => "not valid TOML"

/-- The advice itself. -/
def advice : Hint → Advice
  | package =>
    { suggestion := some "Pass --package <name> or add `package = \"<name>\"` to .gqlgenrc.toml" }
  | packageName => { help := some "Go package names use letters, digits and underscores" }
  | schema => { help := some "Pass a schema file path, or pipe the schema on stdin" }
  | settings => { help := some "Supported keys: package, sort, resolve_directive, root_types" }

/-- The hints in the order in which their phrases are looked for. -/
def order : List Hint := [package, packageName, schema, settings]

/-- The advice of a hint, or none. -/
def adviceOf : Option Hint → Advice
  | none => {}
  | some hint => hint.advice

end Hint

/-- The kinds of failures that are told in words. -/
inductive FailureKind where
  | missingPackage
  | invalidPackage
  | unreadableSchema
  | invalidSettings
  | unreadableSettings

namespace FailureKind

/-- The words in front of the first text that is quoted. -/
def opening : FailureKind → String
  | missingPackage =>
    "either the GOPACKAGE environment variable, the --package flag or `package` in " ++
      ".gqlgenrc.toml must be set"
  | invalidPackage => "'"
  | unreadableSchema => "Failed to read schema from "
  | invalidSettings => "Config file "
  | unreadableSettings => "Failed to read config file "

/-- The words between the texts that are quoted. -/
def link : FailureKind → String
  | missingPackage => ""
  | invalidPackage => "' is not a valid Go package name"
  | unreadableSchema | unreadableSettings => ": "
  | invalidSettings => " is not valid TOML: "

/-- The hint that fits. -/
def due : FailureKind → Option Hint
  | missingPackage => some .package
  | invalidPackage => some .packageName
  | unreadableSchema => some .schema
  | invalidSettings => some .settings
  | unreadableSettings => none

/-- The hints whose phrases are looked for before that of the one that fits. -/
def earlier (kind : FailureKind) : List Hint :=
  Hint.order.takeWhile (kind.due ≠ some ·)

end FailureKind

/-- A failure told in words, with the texts that it quotes: what was asked for, and why it is no
good. -/
structure Told where
  kind : FailureKind
  first : String := ""
  second : String := ""

/-- A failure as it is told. A syntax error is shown in the source instead. -/
def RunError.told? : RunError → Option Told
  | settings (.unreadable path reason) => some ⟨.unreadableSettings, path, reason.message⟩
  | settings (.invalidToml path detail) => some ⟨.invalidSettings, path, detail⟩
  | unreadableSchema path reason =>
    some ⟨.unreadableSchema, path.getD "stdin", reason.message⟩
  | invalidSchema .. => none
  | package .missing => some { kind := .missingPackage }
  | package (.invalid name) => some { kind := .invalidPackage, first := name }

namespace Told

/-- The message, put together. -/
def message (told : Told) : String :=
  told.kind.opening ++ told.first ++ told.kind.link ++ told.second

/-- A phrase stands in a text that is quoted. -/
def quotes (told : Told) (phrase : String) : Bool :=
  Text.occursIn phrase told.first || Text.occursIn phrase told.second

/-- The hint that is given: the first one before the one that fits whose phrase is quoted, else the
one that fits. -/
def hint? (told : Told) : Option Hint :=
  (told.kind.earlier.find? (told.quotes ·.phrase)).or told.kind.due

/-- How a run ends that fails so and gives a hint. -/
def outcome (told : Told) (colour : Bool) (hint? : Option Hint) : Outcome where
  status := 1
  output := ""
  errors :=
    (({ message := told.message } : Report).advising (Hint.adviceOf hint?)).render colour

end Told

theorem Hint.phrase_ne_nil (hint : Hint) : hint.phrase.toList ≠ [] := by
  cases hint <;> decide

/-- The phrases are looked for in their order, and the first one that is found decides. -/
theorem adviceFor_eq (message : String) :
    adviceFor message =
      Hint.adviceOf (Hint.order.find? fun hint => Text.occursIn hint.phrase message) := by
  unfold adviceFor
  simp only [Hint.order, List.find?_cons, Hint.phrase]
  cases Text.occursIn "GOPACKAGE" message with
  | true => rfl
  | false =>
    cases Text.occursIn "not a valid Go package name" message with
    | true => rfl
    | false =>
      cases Text.occursIn "Failed to read schema" message with
      | true => rfl
      | false => cases Text.occursIn "not valid TOML" message <;> rfl

namespace FailureKind

/-- The words of a failure hold the phrase of the hint that fits. -/
theorem occursIn_due {kind : FailureKind} {hint : Hint} (hdue : kind.due = some hint) :
    Text.occursIn hint.phrase kind.opening = true ∨ Text.occursIn hint.phrase kind.link = true := by
  cases kind with
  | unreadableSettings => cases hdue
  | missingPackage | invalidPackage | unreadableSchema | invalidSettings =>
    cases hdue
    decide

/-- No phrase that is looked for earlier can begin or end in the words of a failure. -/
theorem avoids_of_mem_earlier (kind : FailureKind) :
    ∀ hint ∈ kind.earlier, Text.Avoids hint.phrase.toList kind.opening.toList ∧
      Text.Avoids hint.phrase.toList kind.link.toList ∧
      Text.Avoids kind.link.toList hint.phrase.toList := by
  cases kind <;> decide +kernel

theorem earlier_append (kind : FailureKind) :
    kind.earlier ++ Hint.order.dropWhile (kind.due ≠ some ·) = Hint.order :=
  List.takeWhile_append_dropWhile

theorem due_ne_of_mem_earlier {kind : FailureKind} {hint : Hint} (hmem : hint ∈ kind.earlier) :
    kind.due ≠ some hint := by
  simpa using List.mem_takeWhile_imp hmem

end FailureKind

namespace Told

variable (told : Told)

theorem occursIn_message_of_mem_earlier {hint : Hint} (hmem : hint ∈ told.kind.earlier) :
    Text.occursIn hint.phrase told.message = told.quotes hint.phrase := by
  obtain ⟨hopening, hlink, hends⟩ := told.kind.avoids_of_mem_earlier hint hmem
  exact Text.occursIn_between hint.phrase_ne_nil hopening hlink hends told.first told.second

theorem occursIn_message_of_due {hint : Hint} (hdue : told.kind.due = some hint) :
    Text.occursIn hint.phrase told.message = true := by
  unfold message
  rcases FailureKind.occursIn_due hdue with hopening | hlink
  · rw [String.append_assoc, String.append_assoc]
    exact Text.occursIn_of_front hopening _
  · exact Text.occursIn_of_front (Text.occursIn_of_back hlink _) _

/-- The search for a phrase comes to the one that fits unless an earlier one is quoted. -/
theorem find?_message :
    Hint.order.find? (fun hint => Text.occursIn hint.phrase told.message) = told.hint? := by
  have hearlier : told.kind.earlier.find? (fun hint => Text.occursIn hint.phrase told.message) =
      told.kind.earlier.find? (told.quotes ·.phrase) := by
    rw [← List.head?_filter, ← List.head?_filter]
    exact congrArg List.head?
      (List.filter_congr fun hint hmem => told.occursIn_message_of_mem_earlier hmem)
  -- The search ends at the hint that fits, so the phrases behind it never matter.
  have hrest : (Hint.order.dropWhile (told.kind.due ≠ some ·)).find?
      (fun hint => Text.occursIn hint.phrase told.message) = told.kind.due := by
    cases hkind : told.kind.due with
    | none => rfl
    | some hint =>
      have hfirst : (Hint.order.dropWhile (some hint ≠ some ·)).head? = some hint := by
        cases hint <;> rfl
      obtain ⟨rest, hcons⟩ := List.head?_eq_some_iff.mp hfirst
      rw [hcons, List.find?_cons, told.occursIn_message_of_due hkind]
  rw [← told.kind.earlier_append, List.find?_append, hearlier, hrest, hint?]

/-- The hint fits exactly if no earlier phrase is quoted. -/
theorem hint?_eq_due_iff :
    told.hint? = told.kind.due ↔
      ∀ hint ∈ told.kind.earlier, told.quotes hint.phrase = false := by
  unfold hint?
  cases hfind : told.kind.earlier.find? (told.quotes ·.phrase) with
  | none => simpa using hfind
  | some hint =>
    have hmem : hint ∈ told.kind.earlier := List.mem_of_find?_eq_some hfind
    have hquotes := List.find?_some hfind
    refine iff_of_false (fun hsame => ?_) fun hnone => ?_
    · exact FailureKind.due_ne_of_mem_earlier hmem hsame.symm
    · simp [hnone hint hmem] at hquotes

end Told

/-- The message of a failure is what it is told with. -/
theorem RunError.report_eq_ofChain {error : RunError} {told : Told}
    (htold : error.told? = some told) : error.report = Report.ofChain [told.message] := by
  cases error with
  | settings error =>
    cases error with
    | unreadable path reason =>
      cases htold
      rfl
    | invalidToml path detail =>
      cases htold
      have hmessage : "Config file " ++ path ++ " is not valid TOML" ++ ": " ++ detail =
          "Config file " ++ path ++ (" is not valid TOML" ++ ": ") ++ detail := by
        rw [← String.append_assoc]
      exact congrArg (fun message => Report.ofChain [message]) hmessage
  | unreadableSchema path reason =>
    cases htold
    rfl
  | invalidSchema path source error => cases htold
  | package error =>
    cases error with
    | missing =>
      cases htold
      rfl
    | invalid name =>
      cases htold
      have hmessage : "'" ++ name ++ "' is not a valid Go package name" =
          "'" ++ name ++ "' is not a valid Go package name" ++ "" := by
        rw [String.append_empty]
      exact congrArg (fun message => Report.ofChain [message]) hmessage

/-- What is written below the message. -/
def Hint.remarks (colour : Bool) (hint? : Option Hint) : String :=
  Report.remark colour .green "suggestion:" (adviceOf hint?).suggestion ++
    Report.remark colour .cyan "help:" (adviceOf hint?).help

theorem Hint.mem_all (hint? : Option Hint) : hint? ∈ none :: order.map some := by
  rcases hint? with _ | hint
  · exact List.mem_cons_self
  · cases hint <;> decide

/-- Different hints show in what is written. -/
theorem Hint.remarks_injective (colour : Bool) : Function.Injective (remarks colour) := by
  have hdistinct : ∀ colour, ((none :: order.map some).map (remarks colour)).Nodup := by
    decide +kernel
  intro hint? other? hsame
  exact List.inj_on_of_nodup_map (hdistinct colour) (mem_all hint?) (mem_all other?) hsame

theorem Told.outcome_inj {told : Told} {colour : Bool} {hint? other? : Option Hint} :
    told.outcome colour hint? = told.outcome colour other? ↔ hint? = other? := by
  refine ⟨fun hsame => ?_, congrArg _⟩
  have herrors := congrArg Outcome.errors hsame
  simp only [outcome, Report.render, Report.advising, Report.pointer, Report.surroundings,
    String.append_assoc, String.append_right_inj] at herrors
  exact Hint.remarks_injective colour herrors

theorem RunError.outcome_eq {error : RunError} {told : Told} (htold : error.told? = some told)
    (colour : Bool) : error.outcome colour = told.outcome colour told.hint? := by
  rw [outcome, report_eq_ofChain htold, Told.outcome, ← told.find?_message, ← adviceFor_eq]
  rfl

namespace Invocation

variable {invocation : Invocation} {surroundings : Surroundings} {error : RunError}
  {decode : Settings.Decoder} {toml : String → Option Settings.Table}

/-- What a failed run has failed at. -/
theorem cases_of_output_eq_error (hdecode : decode.Follows toml)
    (hfail : invocation.output decode surroundings = .error error) :
    (∃ cause, error = .settings cause ∧
      invocation.Settled decode toml surroundings (.error cause)) ∨
    (∃ reason, error = .unreadableSchema invocation.schema reason ∧
      invocation.SchemaRead surroundings (.error reason)) ∨
    (∃ source cause, error = .invalidSchema invocation.schema source cause) ∨
    ∃ cause, error = .package cause := by
  obtain ⟨settled, hsettings⟩ := exists_settled hdecode invocation surroundings
  cases settled with
  | error cause =>
    rw [output_of_settled_error hdecode hsettings] at hfail
    cases hfail
    exact .inl ⟨cause, rfl, hsettings⟩
  | ok settings =>
    obtain ⟨read, hread⟩ := exists_schemaRead invocation surroundings
    cases read with
    | error reason =>
      rw [output_of_document_error hdecode hsettings (document_of_unreadable hread)] at hfail
      cases hfail
      exact .inr (.inl ⟨reason, rfl, hread⟩)
    | ok source =>
      cases hparse : Document.ofText source with
      | error cause =>
        rw [output_of_document_error hdecode hsettings (document_of_invalid hread hparse)] at hfail
        cases hfail
        exact .inr (.inr (.inl ⟨source, cause, rfl⟩))
      | ok document =>
        obtain ⟨result, htask⟩ := exists_generated invocation surroundings.environment settings
          document
        rw [output_of_generated hdecode hsettings (document_of_parsed hread hparse) htask] at hfail
        cases result with
        | error cause =>
          cases hfail
          exact .inr (.inr (.inr ⟨cause, rfl⟩))
        | ok text => cases hfail

variable {told : Told}

/-- Standard input is unreadable for one reason only, and nothing about it is quoted. -/
theorem told_of_unreadable_input (hdecode : decode.Follows toml)
    (hfail : invocation.output decode surroundings = .error error)
    (htold : error.told? = some told) (hinput : invocation.schema = none)
    (hkind : told.kind = .unreadableSchema) :
    told = ⟨.unreadableSchema, "stdin", ReadError.notText.message⟩ := by
  rcases cases_of_output_eq_error hdecode hfail with ⟨cause, rfl, _⟩ | ⟨reason, rfl, hread⟩ |
    ⟨source, cause, rfl⟩ | ⟨cause, rfl⟩
  · cases cause <;> cases htold <;> cases hkind
  · cases hread with
    | file hschema => simp [hinput] at hschema
    | notText => simpa [RunError.told?, hinput] using htold.symm
  · cases htold
  · cases cause <;> cases htold <;> cases hkind

/-- Where the settings are no TOML, their path and the words of the decoder are quoted. -/
theorem exists_quotes_of_invalidSettings (hdecode : decode.Follows toml)
    (hfail : invocation.output decode surroundings = .error error)
    (htold : error.told? = some told) (hkind : told.kind = .invalidSettings) :
    ∃ path source words, invocation.GoesBy surroundings.files (some path) ∧
      (surroundings.files.withInput surroundings.input).readText path = .ok source ∧
      Settings.meant? toml source = none ∧ decode source = .error words ∧
      ∀ hint : Hint, told.quotes hint.phrase =
        (Text.occursIn hint.phrase path || Text.occursIn hint.phrase words) := by
  rcases cases_of_output_eq_error hdecode hfail with ⟨cause, rfl, hsettings⟩ | ⟨reason, rfl, _⟩ |
    ⟨source, cause, rfl⟩ | ⟨cause, rfl⟩
  · cases hsettings with
    | unreadable => cases htold; cases hkind
    | @invalid path source words hfile hread hnone hwords =>
      cases htold
      exact ⟨path, source, words, hfile, hread, hnone, hwords, fun hint => rfl⟩
  · cases htold
    cases hkind
  · cases htold
  · cases cause <;> cases htold <;> cases hkind

end Invocation

/-- The hint of a run that fails for another reason than a syntax error. It is the first one whose
phrase is looked for before that of the hint that fits and stands in a text that the message quotes,
else the one that fits. So a run ends with the hint that fits exactly if none of these phrases is
quoted. A missing package and an unreadable standard input quote nothing that could mislead, and
settings that are no TOML mislead by their path and by the words of whatever decoder has refused
them. -/
theorem hint_fits_iff {decode : Settings.Decoder} {toml : String → Option Settings.Table}
    (hdecode : decode.Follows toml) {invocation : Invocation} (colour : Bool)
    {surroundings : Surroundings} {error : RunError}
    (hfail : invocation.output decode surroundings = .error error) {told : Told}
    (htold : error.told? = some told) :
    invocation.perform decode colour surroundings = told.outcome colour told.hint? ∧
    (invocation.perform decode colour surroundings = told.outcome colour told.kind.due ↔
      ∀ hint ∈ told.kind.earlier, told.quotes hint.phrase = false) ∧
    (told.kind = .missingPackage ∨ told.kind = .unreadableSchema ∧ invocation.schema = none →
      invocation.perform decode colour surroundings = told.outcome colour told.kind.due) ∧
    (told.kind = .invalidSettings → ∃ path source words,
      invocation.GoesBy surroundings.files (some path) ∧
      (surroundings.files.withInput surroundings.input).readText path = .ok source ∧
      Settings.meant? toml source = none ∧ decode source = .error words ∧
      ∀ hint : Hint, told.quotes hint.phrase =
        (Text.occursIn hint.phrase path || Text.occursIn hint.phrase words)) := by
  have hperform : invocation.perform decode colour surroundings =
      told.outcome colour told.hint? := by
    rw [← RunError.outcome_eq htold, Invocation.perform, hfail]
    rfl
  have hfits : invocation.perform decode colour surroundings =
      told.outcome colour told.kind.due ↔
        ∀ hint ∈ told.kind.earlier, told.quotes hint.phrase = false := by
    rw [hperform, Told.outcome_inj, told.hint?_eq_due_iff]
  refine ⟨hperform, hfits, fun hkind => hfits.mpr ?_, fun hkind => ?_⟩
  · rcases hkind with hkind | ⟨hkind, hinput⟩
    · simp [FailureKind.earlier, hkind, FailureKind.due, Hint.order]
    · obtain rfl := Invocation.told_of_unreadable_input hdecode hfail htold hinput hkind
      decide
  · exact Invocation.exists_quotes_of_invalidSettings hdecode hfail htold hkind

/-- A path that is a phrase itself does no harm to a failure whose own phrase is looked for before.
There are no settings to decode. -/
theorem hint_fits_iff_later_phrase :
    let toml (_ : String) : Option Settings.Table := none
    let decode := Settings.Decoder.ofToml toml fun _ => "invalid"
    let invocation : Invocation := { task := .list false, schema := some "not valid TOML" }
    let surroundings : Surroundings := { files := fun _ => .absent .missing }
    decode.Follows toml ∧
    invocation.output decode surroundings =
      .error (.unreadableSchema (some "not valid TOML") .missing) ∧
    invocation.perform decode false surroundings = {
      status := 1
      output := ""
      errors := "error: Failed to read schema from not valid TOML: " ++
        "No such file or directory (os error 2)\n" ++
        "\nhelp: Pass a schema file path, or pipe the schema on stdin\n" } := by
  intro toml decode invocation surroundings
  have hdecode : decode.Follows toml := Settings.Decoder.follows_ofToml toml _
  have hfail : invocation.output decode surroundings =
      .error (.unreadableSchema (some "not valid TOML") .missing) := rfl
  obtain ⟨_, hfits, _⟩ := hint_fits_iff hdecode false hfail rfl
  exact ⟨hdecode, hfail, (hfits.mpr (by decide)).trans (by decide +kernel)⟩

/-- A variable that nothing has put a value for is refused as the name of a package, and the user is
told to name one, as if there were none. There are no settings to decode. -/
theorem unexpanded_variable_misleads :
    let told : Told := { kind := .invalidPackage, first := "$GOPACKAGE" }
    let decode : Settings.Decoder := fun _ => .error "invalid"
    let invocation : Invocation := { task := .types (some "$GOPACKAGE") }
    let surroundings : Surroundings :=
      { files := fun _ => .absent .missing, input := some "type A \x7b x: Int \x7d" }
    isPackageName "$GOPACKAGE" = false ∧
    invocation.perform decode false surroundings = told.outcome false (some .package) ∧
    invocation.perform decode false surroundings = {
      status := 1
      output := ""
      errors := "error: '$GOPACKAGE' is not a valid Go package name\n" ++
        "\nsuggestion: Pass --package <name> or add `package = \"<name>\"` to .gqlgenrc.toml\n" } ∧
    invocation.perform decode false surroundings ≠ told.outcome false told.kind.due := by
  decide +kernel

end SchemaGen

import SchemaGen.Run

namespace SchemaGen

namespace Settings

/-- A value in a settings file, as far as settings go. -/
inductive Value where
  | string (text : String)
  | boolean (value : Bool)
  /-- An array of strings, which may be empty. -/
  | strings (texts : List String)
  /-- A number, a date, a table, or an array of anything but strings. -/
  | other

namespace Value

def string? : Value → Option String
  | string text => some text
  | boolean _ | strings _ | other => none

def boolean? : Value → Option Bool
  | boolean value => some value
  | string _ | strings _ | other => none

def strings? : Value → Option (List String)
  | strings texts => some texts
  | string _ | boolean _ | other => none

end Value

/-- The values of the keys at the top of a TOML document. -/
abbrev Table := String → Option Value

/-- The setting under a key. It keeps its default without the key, and there is none if the value is
of another kind. -/
def Table.setting? {α : Type} (table : Table) (key : String) (default : α)
    (read : Value → Option α) : Option α :=
  match table key with
  | none => some default
  | some value => read value

/-- The settings in a table, unless a value is of the wrong kind. Other keys mean nothing. -/
def ofTable? (table : Table) : Option Settings := do
  let package ← table.setting? "package" none fun value => value.string?.map some
  let sort ← table.setting? "sort" false Value.boolean?
  let resolveDirective ← table.setting? "resolve_directive" "resolve" Value.string?
  let rootTypes ← table.setting? "root_types" ["Query", "Mutation"] Value.strings?
  return { package, sort, resolveDirective, rootTypes }

/-- The settings that a text means, given the table that it is in TOML. There are none if it is no
TOML, or holds a value of the wrong kind. -/
def meant? (toml : String → Option Table) (source : String) : Option Settings :=
  (toml source).bind ofTable?

namespace Decoder

/-- The decoder goes by TOML: it gives the settings that a text means, and refuses a text that means
none, in whatever words. -/
structure Follows (decode : Decoder) (toml : String → Option Table) : Prop where
  accepts : ∀ source settings, meant? toml source = some settings → decode source = .ok settings
  refuses : ∀ source, meant? toml source = none → ∃ words, decode source = .error words

/-- A decoder that goes by TOML and has its words for every text that it refuses. -/
def ofToml (toml : String → Option Table) (words : String → String) : Decoder := fun source =>
  match meant? toml source with
  | some settings => .ok settings
  | none => .error (words source)

theorem follows_ofToml (toml : String → Option Table) (words : String → String) :
    (ofToml toml words).Follows toml where
  accepts source settings hmeant := by rw [ofToml, hmeant]
  refuses source hnone := ⟨words source, by rw [ofToml, hnone]⟩

end Decoder

end Settings

/-- A letter of ASCII, or an underscore. -/
def StartsAsciiIdentifier (c : Char) : Prop :=
  'A' ≤ c ∧ c ≤ 'Z' ∨ 'a' ≤ c ∧ c ≤ 'z' ∨ c = '_'

/-- The name is not empty, has letters, digits and underscores of ASCII only, and no digit first. -/
def IsAsciiIdentifier (name : String) : Prop :=
  ∃ first rest, name.toList = first :: rest ∧ StartsAsciiIdentifier first ∧
    ∀ c ∈ rest, StartsAsciiIdentifier c ∨ '0' ≤ c ∧ c ≤ '9'

theorem isPackageStart_iff {c : Char} : isPackageStart c = true ↔ StartsAsciiIdentifier c := by
  have halpha : c.isAlpha = (decide ('A' ≤ c ∧ c ≤ 'Z') || decide ('a' ≤ c ∧ c ≤ 'z')) := by
    rw [Bool.decide_and (p := 'a' ≤ c)]
    rfl
  simp only [isPackageStart, StartsAsciiIdentifier, halpha, Bool.or_eq_true, decide_eq_true_eq,
    beq_iff_eq, or_assoc]

theorem isDigit_iff {c : Char} : c.isDigit = true ↔ '0' ≤ c ∧ c ≤ '9' := by
  simp only [Char.isDigit, Bool.and_eq_true, decide_eq_true_eq, ge_iff_le]
  rfl

theorem isPackageName_iff {name : String} : isPackageName name = true ↔ IsAsciiIdentifier name := by
  unfold isPackageName IsAsciiIdentifier
  cases name.toList with
  | nil => simp
  | cons first rest =>
    simp only [Bool.and_eq_true, List.all_eq_true, Bool.or_eq_true, isPackageStart_iff, isDigit_iff]
    constructor
    · exact fun hname => ⟨first, rest, rfl, hname⟩
    · rintro ⟨_, _, hlist, hname⟩
      cases hlist
      exact hname

namespace Settings

/-- The package that is named: on the command line, else in the environment unless it is empty
there, else in the settings. -/
inductive PackageNamed (settings : Settings) (environment : List (String × String))
    (flag : Option String) : Option String → Prop
  | flag {name : String} (hflag : flag = some name) :
    PackageNamed settings environment flag (some name)
  | environment {name : String} (hflag : flag = none)
    (hset : environment.lookup "GOPACKAGE" = some name) (hname : name ≠ "") :
    PackageNamed settings environment flag (some name)
  | settings (hflag : flag = none)
    (hset : ∀ name, environment.lookup "GOPACKAGE" = some name → name = "") :
    PackageNamed settings environment flag settings.package

/-- What comes of choosing the package. -/
inductive PackageChosen (settings : Settings) (environment : List (String × String))
    (flag : Option String) : Except PackageError String → Prop
  | missing (hname : settings.PackageNamed environment flag none) :
    PackageChosen settings environment flag (.error .missing)
  | invalid {name : String} (hname : settings.PackageNamed environment flag (some name))
    (hbad : ¬ IsAsciiIdentifier name) :
    PackageChosen settings environment flag (.error (.invalid name))
  | chosen {name : String} (hname : settings.PackageNamed environment flag (some name))
    (hgood : IsAsciiIdentifier name) : PackageChosen settings environment flag (.ok name)

variable {settings : Settings} {surroundings : Surroundings} {flag : Option String}

theorem choose_of_packageNamed {name? : Option String}
    (hname : settings.PackageNamed surroundings.environment flag name?) :
    (flag <|> surroundings.package? <|> settings.package) = name? := by
  unfold Surroundings.package? Surroundings.envValue?
  cases hname with
  | flag hflag => simp [hflag]
  | environment hflag hset hname => simp [hflag, hset, hname]
  | settings hflag hset =>
    have hnone : (surroundings.environment.lookup "GOPACKAGE").filter (!·.isEmpty) = none := by
      simpa using hset
    simp [hflag, hnone]

theorem choosePackage_of_packageChosen {result : Except PackageError String}
    (hpackage : settings.PackageChosen surroundings.environment flag result) :
    settings.choosePackage flag surroundings.package? = result := by
  unfold choosePackage
  cases hpackage with
  | missing hname => simp only [choose_of_packageNamed hname]
  | invalid hname hbad =>
    rw [choose_of_packageNamed hname]
    simp [isPackageName_iff, hbad]
  | chosen hname hgood =>
    rw [choose_of_packageNamed hname]
    simp [isPackageName_iff, hgood]

theorem exists_packageChosen (settings : Settings) (environment : List (String × String))
    (flag : Option String) : ∃ result, settings.PackageChosen environment flag result := by
  have hnamed : ∃ name?, settings.PackageNamed environment flag name? := by
    cases flag with
    | some name => exact ⟨_, .flag rfl⟩
    | none =>
      cases hset : environment.lookup "GOPACKAGE" with
      | none => exact ⟨_, .settings rfl (by simp [hset])⟩
      | some name =>
        by_cases hname : name = ""
        · exact ⟨_, .settings rfl (by simp [hset, hname])⟩
        · exact ⟨_, .environment rfl hset hname⟩
  obtain ⟨name?, hname⟩ := hnamed
  cases name? with
  | none => exact ⟨_, .missing hname⟩
  | some name =>
    by_cases hgood : IsAsciiIdentifier name
    · exact ⟨_, .chosen hname hgood⟩
    · exact ⟨_, .invalid hname hgood⟩

end Settings

end SchemaGen

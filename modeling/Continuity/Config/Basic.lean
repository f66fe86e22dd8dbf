import Continuity.Data.Schema
import Continuity.Files.Discovery
import Continuity.Issue.Basic
import Continuity.Report.Format

/-! # The configuration of a project

A configuration says where the project lies, which files belong to it, which validators run and how
the report is written. Sections that it does not know are kept for validators to read.
-/

namespace Continuity

open Schema (Names Reader Reading truth)

/-- Where a project lies and which files belong to it. -/
structure ProjectSettings where
  root : Path := ⟨.relative, []⟩
  files : Files.Selection := ⟨["**/*.md"], ["node_modules/**", ".git/**"]⟩
  deriving Repr, DecidableEq, Inhabited

/-- Whether and how a validator runs. -/
structure ValidatorSettings where
  enabled : Bool
  options : List (String × Value)
  deriving Inhabited

/-- How a report is written. -/
structure OutputSettings where
  format : ReportFormat := .text
  color : Bool := true
  deriving Repr, DecidableEq, Inhabited

/-- A configuration. -/
structure Config where
  project : ProjectSettings := {}
  failOn : FailOn := .error
  validators : List (String × ValidatorSettings) := []
  output : OutputSettings := {}
  /-- Sections with names of their own, for validators to read. -/
  sections : List (String × Value) := []
  deriving Inhabited

namespace ProjectSettings

/-- The names of the settings. -/
def names : Names := ⟨["root", "include", "exclude"], true⟩

/-- Reads the settings of a project. -/
def read : Reader ProjectSettings :=
  Schema.fields names .refused fun es =>
    let absent : ProjectSettings := {}
    (fun root included excluded => ⟨root, ⟨included, excluded⟩⟩) <$>
      names.fieldOr es "root" Schema.path absent.root
      <*> names.fieldOr es "include" (Schema.list Schema.text) absent.files.included
      <*> names.fieldOr es "exclude" (Schema.list Schema.text) absent.files.excluded

end ProjectSettings

namespace ValidatorSettings

/-- The names of the settings. -/
def names : Names := ⟨["enabled", "options"], true⟩

/-- Reads the settings of a validator. -/
def read : Reader ValidatorSettings :=
  Schema.fields names .refused fun es =>
    ValidatorSettings.mk <$> names.fieldOr es "enabled" truth true
      <*> names.fieldOr es "options" (Schema.mapping Schema.anything) []

end ValidatorSettings

namespace OutputSettings

/-- The names of the settings. -/
def names : Names := ⟨["format", "color"], true⟩

/-- Reads the settings of the output. -/
def read : Reader OutputSettings :=
  Schema.fields names .refused fun es =>
    OutputSettings.mk <$> names.fieldOr es "format" (Schema.choice ReportFormat.choices) .text
      <*> names.fieldOr es "color" truth true

end OutputSettings

namespace Config

/-- The name of the setting from which severity on a run fails. -/
def failOnNames : Names := ⟨["fail_on"], true⟩

/-- Reads the severity from which a run fails. -/
def readFailOn : Reader FailOn :=
  Schema.fields failOnNames .refused fun es =>
    failOnNames.fieldOr es "fail_on" (Schema.choice FailOn.choices) .error

/-- The names of the sections. -/
def names : Names := ⟨["project", "validation", "validators", "output"], true⟩

/-- Reads the known sections. -/
def readKnown (es : List (Value × Value)) : Reading Config :=
  (fun project failOn validators output => { project, failOn, validators, output }) <$>
    names.fieldOr es "project" ProjectSettings.read {}
    <*> names.fieldOr es "validation" readFailOn .error
    <*> names.fieldOr es "validators" (Schema.mapping ValidatorSettings.read) []
    <*> names.fieldOr es "output" OutputSettings.read {}

/-- Reads a configuration. -/
def read : Reader Config := fun v =>
  (fun (config, sections) => { config with sections }) <$> Schema.record names .kept readKnown v

/-- A validator runs unless it is turned off. -/
def isEnabled (c : Config) (validator : String) : Bool :=
  (c.validators.lookup validator).all (·.enabled)

/-- The entries of a section; one that is no mapping has none. -/
def sectionEntries (c : Config) (name : String) : List (Value × Value) :=
  match c.sections.lookup name with
  | some (.map entries) => entries
  | _ => []

/-- The options of a validator: those of its section, and over them those of its settings. -/
def optionsFor (c : Config) (validator : String) (sectionName : Option String) :
    List (Value × Value) :=
  let entries := sectionName.elim [] c.sectionEntries
  let options := (c.validators.lookup validator).elim [] (·.options)
  options.foldl (fun entries (name, v) => Value.insertEntry (.text name) v entries) entries

/-- The first section that is no mapping. -/
def badSection? (c : Config) : Option String :=
  (c.sections.find? fun (_, v) => !v.isMap).map (·.1)

end Config

end Continuity

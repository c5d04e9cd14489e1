import CloudReconciler.Settings.Parameters
import CloudReconciler.Settings.Help
import CloudReconciler.Manifest.Definition
import CloudReconciler.Manifest.Yaml

/-! # Command — what the program is asked to do

    A command line asks for the definitions of the kinds, for the version,
    for the description of the command line, or for a start with settings.
    `Command.report` says what the program then writes and how it ends;
    what is meant for a terminal is written plainly. -/

namespace CloudReconciler

/-- What the program is asked to do. -/
inductive Command where
  /-- Write the definitions of the kinds. -/
  | definitions
  | version
  | help
  /-- Reconcile objects under the settings. -/
  | start (settings : Settings)
  deriving DecidableEq, Repr

/-- What the program writes, and its status at the end. -/
structure Report where
  status : UInt8 := 0
  output : String := ""
  errors : String := ""
  deriving DecidableEq, Repr

namespace Command

/-- The name of the program. -/
def programName : String := "resource-operator"

/-- The version of the program. -/
def programVersion : String := "0.1.0"

/-- What the program is for. -/
def about : String :=
  "Kubernetes operator that drives cloud resources through a phase-based reconciliation lifecycle"

/-- The parameter that asks for the definitions. -/
def definitionsParameter : Parameter :=
  { name := "crd", kind := .switch, about := "Generate CRD manifests and exit" }

/-- The parameter that asks for the version. -/
def versionParameter : Parameter :=
  { name := "version", kind := .version, about := "Print version", short := some 'V' }

/-- The parameters of the program. -/
def parameters : List Parameter :=
  definitionsParameter :: Settings.parameters ++ [Settings.helpParameter, versionParameter]

/-- What a command line and an environment ask for. -/
def read (words : List String) (environment : List (String × String)) :
    Except ArgumentFault Command :=
  match CommandLine.read parameters words environment with
  | .error .help => .ok .help
  | .error .version => .ok .version
  | .error fault => .error fault
  | .ok values =>
      if values.find? definitionsParameter.name = some "true" then .ok .definitions
      else .ok (.start (Settings.ofValues values))

/-- The definitions of both kinds, one document after the other. -/
def definitionsText : String :=
  Yaml.write Definition.project.toJson ++ "---\n" ++ Yaml.write Definition.volume.toJson ++ "\n"

/-- The report of a fault. -/
def failed (f : Fault) : Report := { status := 1, errors := "Error: " ++ f.message ++ "\n" }

/-- What the program does on a command; without a cluster a start ends once settings are checked. -/
def report (environment : List (String × String)) : Command → Report
  | .definitions => { output := definitionsText }
  | .version => { output := programName ++ " " ++ programVersion ++ "\n" }
  | .help => { output := Text.plain (helpText programName about parameters environment) }
  | .start settings =>
      match settings.validate with
      | .error f => failed f
      | .ok () => failed (.cluster none "no cluster is connected")

/-- What the program does on a command line in an environment. -/
def run (words : List String) (environment : List (String × String)) : Report :=
  match read words environment with
  | .ok command => command.report environment
  | .error fault =>
      { status := 2
        errors := Text.plain (Text.emphasised "error:" ++ " " ++ fault.message ++
          "\n\nFor more information, try " ++ ArgumentFault.word "--help" ++ ".\n") }

end Command

end CloudReconciler

import CloudReconciler.Settings.Arguments

/-! # Help — the description of a command line

    Each parameter has a line of its own, and what it is for stands below,
    followed by the variable that stands in for it and by its value when
    none is given. -/

namespace CloudReconciler

namespace Parameter

/-- The line of the parameter. -/
def label (p : Parameter) : String :=
  (match p.short with
    | some letter => "  " ++ Text.emphasised ("-" ++ letter.toString) ++ ", "
    | none => "      ") ++
    Text.emphasised ("--" ++ p.name) ++ (if p.takesValue then " <" ++ p.valueName ++ ">" else "")

/-- The variable that stands in for the parameter, with its value unless that is a secret. -/
def variableNote (environment : List (String × String)) (p : Parameter) : String :=
  match p.variable_ with
  | some name =>
      let value := if p.isSecret then "" else "=" ++ (environment.lookup name).getD ""
      " [env: " ++ name ++ value ++ "]"
  | none => ""

/-- The value of the parameter when none is given. -/
def fallbackNote (p : Parameter) : String :=
  match p.fallback with
  | some value => " [default: " ++ value ++ "]"
  | none => ""

/-- What the parameter is for. -/
def note (environment : List (String × String)) (p : Parameter) : String :=
  p.about ++ p.variableNote environment ++ p.fallbackNote

/-- The lines about the parameter; the lines of a value stand below each other. -/
def helpLines (environment : List (String × String)) (p : Parameter) : List String :=
  p.label :: ((p.note environment).splitOn "\n").map ("          " ++ ·)

end Parameter

/-- The description of a program with parameters, for a terminal. -/
def helpText (name about : String) (ps : List Parameter) (environment : List (String × String)) :
    String :=
  "\n".intercalate
    ([about, "", Text.emphasised "Usage:" ++ " " ++ Text.emphasised name ++ " [OPTIONS]", "",
        Text.emphasised "Options:"] ++
      ps.flatMap (Parameter.helpLines environment)) ++ "\n"

end CloudReconciler

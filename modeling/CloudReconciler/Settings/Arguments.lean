import CloudReconciler.Store.Table
import CloudReconciler.Text.Terminal

/-! # Arguments — reading a command line

    A parameter is given as `--name value`, as `--name=value` or, for a
    switch, as `--name`.  Values are checked when the next parameter begins,
    so of two mistakes the earlier parameter's is reported, except that a
    word nobody asked for is reported at once.  Variables of the
    environment stand in for parameters that were not given. -/

namespace CloudReconciler

/-- What a parameter takes. -/
inductive ParameterKind where
  | text
  /-- A natural below `2 ^ 64`. -/
  | number
  /-- Nothing; it is on when it is given. -/
  | switch
  /-- Nothing; it asks for the description of the command line. -/
  | help
  /-- Nothing; it asks for the version. -/
  | version
  deriving DecidableEq, Repr

/-- A parameter of a command line. -/
structure Parameter where
  name : String
  kind : ParameterKind
  /-- What the parameter is for. -/
  about : String
  short : Option Char := none
  /-- The variable that stands in for it. -/
  variable_ : Option String := none
  /-- Its value is not shown. -/
  isSecret : Bool := false
  /-- The value when none is given. -/
  fallback : Option String := none
  deriving Repr

namespace Parameter

/-- The parameter takes a value. -/
def takesValue (p : Parameter) : Bool := p.kind == .text || p.kind == .number

/-- The name of the value. -/
def valueName (p : Parameter) : String :=
  p.name.map fun c => if c = '-' then '_' else c.toUpper

/-- The parameter as it is shown. -/
def shown (p : Parameter) : String :=
  "--" ++ p.name ++ (if p.takesValue then " <" ++ p.valueName ++ ">" else "")

end Parameter

/-- Why a command line was not read to its end. -/
inductive ArgumentFault where
  /-- Nobody asked for the word. -/
  | unknown (word : String)
  /-- The parameter's value is missing. -/
  | missing (p : Parameter)
  /-- The switch's variable is neither true nor false. -/
  | notAChoice (value : String) (p : Parameter)
  /-- The value is not a natural below `2 ^ 64`. -/
  | notANumber (value : String) (p : Parameter) (cause : String)
  /-- The parameter was given before. -/
  | repeated (p : Parameter)
  /-- The parameter takes no value. -/
  | surplus (value : String) (p : Parameter)
  /-- The description was asked for. -/
  | help
  /-- The version was asked for. -/
  | version
  deriving Repr

namespace ArgumentFault

/-- A word between quotes, for a terminal. -/
def word (s : String) : String := "'" ++ Text.emphasised s ++ "'"

/-- The wording of a fault, for a terminal. -/
def message : ArgumentFault → String
  | .unknown s => "unexpected argument " ++ word s ++ " found"
  | .missing p => "a value is required for " ++ word p.shown ++ " but none was supplied"
  | .notAChoice value p =>
      if value = "" then "a value is required for " ++ word p.shown ++ " but none was supplied"
      else "invalid value " ++ word value ++ " for " ++ word p.shown
  | .notANumber value p cause => "invalid value " ++ word value ++ " for " ++ word p.shown ++ ": " ++ cause
  | .repeated p => "the argument " ++ word p.shown ++ " cannot be used multiple times"
  | .surplus value p =>
      "unexpected value " ++ word value ++ " for " ++ word p.shown ++ " found; no more were expected"
  | .help => "help"
  | .version => "version"

end ArgumentFault

/-- The natural that digits after an optional plus sign denote, or why there is none; the first
    place where reading fails decides. -/
def readNumber (s : String) : Except String UInt64 :=
  match s.toList with
  | [] => .error "cannot parse integer from empty string"
  | '+' :: digits => if digits.isEmpty then .error invalid else go 0 digits
  | digits => go 0 digits
where
  invalid : String := "invalid digit found in string"
  go (value : Nat) : List Char → Except String UInt64
    | [] => .ok (UInt64.ofNat value)
    | c :: rest =>
        if c.isDigit then
          let next := value * 10 + (c.toNat - '0'.toNat)
          if next < UInt64.size then go next rest else .error "number too large to fit in target type"
        else .error invalid

/-- The values given by parameter name. -/
abbrev Values := Table String String

/-- What has been read of a command line. -/
structure CommandLine where
  values : Values := .empty
  /-- A parameter that was begun, and its value once it has come. -/
  pending : Option (Parameter × Option String) := none
  /-- Parameters are over. -/
  isOver : Bool := false

namespace CommandLine

/-- Keeps a value. -/
def keep (p : Parameter) (value : String) (values : Values) : Except ArgumentFault Values :=
  if (values.find? p.name).isSome then .error (.repeated p)
  else
    match p.kind with
    | .number =>
        match readNumber value with
        | .ok _ => .ok (values.insert p.name value)
        | .error cause => .error (.notANumber value p cause)
    | .switch =>
        if value = "true" ∨ value = "false" then .ok (values.insert p.name value)
        else .error (.notAChoice value p)
    | _ => .ok (values.insert p.name value)

/-- Finishes the parameter that was begun. -/
def settle (c : CommandLine) : Except ArgumentFault CommandLine :=
  match c.pending with
  | none => .ok c
  | some (p, none) => .error (.missing p)
  | some (p, some value) => do return { c with values := ← keep p value c.values, pending := none }

/-- A parameter without value. -/
def flag (c : CommandLine) (p : Parameter) : Except ArgumentFault CommandLine := do
  let c ← c.settle
  match p.kind with
  | .help => .error .help
  | .version => .error .version
  | _ => return { c with values := ← keep p "true" c.values }

/-- A parameter by its long name, possibly with a value after an equals sign. -/
def long (ps : List Parameter) (c : CommandLine) (word : List Char) :
    Except ArgumentFault CommandLine :=
  let name := String.ofList (word.takeWhile (· ≠ '='))
  match ps.find? (·.name == name), word.dropWhile (· ≠ '=') with
  | none, _ => .error (.unknown ("--" ++ name))
  | some p, [] =>
      if p.takesValue then do return { ← c.settle with pending := some (p, none) } else c.flag p
  | some p, _ :: value =>
      if p.takesValue then do
        let c ← c.settle
        return { c with values := ← keep p (String.ofList value) c.values }
      else .error (.surplus (String.ofList value) p)

/-- Reads one word. -/
def step (ps : List Parameter) (c : CommandLine) (word : String) :
    Except ArgumentFault CommandLine :=
  let stray : Except ArgumentFault CommandLine :=
    match c.pending with
    | some (p, none) => .ok { c with pending := some (p, some word) }
    | _ => .error (.unknown word)
  if c.isOver then .error (.unknown word)
  else
    match word.toList with
    | ['-', '-'] => .ok { c with isOver := true }
    | '-' :: '-' :: rest => c.long ps rest
    | '-' :: letter :: _ =>
        match ps.find? (·.short == some letter) with
        | some p => c.flag p
        | none => .error (.unknown ("-" ++ letter.toString))
    | _ => stray

/-- Lets a variable stand in for a parameter that was not given. -/
def standIn (environment : List (String × String)) (values : Values) (p : Parameter) :
    Except ArgumentFault Values :=
  match values.find? p.name, p.variable_.bind (environment.lookup ·) with
  | none, some value => keep p value values
  | _, _ => .ok values

/-- The values that a command line and an environment give. -/
def read (ps : List Parameter) (words : List String) (environment : List (String × String)) :
    Except ArgumentFault Values := do
  let c ← (← words.foldlM (step ps) {}).settle
  ps.foldlM (standIn environment) c.values

end CommandLine

end CloudReconciler

import Depository.Configuration.Template

/-!
# Command lines

A command line is read by a grammar: a command has options, and commands below it, of which one
has to follow if there are any. Options are flags or take a value, which stands after an equals
sign, in the same word as a short name, or in the next word. An option may be given once, and a
variable may stand in for it.
-/

namespace Depository.CommandLine

/-- Why a command line is not carried out. -/
inductive UsageFlaw where
  | helpAsked | versionAsked | helpNeeded | noCommand | unknownCommand | unknownArgument
  | noValue | badValue | repeated | surplusValue | missingOption
  deriving DecidableEq

/-- The name under which a flaw is reported. -/
def UsageFlaw.name : UsageFlaw → String
  | .helpAsked => "DisplayHelp"
  | .versionAsked => "DisplayVersion"
  | .helpNeeded => "DisplayHelpOnMissingArgumentOrSubcommand"
  | .noCommand => "MissingSubcommand"
  | .unknownCommand => "InvalidSubcommand"
  | .unknownArgument => "UnknownArgument"
  | .noValue => "InvalidValue"
  | .badValue => "ValueValidation"
  | .repeated => "ArgumentConflict"
  | .surplusValue => "TooManyValues"
  | .missingOption => "MissingRequiredArgument"

/-- What an option does. -/
inductive OptionKind where
  | flag
  | value (accepts : String → Bool)
  | help
  | version

/-- An option: its names, what it does, whether it has to be given, and the variable that may
stand in for it. -/
structure OptionRule where
  long : String
  short : Option Char
  kind : OptionKind
  isRequired : Bool
  variableName : Option String

/-- The options of a command and the commands below it. -/
inductive Grammar where
  | command (options : List OptionRule) (commands : List (String × Grammar))

namespace Grammar

def options : Grammar → List OptionRule
  | .command options _ => options

def commands : Grammar → List (String × Grammar)
  | .command _ commands => commands

def long? (g : Grammar) (name : String) : Option OptionRule :=
  g.options.find? fun o => o.long == name

def short? (g : Grammar) (c : Char) : Option OptionRule :=
  g.options.find? fun o => o.short == some c

/-- Commands with others below them can also show help about these. -/
def knows (g : Grammar) (name : String) : Bool :=
  !g.commands.isEmpty && (name == "help" || (g.commands.lookup name).isSome)

end Grammar

/-- What was read: the names of the commands, and the options with their values. -/
structure Reading where
  path : List String
  given : List (String × String)

def Reading.value? (r : Reading) (name : String) : Option String := r.given.lookup name

def Reading.has (r : Reading) (name : String) : Bool := (r.value? name).isSome

/-- The state of reading the words of one command. An option waits to be settled, first for its
value; after a double hyphen there are no more options. -/
structure Progress where
  given : List (String × String)
  waiting : Option (OptionRule × Option String)
  onlyOperands : Bool

namespace Progress

def start : Progress := ⟨[], none, false⟩

/-- Whether the next word may be the value of an option. -/
def needsValue (p : Progress) : Bool :=
  match p.waiting with
  | some (_, none) => true
  | _ => false

/-- Gives an option a value. -/
def give (o : OptionRule) (v : String) (p : Progress) : Except UsageFlaw Progress :=
  if (p.given.lookup o.long).isSome then .error .repeated
  else
    let given := { p with given := p.given ++ [(o.long, v)] }
    match o.kind with
    | .value accepts => if accepts v then .ok given else .error .badValue
    | _ => .ok given

/-- Settles the option that waits. -/
def settle (p : Progress) : Except UsageFlaw Progress :=
  match p.waiting with
  | none => .ok p
  | some (_, none) => .error .noValue
  | some (o, some v) => give o v { p with waiting := none }

/-- Takes an option, with the value in its own word if there is one. -/
def take (o : OptionRule) (attached : Option String) (p : Progress) :
    Except UsageFlaw Progress := do
  match o.kind, attached with
  | .value _, some v => give o v (← p.settle)
  | .value _, none => return { ← p.settle with waiting := some (o, none) }
  | _, some _ => .error .surplusValue
  | .flag, none => give o "" (← p.settle)
  | .help, none =>
    let _ ← p.settle
    .error .helpAsked
  | .version, none =>
    let _ ← p.settle
    .error .versionAsked

/-- Takes a word of short options. The first that takes a value has the rest of the word, less an
equals sign. -/
def takeShort (g : Grammar) : List Char → Progress → Except UsageFlaw Progress
  | [], p => .ok p
  | c :: rest, p => do
    match g.short? c with
    | none => .error .unknownArgument
    | some o =>
      match o.kind with
      | .value _ =>
        match rest with
        | [] => p.take o none
        | '=' :: v => p.take o (some (String.ofList v))
        | v => p.take o (some (String.ofList v))
      | _ => takeShort g rest (← p.take o none)

/-- Takes a long option after its two hyphens. -/
def takeLong (g : Grammar) (word : List Char) (p : Progress) : Except UsageFlaw Progress :=
  let (name, attached) := match Text.cutAt '=' word with
    | some (name, v) => (name, some (String.ofList v))
    | none => (word, none)
  match g.long? (String.ofList name) with
  | none => .error .unknownArgument
  | some o => p.take o attached

/-- The flaw of a word that is neither an option, nor a value, nor a command in its place. -/
def surplus (g : Grammar) (word : String) (p : Progress) : UsageFlaw :=
  if p.onlyOperands && g.knows word then .unknownArgument
  else if g.commands.isEmpty then .unknownArgument
  else .unknownCommand

/-- Takes a word that is not the name of a command. -/
def takeWord (g : Grammar) (word : String) (p : Progress) : Except UsageFlaw Progress :=
  if p.onlyOperands then .error (p.surplus g word)
  else match word.toList with
    | ['-', '-'] => .ok { p with onlyOperands := true }
    | '-' :: '-' :: rest => p.takeLong g rest
    | '-' :: c :: rest => p.takeShort g (c :: rest)
    | _ =>
      match p.waiting with
      | some (o, none) => .ok { p with waiting := some (o, some word) }
      | _ => .error (p.surplus g word)

/-- The options that variables stand in for. -/
def fromVariables (g : Grammar) (vars : Variables) (p : Progress) : Progress :=
  { p with given := p.given ++ g.options.filterMap fun o =>
      if (p.given.lookup o.long).isSome then none
      else (o.variableName.bind vars).map fun v => (o.long, v) }

/-- Ends a command, below which another one may have been read. -/
def finish (g : Grammar) (vars : Variables) (below : Option (String × Reading)) (p : Progress) :
    Except UsageFlaw Reading := do
  let p := (← p.settle).fromVariables g vars
  match below with
  | some (name, r) => return ⟨name :: r.path, p.given ++ r.given⟩
  | none =>
    if !g.commands.isEmpty then .error (if p.given.isEmpty then .helpNeeded else .noCommand)
    else if g.options.any fun o => o.isRequired && (p.given.lookup o.long).isNone then
      .error .missingOption
    else return ⟨[], p.given⟩

end Progress

/-- What asking for help about a command ends in. -/
def helpFlaw : Grammar → List String → UsageFlaw
  | _, [] => .helpAsked
  | g, name :: rest =>
    match g.commands.lookup name with
    | some sub => helpFlaw sub rest
    | none =>
      if g.knows name then helpFlaw (.command [] []) rest else .unknownCommand

/-- Reads the words of a command. -/
def read (vars : Variables) : Grammar → Progress → List String → Except UsageFlaw Reading
  | g, p, [] => p.finish g vars none
  | g, p, word :: rest => do
    if !p.onlyOperands && !p.needsValue && g.knows word then
      match g.commands.lookup word with
      | some sub =>
        let r ← read vars sub .start rest
        p.finish g vars (some (word, r))
      | none => .error (helpFlaw g rest)
    else read vars g (← p.takeWord g word) rest

/-- Reads a whole command line. -/
def Grammar.read (g : Grammar) (vars : Variables) (words : List String) :
    Except UsageFlaw Reading :=
  CommandLine.read vars g .start words

end Depository.CommandLine

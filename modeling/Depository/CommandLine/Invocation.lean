import Depository.CommandLine.Grammar
import Depository.Lock.Basic

/-!
# Invocations

The commands of the program with what they are given, the grammar of its command line, and how an
invocation is read by it.
-/

namespace Depository.CommandLine

/-- A command with what it is given. -/
inductive Command where
  | validate
  | writeSample (output : String) (withExamples force : Bool)
  | exportAll (force reindex : Bool)
  | listLocks (filter : LockFilter)
  | releaseLocks (dataset : DatasetId) (reason : LockReason)
  | assignFileIdentifiers (dataset : DatasetId)

/-- A command with the file of the configuration and the level of the log. -/
structure Invocation where
  configPath : String
  logLevel : Option String
  command : Command

def defaultPath : String := "cairn.toml"

namespace Invocation

private def help : OptionRule := ⟨"help", some 'h', .help, false, none⟩

private def flag (name : String) : OptionRule := ⟨name, none, .flag, false, none⟩

private def value (name : String) (accepts : String → Bool) (isRequired : Bool) : OptionRule :=
  ⟨name, none, .value accepts, isRequired, none⟩

private def isId (s : String) : Bool := (Uuid.ofText? (Text.trim s)).isSome

private def isReason (s : String) : Bool := (LockReason.ofText? s).isSome

private def anyText (_ : String) : Bool := true

/-- The options of the program itself. -/
def programOptions : List OptionRule :=
  [⟨"config", some 'c', .value anyText, false, some "CAIRN_CONFIG"⟩,
   ⟨"log-level", some 'l', .value anyText, false, some "CAIRN_LOG_LEVEL"⟩,
   help, ⟨"version", some 'V', .version, false, none⟩]

def initOptions : List OptionRule :=
  [⟨"output", some 'o', .value anyText, false, none⟩, flag "with-examples", flag "force", help]

def lockCommands : List (String × Grammar) :=
  [("list", .command
      [value "dataset" isId false, value "reason" isReason false, value "user" isId false, help]
      []),
   ("release", .command [value "dataset" isId true, value "reason" isReason true, help] [])]

/-- The grammar of the command line. -/
def grammar : Grammar :=
  .command programOptions
    [("validate-config", .command [help] []),
     ("init", .command initOptions []),
     ("export", .command [flag "force", flag "reindex", help] []),
     ("locks", .command [help] lockCommands),
     ("register-file-pids", .command [value "dataset" isId true, help] [])]

private def id? {kind : EntityKind} (r : Reading) (name : String) : Option (EntityId kind) :=
  (r.value? name).bind EntityId.ofText?

private def reason? (r : Reading) : Option LockReason :=
  (r.value? "reason").bind LockReason.ofText?

/-- The command that was read. -/
def command? (r : Reading) : Option Command :=
  match r.path with
  | ["validate-config"] => some .validate
  | ["init"] =>
    some (.writeSample ((r.value? "output").getD defaultPath) (r.has "with-examples")
      (r.has "force"))
  | ["export"] => some (.exportAll (r.has "force") (r.has "reindex"))
  | ["locks", "list"] => some (.listLocks ⟨id? r "dataset", reason? r, id? r "user"⟩)
  | ["locks", "release"] => do return .releaseLocks (← id? r "dataset") (← reason? r)
  | ["register-file-pids"] => (id? r "dataset").map .assignFileIdentifiers
  | _ => none

/-- Reads an invocation. Every reading that the grammar allows is a command. -/
def ofWords (vars : Variables) (words : List String) : Except UsageFlaw Invocation := do
  let r ← grammar.read vars words
  match command? r with
  | some command =>
    return ⟨(r.value? "config").getD defaultPath, r.value? "log-level", command⟩
  | none => .error .missingOption

end Invocation

end Depository.CommandLine

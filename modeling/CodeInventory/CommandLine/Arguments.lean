namespace CodeInventory.CommandLine

inductive UsageError where
  | displayHelp
  | displayVersion
  | missingSubcommand
  | invalidSubcommand
  | unknownArgument
  | invalidValue
  | argumentConflict
  | tooManyValues
  deriving DecidableEq

structure Request where
  path : String
  output : Option String
  config : Option String
  format : Option String
  title : Option String
  allowMissingRoots : Bool
  verbose : Bool
  deriving DecidableEq

inductive Command where
  | generate (request : Request)
  | version
  deriving DecidableEq

inductive Slot where
  | path
  | output
  | config
  | format
  | title
  deriving DecidableEq

inductive Flag where
  | allowMissingRoots
  | verbose
  deriving DecidableEq

inductive Meaning where
  | slot (slot : Slot)
  | flag (flag : Flag)
  | help

def longMeaning? : String → Option Meaning
  | "output" => some (.slot .output)
  | "config" => some (.slot .config)
  | "format" => some (.slot .format)
  | "title" => some (.slot .title)
  | "allow-missing-roots" => some (.flag .allowMissingRoots)
  | "verbose" => some (.flag .verbose)
  | "help" => some .help
  | _ => none

def shortMeaning? : Char → Option Meaning
  | 'o' => some (.slot .output)
  | 'c' => some (.slot .config)
  | 'v' => some (.flag .verbose)
  | 'h' => some .help
  | _ => none

/-- A path, a settings file or a report has a name; a format or a title may be empty. -/
def Slot.allowsEmpty : Slot → Bool
  | .format | .title => true
  | _ => false

/-- What was given so far. The value of the last option or positional is pending until the next one,
because only then it is known to be complete. -/
structure State where
  values : List (Slot × String) := []
  flags : List Flag := []
  pending : Option (Slot × Option String) := none
  positionalGiven : Bool := false

namespace State

def store (state : State) (slot : Slot) (value : String) : Except UsageError State :=
  if (state.values.lookup slot).isSome then .error .argumentConflict
  else if value.isEmpty && !slot.allowsEmpty then .error .invalidValue
  else .ok { state with values := (slot, value) :: state.values }

def resolve (state : State) : Except UsageError State :=
  match state.pending with
  | none => .ok state
  | some (_, none) => .error .invalidValue
  | some (slot, some value) => { state with pending := none }.store slot value

def raise (state : State) (flag : Flag) : Except UsageError State :=
  if flag ∈ state.flags then .error .argumentConflict
  else .ok { state with flags := flag :: state.flags }

def option (state : State) (value : Option String) : Meaning → Except UsageError State
  | .slot slot => do
    let state ← state.resolve
    match value with
    | some value => state.store slot value
    | none => return { state with pending := some (slot, none) }
  | .flag flag => do (← state.resolve).raise flag
  | .help => do
    let _ ← state.resolve
    throw .displayHelp

def long (state : State) (text : List Char) : Except UsageError State :=
  let name := String.ofList (text.takeWhile (· ≠ '='))
  let value := (text.dropWhile (· ≠ '=')).tail?.map String.ofList
  match longMeaning? name with
  | none => .error .unknownArgument
  | some (.slot slot) => state.option value (.slot slot)
  | some meaning => if value.isSome then .error .tooManyValues else state.option none meaning

/-- Letters after one dash; an option that takes a value takes the rest of them, if there is one. -/
def short (state : State) : List Char → Except UsageError State
  | [] => .ok state
  | letter :: rest =>
    match shortMeaning? letter with
    | none => .error .unknownArgument
    | some (.slot slot) =>
      let value := match rest with
        | [] => none
        | '=' :: value => some (String.ofList value)
        | value => some (String.ofList value)
      state.option value (.slot slot)
    | some meaning => do short (← state.option none meaning) rest

def positional (state : State) (value : String) : Except UsageError State :=
  if state.positionalGiven then .error .unknownArgument
  else state.resolve.map fun state =>
    { state with pending := some (.path, some value), positionalGiven := true }

def plain (state : State) (value : String) : Except UsageError State :=
  match state.pending with
  | some (slot, none) => .ok { state with pending := some (slot, some value) }
  | _ => state.positional value

/-- Arguments before `--`. An option's value stands in the same argument, after `=` or right after
the letter, or is the next argument if that does not look like an option. An option or flag that is
given again is a conflict. -/
def argument (state : State) (argument : String) : Except UsageError State :=
  match argument.toList with
  | '-' :: '-' :: text => state.long text
  | ['-'] => state.plain argument
  | '-' :: letters => state.short letters
  | _ => state.plain argument

def request (state : State) : Request where
  path := (state.values.lookup .path).getD "."
  output := state.values.lookup .output
  config := state.values.lookup .config
  format := state.values.lookup .format
  title := state.values.lookup .title
  allowMissingRoots := decide (.allowMissingRoots ∈ state.flags)
  verbose := decide (.verbose ∈ state.flags)

end State

def parseRequest (state : State) : List String → Except UsageError State
  | [] => state.resolve
  | "--" :: rest => do (← rest.foldlM State.positional state).resolve
  | argument :: rest => do parseRequest (← state.argument argument) rest

def subcommands : List String := ["generate", "version", "help"]

/-- Options that end a run at once: what an argument that looks like an option asks for. -/
def asksFor? (options : List (String × Char × UsageError)) (argument : String) :
    Option UsageError :=
  match argument.toList with
  | '-' :: '-' :: text =>
    match options.find? fun option => option.1.toList = text.takeWhile (· ≠ '=') with
    | some (_, _, answer) => some (if text.contains '=' then .tooManyValues else answer)
    | none => some .unknownArgument
  | '-' :: letter :: _ =>
    match options.find? fun option => option.2.1 = letter with
    | some (_, _, answer) => some answer
    | none => some .unknownArgument
  | _ => none

def helpOption : String × Char × UsageError := ("help", 'h', .displayHelp)

def versionOption : String × Char × UsageError := ("version", 'V', .displayVersion)

def parseVersion : List String → Except UsageError Command
  | [] => .ok .version
  | ["--"] => .ok .version
  | argument :: _ => .error ((asksFor? [helpOption] argument).getD .unknownArgument)

def parseHelp : List String → UsageError
  | [] => .displayHelp
  | [command] => if command ∈ subcommands then .displayHelp else .invalidSubcommand
  | _ => .invalidSubcommand

def parse : List String → Except UsageError Command
  | [] => .error .missingSubcommand
  | ["--"] => .error .missingSubcommand
  | "--" :: command :: _ =>
    .error (if command ∈ subcommands then .unknownArgument else .invalidSubcommand)
  | "generate" :: rest => (parseRequest {} rest).map fun state => .generate state.request
  | "version" :: rest => parseVersion rest
  | "help" :: rest => .error (parseHelp rest)
  | argument :: _ =>
    .error ((asksFor? [helpOption, versionOption] argument).getD .invalidSubcommand)

end CodeInventory.CommandLine

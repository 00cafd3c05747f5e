import DependencyEvidence.Path

/-!
# Arguments

The arguments of the command line. `Arguments.read` takes one argument after another; it knows the options that were
given so far and the one that still lacks its value. `Request.ofArguments` reads them all.
-/

namespace DependencyEvidence.CommandLine

/-! ## Options -/

/-- The options with a value. -/
inductive Valued where
  | config
  | hints
  | output
deriving DecidableEq, Repr

/-- The options without a value. -/
inductive Switch where
  | parallel
  | verbose
  | quiet
deriving DecidableEq, Repr

/-- The word of an option. -/
def Valued.word : Valued → String
  | .config => "config"
  | .hints => "hints"
  | .output => "output"

/-- The word of an option. -/
def Switch.word : Switch → String
  | .parallel => "parallel"
  | .verbose => "verbose"
  | .quiet => "quiet"

/-- What is asked for in place of a run. -/
inductive Notice where
  | version
  | help
deriving DecidableEq, Repr

/-- What an option's word or letter says. -/
inductive OptionName where
  | valued (option : Valued)
  | switch (option : Switch)
  | notice (notice : Notice)
deriving DecidableEq, Repr

namespace OptionName

/-- The option with a word. -/
def ofWord? (word : String) : Option OptionName :=
  match word with
  | "config" => some (.valued .config)
  | "hints" => some (.valued .hints)
  | "output" => some (.valued .output)
  | "parallel" => some (.switch .parallel)
  | "verbose" => some (.switch .verbose)
  | "quiet" => some (.switch .quiet)
  | "version" => some (.notice .version)
  | "help" => some (.notice .help)
  | _ => none

/-- The option with a letter. -/
def ofLetter? (letter : Char) : Option OptionName :=
  match letter with
  | 'o' => some (.valued .output)
  | 'v' => some (.switch .verbose)
  | 'q' => some (.switch .quiet)
  | 'V' => some (.notice .version)
  | 'h' => some (.notice .help)
  | _ => none

end OptionName

/-! ## Errors -/

/-- Why arguments are refused. -/
inductive UsageError where
  | unexpected (argument : String)
  | repeated (word : String)
  | missingValue (word : String)
  | needlessValue (word : String)
  | conflict (word other : String)
deriving DecidableEq, Repr

/-- What is said about the error. -/
def UsageError.message : UsageError → String
  | .unexpected argument => "unexpected argument '" ++ argument ++ "' found"
  | .repeated word => "the argument '" ++ word ++ "' cannot be used multiple times"
  | .missingValue word => "a value is required for '" ++ word ++ "' but none was supplied"
  | .needlessValue word => "unexpected value for '" ++ word ++ "' found; no more were expected"
  | .conflict word other => "the argument '" ++ word ++ "' cannot be used with '" ++ other ++ "'"

/-! ## Reading -/

/-- The arguments of a run. -/
structure Arguments where
  input : Option String := none
  config : Option String := none
  hints : Option String := none
  output : Option String := none
  parallel : Bool := false
  verbose : Bool := false
  quiet : Bool := false
deriving DecidableEq, Repr, Inhabited

/-- What the arguments ask for. -/
inductive Request where
  | run (arguments : Arguments)
  | notice (notice : Notice)
deriving DecidableEq, Repr

/-- What an argument leaves behind: the arguments so far with the option that still lacks its value, or a request that
ends the reading. -/
inductive Outlook where
  | more (arguments : Arguments) (lacking : Option Valued)
  | settled (notice : Notice)

namespace Arguments

/-- Puts the value of something that may be given once. Values that are paths must not be empty. -/
def fill (word : String) (mayBeEmpty : Bool) (old : Option String) (value : String) :
    Except UsageError (Option String) :=
  if value = "" && !mayBeEmpty then .error (.missingValue word)
  else if old.isSome then .error (.repeated word)
  else .ok (some value)

/-- Gives an option its value. -/
def put (a : Arguments) (o : Valued) (value : String) : Except UsageError Arguments :=
  match o with
  | .config => do return { a with config := ← fill o.word false a.config value }
  | .hints => do return { a with hints := ← fill o.word true a.hints value }
  | .output => do return { a with output := ← fill o.word false a.output value }

/-- Turns a switch on. -/
def turnOn (a : Arguments) (s : Switch) : Except UsageError Arguments :=
  match s with
  | .parallel => if a.parallel then .error (.repeated s.word) else .ok { a with parallel := true }
  | .verbose => if a.verbose then .error (.repeated s.word) else .ok { a with verbose := true }
  | .quiet => if a.quiet then .error (.repeated s.word) else .ok { a with quiet := true }

/-- Takes the name of the input. -/
def takeInput (a : Arguments) (argument : String) : Except UsageError Arguments :=
  if a.input.isSome then .error (.unexpected argument)
  else do return { a with input := ← fill "INPUT" false none argument }

/-- Takes an option by its word, with the value behind an equals sign if there is one. -/
def takeWord (a : Arguments) (argument : String) (word : String) (value? : Option String) : Except UsageError Outlook :=
  match OptionName.ofWord? word, value? with
  | none, _ => .error (.unexpected argument)
  | some (.valued o), none => .ok (.more a (some o))
  | some (.valued o), some value => do return .more (← a.put o value) none
  | some (.switch s), none => do return .more (← a.turnOn s) none
  | some (.notice n), none => .ok (.settled n)
  | some _, some _ => .error (.needlessValue word)

/-- Takes options by their letters. What follows the letter of an option with a value is the value. -/
def takeLetters (a : Arguments) (argument : String) : List Char → Except UsageError Outlook
  | [] => .ok (.more a none)
  | letter :: rest =>
    match OptionName.ofLetter? letter with
    | none => .error (.unexpected argument)
    | some (.notice n) => .ok (.settled n)
    | some (.switch s) => do (← a.turnOn s).takeLetters argument rest
    | some (.valued o) =>
      match rest with
      | [] => .ok (.more a (some o))
      | '=' :: value => do return .more (← a.put o (String.ofList value)) none
      | value => do return .more (← a.put o (String.ofList value)) none

/-- Takes an argument that starts with a hyphen, or the name of the input. -/
def take (a : Arguments) (argument : String) : Except UsageError Outlook :=
  match argument.toList with
  | '-' :: '-' :: rest =>
    let word := String.ofList (rest.takeWhile (· ≠ '='))
    match rest.dropWhile (· ≠ '=') with
    | _ :: value => a.takeWord argument word (some (String.ofList value))
    | [] => a.takeWord argument word none
  | '-' :: letter :: rest => a.takeLetters argument (letter :: rest)
  | _ => do return .more (← a.takeInput argument) none

/-- Whether an argument cannot be the value of an option before it. -/
def isOptionLike (argument : String) : Bool := argument.toList.head? = some '-' && argument ≠ "-"

/-- Takes the arguments behind two hyphens, none of which is an option. -/
def readPlain (a : Arguments) : List String → Except UsageError Arguments
  | [] => .ok a
  | argument :: rest => do (← a.takeInput argument).readPlain rest

/-- The request at the end of the arguments. -/
def settle (a : Arguments) : Except UsageError Request :=
  if a.quiet && a.verbose then .error (.conflict Switch.quiet.word Switch.verbose.word) else .ok (.run a)

/-- Takes all arguments. -/
def read (a : Arguments) (lacking : Option Valued) : List String → Except UsageError Request
  | [] =>
    match lacking with
    | some o => .error (.missingValue o.word)
    | none => a.settle
  | argument :: rest =>
    match lacking with
    | some o => if isOptionLike argument then .error (.missingValue o.word) else do (← a.put o argument).read none rest
    | none =>
      if argument = "--" then do (← a.readPlain rest).settle
      else do
        match ← a.take argument with
        | .settled n => return .notice n
        | .more a lacking => a.read lacking rest

end Arguments

/-- Reads the arguments of the command line. -/
def Request.ofArguments (arguments : List String) : Except UsageError Request := ({} : Arguments).read none arguments

end DependencyEvidence.CommandLine

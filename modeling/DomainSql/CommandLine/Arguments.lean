import DomainSql.CommandLine

/-!
# Arguments

The words of a command line: options of the program, the name of a command, and
options of the command. An option takes effect where it stands, so a call for the
version or for help is answered before what follows it is looked at. The context
folder is the value of its option, or of the environment's variable, or the current
folder.
-/
namespace DomainSql.CommandLine

/-- The name of the program. -/
def programName : String := "doytoql"

/-- The version of the program. -/
def programVersion : String := "0.1.0"

/-- The variable of the environment that names the context folder. -/
def contextVariable : String := "DOYTOQL_CONTEXT_PATH"

/-- The context folder that is used if none is named. -/
def defaultContext : String := "."

/-- The parts of the program that help is about. -/
inductive Topic where
  | program
  | initialize_
  | compile
  | help
deriving DecidableEq, Repr

/-- What a command line asks for. -/
inductive Invocation where
  | version
  | help (topic : Topic)
  | run (context : String) (command : Command)
deriving DecidableEq, Repr

/-- A word that can only be an option. -/
def looksLikeOption (word : String) : Bool :=
  match word.toList with
  | '-' :: _ :: _ => true
  | _ => false

/-- The value of an option that is its own word: it may not be missing, empty, or
look like an option. -/
def nextValue? : List String → Option (String × List String)
  | [] => none
  | word :: rest => if word.isEmpty || looksLikeOption word then none else some (word, rest)

/-- The value behind an option and an equals sign in one word. -/
def attachedValue? (option word : String) : Option String :=
  let head := option.toList ++ ['=']
  if head.isPrefixOf word.toList then some (String.ofList (word.toList.drop head.length))
  else none

/-- A word that asks for help where it stands. -/
def asksForHelp (word : String) : Bool :=
  word = "--help" ||
    match word.toList with
    | '-' :: 'h' :: _ => true
    | _ => false

/-- A word that asks for the version where it stands. -/
def asksForVersion (word : String) : Bool :=
  word = "--version" ||
    match word.toList with
    | '-' :: 'V' :: _ => true
    | _ => false

/-- What the words of a command ask for: help on a topic, or the command. -/
abbrev Asked := Topic ⊕ Command

/-- The words behind the name of the command that initializes. -/
def initializeArguments : List String → Option Asked
  | [] => some (.inr .initialize_)
  | ["--"] => some (.inr .initialize_)
  | word :: _ => if asksForHelp word then some (.inl .initialize_) else none

/-- The words behind the name of the command that compiles. An option that is
given twice is refused. -/
def compileArguments (request : Option String) (pretty : Bool) : Nat → List String → Option Asked
  | _, [] => some (.inr (.compile request pretty))
  | 0, _ => none
  | steps + 1, word :: rest =>
    if asksForHelp word then some (.inl .compile)
    else if word = "--" then
      if rest.isEmpty then some (.inr (.compile request pretty)) else none
    else if word = "--pretty" then
      if pretty then none else compileArguments request true steps rest
    else if word = "--request" then
      match request, nextValue? rest with
      | none, some (value, rest) => compileArguments (some value) pretty steps rest
      | _, _ => none
    else
      match request, attachedValue? "--request" word with
      | none, some value =>
        if value.isEmpty then none else compileArguments (some value) pretty steps rest
      | _, _ => none

/-- The topic of a command's name. -/
def topicOf? : String → Option Topic
  | "initialize" => some .initialize_
  | "compile" => some .compile
  | "help" => some .help
  | _ => none

/-- The words behind the name of the command that helps. -/
def helpArguments : List String → Option Topic
  | [] => some .program
  | [name] => topicOf? name
  | _ => none

/-- The words of a command, its name first. -/
def commandArguments (name : String) (rest : List String) : Option Asked :=
  match topicOf? name with
  | some .initialize_ => initializeArguments rest
  | some .compile => compileArguments none false rest.length rest
  | some .help => (helpArguments rest).map .inl
  | _ => none

/-- The context folder of the option or else of the environment; it may not be
empty. -/
def contextOf? (option environment : Option String) : Option String :=
  match option, environment with
  | some folder, _ => some folder
  | none, some folder => if folder.isEmpty then none else some folder
  | none, none => some defaultContext

/-- What the words of a command line ask for; nothing if they make no sense. -/
def arguments (environment context : Option String) : Nat → List String → Option Invocation
  | 0, _ => none
  | _, [] => none
  | steps + 1, word :: rest =>
    if asksForHelp word then some (.help .program)
    else if asksForVersion word then some .version
    else if word = "--context-path" then
      match context, nextValue? rest with
      | none, some (folder, rest) => arguments environment (some folder) steps rest
      | _, _ => none
    else
      match attachedValue? "--context-path" word with
      | some folder =>
        if folder.isEmpty || context.isSome then none
        else arguments environment (some folder) steps rest
      | none =>
        match commandArguments word rest with
        | none => none
        | some (.inl topic) => some (.help topic)
        | some (.inr command) => do
          let folder ← contextOf? context environment
          return .run folder command

/-- What a command line asks for; nothing if it is not used as it should be. -/
def Invocation.parse (words : List String) (environment : Option String) : Option Invocation :=
  arguments environment none (words.length + 1) words

/-- The line that the version is printed as. -/
def versionText : String := programName ++ " " ++ programVersion ++ "\n"

/-- What the program does. -/
def programSummary : String := "Compile DoytoQL requests into parameterized SQL"

/-- What the command that initializes does. -/
def initializeSummary : String :=
  "Write a default configuration and its JSON schema into the context directory"

/-- What the command that compiles does. -/
def compileSummary : String :=
  "Compile a request into SQL and print each statement with its arguments"

/-- What the command that helps does. -/
def helpSummary : String := "Print this message or the help of the given subcommand(s)"

/-- The usage of a topic. -/
def usage : Topic → String
  | .program => "Usage: " ++ programName ++ " [OPTIONS] <COMMAND>\n"
  | .initialize_ => "Usage: " ++ programName ++ " initialize\n"
  | .compile => "Usage: " ++ programName ++ " compile [OPTIONS]\n"
  | .help => "Usage: " ++ programName ++ " help [COMMAND]\n"

/-- The help on a topic. -/
def helpText (environment : Option String) : Topic → String
  | .program =>
    programSummary ++ "\n\n" ++ usage .program ++ "\nCommands:\n" ++
      "  initialize  " ++ initializeSummary ++ "\n" ++
      "  compile     " ++ compileSummary ++ "\n" ++
      "  help        " ++ helpSummary ++ "\n\nOptions:\n" ++
      "      --context-path <DIR>  The directory holding " ++ Configuration.fileName ++
      " [env: " ++ contextVariable ++ "=" ++ environment.getD "" ++ "] [default: " ++
      defaultContext ++ "]\n" ++
      "  -h, --help                Print help\n" ++
      "  -V, --version             Print version\n"
  | .initialize_ =>
    initializeSummary ++ "\n\n" ++ usage .initialize_ ++ "\nOptions:\n  -h, --help  Print help\n"
  | .compile =>
    compileSummary ++ "\n\n" ++ usage .compile ++ "\nOptions:\n" ++
      "      --request <FILE>  Read the request from this file instead of standard input\n" ++
      "      --pretty          Format the SQL over several lines\n" ++
      "  -h, --help            Print help\n"
  | .help =>
    helpSummary ++ "\n\n" ++ usage .help ++
      "\nArguments:\n  [COMMAND]...  Print help for the subcommand(s)\n"

/-- The end of the program: its exit code and what it printed. -/
structure Ending where
  code : Nat
  output : String
  errors : String
deriving DecidableEq, Repr

/-- The program: what it prints, and its exit code. A line that is not used as it
should be ends with code two, a command that fails with code one. -/
def program {m : Type → Type} [Monad m] (storage : Storage m)
    (input : m (Except FileError String)) (words : List String) (environment : Option String) :
    m Ending := do
  match Invocation.parse words environment with
  | none => return ⟨2, "", usage .program⟩
  | some .version => return ⟨0, versionText, ""⟩
  | some (.help topic) => return ⟨0, helpText environment topic, ""⟩
  | some (.run context command) =>
    let (outcome, _) ← (run storage input context command).run.run []
    match outcome with
    | .ok output => return ⟨0, output, ""⟩
    | .error e => return ⟨1, "", e.message ++ "\n"⟩

end DomainSql.CommandLine

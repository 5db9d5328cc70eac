import Introspection.CommandLine.Grammar

/-!
# Commands

The commands of the program, and what the words of a command line ask for.

* `Command`, `Invocation`: a command with its arguments, and the options beside it;
* `Command.documents`: the files that a command reads;
* `mainGrammar`, `CommandName.grammar`: the words that the program and its commands take;
* `Invocation.read`: the invocation that words stand for, or what is said instead.
-/

namespace Introspection.CommandLine

/-! ## Grammars -/

def helpOption : OptionRule := ⟨["-h", "--help"], .help⟩

def verboseOption : OptionRule := ⟨["-v", "--verbose"], .flag⟩

def configOption : OptionRule := ⟨["--config"], .value⟩

def programName : String := "gir-schema"

def mainUsage : String :=
  "usage: gir-schema [-h] [-v] [--config CONFIG]\n" ++
  "                  \x7bsummary,emit,lookup,ancestry\x7d ...\n"

def mainHelp : String :=
  mainUsage ++
  "\nGObject-Introspection document inspection CLI\n" ++
  "\npositional arguments:\n" ++
  "  \x7bsummary,emit,lookup,ancestry\x7d\n" ++
  "                        Available commands\n" ++
  "    summary             Build documents (dependencies first) and print their\n" ++
  "                        summaries\n" ++
  "    emit                Render a document as Python stub text\n" ++
  "    lookup              Show one entity of a document\n" ++
  "    ancestry            Resolve a class's parents across documents\n" ++
  "\noptions:\n" ++
  "  -h, --help            show this help message and exit\n" ++
  "  -v, --verbose         Enable verbose logging\n" ++
  "  --config CONFIG       Builder options as key=value pairs, e.g.\n" ++
  "                        'blacklist=Foo|Bar'\n"

def mainGrammar : Grammar where
  program := programName
  usage := mainUsage
  help := mainHelp
  options := [helpOption, verboseOption, configOption]
  positionals := [⟨"command", .rest⟩]

/-- The names of the commands. -/
inductive CommandName where
  | summary
  | emit
  | lookup
  | ancestry
deriving DecidableEq, Repr

namespace CommandName

/-- The names of the commands, as they are written. -/
def all : List (String × CommandName) :=
  [("summary", .summary), ("emit", .emit), ("lookup", .lookup), ("ancestry", .ancestry)]

/-- The name of a command, as it is written. -/
def text : CommandName → String
  | .summary => "summary"
  | .emit => "emit"
  | .lookup => "lookup"
  | .ancestry => "ancestry"

def positionals : CommandName → List Positional
  | .summary => [⟨"files", .many⟩]
  | .emit => [⟨"file", .one⟩]
  | .lookup => [⟨"file", .one⟩, ⟨"name", .one⟩]
  | .ancestry => [⟨"name", .one⟩, ⟨"files", .many⟩]

/-- The positional arguments of a command in its usage. -/
def arguments : CommandName → String
  | .summary => "files [files ...]"
  | .emit => "file"
  | .lookup => "file name"
  | .ancestry => "name files [files ...]"

/-- What the positional arguments of a command are for. -/
def argumentHelp : CommandName → String
  | .summary => "  files       GIR documents\n"
  | .emit => "  file        GIR document\n"
  | .lookup => "  file        GIR document\n  name        Entity name without namespace\n"
  | .ancestry => "  name        Class name\n  files       GIR documents, dependencies first\n"

def usage (c : CommandName) : String :=
  "usage: " ++ programName ++ " " ++ c.text ++ " [-h] " ++ c.arguments ++ "\n"

def grammar (c : CommandName) : Grammar where
  program := programName ++ " " ++ c.text
  usage := c.usage
  help := c.usage ++ "\npositional arguments:\n" ++ c.argumentHelp ++
    "\noptions:\n  -h, --help  show this help message and exit\n"
  options := [helpOption]
  positionals := c.positionals

end CommandName

/-! ## Invocations -/

/-- A command with its arguments. -/
inductive Command where
  | summary (files : List String)
  | emit (file : String)
  | lookup (file name : String)
  | ancestry (name : String) (files : List String)
deriving DecidableEq, Repr

def Command.documents : Command → List String
  | .summary files => files
  | .emit file => [file]
  | .lookup file _ => [file]
  | .ancestry _ files => files

/-- What a command line asks for. -/
structure Invocation where
  /-- The command; without one, help is given. -/
  command : Option Command
  config : Option String
deriving DecidableEq, Repr

/-- Words that are said in place of an answer. -/
structure Reply where
  exit : Nat
  out : String := ""
  err : String := ""
deriving DecidableEq, Repr

/-- What is said about words that do not fit. -/
def Grammar.complain (g : Grammar) (message : String) : Reply where
  exit := 2
  err := g.usage ++ g.program ++ ": error: " ++ message ++ "\n"

/-- What is said when reading words comes to an end. -/
def Grammar.reply (g : Grammar) : Stop → Reply
  | .help => { exit := 0, out := g.help }
  | .misfit message => g.complain message

namespace Values

def words (v : Values) (name : String) : List String := (v.positionals.lookup name).getD []

/-- The single word of a positional argument; empty brackets stand for none. -/
def word (v : Values) (name : String) : String :=
  match v.words name with
  | [s] => s
  | _ => "[]"

end Values

/-- A command with the values of its positional arguments. -/
def CommandName.command (c : CommandName) (v : Values) : Command :=
  match c with
  | .summary => .summary (v.words "files")
  | .emit => .emit (v.word "file")
  | .lookup => .lookup (v.word "file") (v.word "name")
  | .ancestry => .ancestry (v.word "name") (v.words "files")

/-- What is said about a command that no one knows. -/
def unknownCommand (s : String) : Reply :=
  mainGrammar.complain ("argument command: invalid choice: " ++ Text.quoted s ++ " (choose from " ++
    String.intercalate ", " (CommandName.all.map fun (n, _) => Text.quoted n) ++ ")")

/-- The command that the words behind the options stand for, with the words that fit nowhere. -/
def Command.read : List String → Except Reply (Option Command × List String)
  | [] => .ok (none, [])
  | s :: ss =>
    match CommandName.all.lookup s with
    | none => .error (unknownCommand s)
    | some c =>
      match c.grammar.read ss with
      | .error e => .error (c.grammar.reply e)
      | .ok v => .ok (some (c.command v), v.extras)

def Invocation.read (args : List String) : Except Reply Invocation :=
  match mainGrammar.read args with
  | .error e => .error (mainGrammar.reply e)
  | .ok v => do
    let (command, extras) ← Command.read (v.words "command")
    match v.extras ++ extras with
    | [] => return ⟨command, v.options.lookup "--config"⟩
    | extras =>
      .error (mainGrammar.complain ("unrecognized arguments: " ++ String.intercalate " " extras))

end Introspection.CommandLine

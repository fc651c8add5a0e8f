import Shuffle.Decimal.Natural
import Shuffle.Store.Path

/-!
# Command lines

```text
[-v] plan [-m auto|hash|range|broadcast] [--max-tasks N] [--bytes-per-range-task N] [-o FILE] REQUEST
[-v] fetch [-o FILE] URL
[-v] decode [-k COLUMN:TYPE[:desc]]... URL
[-v] port FILE
```

A word with one dash holds letters, a word with two dashes one long name; a value stands behind its
letter, behind `=`, or in the next word. Behind the word `--` all words are operands.

- `Word.ofText` says what a word is.
- `Arguments.scan` gathers what the words behind the name of a command say.
- `Command.read` reads a whole command line. What it refuses, and the requests for help and for the
  version, are a `Stop`.
-/

namespace Shuffle

/-! ## §1 Words -/

/-- What a word of a command line is by its dashes. -/
inductive Word where
  /-- A value or an operand; also a dash alone. -/
  | plain (word : String)
  | escape
  | long (name : String) (value : Option String)
  | letters (word : List Char)
deriving DecidableEq, Repr

/-- Tells what a word is. -/
def Word.ofText (word : String) : Word :=
  match word.toList with
  | ['-', '-'] => .escape
  | '-' :: '-' :: rest =>
    match rest.span (· ≠ '=') with
    | (name, _ :: value) => .long (String.ofList name) (some (String.ofList value))
    | (name, []) => .long (String.ofList name) none
  -- A dash alone is a word like any other.
  | '-' :: c :: rest => .letters (c :: rest)
  | _ => .plain word

/-- Why a command line is not run. -/
inductive Stop where
  /-- It is refused. -/
  | usage
  | help
  | version
deriving DecidableEq, Repr

namespace Stop

/-- The page that explains the tool. -/
def helpPage : String :=
  "Plan and fetch intermediate stage output

Usage: stagefetch [-v] <COMMAND>

Commands:
  plan    Plan next-stage tasks from a JSON description of finished child stages
          [-m auto|hash|range|broadcast] [--max-tasks N] [--bytes-per-range-task N]
          [-o FILE] REQUEST
  fetch   Issue a fetch URL against a pull service and save the body
          [-o FILE] URL
  decode  Print the contents of a fetch URL as JSON
          [-k COLUMN:TYPE[:desc]]... URL
  port    Print the port recorded in a pull server handshake file
          FILE

Options:
  -v, --verbose  Enable verbose logging
  -h, --help     Print help
  -V, --version  Print version
"

/-- The code that the tool ends with. -/
def code : Stop → UInt32
  | .usage => 2
  | .help | .version => 0

/-- What is printed to standard output. -/
def printed : Stop → String
  | .usage => ""
  | .help => helpPage
  | .version => "stagefetch 0.1.0\n"

/-- What is printed to the error output. -/
def complaint : Stop → String
  | .usage => helpPage
  | .help | .version => ""

end Stop

/-! ## §2 Options -/

/-- How a plan reads its inputs. -/
inductive PlanMode where
  /-- In the way in which they are partitioned. -/
  | auto
  | hash
  | range
  | broadcast
deriving DecidableEq, Repr

namespace PlanMode

/-- All modes. -/
def all : List PlanMode := [.auto, .hash, .range, .broadcast]

/-- The name of a mode. -/
def name : PlanMode → String
  | .auto => "auto"
  | .hash => "hash"
  | .range => "range"
  | .broadcast => "broadcast"

/-- The mode of a name. -/
def ofName? (name : String) : Option PlanMode := all.find? (·.name = name)

end PlanMode

/-- The options of all commands. -/
inductive CommandOption where
  | verbose
  | help
  | version
  | mode
  | maxTasks
  | rangeBytes
  | output
  | key
deriving DecidableEq, Repr

namespace CommandOption

/-- The long name of an option. -/
def longName : CommandOption → String
  | .verbose => "verbose"
  | .help => "help"
  | .version => "version"
  | .mode => "mode"
  | .maxTasks => "max-tasks"
  | .rangeBytes => "bytes-per-range-task"
  | .output => "output"
  | .key => "key"

/-- The letter of an option. -/
def letter? : CommandOption → Option Char
  | .verbose => some 'v'
  | .help => some 'h'
  | .version => some 'V'
  | .mode => some 'm'
  | .output => some 'o'
  | .key => some 'k'
  | .maxTasks | .rangeBytes => none

/-- Does an option stand alone, without a value? -/
def isFlag : CommandOption → Bool
  | .verbose | .help | .version => true
  | _ => false

end CommandOption

/-! ## §3 What words say -/

/-- What has been said behind the name of a command. -/
structure Arguments where
  verbose : Bool := false
  mode : Option PlanMode := none
  maxTasks : Option UInt64 := none
  rangeBytes : Option UInt64 := none
  output : Option Path := none
  keys : List String := []
  operand : Option String := none
deriving DecidableEq, Repr

namespace Arguments

/-- Something that may be said once, and has to make sense. -/
def once {α : Type} (old new : Option α) : Except Stop (Option α) :=
  if old.isSome ∨ new.isNone then .error .usage else .ok new

/-- Reads the path of a file. -/
def readPath (text : String) : Option Path := if text = "" then none else some ⟨text⟩

/-- Reads a count. -/
def readCount (text : String) : Option UInt64 := (Decimal.readUInt64 text).toOption

/-- Takes an option with its value, which is empty for an option that stands alone. -/
def take (a : Arguments) (option : CommandOption) (value : String) : Except Stop Arguments := do
  match option with
  | .help => .error .help
  | .version => .error .version
  | .verbose => if a.verbose then .error .usage else return { a with verbose := true }
  | .mode => return { a with mode := ← once a.mode (PlanMode.ofName? value) }
  | .maxTasks => return { a with maxTasks := ← once a.maxTasks (readCount value) }
  | .rangeBytes => return { a with rangeBytes := ← once a.rangeBytes (readCount value) }
  | .output => return { a with output := ← once a.output (readPath value) }
  | .key => return { a with keys := a.keys ++ [value] }

/-- Takes an operand. -/
def takeOperand (a : Arguments) (value : String) : Except Stop Arguments := do
  return { a with operand := ← once a.operand (some value) }

/-- Takes a long name; the option is returned if its value is still to come. -/
def takeLong (options : List CommandOption) (a : Arguments) (name : String)
    (value : Option String) : Except Stop (Arguments × Option CommandOption) :=
  match options.find? (·.longName = name), value with
  | none, _ => .error .usage
  | some o, none => if o.isFlag then return (← a.take o "", none) else .ok (a, some o)
  | some o, some value => if o.isFlag then .error .usage else return (← a.take o value, none)

/-- Takes letters; the option is returned if its value is still to come. -/
def takeLetters (options : List CommandOption) (a : Arguments) :
    List Char → Except Stop (Arguments × Option CommandOption)
  | [] => .ok (a, none)
  | c :: rest =>
    match options.find? (·.letter? = some c) with
    | none => .error .usage
    | some o =>
      if o.isFlag then do takeLetters options (← a.take o "") rest
      else
        match rest with
        | [] => .ok (a, some o)
        -- One equals sign may part a letter from its value.
        | '=' :: value => return (← a.take o (String.ofList value), none)
        | value => return (← a.take o (String.ofList value), none)

/-- Gathers what words say. The option `waiting` still lacks its value. -/
def scan (options : List CommandOption) (a : Arguments) (waiting : Option CommandOption) :
    List String → Except Stop Arguments
  | [] => if waiting.isSome then .error .usage else .ok a
  | word :: rest =>
    match Word.ofText word, waiting with
    | .plain value, some o => do scan options (← a.take o value) none rest
    -- A word with dashes is no value.
    | _, some _ => .error .usage
    | .plain value, none => do scan options (← a.takeOperand value) none rest
    | .escape, none => rest.foldlM takeOperand a
    | .long name value, none => do
      let (a, waiting) ← takeLong options a name value
      scan options a waiting rest
    | .letters cs, none => do
      let (a, waiting) ← takeLetters options a cs
      scan options a waiting rest

end Arguments

/-! ## §4 Commands -/

/-- What a plan is made from, and how. -/
structure PlanOptions where
  request : Path
  mode : PlanMode := .auto
  maxTasks : Option UInt64 := none
  /-- How many octets a task over a range should read. -/
  rangeBytes : Option UInt64 := none
  output : Option Path := none
deriving DecidableEq, Repr

/-- What the tool is told to do. -/
inductive Command where
  | plan (options : PlanOptions)
  | fetch (url : String) (output : Option Path)
  /-- Tells what a URL asks for. Without keys, its bounds are shown by their length. -/
  | decode (url : String) (keys : List String)
  | port (handshake : Path)
deriving DecidableEq, Repr

/-- The names of commands. -/
inductive CommandName where
  | plan
  | fetch
  | decode
  | port
deriving DecidableEq, Repr

namespace CommandName

/-- All names. -/
def all : List CommandName := [.plan, .fetch, .decode, .port]

/-- A name as text. -/
def text : CommandName → String
  | .plan => "plan"
  | .fetch => "fetch"
  | .decode => "decode"
  | .port => "port"

/-- Reads a name. -/
def ofText? (text : String) : Option CommandName := all.find? (·.text = text)

/-- The options of a command. -/
def options : CommandName → List CommandOption
  | .plan => [.verbose, .help, .mode, .maxTasks, .rangeBytes, .output]
  | .fetch => [.verbose, .help, .output]
  | .decode => [.verbose, .help, .key]
  | .port => [.verbose, .help]

end CommandName

namespace Command

/-- A count from the command line, else from the environment. -/
def countFrom (given : Option UInt64) (fallback : Option String) :
    Except Stop (Option UInt64) :=
  match given, fallback with
  | some n, _ => .ok (some n)
  -- The environment is looked at only when nothing was given, and then it has to make sense.
  | none, some text => Arguments.once none (Arguments.readCount text)
  | none, none => .ok none

/-- The variable that stands in for `--max-tasks`. -/
def maxTasksVariable : String := "STAGEFETCH_MAX_TASKS"

/-- The variable that stands in for `--bytes-per-range-task`. -/
def rangeBytesVariable : String := "STAGEFETCH_BYTES_PER_RANGE_TASK"

/-- The command that has been told. -/
def ofArguments (env : String → Option String) (name : CommandName) (a : Arguments) :
    Except Stop Command := do
  match name, a.operand with
  | _, none => .error .usage
  | .plan, some request =>
    match Arguments.readPath request with
    | none => .error .usage
    | some request =>
      return .plan {
        request
        mode := a.mode.getD .auto
        maxTasks := ← countFrom a.maxTasks (env maxTasksVariable)
        rangeBytes := ← countFrom a.rangeBytes (env rangeBytesVariable)
        output := a.output }
  | .fetch, some url => return .fetch url a.output
  | .decode, some url => return .decode url a.keys
  | .port, some handshake =>
    match Arguments.readPath handshake with
    | none => .error .usage
    | some handshake => return .port handshake

/-- What `help` prints: the page of a command, or of all. -/
def readHelp : List String → Stop
  | [] => .help
  | [name] => if name = "help" ∨ (CommandName.ofText? name).isSome then .help else .usage
  | _ => .usage

/-- The options before the name of a command. -/
def commonOptions : List CommandOption := [.verbose, .help, .version]

/-- Reads the words behind `a` up to the name of a command, and what is behind it. -/
def readFrom (env : String → Option String) (a : Arguments) :
    List String → Except Stop Command
  | [] => .error .usage
  | word :: rest =>
    match Word.ofText word with
    | .escape => .error .usage
    | .long name value => do
      let (a, _) ← a.takeLong commonOptions name value
      readFrom env a rest
    | .letters cs => do
      let (a, _) ← a.takeLetters commonOptions cs
      readFrom env a rest
    | .plain name =>
      match CommandName.ofText? name with
      | some c => do ofArguments env c (← Arguments.scan c.options {} none rest)
      | none => .error (if name = "help" then readHelp rest else .usage)

/-- Reads a command line. -/
def read (env : String → Option String) (words : List String) : Except Stop Command :=
  readFrom env {} words

end Command

end Shuffle

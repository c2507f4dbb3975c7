import DocFilter.Check
import DocFilter.Help

/-!
# The command line

Arguments are read into a `Command`, which is carried out on the bytes of standard input and gives
an `Output`: an exit code and two texts.  An option takes its value from the argument after it or,
after `=` or directly after its letter, from its own; a value of its own argument must not look like
an option.  No option may be given twice, and after `--` nothing is an option.
-/

namespace DocFilter

/-- What the command line asks for. -/
inductive Command where
  | check (c : Check)
  | topics
  | topic (name : String)
  | version
  deriving DecidableEq, Repr

/-- What a command leaves behind. -/
structure Output where
  exit : Nat
  stdout : String
  stderr : String
  deriving DecidableEq, Repr

namespace Command

/-- Why arguments are no command to carry out: they are wrong, or they ask for help. -/
inductive Stop where
  | usage
  | help
  deriving DecidableEq, Repr

/-- The arguments of a check, as far as they have been read. -/
structure CheckArguments where
  query : Option String
  input : Option String
  syntaxOnly : Bool
  compatible : Bool
  deriving DecidableEq, Repr

/-- Whether an argument looks like an option.  A lone dash does not. -/
def looksLikeOption (arg : String) : Bool := arg.startsWith "-" && arg != "-"

/-- What follows `start` in `arg`. -/
def afterStart? (start arg : String) : Option String :=
  (afterToken? start.toList arg.toList).map String.ofList

namespace CheckArguments

/-- Nothing read yet. -/
def none : CheckArguments := ⟨.none, .none, false, false⟩

/-- One more argument that is no option. -/
def addPositional (a : CheckArguments) (arg : String) : Except Stop CheckArguments :=
  if a.query.isSome then .error .usage else .ok { a with query := some arg }

/-- The value of the input option, which may be given once. -/
def addInput (a : CheckArguments) (value : String) : Except Stop CheckArguments :=
  if a.input.isSome then .error .usage else .ok { a with input := some value }

/-- A value written into the argument of the input option itself. -/
def attachedInput? (arg : String) : Option String :=
  match afterStart? "--input=" arg, afterStart? "-i=" arg, afterStart? "-i" arg with
  | some value, _, _ => some value
  | _, some value, _ => some value
  | _, _, some value => if value.isEmpty then Option.none else some value
  | _, _, _ => Option.none

/-- Reads the arguments of a check. -/
def read (a : CheckArguments) : List String → Except Stop CheckArguments
  | [] => .ok a
  | "--" :: args => args.foldlM addPositional a
  | "--syntax-only" :: args =>
    if a.syntaxOnly then .error .usage else read { a with syntaxOnly := true } args
  | "--compat" :: args =>
    if a.compatible then .error .usage else read { a with compatible := true } args
  | "--help" :: _ => .error .help
  | arg :: args =>
    if (afterStart? "-h" arg).isSome then .error .help
    else if arg = "-i" ∨ arg = "--input" then
      match args with
      | value :: args =>
        if looksLikeOption value then .error .usage
        else
          match a.addInput value with
          | .ok a => read a args
          | .error stop => .error stop
      | [] => .error .usage
    else
      match attachedInput? arg with
      | some value =>
        match a.addInput value with
        | .ok a => read a args
        | .error stop => .error stop
      | Option.none =>
        if looksLikeOption arg then .error .usage
        else
          match a.addPositional arg with
          | .ok a => read a args
          | .error stop => .error stop

/-- The check that the arguments ask for, once all have been read. -/
def finish (a : CheckArguments) : Except Stop Command :=
  match a.query with
  | some query =>
    .ok (.check ⟨query.toList, a.input.map String.toList, a.syntaxOnly, a.compatible⟩)
  | Option.none => .error .usage

end CheckArguments

/-- Reads arguments none of which is an option but that for help, at most `room` of them.  One too
many is refused before anything after it is looked at. -/
def readPositionals : (room : Nat) → List String → Except Stop (List String)
  | _, [] => .ok []
  | room, "--" :: args => if args.length ≤ room then .ok args else .error .usage
  | room, arg :: args =>
    if arg = "--help" ∨ (afterStart? "-h" arg).isSome then .error .help
    else if looksLikeOption arg then .error .usage
    else
      match room with
      | 0 => .error .usage
      | room + 1 => (readPositionals room args).map (arg :: ·)

/-- The commands there are. -/
def names : List String := ["check", "docs", "doc", "help"]

/-- A request for help, with one command or none. -/
def helpOn : List String → Stop
  | [] => .help
  | [name] => if names.contains name then .help else .usage
  | _ => .usage

/-- Reads a command line. -/
def ofArguments : List String → Except Stop Command
  | "check" :: args => do (← CheckArguments.none.read args).finish
  | "docs" :: args => do
    let _ ← readPositionals 0 args
    .ok .topics
  | "doc" :: args => do
    match ← readPositionals 1 args with
    | [name] => .ok (.topic name)
    | _ => .error .usage
  | "help" :: args => .error (helpOn args)
  | "--help" :: _ => .error .help
  | "--version" :: _ => .ok .version
  | arg :: _ =>
    if (afterStart? "-V" arg).isSome then .ok .version
    else if (afterStart? "-h" arg).isSome then .error .help
    else .error .usage
  | [] => .error .usage

/-- Whether the command reads its document from standard input. -/
def readsInput : Command → Bool
  | .check c => c.input.isNone && !c.syntaxOnly
  | _ => false

/-! ### Carrying out a command -/

/-- How the program is called. -/
def usageText : String := String.join
  ["Usage: claimpath <COMMAND>\n",
   "\n",
   "Commands:\n",
   "  check <QUERY> [-i|--input <JSON>] [--syntax-only] [--compat]\n",
   "  docs\n",
   "  doc <CATEGORY>\n",
   "  help\n"]

/-- A text on standard output, and success. -/
def succeed (text : String) : Output := ⟨0, text, ""⟩

/-- The message of a fault in a line on standard error, and failure. -/
def fault (f : CheckFault) : Output := ⟨1, "", f.message ++ "\n"⟩

/-- What a check writes. -/
def report : Except CheckFault CheckResult → Output
  | .ok (.wellFormed canonical) =>
    succeed ("Syntax is valid\n" ++ String.ofList canonical ++ "\n")
  | .ok (.matched verdict) => succeed (toString verdict ++ "\n")
  | .error f => fault f

/-- Carries out a check, on the bytes of standard input where it has no document of its own; there
are none where standard input is not to be read. -/
def runCheck (c : Check) (stdin : Option ByteArray) : Output :=
  if (Command.check c).readsInput then
    match stdin with
    | none => report c.run.result
    | some bytes =>
      match String.fromUTF8? bytes with
      | none => fault .badEncoding
      | some text => report (Check.run { c with input := some text.toList }).result
  else report c.run.result

/-- Carries out a command. -/
def run (stdin : Option ByteArray) : Command → Output
  | .check c => runCheck c stdin
  | .topics => succeed Topic.overview
  | .topic name =>
    match Topic.ofName? name with
    | some found => succeed found.text
    | none => fault (.unknownTopic name)
  | .version => succeed "claimpath 0.1.0\n"

/-- What a command line that is no command leaves behind. -/
def Stop.output : Stop → Output
  | .usage => ⟨2, "", usageText⟩
  | .help => succeed usageText

end Command

/-- Carries out the command that a command line asks for. -/
def runCommandLine (args : List String) (stdin : Option ByteArray) : Output :=
  match Command.ofArguments args with
  | .ok command => command.run stdin
  | .error stop => stop.output

end DocFilter

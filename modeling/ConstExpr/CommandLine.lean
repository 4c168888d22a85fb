import ConstExpr.Text.Request

/-!
# The command line

The command line names the file of a request and may set the limits of the work on it. A run
prints the outcome, and behind it every diagnostic on the error output; it succeeds when no error
was reported.
-/
namespace ConstExpr

namespace CommandLine

/-- A limit that an option sets. -/
inductive Setting where
  | steps
  | depth
  deriving DecidableEq, Repr

/-- An argument by the way it is written. -/
inductive Argument where
  /-- The path of a file. -/
  | file (path : String)
  /-- An option, with its value if that stands in the same argument. -/
  | option (setting : Setting) (value : Option String)
  /-- The mark behind which there are no more options. -/
  | separator
  /-- An option that there is not. -/
  | unknown
  deriving DecidableEq, Repr

/-- The value behind the letter of an option, which an equals sign may introduce. -/
def attached : List Char → Option String
  | [] => none
  | '=' :: value => some (String.ofList value)
  | value => some (String.ofList value)

/-- An option by its name. -/
def longOption (name : List Char) (value : Option String) : Argument :=
  if name = "step-limit".toList then .option .steps value
  else if name = "max-depth".toList then .option .depth value
  else .unknown

/-- What an argument is by the way it is written. -/
def Argument.of (text : String) : Argument :=
  match text.toList with
  | ['-', '-'] => separator
  | '-' :: '-' :: rest =>
    match rest.dropWhile (· != '=') with
    | [] => longOption rest none
    | _ :: value => longOption (rest.takeWhile (· != '=')) (some (String.ofList value))
  | '-' :: 's' :: rest => option .steps (attached rest)
  | '-' :: 'm' :: rest => option .depth (attached rest)
  | '-' :: _ :: _ => unknown
  | _ => file text

/-- The value of a limit: decimal digits, behind which no other character stands and in front of
which a plus sign may stand. -/
def limit? (text : String) : Option Nat :=
  let digits := match text.toList with
    | '+' :: digits => digits
    | digits => digits
  if !digits.isEmpty && digits.all Char.isDigit then
    let value := digits.foldl (fun value digit => value * 10 + (digit.toNat - '0'.toNat)) 0
    if value < sizeBound then some value else none
  else none

/-- What a command line asks for; the file is given by the end. -/
structure Invocation where
  /-- The file of the request. -/
  file : Option String
  /-- The number of steps, where it is set. -/
  steps : Option Nat
  /-- The depth, where it is set. -/
  depth : Option Nat
  deriving DecidableEq, Repr, Inhabited

namespace Invocation

/-- The invocation that asks for nothing. -/
def empty : Invocation := ⟨none, none, none⟩

/-- Gives the file, which is given once and has a name. -/
def setFile (invocation : Invocation) (path : String) : Option Invocation :=
  if invocation.file.isSome || path.isEmpty then none
  else some { invocation with file := some path }

/-- Sets a limit, which is set at most once. -/
def setLimit (invocation : Invocation) (setting : Setting) (text : String) : Option Invocation := do
  let value ← limit? text
  match setting, invocation.steps, invocation.depth with
  | .steps, none, _ => return { invocation with steps := some value }
  | .depth, _, none => return { invocation with depth := some value }
  | _, _, _ => none

/-- Takes the arguments one after the other. The value of an option is the next argument where it
does not stand in the same one, and that cannot look like an option. -/
def extend (invocation : Invocation) : List String → Option Invocation
  | [] => some invocation
  | text :: rest =>
    match Argument.of text, rest with
    | .file path, rest => do (← invocation.setFile path).extend rest
    | .option setting (some value), rest => do (← invocation.setLimit setting value).extend rest
    | .option setting none, value :: rest =>
      match Argument.of value with
      | .file _ => do (← invocation.setLimit setting value).extend rest
      | _ => none
    | .option _ none, [] => none
    | .separator, rest => rest.foldlM setFile invocation
    | .unknown, _ => none

/-- The limits of a request with those that the command line sets. -/
def limits (invocation : Invocation) (given : Limits) : Limits :=
  ⟨invocation.steps.getD given.steps, invocation.depth.getD given.depth⟩

end Invocation

/-- What a run answers. -/
structure Answer where
  /-- No error was reported. -/
  succeeded : Bool
  /-- The text for the output. -/
  output : String
  /-- The text for the error output. -/
  errors : String
  deriving DecidableEq, Repr

/-- The answer of a run that ended early. -/
def Answer.failure (message : String) : Answer :=
  ⟨false, "", Severity.error.headline false message ++ "\n"⟩

/-- The answer that shows an outcome, if it can be written, and the diagnostics reported on the
way. -/
def Answer.report (outcome : Outcome) (log : DiagnosticLog) : Answer :=
  match outcome.toDatum.written? with
  | none => failure "failed to write the outcome: it has too many brackets inside one another"
  | some datum =>
    ⟨!log.hasErrors, datum.pretty ++ "\n",
      String.join (log.diagnostics.map fun diagnostic => diagnostic.render false ++ "\n\n")⟩

/-- The answer to a request. -/
def answer (request : Request) : Answer :=
  let (outcome, log) := request.evaluate .keep .empty
  .report outcome log

/-- Runs the request in a file, of which `source` holds the text or the reason why it cannot be
read. -/
def Invocation.run (invocation : Invocation) (path : String) (source : Except String String) :
    Answer :=
  match source with
  | .error reason => .failure (path ++ ": " ++ reason)
  | .ok text =>
    match (deserialize? text : Option Request) with
    | none => .failure "invalid request: the text is not the serialized form of a request"
    | some request =>
      CommandLine.answer { request with limits := invocation.limits request.limits }

/-- The invocation that the arguments make and its file, where they follow the usage. -/
def parse? (arguments : List String) : Option (Invocation × String) := do
  let invocation ← Invocation.empty.extend arguments
  return (invocation, ← invocation.file)

/-- How the arguments are written. -/
def usage : String :=
  "usage: [-s <steps> | --step-limit <steps>] [-m <depth> | --max-depth <depth>] <file>"

end CommandLine

end ConstExpr

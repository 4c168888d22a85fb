/-!
# Diagnostics

A diagnostic is a message about a span of the source with a severity, and possibly help and
related places. It is rendered as lines of text, with or without terminal colors. Diagnostics are
received by a log, which keeps them in order, or are discarded.
-/
namespace ConstExpr

/-- How serious a diagnostic is, in the order in which severities compare. -/
inductive Severity where
  | error
  | warning
  | info
  deriving DecidableEq, Repr, Inhabited, Ord

/-- A range of bytes of the source, which is carried along and never read. -/
structure Span where
  /-- The first byte. -/
  start : Nat
  /-- The byte after the last one. -/
  stop : Nat
  deriving DecidableEq, Repr, Inhabited, Ord

/-- A place that is shown beside a diagnostic. -/
structure Related where
  /-- The place. -/
  span : Span
  /-- What is said of it. -/
  message : String
  deriving DecidableEq, Repr, Inhabited, Ord

/-- A message to the user; diagnostics compare field by field in this order. -/
structure Diagnostic where
  /-- The place the diagnostic is about. -/
  span : Span
  /-- The message. -/
  message : String
  /-- How serious it is. -/
  severity : Severity
  /-- What could be done about it. -/
  help : Option String
  /-- Further places. -/
  related : List Related
  deriving DecidableEq, Repr, Inhabited, Ord

/-- The name of the severity in the serialized form. -/
def Severity.name : Severity → String
  | .error => "Error"
  | .warning => "Warning"
  | .info => "Info"

/-- The severity of the given name in the serialized form. -/
def Severity.named? (name : String) : Option Severity :=
  [.error, .warning, .info].find? fun severity => severity.name == name

/-- The severity in front of a message. -/
def Severity.text : Severity → String
  | .error => "[error]"
  | .warning => "[warning]"
  | .info => "[info]"

/-- The range in words. -/
def Span.text (span : Span) : String := toString span.start ++ ".." ++ toString span.stop

/-- The styles that a terminal shows text in. -/
inductive Style where
  | bold
  | boldBrightRed
  | boldBrightGreen
  | boldBrightYellow
  | boldBrightBlue
  deriving DecidableEq, Repr

namespace Style

/-- The escape sequence that ends every style. -/
def reset : String := "\x1b[0m"

/-- The escape sequence that begins a style. -/
def start : Style → String
  | bold => "\x1b[1m"
  | boldBrightRed => "\x1b[1;91m"
  | boldBrightGreen => "\x1b[1;92m"
  | boldBrightYellow => "\x1b[1;93m"
  | boldBrightBlue => "\x1b[1;94m"

/-- The text in a style, if colors are wanted. A reset inside the text is followed by the start of
the style, so the style covers the text to its end. -/
def paint (style : Style) (color : Bool) (text : String) : String :=
  if color then style.start ++ text.replace reset (reset ++ style.start) ++ reset else text

end Style

/-- The style of a severity. -/
def Severity.style : Severity → Style
  | .error => .boldBrightRed
  | .warning => .boldBrightYellow
  | .info => .boldBrightGreen

/-- A message behind its severity. -/
def Severity.headline (severity : Severity) (color : Bool) (message : String) : String :=
  severity.style.paint color severity.text ++ ": " ++ Style.bold.paint color message

namespace Diagnostic

/-- The line of a place: an arrow and the range. -/
def place (color : Bool) (span : Span) : String :=
  "\n  " ++ Style.boldBrightBlue.paint color "-->" ++ " " ++ span.text

/-- The diagnostic as lines: the message, the place, the help and the related places. -/
def render (color : Bool) (diagnostic : Diagnostic) : String :=
  let help :=
    match diagnostic.help with
    | some help => "\n  " ++ Style.bold.paint color "help" ++ ": " ++ help
    | none => ""
  let related := diagnostic.related.map fun related =>
    place color related.span ++ ": " ++ related.message
  diagnostic.severity.headline color diagnostic.message ++ place color diagnostic.span ++ help ++
    String.join related

end Diagnostic

/-- The diagnostics received so far, in order. -/
structure DiagnosticLog where
  /-- The diagnostics, the first one first. -/
  diagnostics : List Diagnostic
  deriving DecidableEq, Repr, Inhabited

namespace DiagnosticLog

/-- The log that has received nothing. -/
def empty : DiagnosticLog := ⟨[]⟩

/-- Receives a diagnostic after those received before. -/
def receive (log : DiagnosticLog) (diagnostic : Diagnostic) : DiagnosticLog :=
  ⟨log.diagnostics ++ [diagnostic]⟩

/-- The number of diagnostics of a severity. -/
def count (log : DiagnosticLog) (severity : Severity) : Nat :=
  log.diagnostics.countP fun diagnostic => diagnostic.severity == severity

/-- An error was received. -/
def hasErrors (log : DiagnosticLog) : Bool := log.count .error != 0

end DiagnosticLog

/-- What is done with the diagnostics of an evaluation. -/
inductive Handler where
  /-- They are kept in a log. -/
  | keep
  /-- They are discarded. -/
  | discard
  deriving DecidableEq, Repr

/-- The log after a handler has received a diagnostic. -/
def Handler.receive (handler : Handler) (log : DiagnosticLog) (diagnostic : Diagnostic) :
    DiagnosticLog :=
  match handler with
  | keep => log.receive diagnostic
  | discard => log

end ConstExpr

import TemplateBatch.Diagnostic
import TemplateBatch.Json.Reader
import TemplateBatch.Text.Lines

/-!
The report of a compiler run: one JSON object to a line, with other output in between. Places in
scratch files are given in terms of the sources that the files were written from.
-/
namespace TemplateBatch

/-- The path that each scratch file stands for; the last entry for a file counts. -/
structure SourceMap where
  files : List (String × Path)
  deriving DecidableEq, Repr

namespace SourceMap

def empty : SourceMap := ⟨[]⟩

def insert (m : SourceMap) (file : String) (source : Path) : SourceMap :=
  ⟨(file, source) :: m.files⟩

/-- What a reported file stands for, judged by its last component; itself when that is unknown. -/
def resolve (m : SourceMap) (reported : String) : Path :=
  let key := (Path.mk reported).fileName?.getD reported
  match m.files.find? fun f => f.1 == key with
  | some (_, source) => source
  | none => ⟨reported⟩

end SourceMap

namespace CompilerReport

structure Span where
  file : String
  line : Nat
  column : Nat
  isPrimary : Bool
  deriving DecidableEq, Repr

/-- A line of the report as the compiler means it. -/
structure Entry where
  kind : Option String
  message : String
  code : Option String
  level : String
  spans : List Span
  rendered : Option String
  deriving DecidableEq, Repr

def code? (j : Json) : Option String := do
  match ← Json.fields? ["code"] j with
  | [code] => code.required? Json.text?
  | _ => none

def span? (j : Json) : Option Span := do
  match ← Json.fields? ["file_name", "line_start", "column_start", "is_primary"] j with
  | [file, line, column, isPrimary] =>
    let file ← file.required? Json.text?
    let line ← line.required? Json.natural?
    let column ← column.required? Json.natural?
    let isPrimary ← isPrimary.orElse? false Json.bool?
    return { file, line, column, isPrimary }
  | _ => none

def entry? (j : Json) : Option Entry := do
  match ← Json.fields? ["$message_type", "message", "code", "level", "spans", "rendered"] j with
  | [kind, message, code, level, spans, rendered] =>
    let kind ← kind.optional? Json.text?
    let message ← message.orElse? "" Json.text?
    let code ← code.orElse? none (Json.nullable? code?)
    let level ← level.orElse? "" Json.text?
    let spans ← spans.orElse? [] (Json.listOf? span?)
    let rendered ← rendered.orElse? none (Json.nullable? Json.text?)
    return { kind, message, code, level, spans, rendered }
  | _ => none

namespace Entry

/-- Entries of another kind and the compiler's closing remarks say nothing about the sources. -/
def isRemark (e : Entry) : Bool :=
  e.kind.any (fun kind => kind != "diagnostic") || e.level == "failure-note"
    || Text.startsWith e.message "aborting due to"

def severity (e : Entry) : Severity :=
  if e.level = "warning" then .warning
  else if Text.startsWith e.level "error" then .error
  else .info

/-- The first primary span, or else the first of all. -/
def span (e : Entry) : Option Span :=
  match e.spans.find? Span.isPrimary with
  | some s => some s
  | none => e.spans.head?

def diagnostic (m : SourceMap) (e : Entry) : Diagnostic :=
  { severity := e.severity
    code := e.code
    message := e.message
    place := e.span.map fun s => ⟨m.resolve s.file, s.line, s.column⟩
    rendered := e.rendered }

end Entry

/-- What one line says. A line that is no entry is an error message in itself. -/
def readLine (m : SourceMap) (line : List Char) : Option Diagnostic :=
  if line.all Text.isBlank then none
  else
    match (Json.readChars? line).bind entry? with
    | none => some (.error (String.ofList (Text.trimChars line)))
    | some e => if e.isRemark then none else some (e.diagnostic m)

/-- The diagnostics of a whole report, in its order. -/
def readChars (m : SourceMap) (report : List Char) : List Diagnostic :=
  (Text.lines report).filterMap (readLine m)

def read (m : SourceMap) (report : String) : List Diagnostic := readChars m report.toList

end CompilerReport
end TemplateBatch

import TypedDecl.CommandLine.Arguments
import TypedDecl.Source
import TypedDecl.Token.Dump

/-!
What the command line answers to a request: the text it prints, the lines it logs, what it
reports, and its exit code.
-/

namespace TypedDecl.CommandLine

/-- Why a run of the command line goes wrong. -/
inductive Problem where
  | misuse (error : UsageError)
  | unreadable (file : String)
  | refused (failure : Failure)
  deriving DecidableEq

namespace Problem

def message : Problem → String
  | .misuse error => error.message
  | .unreadable file => "cannot read " ++ file
  | .refused failure => failure.diagnostic.message

end Problem

/-- What a caller sees: the two streams and the exit code. -/
structure Response where
  output : String
  diagnostics : List String
  exitCode : Nat
  deriving DecidableEq

/-- What a run prints, puts on record and reports, before any of it is written out. -/
structure Transcript where
  output : String
  events : List Event
  problem : Option Problem

namespace Transcript

def exitCode (transcript : Transcript) : Nat := if transcript.problem.isNone then 0 else 1

/-- The events that the threshold lets through. -/
def log (threshold : Threshold) (transcript : Transcript) : List Event :=
  transcript.events.filter fun event => threshold.shows event.level

/-- The log is written as the run goes on, and what it reports at its end. -/
def response (threshold : Threshold) (transcript : Transcript) : Response :=
  ⟨transcript.output, (transcript.log threshold).map Event.line ++
    transcript.problem.toList.map fun problem => "error: " ++ problem.message, transcript.exitCode⟩

/-- Nothing is written but the output. -/
def isQuiet (threshold : Threshold) (transcript : Transcript) : Bool :=
  (transcript.response threshold).diagnostics.isEmpty

end Transcript

namespace Options

/-- With neither kind of output asked for, both are shown. -/
def showsTokens (options : Options) : Bool := options.tokens || !options.ast

def showsProgram (options : Options) : Bool := options.ast || !options.tokens

/-- A threshold given from outside wins over the options. -/
def threshold (options : Options) (given : Option Threshold) : Threshold :=
  given.getD (match options.verbosity with
    | 0 => .upTo .warn
    | 1 => .upTo .debug
    | _ => .upTo .trace)

/-- The tokens are printed before parsing, so an error of grammar does not take them back. -/
def tokenOutput (options : Options) (ts : TokenSequence) : String :=
  if options.showsTokens then ts.dump ++ "\n" else ""

def programOutput (options : Options) (program : Program) : String :=
  if options.showsProgram && !program.isEmpty then program.dump ++ "\n" else ""

/-- A strict parse that fails has no declarations to show. -/
def parse (options : Options) (ts : TokenSequence) : Reply (Except ParseError Recovered) :=
  if options.recover then (Grammar.programRecovering ts).map .ok
  else (Grammar.program ts).map (·.map fun program => ⟨program, []⟩)

def transcriptOfTokens (options : Options) (ts : TokenSequence) (earlier : List Event) : Transcript :=
  let reply := options.parse ts
  let events := earlier ++ reply.events
  let output := options.tokenOutput ts
  match reply.value with
  | .error error => ⟨output, events, some (.refused (.parse error))⟩
  | .ok recovered =>
    let output := output ++ options.programOutput recovered.program
    match recovered.toResult with
    | .error failure => ⟨output, events, some (.refused failure)⟩
    | .ok program => ⟨output, events ++ [.parsed program.declarations.length], none⟩

def transcriptOfSource (options : Options) (source : String) : Transcript :=
  let scan := scan source
  let bytes := source.utf8ByteSize
  let events := .readSource options.file bytes :: scan.events bytes
  match scan.sequence with
  | .error error => ⟨"", events, some (.refused (.lex error))⟩
  | .ok ts => options.transcriptOfTokens ts events

/-- Contents that are missing or no text in UTF-8 cannot be read. -/
def transcript (options : Options) (contents : Option ByteArray) : Transcript :=
  match contents.bind String.fromUTF8? with
  | some source => options.transcriptOfSource source
  | none => ⟨"", [], some (.unreadable options.file)⟩

end Options

namespace Request

/-- The file is looked at by a run only. -/
def transcript (request : Request) (contents : Option ByteArray) : Transcript :=
  match request with
  | .run options => options.transcript contents
  | .help => ⟨helpText, [], none⟩
  | .version => ⟨versionText, [], none⟩
  | .misuse error => ⟨"", [], some (.misuse error)⟩

def threshold (request : Request) (given : Option Threshold) : Threshold :=
  match request with
  | .run options => options.threshold given
  | _ => .off

def response (request : Request) (given : Option Threshold) (contents : Option ByteArray) :
    Response :=
  (request.transcript contents).response (request.threshold given)

end Request

end TypedDecl.CommandLine

/-!
The arguments of the command line, read from left to right.  The first one that settles the
matter, a call for help as much as a mistake, hides the ones after it.
-/

namespace TypedDecl.CommandLine

structure Options where
  file : String
  tokens : Bool
  ast : Bool
  recover : Bool
  /-- How often more log was asked for. -/
  verbosity : Nat
  deriving DecidableEq

inductive UsageError where
  | unknownOption (option : String)
  | unexpectedValue (option : String)
  | repeatedOption (option : String)
  | emptyFile
  | secondFile (file : String)
  | missingFile
  deriving DecidableEq

inductive Request where
  | run (options : Options)
  | help
  | version
  | misuse (error : UsageError)
  deriving DecidableEq

inductive Flag where
  | tokens
  | ast
  | recover
  | verbose
  | help
  | version
  deriving DecidableEq

namespace Flag

def ofLong? : String → Option Flag
  | "tokens" => some .tokens
  | "ast" => some .ast
  | "recover" => some .recover
  | "verbose" => some .verbose
  | "help" => some .help
  | "version" => some .version
  | _ => none

def ofShort? : Char → Option Flag
  | 'v' => some .verbose
  | 'h' => some .help
  | 'V' => some .version
  | _ => none

end Flag

/-- What the arguments have said so far. -/
structure Draft where
  file : Option String := none
  tokens : Bool := false
  ast : Bool := false
  recover : Bool := false
  verbosity : Nat := 0
  deriving DecidableEq

namespace Draft

/-- A request in place of a draft is final. -/
abbrev Settled := Except Request

def setFile (file : String) (draft : Draft) : Settled Draft :=
  if file = "" then .error (.misuse .emptyFile)
  else match draft.file with
    | some _ => .error (.misuse (.secondFile file))
    | none => .ok { draft with file := some file }

/-- Only verbosity may be asked for more than once. -/
def setFlag (flag : Flag) (draft : Draft) : Settled Draft :=
  match flag with
  | .tokens =>
    if draft.tokens then .error (.misuse (.repeatedOption "--tokens"))
    else .ok { draft with tokens := true }
  | .ast =>
    if draft.ast then .error (.misuse (.repeatedOption "--ast"))
    else .ok { draft with ast := true }
  | .recover =>
    if draft.recover then .error (.misuse (.repeatedOption "--recover"))
    else .ok { draft with recover := true }
  | .verbose => .ok { draft with verbosity := draft.verbosity + 1 }
  | .help => .error .help
  | .version => .error .version

/-- Long options are written in full, and none of them takes a value. -/
def readLong (option : String) (draft : Draft) : Settled Draft :=
  match Flag.ofLong? option with
  | some flag => draft.setFlag flag
  | none =>
    if option.contains '=' then .error (.misuse (.unexpectedValue option))
    else .error (.misuse (.unknownOption option))

/-- Short options may be joined behind one dash. -/
def readShort : List Char → Draft → Settled Draft
  | [], draft => .ok draft
  | c :: cs, draft =>
    match Flag.ofShort? c with
    | some flag => do readShort cs (← draft.setFlag flag)
    | none => .error (.misuse (.unknownOption (String.singleton c)))

/-- A lone dash is the name of a file. -/
def readArgument (argument : String) (draft : Draft) : Settled Draft :=
  match argument.toList with
  | '-' :: '-' :: option => draft.readLong (String.ofList option)
  | '-' :: c :: cs => draft.readShort (c :: cs)
  | _ => draft.setFile argument

/-- Behind two dashes there are only files. -/
def readArguments : List String → Draft → Settled Draft
  | [], draft => .ok draft
  | "--" :: files, draft => files.foldlM (fun draft file => draft.setFile file) draft
  | argument :: arguments, draft => do readArguments arguments (← draft.readArgument argument)

def finish (draft : Draft) : Request :=
  match draft.file with
  | some file => .run ⟨file, draft.tokens, draft.ast, draft.recover, draft.verbosity⟩
  | none => .misuse .missingFile

end Draft

def Request.ofArguments (arguments : List String) : Request :=
  match Draft.readArguments arguments {} with
  | .ok draft => draft.finish
  | .error request => request

namespace UsageError

def message : UsageError → String
  | .unknownOption option => "unexpected argument '" ++ option ++ "' found"
  | .unexpectedValue option => "unexpected value in '" ++ option ++ "'"
  | .repeatedOption option => "the argument '" ++ option ++ "' cannot be used multiple times"
  | .emptyFile => "a value is required for '<FILE>' but none was supplied"
  | .secondFile file => "unexpected argument '" ++ file ++ "' found"
  | .missingFile => "the following required arguments were not provided: <FILE>"

end UsageError

def versionText : String := "idk 0.1.0\n"

def helpText : String :=
"Tokenize and parse an idk source file

Usage: idk [OPTIONS] <FILE>

Arguments:
  <FILE>  Source file to read

Options:
      --tokens      Print the token stream
      --ast         Print the parsed declarations
      --recover     Keep parsing after an error and report every error found
  -v, --verbose...  Log more: -v for debug, -vv for trace (RUST_LOG overrides)
  -h, --help        Print help
  -V, --version     Print version
"

end TypedDecl.CommandLine

import TypedDecl.Grammar.Recovery
import TypedDecl.Token.Scan

/-!
From the text of a source to its program, with the log of the way there.  A lexical fault ends
every run; an error of grammar ends a strict one only.
-/

namespace TypedDecl

inductive Mode where
  | strict
  | recovering
  deriving DecidableEq

structure Run where
  result : Except Failure Program
  events : List Event

/-- One event per token, then how the scan ended. -/
def Scan.events (scan : Scan) (bytes : Nat) : List Event :=
  scan.tokens.map .token ++ match scan.stop with
    | .ok _ => [.tokenized scan.tokens.length bytes]
    | .error error => [.tokenizeFailed error]

def Mode.parse (mode : Mode) (ts : TokenSequence) : Reply (Except Failure Program) :=
  match mode with
  | .strict => (Grammar.program ts).map (·.mapError .parse)
  | .recovering => (Grammar.programRecovering ts).map Recovered.toResult

def Mode.run (mode : Mode) (source : String) : Run :=
  let scan := scan source
  let scanned := scan.events source.utf8ByteSize
  match scan.sequence with
  | .error error => ⟨.error (.lex error), scanned⟩
  | .ok ts =>
    let reply := mode.parse ts
    ⟨reply.value, scanned ++ reply.events⟩

def parseSource (source : String) : Except Failure Program := (Mode.strict.run source).result

def parseSourceRecovering (source : String) : Except Failure Program :=
  (Mode.recovering.run source).result

end TypedDecl

import TypedDecl.Main
import TypedDecl.Proofs.CommandLine.Flags
import TypedDecl.Proofs.Grammar.Blindness
import TypedDecl.Proofs.Grammar.Termination
import TypedDecl.Proofs.Lexical.Separation
import TypedDecl.Proofs.Lexical.Slices
import TypedDecl.Proofs.Lexical.Tiling
import TypedDecl.Proofs.Source.Blanking
import TypedDecl.Proofs.Source.Diagnostics
import TypedDecl.Proofs.Source.Dumps
import TypedDecl.Proofs.Source.Log
import TypedDecl.Proofs.Source.Rendering
import TypedDecl.Proofs.Source.Reprinting
import TypedDecl.Proofs.Source.Sequences
import TypedDecl.Proofs.Source.Truncation

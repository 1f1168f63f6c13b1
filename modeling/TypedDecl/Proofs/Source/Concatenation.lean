import TypedDecl.Proofs.Grammar.Relabeled
import TypedDecl.Proofs.Lexical.Yield
import TypedDecl.Proofs.Source.Agreement

/-!
Sources put one after another.  An accepted source ends behind a semicolon, if it has any tokens, so
nothing that follows changes what it declares; and it moves what follows, but changes nothing else.
-/

namespace TypedDecl

open Text

def Program.append (first second : Program) : Program :=
  ⟨first.declarations ++ second.declarations⟩

instance : Append Program := ⟨Program.append⟩

namespace Recovered

/-- What is recovered when an accepted source of so many bytes is put in front. -/
def behind (program : Program) (bytes : Nat) (recovered : Recovered) : Recovered :=
  ⟨program ++ recovered.program, recovered.errors.map (Relabeling.shift bytes).parseError⟩

theorem toResult_behind (program : Program) (bytes : Nat) (recovered : Recovered) :
    (recovered.behind program bytes).toResult =
      (recovered.toResult.map (program ++ ·)).mapError (Relabeling.shift bytes).failure :=
  toResult_map _ _ recovered

end Recovered

section Accepted

variable {source : String} {program : Program}

theorem parseSource_eq_ok_iff :
    parseSource source = .ok program ↔ ∃ ts, tokenize source = .ok ts ∧ parse ts = .ok program := by
  cases found : tokenize source with
  | error error =>
    simp [parseSource_of_fault found]
  | ok ts =>
    rw [parseSource_eq_parse found]
    cases parsed : parse ts <;> simp [parsed, Except.mapError]

theorem semicolon_of_getLast? {groups : List (List Token)} {declarations : List Declaration}
    (each : List.Forall₂ Group groups declarations) :
    ∀ token ∈ groups.flatten.getLast?, token.kind = .symbol .semicolon := by
  induction each with
  | nil => nofun
  | @cons group _ groups _ isGroup _ ih =>
    obtain ⟨opener, name, equals, fits, semicolon⟩ := isGroup
    intro token last
    rw [List.flatten_cons, List.getLast?_append] at last
    cases later : groups.flatten.getLast? with
    | none =>
      obtain rfl : _ = token := by simpa [later] using last
      exact semicolon
    | some final =>
      obtain rfl : final = token := by simpa [later] using last
      exact ih final later

/-- Declarations end behind a semicolon, and no character makes a symbol longer. -/
theorem endBefore_of_groups {pieces : List Piece} {groups : List (List Token)}
    {declarations : List Declaration} (tokens : pieces.map Piece.token = groups.flatten)
    (each : List.Forall₂ Group groups declarations) (rest : List Char) :
    EndBefore pieces rest := by
  intro piece last c _
  have semicolon : piece.token.kind = .symbol .semicolon := by
    apply semicolon_of_getLast? each
    rw [← tokens, List.getLast?_map, Option.mem_def.mp last]
    rfl
  rw [semicolon]
  rfl

/-- An accepted source is laid out to its end, and nothing that follows makes it longer. -/
theorem exists_laid_of_accepted (accepted : parseSource source = .ok program) :
    ∃ pieces closing groups, WellLaid 0 pieces ∧ AllBlank closing ∧
      source.toList = spell pieces ++ closing ∧ (∀ rest, EndBefore pieces rest) ∧
      pieces.map Piece.token = groups.flatten ∧
      List.Forall₂ Group groups program.declarations := by
  obtain ⟨ts, found, parsed⟩ := parseSource_eq_ok_iff.mp accepted
  obtain ⟨pieces, closing, laid, blank, spelled, tokens⟩ := exists_laid_of_tokenize found
  obtain ⟨groups, body, each⟩ := groups_of_parse parsed
  rw [tokens] at body
  exact ⟨pieces, closing, groups, laid, blank, spelled, endBefore_of_groups body each, body, each⟩

end Accepted

section Append

variable {first second : String} {program : Program}

/-- Behind an accepted source the lexer reads the tokens it would read by themselves. -/
theorem tokens_append (accepted : parseSource first = .ok program) (second : String) :
    ∃ groups, List.Forall₂ Group groups program.declarations ∧
      (Lexer.ofSource (first ++ second)).tokens =
        (((Lexer.ofSource second).tokens.map
          (List.map (Relabeling.shift first.utf8ByteSize).token)).mapError
            (Relabeling.shift first.utf8ByteSize).lexError).map (groups.flatten ++ ·) := by
  obtain ⟨pieces, closing, groups, laid, blank, spelled, ends, tokens, each⟩ :=
    exists_laid_of_accepted accepted
  refine ⟨groups, each, ?_⟩
  have place : 0 + byteLength (spell pieces ++ closing) = first.utf8ByteSize + 0 := by
    rw [← spelled, byteLength_toList, Nat.zero_add, Nat.add_zero]
  rw [Lexer.ofSource, String.toList_append, spelled, Lexer.tokens_laid_append laid blank (ends _),
    tokens, place, Lexer.tokens_shift]
  rfl

theorem tokenize_append_of_fault {error : LexError} (accepted : parseSource first = .ok program)
    (found : tokenize second = .error error) :
    tokenize (first ++ second) =
      .error ((Relabeling.shift first.utf8ByteSize).lexError error) := by
  obtain ⟨groups, -, tokens⟩ := tokens_append accepted second
  rw [tokenize_eq_error_iff_yield, Lexer.yield_iff] at found ⊢
  rw [tokens, found]
  rfl

theorem tokenize_append_of_tokens {ts : TokenSequence} (accepted : parseSource first = .ok program)
    (found : tokenize second = .ok ts) :
    ∃ us, tokenize (first ++ second) = .ok us ∧
      parseRecovering us = (parseRecovering ts).behind program first.utf8ByteSize := by
  obtain ⟨groups, each, tokens⟩ := tokens_append accepted second
  have here := exists_tokenize_iff_yield.mp ⟨ts, found, rfl⟩
  rw [here.tokens_eq] at tokens
  obtain ⟨us, found', all⟩ := exists_tokenize_iff_yield.mpr (Lexer.yield_iff.mpr tokens)
  refine ⟨us, found', ?_⟩
  have starts : us.StartsWith groups.flatten
      ((Relabeling.shift first.utf8ByteSize).sequence ts) := by
    rw [TokenSequence.startsWith_iff_toList, all, Relabeling.toList_sequence]
  rw [parseRecovering_of_groups starts each, parseRecovering_sequence, Relabeling.declaration_shift,
    List.map_id]
  rfl

/-- What follows an accepted source is read as it would be by itself, only further on. -/
theorem parseSource_append (accepted : parseSource first = .ok program) (second : String) :
    parseSource (first ++ second) =
        ((parseSource second).map (program ++ ·)).mapError
          (Relabeling.shift first.utf8ByteSize).failure ∧
      parseSourceRecovering (first ++ second) =
        ((parseSourceRecovering second).map (program ++ ·)).mapError
          (Relabeling.shift first.utf8ByteSize).failure ∧
      ∀ ts, tokenize second = .ok ts → ∃ us, tokenize (first ++ second) = .ok us ∧
        (parseRecovering us).program = program ++ (parseRecovering ts).program := by
  cases found : tokenize second with
  | error error =>
    have moved := tokenize_append_of_fault accepted found
    refine ⟨?_, ?_, nofun⟩
    · rw [parseSource_of_fault moved, parseSource_of_fault found]
      rfl
    · rw [parseSourceRecovering_of_fault moved, parseSourceRecovering_of_fault found]
      rfl
  | ok ts =>
    obtain ⟨us, moved, recovered⟩ := tokenize_append_of_tokens accepted found
    refine ⟨?_, ?_, ?_⟩
    · rw [parseSource_of_tokens moved, parseSource_of_tokens found, recovered]
      obtain ⟨following, errors⟩ := parseRecovering ts
      cases errors <;> rfl
    · rw [parseSourceRecovering_of_tokens moved, parseSourceRecovering_of_tokens found, recovered]
      exact Recovered.toResult_behind program _ _
    · rintro _ ⟨⟩
      refine ⟨us, moved, ?_⟩
      rw [recovered]
      rfl

/-- Offsets count bytes: the letter with an accent takes up two of them. -/
theorem parseSource_append_two_errors :
    parseSource "string s = \"é\";" = .ok ⟨[⟨.string, "s", .quoted "é"⟩]⟩ ∧
      parseSourceRecovering ("string s = \"é\";" ++ "int y 6; bool z = 1;") =
        .error (.recovered
          [.unexpected .equals .integer 22, .typeMismatch .boolean .integer 34]) := by
  have accepted : parseSource "string s = \"é\";" = .ok ⟨[⟨.string, "s", .quoted "é"⟩]⟩ := by
    decide +kernel
  refine ⟨accepted, ?_⟩
  rw [(parseSource_append accepted "int y 6; bool z = 1;").2.1]
  decide +kernel

end Append

end TypedDecl

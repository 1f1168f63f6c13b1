import TypedDecl.Proofs.Grammar.Recovery
import TypedDecl.Proofs.Lexical.Truncation
import TypedDecl.Proofs.Source.Concatenation

/-!
Accepted sources that break off.  What was declared up to the break is declared as before, and
whatever was begun behind the last semicolon comes to one error, as no semicolon ends it.
-/

namespace TypedDecl

/-- Semicolons that end by the place are those among the tokens that do. -/
theorem countP_semicolons {whole others : List Token} {place : Nat}
    (ended : ∀ token ∈ whole, token.EndsBy place)
    (beyond : ∀ token ∈ others, ¬ token.EndsBy place) :
    (whole ++ others).countP (fun token => token.kind = .symbol .semicolon ∧ token.EndsBy place) =
      whole.countP (·.kind = .symbol .semicolon) := by
  have none : others.countP (fun token =>
      token.kind = .symbol .semicolon ∧ token.EndsBy place) = 0 := by
    apply List.countP_eq_zero.mpr
    intro token mem
    simp [beyond token mem]
  rw [List.countP_append, none, Nat.add_zero]
  apply List.countP_congr
  intro token mem
  simp [ended token mem]

/-- The tokens have so many semicolons.  The declarations that these end are kept, and there is one
error if tokens follow the last of them. -/
structure Degraded (program : Program) (completed : Nat) (us : TokenSequence) : Prop where
  completed_le : completed ≤ program.declarations.length
  length_segments : (cut us.body).1.length = completed
  program : (parseRecovering us).program = ⟨program.declarations.take completed⟩
  length_errors : (parseRecovering us).errors.length = if (cut us.body).2 = [] then 0 else 1

theorem degraded_of_beginning {program : Program} {groups : List (List Token)}
    {tokens others remainder : List Token} {us : TokenSequence}
    (each : List.Forall₂ Group groups program.declarations)
    (split : groups.flatten = tokens ++ others) (body : us.body = tokens ++ remainder)
    (free : SemicolonFree remainder) :
    Degraded program (tokens.countP (·.kind = .symbol .semicolon)) us := by
  obtain ⟨joined, segments, tailFree⟩ := cut_pieces tokens
  have kept := groups_of_beginning split each
  have ends : SemicolonFree ((cut tokens).2 ++ remainder) :=
    List.forall_mem_append.mpr ⟨tailFree, free⟩
  have parts : us.body = (cut tokens).1.flatten ++ ((cut tokens).2 ++ remainder) := by
    rw [body, ← List.append_assoc, ← joined]
  have cutBody := cut_eq_iff.mpr ⟨parts, segments, ends⟩
  obtain ⟨rest, starts, left⟩ := TokenSequence.exists_startsWith parts
  rw [← left] at ends
  obtain ⟨declared, errors⟩ := parseRecovering_of_semicolonFree ends
  have run := parseRecovering_of_groups starts kept
  rw [← length_cut]
  refine ⟨?_, ?_, ?_, ?_⟩
  · have lengths := kept.length_eq
    rw [List.length_take] at lengths
    omega
  · rw [cutBody]
  · rw [run, declared, List.append_nil]
  · rw [run, errors, left, cutBody]

/-- An accepted source that breaks off.  Inside of a string it has a fault, at the string's quote.
Elsewhere recovery keeps the declarations whose semicolons are left, and there is one error if
tokens are left behind the last of those. -/
theorem parseSource_truncated {front back : String} {program : Program}
    (accepted : parseSource (front ++ back) = .ok program) :
    ∃ ts, tokenize (front ++ back) = .ok ts ∧
      match tokenize front with
      | .error error => ∃ token ∈ ts.body, token.kind = .quoted ∧
        token.Straddles front.utf8ByteSize ∧ error = .unterminatedString token.offset
      | .ok us => (∀ token ∈ ts.body, token.kind = .quoted → ¬ token.Straddles front.utf8ByteSize) ∧
        Degraded program (ts.body.countP fun token =>
          token.kind = .symbol .semicolon ∧ token.EndsBy front.utf8ByteSize) us := by
  obtain ⟨ts, found, parsed⟩ := parseSource_eq_ok_iff.mp accepted
  obtain ⟨groups, body, each⟩ := groups_of_parse parsed
  refine ⟨ts, found, ?_⟩
  have cropped := cropped_of_tokenize found
  generalize read : (Lexer.ofSource front).tokens = result at cropped
  cases cropped with
  | @openString token mem quoted straddles =>
    rw [tokenize_eq_error_iff_yield.mpr (Lexer.yield_iff.mpr read)]
    exact ⟨token, mem, quoted, straddles, rfl⟩
  | @tokens whole others remainder split ended beyond closed free =>
    obtain ⟨us, found', all⟩ := exists_tokenize_iff_yield.mpr (Lexer.yield_iff.mpr read)
    have left : us.body = whole ++ remainder := (List.append_inj' all rfl).1
    have degraded := degraded_of_beginning each (body.symm.trans split) left free
    rw [← countP_semicolons ended beyond, ← split] at degraded
    rw [found']
    exact ⟨closed, degraded⟩

/-- The break is inside of the number, and the semicolon in the string ends no declaration. -/
theorem parseSource_truncated_in_number :
    parseSource ("string é = \"a;\"; int x = 1" ++ "0;") =
        .ok ⟨[⟨.string, "é", .quoted "a;"⟩, ⟨.int, "x", .integer "10"⟩]⟩ ∧
      ∃ us, tokenize "string é = \"a;\"; int x = 1" = .ok us ∧
        (parseRecovering us).program = ⟨[⟨.string, "é", .quoted "a;"⟩]⟩ ∧
        (parseRecovering us).errors.length = 1 := by
  have accepted : parseSource ("string é = \"a;\"; int x = 1" ++ "0;") =
      .ok ⟨[⟨.string, "é", .quoted "a;"⟩, ⟨.int, "x", .integer "10"⟩]⟩ := by decide +kernel
  refine ⟨accepted, ?_⟩
  obtain ⟨ts, found, left⟩ := parseSource_truncated accepted
  have tokens : tokenize ("string é = \"a;\"; int x = 1" ++ "0;") = .ok
      ⟨[⟨.type .string, "string", 0⟩, ⟨.identifier, "é", 7⟩, ⟨.symbol .equals, "=", 10⟩,
        ⟨.quoted, "a;", 12⟩, ⟨.symbol .semicolon, ";", 16⟩, ⟨.type .int, "int", 18⟩,
        ⟨.identifier, "x", 22⟩, ⟨.symbol .equals, "=", 24⟩, ⟨.integer, "10", 26⟩,
        ⟨.symbol .semicolon, ";", 28⟩], .endAt 29, by decide, rfl⟩ := by decide +kernel
  have read : tokenize "string é = \"a;\"; int x = 1" = .ok
      ⟨[⟨.type .string, "string", 0⟩, ⟨.identifier, "é", 7⟩, ⟨.symbol .equals, "=", 10⟩,
        ⟨.quoted, "a;", 12⟩, ⟨.symbol .semicolon, ";", 16⟩, ⟨.type .int, "int", 18⟩,
        ⟨.identifier, "x", 22⟩, ⟨.symbol .equals, "=", 24⟩, ⟨.integer, "1", 26⟩],
        .endAt 27, by decide, rfl⟩ := by decide +kernel
  rw [Except.ok.inj (found.symm.trans tokens), read] at left
  obtain ⟨-, degraded⟩ := left
  refine ⟨_, read, degraded.program.trans ?_, degraded.length_errors.trans ?_⟩ <;> decide +kernel

end TypedDecl

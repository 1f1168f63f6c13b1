import TypedDecl.Proofs.Lexical.Layout
import TypedDecl.Proofs.Relabeling

/-!
What a whole text yields: the tokens it is laid out from, or the fault that stands behind the last
of them.  `Yield` says so without the lexer, and `yield_iff` says that reading to the end gives
nothing else.  Where the text stands in a source changes the places only.
-/

namespace TypedDecl

open Text

namespace Lexer

inductive Yield (lexer : Lexer) : Except LexError (List Token) → Prop where
  | finish {pieces closing} : WellLaid lexer.offset pieces → AllBlank closing →
      lexer.rest = spell pieces ++ closing →
      Yield lexer (.ok (pieces.map Piece.token ++
        [.endAt (lexer.offset + byteLength (spell pieces ++ closing))]))
  | fault {pieces closing error taken rest} : WellLaid lexer.offset pieces → AllBlank closing →
      EndBefore pieces (closing ++ (taken ++ rest)) →
      lexer.rest = spell pieces ++ closing ++ (taken ++ rest) →
      Fault (lexer.offset + byteLength (spell pieces ++ closing)) error taken rest →
      Yield lexer (.error error)

variable {lexer : Lexer} {result : Except LexError (List Token)}

theorem Yield.tokens_eq (yields : Yield lexer result) : lexer.tokens = result := by
  obtain ⟨text, offset⟩ := lexer
  cases yields with
  | finish laid blank spelled =>
    simp only at spelled
    rw [spelled, tokens_spell_blank laid blank]
  | fault laid blank ends spelled fault =>
    simp only at spelled
    rw [byteLength_append, ← Nat.add_assoc] at fault
    rw [spelled, List.append_assoc, tokens_spell laid ends, ← List.append_assoc,
      tokens_fault blank fault]
    rfl

theorem exists_yield (lexer : Lexer) : ∃ result, Yield lexer result := by
  obtain ⟨pieces, closing, tail, laid, ends, blank, spelled, stop⟩ := lexer.exists_layout
  rw [← List.append_assoc] at spelled
  rcases stop with rfl | ⟨error, taken, rest, rfl, fault⟩
  · rw [List.append_nil] at spelled
    exact ⟨_, .finish laid blank spelled⟩
  · rw [Nat.add_assoc, ← byteLength_append] at fault
    exact ⟨_, .fault laid blank ends spelled fault⟩

theorem yield_iff : Yield lexer result ↔ lexer.tokens = result := by
  constructor
  · exact Yield.tokens_eq
  · rintro rfl
    obtain ⟨result, yields⟩ := exists_yield lexer
    rw [yields.tokens_eq]
    exact yields

theorem tokens_congr {first second : Lexer} (same : first.next = second.next) :
    first.tokens = second.tokens := by
  rcases found : second.next with ⟨read, after⟩
  cases read with
  | error error => rw [tokens_of_error (same.trans found), tokens_of_error found]
  | ok token =>
    by_cases isEnd : token.kind = .endOfInput
    · rw [tokens_of_end (same.trans found) isEnd, tokens_of_end found isEnd]
    · rw [tokens_of_token (same.trans found) isEnd, tokens_of_token found isEnd]

/-- Laid out text is read first, and what follows it where it stands. -/
theorem tokens_laid_append {offset : Nat} {pieces : List Piece} {closing text : List Char}
    (laid : WellLaid offset pieces) (blank : AllBlank closing)
    (ends : EndBefore pieces (closing ++ text)) :
    tokens ⟨spell pieces ++ closing ++ text, offset⟩ =
      (tokens ⟨text, offset + byteLength (spell pieces ++ closing)⟩).map
        (pieces.map Piece.token ++ ·) := by
  rw [List.append_assoc, tokens_spell laid ends, tokens_congr (next_gap blank), byteLength_append,
    Nat.add_assoc]

end Lexer

section Shift

variable (bytes : Nat) {offset : Nat} {pieces : List Piece} {rest : List Char}

def Relabeling.piece (f : Relabeling) (piece : Piece) : Piece := ⟨piece.gap, f.token piece.token⟩

theorem spell_shift (pieces : List Piece) :
    spell (pieces.map (Relabeling.shift bytes).piece) = spell pieces := by
  rw [spell, List.flatMap_map]
  rfl

theorem WellLaid.shift (laid : WellLaid offset pieces) :
    WellLaid (bytes + offset) (pieces.map (Relabeling.shift bytes).piece) := by
  induction pieces generalizing offset with
  | nil => exact wellLaid_nil _
  | cons piece pieces ih =>
    obtain ⟨blank, formed, here, next, later⟩ := wellLaid_cons.mp laid
    refine wellLaid_cons.mpr ⟨blank, formed.at _, ?_, ?_, ?_⟩
    · change bytes + piece.token.offset = bytes + offset + byteLength piece.gap
      omega
    · intro following head
      rw [List.head?_map] at head
      obtain ⟨original, first, rfl⟩ := Option.map_eq_some_iff.mp head
      exact next original first
    · have moved := ih later
      rwa [← Nat.add_assoc] at moved

theorem EndBefore.shift (ends : EndBefore pieces rest) :
    EndBefore (pieces.map (Relabeling.shift bytes).piece) rest := by
  intro piece last
  rw [List.getLast?_map] at last
  obtain ⟨original, final, rfl⟩ := Option.map_eq_some_iff.mp last
  exact ends original final

namespace Lexer

theorem Fault.shift {error : LexError} {taken : List Char} (fault : Fault offset error taken rest) :
    Fault (bytes + offset) ((Relabeling.shift bytes).lexError error) taken rest := by
  cases fault with
  | invalidCharacter solid word number string unknown =>
    exact .invalidCharacter solid word number string unknown
  | malformedNumber starts inside stop points => exact .malformedNumber starts inside stop points
  | unterminatedString inside => exact .unterminatedString inside

theorem Yield.shift {lexer : Lexer} {result : Except LexError (List Token)}
    (yields : Yield lexer result) :
    Yield ⟨lexer.rest, bytes + lexer.offset⟩
      ((result.map (List.map (Relabeling.shift bytes).token)).mapError
        (Relabeling.shift bytes).lexError) := by
  cases yields with
  | @finish pieces closing laid blank spelled =>
    have tokens : (pieces.map Piece.token ++
        [Token.endAt (lexer.offset + byteLength (spell pieces ++ closing))]).map
          (Relabeling.shift bytes).token =
        (pieces.map (Relabeling.shift bytes).piece).map Piece.token ++
          [.endAt (bytes + lexer.offset + byteLength (spell pieces ++ closing))] := by
      rw [List.map_append, List.map_map, List.map_map, Nat.add_assoc]
      rfl
    rw [Except.map, Except.mapError, tokens, ← spell_shift bytes pieces]
    apply Yield.finish (laid.shift bytes) blank
    rw [spell_shift, spelled]
  | fault laid blank ends spelled fault =>
    apply Yield.fault (laid.shift bytes) blank (ends.shift bytes)
    · rw [spell_shift, spelled]
    · rw [spell_shift, Nat.add_assoc]
      exact fault.shift bytes

theorem tokens_shift (text : List Char) (offset : Nat) :
    tokens ⟨text, bytes + offset⟩ =
      ((tokens ⟨text, offset⟩).map (List.map (Relabeling.shift bytes).token)).mapError
        (Relabeling.shift bytes).lexError := by
  have yields : Yield ⟨text, offset⟩ (tokens ⟨text, offset⟩) := yield_iff.mpr rfl
  exact (yields.shift bytes).tokens_eq

end Lexer

end Shift

section Sources

variable {source : String} {pieces : List Piece} {closing : List Char}

theorem tokenize_eq_error_iff_yield {error : LexError} :
    tokenize source = .error error ↔ Lexer.Yield (.ofSource source) (.error error) := by
  rw [Lexer.yield_iff, Lexer.tokens, tokenize, scan]
  cases (Lexer.ofSource source).scan.sequence <;> simp [Except.map]

theorem exists_tokenize_iff_yield {tokens : List Token} :
    (∃ ts, tokenize source = .ok ts ∧ ts.toList = tokens) ↔
      Lexer.Yield (.ofSource source) (.ok tokens) := by
  rw [Lexer.yield_iff, Lexer.tokens, tokenize, scan]
  cases (Lexer.ofSource source).scan.sequence <;> simp [Except.map]

theorem exists_tokenize_of_laid (laid : WellLaid 0 pieces) (blank : AllBlank closing)
    (spelled : source.toList = spell pieces ++ closing) :
    ∃ ts, tokenize source = .ok ts ∧ ts.body = pieces.map Piece.token := by
  obtain ⟨ts, found, tokens⟩ := exists_tokenize_iff_yield.mpr (.finish laid blank spelled)
  exact ⟨ts, found, (List.append_inj' tokens rfl).1⟩

theorem exists_laid_of_tokenize {ts : TokenSequence} (found : tokenize source = .ok ts) :
    ∃ pieces closing, WellLaid 0 pieces ∧ AllBlank closing ∧
      source.toList = spell pieces ++ closing ∧ ts.body = pieces.map Piece.token := by
  have yields := exists_tokenize_iff_yield.mp ⟨ts, found, rfl⟩
  generalize all : ts.toList = tokens at yields
  cases yields with
  | @finish pieces closing laid blank spelled =>
    exact ⟨pieces, closing, laid, blank, spelled, (List.append_inj' all rfl).1⟩

end Sources

end TypedDecl

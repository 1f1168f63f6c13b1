import TypedDecl.Proofs.Grammar.Relabeled
import TypedDecl.Proofs.Grammar.Reports
import TypedDecl.Proofs.Lexical.Offsets
import TypedDecl.Proofs.Source.Agreement

/-!
Tokens printed again.  Whatever blanks the tokens of a source are printed with, they are read back,
and parsing does with them what it did in the source, at their new places.
-/

namespace TypedDecl

open Text

/-- The text holds the tokens and no others, with blanks between any two of them. -/
def TokenSequence.PrintedAs (ts : TokenSequence) (text : String) : Prop :=
  ∃ pieces closing, pieces.map Piece.token = ts.body ∧ (∀ piece ∈ pieces, AllBlank piece.gap) ∧
    (∀ piece ∈ pieces.tail, piece.gap ≠ []) ∧ AllBlank closing ∧
    text.toList = spell pieces ++ closing

/-- The tokens in one line. -/
def TokenSequence.print (ts : TokenSequence) : String := " ".intercalate (ts.body.map Token.text)

def Failure.parseErrors : Failure → List ParseError
  | .lex _ => []
  | .parse error => [error]
  | .recovered errors => errors

/-- The text has the tokens of the source at places of its own, and parsing tells the two apart by
the places of errors alone.  Each of these is the place of a token. -/
structure ReadAlike (source : String) (ts : TokenSequence) (text : String) (us : TokenSequence)
    (place : Nat → Nat) : Prop where
  tokens : us.toList = ts.toList.map (Relabeling.move place).token
  strict : parseSource text = (parseSource source).mapError (Relabeling.move place).failure
  recovering : parseSourceRecovering text =
    (parseSourceRecovering source).mapError (Relabeling.move place).failure
  reported : ∀ failure,
    parseSource source = .error failure ∨ parseSourceRecovering source = .error failure →
      ∀ error ∈ failure.parseErrors, ∃ token ∈ ts.toList, error.PointsAt token

section Places

/-- The tokens differ in their places at most. -/
def Token.SameText (first second : Token) : Prop :=
  first.kind = second.kind ∧ first.lexeme = second.lexeme

theorem sameText_lay (offset : Nat) (pieces : List Piece) :
    List.Forall₂ Token.SameText (pieces.map Piece.token)
      ((lay offset pieces).map Piece.token) := by
  induction pieces generalizing offset with
  | nil => exact .nil
  | cons piece pieces ih => exact .cons ⟨rfl, rfl⟩ (ih _)

/-- Where no two tokens share a place, each place tells where its token has gone. -/
theorem exists_place {tokens moved : List Token} (same : List.Forall₂ Token.SameText tokens moved)
    (distinct : tokens.Pairwise (·.offset ≠ ·.offset)) :
    ∃ place, moved = tokens.map (Relabeling.move place).token := by
  induction same with
  | nil => exact ⟨id, rfl⟩
  | @cons token token' tokens moved texts _ ih =>
    obtain ⟨others, distinct⟩ := List.pairwise_cons.mp distinct
    obtain ⟨place, rfl⟩ := ih distinct
    refine ⟨Function.update place token.offset token'.offset, ?_⟩
    rw [List.map_cons, List.cons.injEq]
    constructor
    · obtain ⟨kind, lexeme, offset⟩ := token'
      obtain ⟨rfl, rfl⟩ := texts
      simp [Relabeling.token, Relabeling.move]
    · apply List.map_congr_left
      intro later mem
      have elsewhere : later.offset ≠ token.offset := (others later mem).symm
      simp [Relabeling.token, Relabeling.move, elsewhere]

end Places

section Moved

variable {source text : String} {ts us : TokenSequence} {place : Nat → Nat}

theorem parseRecovering_move (place : Nat → Nat) (ts : TokenSequence) :
    parseRecovering ((Relabeling.move place).sequence ts) =
      ⟨(parseRecovering ts).program,
        (parseRecovering ts).errors.map (Relabeling.move place).parseError⟩ := by
  rw [parseRecovering_sequence, Relabeling.declaration_move, List.map_id]

theorem Recovered.parseErrors_of_toResult {recovered : Recovered} {failure : Failure}
    (failed : recovered.toResult = .error failure) : failure.parseErrors = recovered.errors := by
  unfold toResult at failed
  split at failed
  · cases failed
  · next single =>
    cases failed
    exact single.symm
  · cases failed
    rfl

theorem mem_errors_of_failed (found : tokenize source = .ok ts) {failure : Failure}
    (failed : parseSource source = .error failure ∨ parseSourceRecovering source = .error failure)
    {error : ParseError} (mem : error ∈ failure.parseErrors) :
    error ∈ (parseRecovering ts).errors := by
  rcases failed with strict | recovering
  · rw [parseSource_of_tokens found] at strict
    split at strict
    · cases strict
    · next all =>
      cases strict
      obtain rfl := List.mem_singleton.mp mem
      rw [all]
      exact List.mem_cons_self
  · rw [parseSourceRecovering_of_tokens found] at recovering
    rwa [Recovered.parseErrors_of_toResult recovering] at mem

/-- Tokens that differ in their places alone are parsed alike. -/
theorem readAlike_of_toList (found : tokenize source = .ok ts) (found' : tokenize text = .ok us)
    (tokens : us.toList = ts.toList.map (Relabeling.move place).token) :
    ReadAlike source ts text us place := by
  have same : us = (Relabeling.move place).sequence ts := by
    apply TokenSequence.startsWith_nil.mp
    rw [TokenSequence.startsWith_iff_toList, tokens, Relabeling.toList_sequence]
    rfl
  have recovered := parseRecovering_move place ts
  rw [← same] at recovered
  constructor
  · exact tokens
  · rw [parseSource_of_tokens found', parseSource_of_tokens found, recovered]
    cases (parseRecovering ts).errors <;> rfl
  · rw [parseSourceRecovering_of_tokens found', parseSourceRecovering_of_tokens found, recovered]
    have results := (parseRecovering ts).toResult_map (Relabeling.move place) id
    rwa [Except.map_id] at results
  · intro failure failed error mem
    exact exists_token_of_mem_errors (mem_errors_of_failed found failed mem)

end Moved

section Printed

/-- With blanks in front of all tokens but the first, none can make another longer. -/
theorem apart_of_separated {pieces : List Piece}
    (separated : ∀ piece ∈ pieces.tail, piece.gap ≠ []) :
    pieces.IsChain fun first second => second.ApartFrom first.token := by
  induction pieces with
  | nil => exact .nil
  | cons piece pieces ih =>
    apply List.isChain_cons.mpr
    constructor
    · intro next head c _ _
      exact separated next (List.mem_of_mem_head? head)
    · apply ih
      intro later mem
      exact separated later (List.mem_of_mem_tail mem)

/-- Pieces without places are read at the places they come to. -/
theorem exists_tokenize_of_layable {text : String} {pieces : List Piece} {closing : List Char}
    (layable : Layable pieces) (blank : AllBlank closing)
    (spelled : text.toList = spell pieces ++ closing) :
    ∃ us, tokenize text = .ok us ∧ us.body = (lay 0 pieces).map Piece.token := by
  rw [← spell_lay 0] at spelled
  exact exists_tokenize_of_laid (layable.wellLaid 0) blank spelled

variable {source text : String} {ts : TokenSequence}

theorem exists_tokenize_of_printed (found : tokenize source = .ok ts)
    (printed : ts.PrintedAs text) :
    ∃ us place, tokenize text = .ok us ∧ ReadAlike source ts text us place := by
  obtain ⟨pieces, closing, body, gaps, separated, blank, spelled⟩ := printed
  have formed := wellFormed_of_tokenize found
  rw [← body, List.forall_mem_map] at formed
  obtain ⟨us, found', body'⟩ :=
    exists_tokenize_of_layable ⟨gaps, formed, apart_of_separated separated⟩ blank spelled
  have same : List.Forall₂ Token.SameText ts.toList us.toList := by
    rw [TokenSequence.toList, TokenSequence.toList, ← body, body']
    apply List.rel_append (sameText_lay 0 pieces)
    rw [last_of_tokenize found, last_of_tokenize found']
    exact .cons ⟨rfl, rfl⟩ .nil
  have distinct : ts.toList.Pairwise (·.offset ≠ ·.offset) :=
    (ascending_of_tokenize found).imp Nat.ne_of_lt
  obtain ⟨place, tokens⟩ := exists_place same distinct
  exact ⟨us, place, found', readAlike_of_toList found found' tokens⟩

/-- Pieces with nothing behind them are read to the end of the text. -/
theorem tokenize_spell {text : String} {pieces : List Piece} (layable : Layable pieces)
    (spelled : text.toList = spell pieces) :
    (tokenize text).map TokenSequence.toList =
      .ok ((lay 0 pieces).map Piece.token ++ [.endAt text.utf8ByteSize]) := by
  rw [← List.append_nil (spell pieces)] at spelled
  obtain ⟨us, found, body⟩ := exists_tokenize_of_layable layable allBlank_nil spelled
  rw [found, Except.map, TokenSequence.toList, body, last_of_tokenize found]

theorem tokenize_text {token : Token} (formed : token.WellFormed) :
    (tokenize token.text).map TokenSequence.toList =
      .ok [⟨token.kind, token.lexeme, 0⟩, .endAt token.extent] := by
  have layable : Layable [⟨[], token⟩] :=
    ⟨by simp [AllBlank], by simpa using formed, .singleton _⟩
  rw [tokenize_spell layable (by simp), token.utf8ByteSize_text]
  rfl

theorem tokenize_empty : (tokenize "").map TokenSequence.toList = .ok [.endAt 0] := by
  have layable : Layable [] := ⟨nofun, nofun, .nil⟩
  rw [tokenize_spell layable (by simp)]
  rfl

theorem text_last (found : tokenize source = .ok ts) : ts.last.text = "" := by
  rw [last_of_tokenize found]
  rfl

/-- The first token with nothing in front, the others with one blank each. -/
def singleSpaced : List Token → List Piece
  | [] => []
  | token :: tokens => ⟨[], token⟩ :: tokens.map (⟨[' '], ·⟩)

theorem spell_singleSpaced (tokens : List Token) :
    (" ".intercalate (tokens.map Token.text)).toList = spell (singleSpaced tokens) := by
  rw [String.toList_intercalate]
  induction tokens with
  | nil => rfl
  | cons token tokens ih =>
    cases tokens with
    | nil => simp [singleSpaced]
    | cons second tokens =>
      simp only [List.map_cons] at ih ⊢
      rw [List.intercalate_cons_cons, ih]
      simp [singleSpaced]

theorem printedAs_print (ts : TokenSequence) : ts.PrintedAs ts.print := by
  have tokens : (singleSpaced ts.body).map Piece.token = ts.body := by
    cases ts.body <;> simp [singleSpaced, Function.comp_def]
  refine ⟨singleSpaced ts.body, [], tokens, ?_, ?_, allBlank_nil, ?_⟩
  · cases ts.body <;> simp [singleSpaced, AllBlank, isBlank]
  · cases ts.body <;> simp [singleSpaced]
  · rw [TokenSequence.print, spell_singleSpaced, List.append_nil]

theorem ReadAlike.print_eq {us : TokenSequence} {place : Nat → Nat}
    (alike : ReadAlike source ts text us place) : us.print = ts.print := by
  have body : us.body = ts.body.map (Relabeling.move place).token := by
    have tokens := alike.tokens
    rw [TokenSequence.toList, TokenSequence.toList, List.map_append] at tokens
    exact (List.append_inj' tokens rfl).1
  rw [TokenSequence.print, body, List.map_map]
  rfl

end Printed

/-- Printed again, the tokens of a source mean what they meant in it; each of them is read from its
own text; and in one line they are printed as they were. -/
theorem tokenize_printed {source : String} {ts : TokenSequence} (found : tokenize source = .ok ts) :
    (∀ text, ts.PrintedAs text →
      ∃ us place, tokenize text = .ok us ∧ ReadAlike source ts text us place) ∧
    (∀ token ∈ ts.body, (tokenize token.text).map TokenSequence.toList =
      .ok [⟨token.kind, token.lexeme, 0⟩, .endAt token.extent]) ∧
    (tokenize ts.last.text).map TokenSequence.toList = .ok [.endAt 0] ∧
    ts.PrintedAs ts.print ∧ ∃ us, tokenize ts.print = .ok us ∧ us.print = ts.print := by
  refine ⟨?_, ?_, ?_, printedAs_print ts, ?_⟩
  · intro text printed
    exact exists_tokenize_of_printed found printed
  · intro token mem
    exact tokenize_text (wellFormed_of_tokenize found token mem)
  · rw [text_last found]
    exact tokenize_empty
  · obtain ⟨us, place, found', alike⟩ := exists_tokenize_of_printed found (printedAs_print ts)
    exact ⟨us, found', alike.print_eq⟩

/-- Both errors move with their tokens, by the bytes of the blanks printed in front of them. -/
theorem tokenize_printed_two_errors :
    ∃ ts us place, tokenize "int x=7.;é y" = .ok ts ∧
      ts.PrintedAs " int\tx = 7.\n;  é y\r" ∧ tokenize " int\tx = 7.\n;  é y\r" = .ok us ∧
      ReadAlike "int x=7.;é y" ts " int\tx = 7.\n;  é y\r" us place ∧
      parseSourceRecovering "int x=7.;é y" = .error (.recovered
        [.typeMismatch .int .floating 6, .unexpected .declaration .identifier 9]) ∧
      parseSourceRecovering " int\tx = 7.\n;  é y\r" = .error (.recovered
        [.typeMismatch .int .floating 9, .unexpected .declaration .identifier 15]) := by
  obtain ⟨ts, found, printed⟩ : ∃ ts, tokenize "int x=7.;é y" = .ok ts ∧
      ts.PrintedAs " int\tx = 7.\n;  é y\r" := by
    refine ⟨⟨[⟨.type .int, "int", 0⟩, ⟨.identifier, "x", 4⟩, ⟨.symbol .equals, "=", 5⟩,
        ⟨.floating, "7.", 6⟩, ⟨.symbol .semicolon, ";", 8⟩, ⟨.identifier, "é", 9⟩,
        ⟨.identifier, "y", 12⟩], .endAt 13, by decide, rfl⟩, by decide +kernel, ?_⟩
    refine ⟨[⟨[' '], _⟩, ⟨['\t'], _⟩, ⟨[' '], _⟩, ⟨[' '], _⟩, ⟨['\n'], _⟩, ⟨[' ', ' '], _⟩,
      ⟨[' '], _⟩], ['\r'], rfl, ?_, ?_, ?_, by decide⟩
    all_goals simp [AllBlank, isBlank]
  obtain ⟨us, place, found', alike⟩ := (tokenize_printed found).1 _ printed
  exact ⟨ts, us, place, found, printed, found', alike, by decide +kernel, by decide +kernel⟩

end TypedDecl

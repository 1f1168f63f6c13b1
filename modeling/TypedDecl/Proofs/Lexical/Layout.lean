import Mathlib.Data.List.Chain
import TypedDecl.Proofs.Lexical.Reading
import TypedDecl.Token.Scan

/-!
Layouts: tokens spelled out one after another, with blanks between them.  Every text is laid out up
to its end or its first fault, and the tokens of a source are exactly those it is a layout of.
-/

namespace TypedDecl

open Text

/-- A token with the blanks in front of it. -/
structure Piece where
  gap : List Char
  token : Token

namespace Piece

def text (piece : Piece) : List Char := piece.gap ++ piece.token.text.toList

/-- Where the piece would make the token before it longer it has blanks in front. -/
def ApartFrom (next : Piece) (token : Token) : Prop :=
  ∀ c ∈ next.token.text.toList.head?, token.kind.extendedBy c = true → next.gap ≠ []

end Piece

def spell (pieces : List Piece) : List Char := pieces.flatMap Piece.text

@[simp] theorem spell_nil : spell [] = [] := rfl

@[simp] theorem spell_cons (piece : Piece) (pieces : List Piece) :
    spell (piece :: pieces) = piece.gap ++ piece.token.text.toList ++ spell pieces := by
  simp [spell, Piece.text]

/-- The pieces may stand in a source from the given offset on. -/
structure WellLaid (offset : Nat) (pieces : List Piece) : Prop where
  blank : ∀ piece ∈ pieces, AllBlank piece.gap
  formed : ∀ piece ∈ pieces, piece.token.WellFormed
  extent : ∀ piece ∈ pieces, byteLength piece.token.text.toList = piece.token.extent
  place : ∀ before piece after, pieces = before ++ piece :: after →
    piece.token.offset = offset + byteLength (spell before ++ piece.gap)
  apart : pieces.IsChain fun first second => second.ApartFrom first.token

theorem byteLength_text (token : Token) : byteLength token.text.toList = token.extent := by
  rw [byteLength_toList, token.utf8ByteSize_text]

theorem wellLaid_nil (offset : Nat) : WellLaid offset [] :=
  ⟨nofun, nofun, nofun, by simp, .nil⟩

theorem wellLaid_cons {offset : Nat} {piece : Piece} {pieces : List Piece} :
    WellLaid offset (piece :: pieces) ↔
      AllBlank piece.gap ∧ piece.token.WellFormed ∧
        piece.token.offset = offset + byteLength piece.gap ∧
        (∀ next ∈ pieces.head?, next.ApartFrom piece.token) ∧
        WellLaid (piece.token.offset + piece.token.extent) pieces := by
  constructor
  · rintro ⟨blank, formed, extent, place, apart⟩
    have here : piece.token.offset = offset + byteLength piece.gap := place [] piece pieces rfl
    refine ⟨blank piece List.mem_cons_self, formed piece List.mem_cons_self, here,
      (List.isChain_cons.mp apart).1, ?_⟩
    refine ⟨?_, ?_, ?_, ?_, (List.isChain_cons.mp apart).2⟩
    · intro p mem
      exact blank p (.tail _ mem)
    · intro p mem
      exact formed p (.tail _ mem)
    · intro p mem
      exact extent p (.tail _ mem)
    · rintro before p after rfl
      have := place (piece :: before) p after rfl
      simp only [spell_cons, byteLength_append, byteLength_text] at this ⊢
      omega
  · rintro ⟨blank, formed, here, next, rest⟩
    constructor
    · exact List.forall_mem_cons.mpr ⟨blank, rest.blank⟩
    · exact List.forall_mem_cons.mpr ⟨formed, rest.formed⟩
    · intro p mem
      exact byteLength_text p.token
    · intro before p after split
      cases before with
      | nil =>
        obtain ⟨rfl, -⟩ := List.cons.inj split
        exact here
      | cons first before =>
        obtain ⟨rfl, same⟩ := List.cons.inj split
        have := rest.place before p after same
        simp only [spell_cons, byteLength_append, byteLength_text] at this ⊢
        omega
    · exact List.isChain_cons.mpr ⟨next, rest.apart⟩

theorem TokenKind.extendedBy_of_isBlank {c : Char} (blank : isBlank c = true) (kind : TokenKind) :
    kind.extendedBy c = false := by
  cases kind <;>
    first
    | rfl
    | exact continuesWord_of_isBlank blank
    | exact continuesNumber_of_isBlank blank

theorem Token.EndsBefore.of_blank (token : Token) {gap : List Char} (blank : AllBlank gap) :
    token.EndsBefore gap := by
  intro c head
  exact TokenKind.extendedBy_of_isBlank (blank c (List.mem_of_mem_head? head)) token.kind

theorem Token.WellFormed.text_ne_nil {token : Token} (formed : token.WellFormed) :
    token.text.toList ≠ [] := by
  cases formed with
  | word => simp [text, TokenKind.ofWord_ne_quoted]
  | _ => simp [text]

theorem Token.WellFormed.kind_ne_endOfInput {token : Token} (formed : token.WellFormed) :
    token.kind ≠ .endOfInput := by
  cases formed with
  | word => exact TokenKind.ofWord_ne_endOfInput _
  | _ => nofun

/-- Between two pieces the gap decides, behind the last one the text that follows. -/
theorem endsBefore_spell_iff {offset : Nat} {token : Token} {pieces : List Piece}
    (laid : WellLaid offset pieces) (rest : List Char) :
    token.EndsBefore (spell pieces ++ rest) ↔
      (∀ next ∈ pieces.head?, next.ApartFrom token) ∧
        (pieces = [] → token.EndsBefore rest) := by
  cases pieces with
  | nil => simp
  | cons next pieces =>
    obtain ⟨blank, formed, -⟩ := wellLaid_cons.mp laid
    simp only [List.head?_cons, Option.mem_some_iff, forall_eq', reduceCtorEq, false_implies,
      and_true, spell_cons, Token.EndsBefore, Piece.ApartFrom]
    cases gap : next.gap with
    | nil =>
      obtain ⟨c, cs, text⟩ := List.exists_cons_of_ne_nil formed.text_ne_nil
      simp [text]
    | cons c cs =>
      have : isBlank c = true := blank c (by simp [gap])
      simp [TokenKind.extendedBy_of_isBlank this]

/-- Text that touches the last piece does not make its token longer. -/
def EndBefore (pieces : List Piece) (rest : List Char) : Prop :=
  ∀ piece ∈ pieces.getLast?, piece.token.EndsBefore rest

theorem endBefore_nil (rest : List Char) : EndBefore [] rest := nofun

theorem endBefore_cons {piece : Piece} {pieces : List Piece} {rest : List Char} :
    EndBefore (piece :: pieces) rest ↔
      (pieces = [] → piece.token.EndsBefore rest) ∧ EndBefore pieces rest := by
  cases pieces with
  | nil => simp [EndBefore]
  | cons next pieces => simp [EndBefore, List.getLast?_cons]

theorem EndBefore.of_blank (pieces : List Piece) {gap : List Char} (blank : AllBlank gap) :
    EndBefore pieces gap := by
  intro piece last
  exact .of_blank piece.token blank

/-- With the text behind them in view, the pieces are laid one after another. -/
theorem wellLaid_cons_endBefore_iff {offset : Nat} {piece : Piece} {pieces : List Piece}
    {rest : List Char} :
    WellLaid offset (piece :: pieces) ∧ EndBefore (piece :: pieces) rest ↔
      AllBlank piece.gap ∧ piece.token.WellFormed ∧
        piece.token.offset = offset + byteLength piece.gap ∧
        piece.token.EndsBefore (spell pieces ++ rest) ∧
        WellLaid (piece.token.offset + piece.token.extent) pieces ∧ EndBefore pieces rest := by
  rw [wellLaid_cons, endBefore_cons]
  constructor
  · rintro ⟨⟨blank, formed, here, next, laid⟩, last, ends⟩
    exact ⟨blank, formed, here, (endsBefore_spell_iff laid rest).mpr ⟨next, last⟩, laid, ends⟩
  · rintro ⟨blank, formed, here, stops, laid, ends⟩
    obtain ⟨next, last⟩ := (endsBefore_spell_iff laid rest).mp stops
    exact ⟨⟨blank, formed, here, next, laid⟩, last, ends⟩

/-- The tokens of a text from some offset on, the end included. -/
def Lexer.tokens (lexer : Lexer) : Except LexError (List Token) :=
  lexer.scan.sequence.map TokenSequence.toList

namespace Lexer

variable {lexer after : Lexer}

theorem tokens_of_token {token : Token} (read : lexer.next = (.ok token, after))
    (notEnd : token.kind ≠ .endOfInput) : lexer.tokens = after.tokens.map (token :: ·) := by
  have scanned : lexer.scan = .cons token notEnd after.scan := by
    rw [Lexer.scan]
    split
    · next found => simp [read] at found
    · next found =>
      obtain rfl : token = _ := by simpa [read] using found
      simp only [notEnd, ↓reduceDIte, read]
  rw [tokens, scanned, Scan.sequence_cons]
  cases found : after.scan.sequence <;> simp [tokens, found, Except.map]

theorem tokens_of_end {token : Token} (read : lexer.next = (.ok token, after))
    (isEnd : token.kind = .endOfInput) : lexer.tokens = .ok [token] := by
  have scanned : lexer.scan = .ofEnd token isEnd := by
    rw [Lexer.scan]
    split
    · next found => simp [read] at found
    · next found =>
      obtain rfl : token = _ := by simpa [read] using found
      simp only [isEnd, ↓reduceDIte]
  rw [tokens, scanned, Scan.sequence_ofEnd]
  rfl

theorem tokens_of_error {error : LexError} (read : lexer.next = (.error error, after)) :
    lexer.tokens = .error error := by
  have scanned : lexer.scan = .ofFault error := by
    rw [Lexer.scan]
    split
    · next found =>
      obtain rfl : error = _ := by simpa [read] using found
      rfl
    · next found => simp [read] at found
  rw [tokens, scanned, Scan.sequence_ofFault]
  rfl

theorem tokens_blank {closing : List Char} {offset : Nat} (blank : AllBlank closing) :
    tokens ⟨closing, offset⟩ = .ok [.endAt (offset + byteLength closing)] :=
  tokens_of_end (reading_iff.mp (.finish blank)) rfl

theorem tokens_fault {gap taken rest : List Char} {offset : Nat} {error : LexError}
    (blank : AllBlank gap) (fault : Fault (offset + byteLength gap) error taken rest) :
    tokens ⟨gap ++ taken ++ rest, offset⟩ = .error error :=
  tokens_of_error (reading_iff.mp (.fault blank rfl fault))

/-- Pieces are read back one by one, whatever follows them. -/
theorem tokens_spell {offset : Nat} {pieces : List Piece} {rest : List Char}
    (laid : WellLaid offset pieces) (ends : EndBefore pieces rest) :
    tokens ⟨spell pieces ++ rest, offset⟩ =
      (tokens ⟨rest, offset + byteLength (spell pieces)⟩).map (pieces.map Piece.token ++ ·) := by
  induction pieces generalizing offset with
  | nil => cases found : tokens ⟨rest, offset⟩ <;> simp [found, Except.map]
  | cons piece pieces ih =>
    obtain ⟨blank, formed, here, stops, later, last⟩ := wellLaid_cons_endBefore_iff.mp ⟨laid, ends⟩
    have read : next ⟨spell (piece :: pieces) ++ rest, offset⟩ =
        (.ok piece.token, ⟨spell pieces ++ rest, piece.token.offset + piece.token.extent⟩) := by
      apply reading_iff.mp
      exact .token blank formed stops (by simp) here
    have place : piece.token.offset + piece.token.extent + byteLength (spell pieces) =
        offset + byteLength (spell (piece :: pieces)) := by
      simp only [spell_cons, byteLength_append, byteLength_text]
      omega
    rw [tokens_of_token read formed.kind_ne_endOfInput, ih later last, place]
    cases tokens ⟨rest, offset + byteLength (spell (piece :: pieces))⟩ <;> simp [Except.map]

theorem tokens_spell_blank {offset : Nat} {pieces : List Piece} {closing : List Char}
    (laid : WellLaid offset pieces) (blank : AllBlank closing) :
    tokens ⟨spell pieces ++ closing, offset⟩ =
      .ok (pieces.map Piece.token ++ [.endAt (offset + byteLength (spell pieces ++ closing))]) := by
  rw [tokens_spell laid (.of_blank pieces blank), tokens_blank blank, byteLength_append,
    Nat.add_assoc]
  rfl

/-- Every text is laid out up to its end or its first fault. -/
theorem exists_layout (lexer : Lexer) :
    ∃ pieces closing tail, WellLaid lexer.offset pieces ∧ EndBefore pieces (closing ++ tail) ∧
      AllBlank closing ∧ lexer.rest = spell pieces ++ (closing ++ tail) ∧
      (tail = [] ∨ ∃ error taken rest, tail = taken ++ rest ∧ Fault
        (lexer.offset + byteLength (spell pieces) + byteLength closing) error taken rest) := by
  induction size : lexer.rest.length using Nat.strong_induction_on generalizing lexer with
  | _ length ih =>
    obtain ⟨step, reading⟩ := exists_reading lexer
    cases reading with
    | @token gap token rest blank formed ends split here =>
      have shorter : rest.length < length := by
        have := List.length_pos_of_ne_nil formed.text_ne_nil
        simp only [split, List.length_append] at size
        omega
      obtain ⟨pieces, closing, tail, laid, last, closed, spelled, stop⟩ :=
        ih rest.length shorter ⟨rest, token.offset + token.extent⟩ rfl
      simp only at spelled stop
      rw [spelled] at ends
      have whole : WellLaid lexer.offset (⟨gap, token⟩ :: pieces) ∧
          EndBefore (⟨gap, token⟩ :: pieces) (closing ++ tail) := by
        apply wellLaid_cons_endBefore_iff.mpr
        exact ⟨blank, formed, here, ends, laid, last⟩
      refine ⟨⟨gap, token⟩ :: pieces, closing, tail, whole.1, whole.2, closed, ?_, ?_⟩
      · rw [split, spelled]
        simp
      · have place : token.offset + token.extent + byteLength (spell pieces) =
            lexer.offset + byteLength (spell (⟨gap, token⟩ :: pieces)) := by
          simp only [spell_cons, byteLength_append, byteLength_text]
          omega
        rwa [← place]
    | finish blank =>
      exact ⟨[], lexer.rest, [], wellLaid_nil _, endBefore_nil _, blank, by simp, .inl rfl⟩
    | @fault gap error taken rest blank split fault =>
      refine ⟨[], gap, taken ++ rest, wellLaid_nil _, endBefore_nil _, blank, ?_, ?_⟩
      · rw [split]
        simp
      · exact .inr ⟨error, taken, rest, rfl, fault⟩

end Lexer

/-- Reading succeeds on the laid out texts alone, and gives the tokens they are laid out from. -/
theorem tokenize_eq_ok_iff (source : String) (tokens : List Token) :
    (tokenize source).map TokenSequence.toList = .ok tokens ↔
      ∃ pieces closing, WellLaid 0 pieces ∧ AllBlank closing ∧
        source.toList = spell pieces ++ closing ∧
        tokens = pieces.map Piece.token ++ [.endAt source.utf8ByteSize] := by
  change (Lexer.ofSource source).tokens = .ok tokens ↔ _
  have size : byteLength source.toList = source.utf8ByteSize := byteLength_toList source
  constructor
  · intro found
    obtain ⟨pieces, closing, tail, laid, ends, blank, spelled, stop⟩ :=
      Lexer.exists_layout (.ofSource source)
    simp only [Lexer.ofSource] at found laid spelled stop
    rcases stop with rfl | ⟨error, taken, rest, rfl, fault⟩
    · rw [List.append_nil] at spelled
      rw [spelled, Lexer.tokens_spell_blank laid blank, ← spelled, size, Nat.zero_add] at found
      exact ⟨pieces, closing, laid, blank, spelled, (Except.ok.inj found).symm⟩
    · rw [spelled, Lexer.tokens_spell laid ends, ← List.append_assoc,
        Lexer.tokens_fault blank fault] at found
      cases found
  · rintro ⟨pieces, closing, laid, blank, spelled, rfl⟩
    rw [Lexer.ofSource, spelled, Lexer.tokens_spell_blank laid blank, ← spelled, size,
      Nat.zero_add]

end TypedDecl

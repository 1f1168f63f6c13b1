import TypedDecl.Proofs.Lexical.Placement
import TypedDecl.Proofs.Lexical.Yield

/-!
Offsets of tokens.  A token stands where a character of the source begins, before every token that
follows it, and only the end of input stands at the end of the source.
-/

namespace TypedDecl

open Text

theorem isValid_of_split {source : String} {before after : List Char}
    (split : source.toList = before ++ after) :
    (⟨byteLength before⟩ : String.Pos.Raw).IsValid source := by
  apply String.Pos.Raw.isValid_iff_exists_append.mpr
  refine ⟨.ofList before, .ofList after, ?_, ?_⟩
  · rw [← String.ofList_append, ← split, String.ofList_toList]
  · rw [String.rawEndPos, utf8ByteSize_ofList]

theorem Token.WellFormed.extent_pos {token : Token} (formed : token.WellFormed) :
    0 < token.extent := by
  rw [← byteLength_text, Nat.pos_iff_ne_zero, Ne, byteLength_eq_zero]
  exact formed.text_ne_nil

namespace WellLaid

variable {offset : Nat} {first second pieces : List Piece}

theorem of_append (laid : WellLaid offset (first ++ second)) : WellLaid offset first ∧
    WellLaid (offset + byteLength (spell first)) second := by
  induction first generalizing offset with
  | nil => exact ⟨wellLaid_nil _, laid⟩
  | cons piece first ih =>
    obtain ⟨blank, formed, here, next, later⟩ := wellLaid_cons.mp laid
    obtain ⟨front, back⟩ := ih later
    constructor
    · refine wellLaid_cons.mpr ⟨blank, formed, here, ?_, front⟩
      intro following head
      exact next following (by simp [Option.mem_def.mp head])
    · have place : piece.token.offset + piece.token.extent + byteLength (spell first) =
          offset + byteLength (spell (piece :: first)) := by
        simp only [spell_cons, byteLength_append, byteLength_text]
        omega
      rwa [← place]

theorem le_offset (laid : WellLaid offset pieces) :
    ∀ token ∈ pieces.map Piece.token, offset ≤ token.offset := by
  intro token mem
  obtain ⟨piece, here, rfl⟩ := List.mem_map.mp mem
  obtain ⟨before, after, split⟩ := List.append_of_mem here
  rw [laid.place before piece after split]
  exact Nat.le_add_right _ _

theorem ends_le (laid : WellLaid offset pieces) (closing : List Char) :
    ∀ token ∈ pieces.map Piece.token,
      token.offset + token.extent ≤ offset + byteLength (spell pieces ++ closing) := by
  intro token mem
  obtain ⟨piece, here, rfl⟩ := List.mem_map.mp mem
  obtain ⟨before, after, split⟩ := List.append_of_mem here
  rw [laid.place before piece after split, split, ← byteLength_text]
  simp only [spell_append, spell_cons, byteLength_append]
  omega

/-- No token is empty, so the next one stands further on. -/
theorem ascending (laid : WellLaid offset pieces) :
    (pieces.map Piece.token).Pairwise (·.offset < ·.offset) := by
  induction pieces generalizing offset with
  | nil => exact .nil
  | cons piece pieces ih =>
    obtain ⟨-, formed, -, -, later⟩ := wellLaid_cons.mp laid
    apply List.Pairwise.cons _ (ih later)
    intro token mem
    have behind := later.le_offset token mem
    have := formed.extent_pos
    omega

end WellLaid

section Sources

variable {source : String} {ts : TokenSequence}

theorem last_of_tokenize (found : tokenize source = .ok ts) :
    ts.last = .endAt source.utf8ByteSize := by
  have yields := exists_tokenize_iff_yield.mp ⟨ts, found, rfl⟩
  generalize all : ts.toList = tokens at yields
  cases yields with
  | @finish pieces closing laid blank spelled =>
    have last := (List.cons.inj (List.append_inj' all rfl).2).1
    rw [← spelled, Lexer.ofSource, byteLength_toList, Nat.zero_add] at last
    exact last

theorem wellFormed_of_tokenize (found : tokenize source = .ok ts) :
    ∀ token ∈ ts.body, token.WellFormed := by
  obtain ⟨pieces, closing, laid, -, -, body⟩ := exists_laid_of_tokenize found
  rw [body, List.forall_mem_map]
  exact laid.formed

/-- Tokens other than the end stand before characters of their own. -/
theorem ends_of_tokenize (found : tokenize source = .ok ts) :
    ∀ token ∈ ts.body, 0 < token.extent ∧ token.offset + token.extent ≤ source.utf8ByteSize := by
  obtain ⟨pieces, closing, laid, blank, spelled, body⟩ := exists_laid_of_tokenize found
  intro token mem
  rw [body] at mem
  obtain ⟨piece, here, rfl⟩ := List.mem_map.mp mem
  refine ⟨(laid.formed piece here).extent_pos, ?_⟩
  rw [← byteLength_toList, spelled, ← Nat.zero_add (byteLength _)]
  exact laid.ends_le closing _ mem

theorem ascending_of_tokenize (found : tokenize source = .ok ts) :
    ts.toList.Pairwise (·.offset < ·.offset) := by
  obtain ⟨pieces, closing, laid, -, -, body⟩ := exists_laid_of_tokenize found
  rw [TokenSequence.toList, List.pairwise_append]
  refine ⟨body ▸ laid.ascending, List.pairwise_singleton _ _, ?_⟩
  intro token mem last isLast
  obtain rfl := List.mem_singleton.mp isLast
  obtain ⟨wide, inside⟩ := ends_of_tokenize found token mem
  rw [last_of_tokenize found]
  simp only [Token.endAt]
  omega

theorem isValid_of_tokenize (found : tokenize source = .ok ts) :
    ∀ token ∈ ts.toList, (⟨token.offset⟩ : String.Pos.Raw).IsValid source := by
  obtain ⟨pieces, closing, laid, -, spelled, body⟩ := exists_laid_of_tokenize found
  intro token mem
  rcases List.mem_append.mp mem with inside | last
  · rw [body] at inside
    obtain ⟨piece, here, rfl⟩ := List.mem_map.mp inside
    obtain ⟨before, after, split⟩ := List.append_of_mem here
    have parts : source.toList =
        spell before ++ piece.gap ++ (piece.token.text.toList ++ spell after ++ closing) := by
      rw [spelled, split]
      simp [spell_append]
    rw [laid.place before piece after split, Nat.zero_add]
    exact isValid_of_split parts
  · obtain rfl := List.mem_singleton.mp last
    rw [last_of_tokenize found, Token.endAt, ← byteLength_toList]
    exact isValid_of_split (List.append_nil _).symm

theorem offset_eq_size_iff (found : tokenize source = .ok ts) {token : Token}
    (mem : token ∈ ts.toList) :
    token.offset = source.utf8ByteSize ↔ token.kind = .endOfInput := by
  rcases List.mem_append.mp mem with inside | last
  · obtain ⟨wide, within⟩ := ends_of_tokenize found token inside
    have other := ts.body_ne_end token inside
    constructor
    · intro same
      omega
    · intro isEnd
      exact absurd isEnd other
  · obtain rfl := List.mem_singleton.mp last
    rw [last_of_tokenize found]
    simp [Token.endAt]

end Sources

end TypedDecl

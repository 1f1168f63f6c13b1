import TypedDecl.Proofs.Lexical.Layout

/-!
Pieces put one after another.  Whatever tokens and gaps are chosen, they stand well in a source once
every token has the offset it comes to, as long as no token touches one that it would make longer.
-/

namespace TypedDecl

open Text

/-- Give each token the offset it comes to. -/
def lay (offset : Nat) : List Piece → List Piece
  | [] => []
  | piece :: pieces =>
    ⟨piece.gap, ⟨piece.token.kind, piece.token.lexeme, offset + byteLength piece.gap⟩⟩ ::
      lay (offset + byteLength piece.gap + piece.token.extent) pieces

structure Layable (pieces : List Piece) : Prop where
  blank : ∀ piece ∈ pieces, AllBlank piece.gap
  formed : ∀ piece ∈ pieces, piece.token.WellFormed
  apart : pieces.IsChain fun first second => second.ApartFrom first.token

theorem Piece.apartFrom_of_symbol {gap : List Char} {symbol : Symbol} {c : Char} {offset : Nat}
    {token : Token} (stops : token.kind.extendedBy c = false) :
    ApartFrom ⟨gap, ⟨.symbol symbol, .singleton c, offset⟩⟩ token := by
  intro d head extended
  obtain rfl : c = d := by simpa [Token.text] using head
  simp [stops] at extended

theorem spell_append (first second : List Piece) :
    spell (first ++ second) = spell first ++ spell second := List.flatMap_append

theorem Layable.append {first second : List Piece} (front : Layable first) (back : Layable second)
    (apart : ∀ last ∈ first.getLast?, ∀ next ∈ second.head?, next.ApartFrom last.token) :
    Layable (first ++ second) where
  blank := List.forall_mem_append.mpr ⟨front.blank, back.blank⟩
  formed := List.forall_mem_append.mpr ⟨front.formed, back.formed⟩
  apart := List.isChain_append.mpr ⟨front.apart, back.apart, apart⟩

theorem spell_lay (offset : Nat) (pieces : List Piece) :
    spell (lay offset pieces) = spell pieces := by
  induction pieces generalizing offset with
  | nil => rfl
  | cons piece pieces ih =>
    rw [lay, spell_cons, spell_cons, ih]
    rfl

theorem lay_append (offset : Nat) (first second : List Piece) :
    lay offset (first ++ second) =
      lay offset first ++ lay (offset + byteLength (spell first)) second := by
  induction first generalizing offset with
  | nil => rfl
  | cons piece first ih =>
    have place : offset + byteLength piece.gap + piece.token.extent + byteLength (spell first) =
        offset + byteLength (spell (piece :: first)) := by
      simp only [spell_cons, byteLength_append, byteLength_text]
      omega
    rw [List.cons_append, lay, lay, ih, place, List.cons_append]

theorem Layable.wellLaid {pieces : List Piece} (layable : Layable pieces) (offset : Nat) :
    WellLaid offset (lay offset pieces) := by
  induction pieces generalizing offset with
  | nil => exact wellLaid_nil offset
  | cons piece pieces ih =>
    obtain ⟨blank, formed, apart⟩ := layable
    rw [List.forall_mem_cons] at blank formed
    rw [List.isChain_cons] at apart
    refine wellLaid_cons.mpr ⟨blank.1, formed.1.at _, rfl, ?_, ?_⟩
    · intro next head
      cases pieces with
      | nil => cases head
      | cons second pieces =>
        cases head
        exact apart.1 second rfl
    · exact ih ⟨blank.2, formed.2, apart.2⟩ _

end TypedDecl

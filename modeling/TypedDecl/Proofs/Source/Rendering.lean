import TypedDecl.Proofs.Lexical.Placement
import TypedDecl.Proofs.Lexical.Spelling
import TypedDecl.Proofs.Source.Concatenation

/-!
Programs and the sources that write them out.  The programs that can be read are those with proper
names and with literals that fit, and every way of writing such a program down is read as it.
-/

namespace TypedDecl

open Text

def Literal.WellFormed : Literal → Prop
  | .integer digits => IsNumeral 0 digits
  | .floating digits => IsNumeral 1 digits
  | .truth _ => True
  | .quoted content => '"' ∉ content.toList

structure Declaration.WellFormed (declaration : Declaration) : Prop where
  name_isWord : IsWord declaration.name
  name_not_keyword : declaration.name ∉ TokenKind.keywords.map Prod.fst
  fits : declaration.type.accepts declaration.initializer.kind = true
  literal : declaration.initializer.WellFormed

def Program.WellFormed (program : Program) : Prop :=
  ∀ declaration ∈ program.declarations, declaration.WellFormed

/-- The blanks in a written declaration.  Its type must be kept from its name. -/
structure Gaps where
  lead : List Char
  afterType : List Char
  afterName : List Char
  afterEquals : List Char
  afterLiteral : List Char
  lead_blank : AllBlank lead
  afterType_blank : AllBlank afterType
  afterType_ne_nil : afterType ≠ []
  afterName_blank : AllBlank afterName
  afterEquals_blank : AllBlank afterEquals
  afterLiteral_blank : AllBlank afterLiteral

def Declaration.write (declaration : Declaration) (gaps : Gaps) : List Char :=
  gaps.lead ++ declaration.type.keyword.toList ++ gaps.afterType ++ declaration.name.toList ++
    gaps.afterName ++ ['='] ++ gaps.afterEquals ++ declaration.initializer.text.toList ++
    gaps.afterLiteral ++ [';']

/-- The source writes out the declarations one after another, each with gaps of its own. -/
def Program.WrittenAs (program : Program) (source : String) : Prop :=
  ∃ texts closing,
    List.Forall₂ (fun declaration text => ∃ gaps, text = declaration.write gaps)
      program.declarations texts ∧
    AllBlank closing ∧ source.toList = texts.flatten ++ closing

/-! What the tokens of an accepted source say about its program. -/

theorem Initializes.wellFormed {type : Ty} {token : Token} {value : Literal}
    (fits : Initializes type token value) (formed : token.WellFormed) : value.WellFormed := by
  cases fits with
  | integer kind => exact formed.isNumeral_integer kind
  | floating kind => exact formed.isNumeral_floating kind
  | truth kind => trivial
  | quoted kind => exact formed.quote_not_mem kind

theorem Group.wellFormed {group : List Token} {declaration : Declaration}
    (isGroup : Group group declaration) (formed : ∀ token ∈ group, token.WellFormed) :
    declaration.WellFormed := by
  obtain ⟨opener, name, equals, fits, semicolon⟩ := isGroup
  simp only [List.forall_mem_cons] at formed
  obtain ⟨-, nameFormed, -, literalFormed, -⟩ := formed
  obtain ⟨word, notKeyword⟩ := nameFormed.isWord name
  exact ⟨word, notKeyword, (initializes_iff.mp fits).2, fits.wellFormed literalFormed⟩

theorem wellFormed_of_groups {groups : List (List Token)} {declarations : List Declaration}
    (each : List.Forall₂ Group groups declarations)
    (formed : ∀ token ∈ groups.flatten, token.WellFormed) :
    ∀ declaration ∈ declarations, declaration.WellFormed := by
  induction each with
  | nil => nofun
  | cons isGroup _ ih =>
    rw [List.flatten_cons, List.forall_mem_append] at formed
    exact List.forall_mem_cons.mpr ⟨isGroup.wellFormed formed.1, ih formed.2⟩

theorem wellFormed_of_accepted {source : String} {program : Program}
    (accepted : parseSource source = .ok program) : program.WellFormed := by
  obtain ⟨pieces, closing, groups, laid, -, -, -, tokens, each⟩ := exists_laid_of_accepted accepted
  apply wellFormed_of_groups each
  rw [← tokens, List.forall_mem_map]
  exact laid.formed

/-! The pieces that a written program is made of. -/

def Literal.token : Literal → Token
  | .integer digits => ⟨.integer, digits, 0⟩
  | .floating digits => ⟨.floating, digits, 0⟩
  | .truth value => ⟨.truth value, (Literal.truth value).text, 0⟩
  | .quoted content => ⟨.quoted, content, 0⟩

theorem Literal.text_token (literal : Literal) : literal.token.text = literal.text := by
  cases literal <;> rfl

theorem Literal.offset_token (literal : Literal) : literal.token.offset = 0 := by
  cases literal <;> rfl

theorem Literal.token_inj {literal other : Literal} (same : literal.token = other.token) :
    literal = other := by
  have read (literal : Literal) : Literal.ofToken? literal.token = some literal := by
    cases literal <;> rfl
  have found := read literal
  rw [same, read other] at found
  exact (Option.some.inj found).symm

theorem Literal.not_extendedBy_semicolon (literal : Literal) :
    literal.token.kind.extendedBy ';' = false := by
  cases literal with
  | integer | floating => exact (by decide : continuesNumber ';' = false)
  | truth => exact (by decide : continuesWord ';' = false)
  | quoted => rfl

theorem TokenKind.ofWord_truth (value : Bool) :
    ofWord (Literal.truth value).text = .truth value := by
  cases value <;> decide

theorem isWord_truth (value : Bool) : IsWord (Literal.truth value).text := by
  cases value with
  | true => exact .of_spelled 't' ['r', 'u', 'e'] rfl (by decide) (by decide)
  | false => exact .of_spelled 'f' ['a', 'l', 's', 'e'] rfl (by decide) (by decide)

theorem isWord_keyword (type : Ty) : IsWord type.keyword := by
  cases type with
  | int => exact .of_spelled 'i' ['n', 't'] rfl (by decide) (by decide)
  | float => exact .of_spelled 'f' ['l', 'o', 'a', 't'] rfl (by decide) (by decide)
  | boolean => exact .of_spelled 'b' ['o', 'o', 'l'] rfl (by decide) (by decide)
  | string => exact .of_spelled 's' ['t', 'r', 'i', 'n', 'g'] rfl (by decide) (by decide)

theorem Literal.WellFormed.token {literal : Literal} (formed : literal.WellFormed) :
    literal.token.WellFormed := by
  cases literal with
  | integer digits =>
    obtain ⟨c, cs, spelled, starts, inside, points⟩ := formed
    rw [Literal.token, ← String.ofList_toList (s := digits)]
    rw [spelled] at points ⊢
    exact .integer starts inside points
  | floating digits =>
    obtain ⟨c, cs, spelled, starts, inside, points⟩ := formed
    rw [Literal.token, ← String.ofList_toList (s := digits)]
    rw [spelled] at points ⊢
    exact .floating starts inside points
  | truth value =>
    rw [Literal.token, ← TokenKind.ofWord_truth]
    exact (isWord_truth value).wellFormed
  | quoted content =>
    rw [Literal.token, ← String.ofList_toList (s := content)]
    exact .quoted formed

theorem Literal.initializes_token {type : Ty} {literal : Literal}
    (fits : type.accepts literal.kind = true) (offset : Nat) :
    Initializes type ⟨literal.token.kind, literal.token.lexeme, offset⟩ literal := by
  refine initializes_iff.mpr ⟨?_, fits⟩
  cases literal <;> rfl

namespace Declaration

variable (declaration : Declaration) (gaps : Gaps)

def pieces : List Piece :=
  [⟨gaps.lead, ⟨.type declaration.type, declaration.type.keyword, 0⟩⟩,
   ⟨gaps.afterType, ⟨.identifier, declaration.name, 0⟩⟩,
   ⟨gaps.afterName, ⟨.symbol .equals, .singleton '=', 0⟩⟩,
   ⟨gaps.afterEquals, declaration.initializer.token⟩,
   ⟨gaps.afterLiteral, ⟨.symbol .semicolon, .singleton ';', 0⟩⟩]

theorem spell_pieces : spell (declaration.pieces gaps) = declaration.write gaps := by
  -- the literal's text has to be found before the other tokens' texts are opened
  simp only [pieces, spell_cons, Literal.text_token]
  simp [write, Token.text]

variable {declaration}

theorem WellFormed.layable (formed : declaration.WellFormed) :
    Layable (declaration.pieces gaps) := by
  refine ⟨?_, ?_, ?_⟩
  · simp only [pieces, List.forall_mem_cons]
    exact ⟨gaps.lead_blank, gaps.afterType_blank, gaps.afterName_blank, gaps.afterEquals_blank,
      gaps.afterLiteral_blank, nofun⟩
  · have keyword := (isWord_keyword declaration.type).wellFormed
    have name := formed.name_isWord.wellFormed
    rw [TokenKind.ofWord_keyword] at keyword
    rw [(TokenKind.ofWord_eq_identifier_iff _).mpr formed.name_not_keyword] at name
    simp only [pieces, List.forall_mem_cons]
    exact ⟨keyword, name, .symbol rfl, formed.literal.token, .symbol rfl, nofun⟩
  · have name : Piece.ApartFrom ⟨gaps.afterType, ⟨.identifier, declaration.name, 0⟩⟩
        ⟨.type declaration.type, declaration.type.keyword, 0⟩ :=
      fun _ _ _ => gaps.afterType_ne_nil
    have equals : Piece.ApartFrom ⟨gaps.afterName, ⟨.symbol .equals, .singleton '=', 0⟩⟩
        ⟨.identifier, declaration.name, 0⟩ :=
      Piece.apartFrom_of_symbol (by decide : continuesWord '=' = false)
    have literal : Piece.ApartFrom ⟨gaps.afterEquals, declaration.initializer.token⟩
        ⟨.symbol .equals, .singleton '=', 0⟩ := nofun
    have semicolon : Piece.ApartFrom ⟨gaps.afterLiteral, ⟨.symbol .semicolon, .singleton ';', 0⟩⟩
        declaration.initializer.token :=
      Piece.apartFrom_of_symbol declaration.initializer.not_extendedBy_semicolon
    exact .cons_cons name (.cons_cons equals (.cons_cons literal (.cons_cons semicolon
      (.singleton _))))

theorem WellFormed.group (formed : declaration.WellFormed) (offset : Nat) :
    Group ((lay offset (declaration.pieces gaps)).map Piece.token) declaration :=
  .mk rfl rfl rfl (Literal.initializes_token formed.fits _) rfl

end Declaration

/-- The pieces of a written program are laid out and grouped wherever they stand. -/
theorem exists_pieces_of_written {declarations : List Declaration} {texts : List (List Char)}
    (written : List.Forall₂ (fun declaration text => ∃ gaps, text = declaration.write gaps)
      declarations texts)
    (formed : ∀ declaration ∈ declarations, declaration.WellFormed) :
    ∃ pieces, spell pieces = texts.flatten ∧ Layable pieces ∧
      ∀ offset, ∃ groups, (lay offset pieces).map Piece.token = groups.flatten ∧
        List.Forall₂ Group groups declarations := by
  induction written with
  | nil => exact ⟨[], rfl, ⟨nofun, nofun, .nil⟩, fun _ => ⟨[], rfl, .nil⟩⟩
  | @cons declaration _ _ texts first _ ih =>
    obtain ⟨gaps, rfl⟩ := first
    obtain ⟨here, others⟩ := List.forall_mem_cons.mp formed
    obtain ⟨pieces, spelled, layable, grouped⟩ := ih others
    refine ⟨declaration.pieces gaps ++ pieces, ?_, ?_, ?_⟩
    · rw [spell_append, declaration.spell_pieces, spelled, List.flatten_cons]
    · apply (here.layable gaps).append layable
      -- the first declaration ends in its semicolon, which nothing extends
      rintro last ⟨⟩ next -
      nofun
    · intro offset
      obtain ⟨groups, tokens, each⟩ :=
        grouped (offset + byteLength (spell (declaration.pieces gaps)))
      refine ⟨_ :: groups, ?_, .cons (here.group gaps offset) each⟩
      rw [lay_append, List.map_append, tokens, List.flatten_cons]

theorem parseSource_of_written {program : Program} {source : String}
    (formed : program.WellFormed) (written : program.WrittenAs source) :
    parseSource source = .ok program := by
  obtain ⟨texts, closing, each, blank, split⟩ := written
  obtain ⟨pieces, spelled, layable, grouped⟩ := exists_pieces_of_written each formed
  obtain ⟨groups, tokens, each⟩ := grouped 0
  rw [← spelled, ← spell_lay 0] at split
  obtain ⟨ts, found, body⟩ := exists_tokenize_of_laid (layable.wellLaid 0) blank split
  rw [tokens] at body
  exact parseSource_eq_ok_iff.mpr ⟨ts, found, parse_of_groups body each⟩

/-- A single blank behind the type and no other one. -/
def Gaps.narrow : Gaps where
  lead := []
  afterType := [' ']
  afterName := []
  afterEquals := []
  afterLiteral := []
  lead_blank := nofun
  afterType_blank := by simp [AllBlank, isBlank]
  afterType_ne_nil := by simp
  afterName_blank := nofun
  afterEquals_blank := nofun
  afterLiteral_blank := nofun

theorem exists_writtenAs (program : Program) : ∃ source, program.WrittenAs source := by
  let texts := program.declarations.map (·.write .narrow)
  refine ⟨.ofList texts.flatten, texts, [], ?_, nofun, by simp⟩
  rw [List.forall₂_map_right_iff]
  exact List.forall₂_same.mpr fun declaration _ => ⟨.narrow, rfl⟩

/-- The programs that can be read are the well-formed ones, and however such a program is written
down, reading gives it back. -/
theorem parseSource_written (program : Program) :
    ((∃ source, parseSource source = .ok program) ↔ program.WellFormed) ∧
      (program.WellFormed → ∀ source, program.WrittenAs source →
        parseSource source = .ok program) := by
  refine ⟨⟨?_, ?_⟩, ?_⟩
  · rintro ⟨source, accepted⟩
    exact wellFormed_of_accepted accepted
  · intro formed
    obtain ⟨source, written⟩ := exists_writtenAs program
    exact ⟨source, parseSource_of_written formed written⟩
  · intro formed source written
    exact parseSource_of_written formed written

end TypedDecl

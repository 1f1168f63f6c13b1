import TypedDecl.Proofs.Grammar.Statements
import TypedDecl.Proofs.Lexical.Blanking
import TypedDecl.Proofs.Source.Concatenation

/-!
Sources with their faulty statements blanked out.  A byte is hidden when a statement with a recorded
error covers it, gaps inside the statement included, and everything else stays where it is.
-/

namespace TypedDecl

open Text

namespace TokenSequence

/-- The byte belongs to a faulty statement. -/
def hides (ts : TokenSequence) (i : Nat) : Bool :=
  (ts.statements.filter ts.isFaulty).any (coveredBy · i)

/-- The bytes of a source, with blanks for those of its faulty statements. -/
def blanked (ts : TokenSequence) (source : String) : List UInt8 :=
  blankOut ts.hides source.toUTF8.data.toList

end TokenSequence

theorem exists_group_of_mem {groups : List (List Token)} {declarations : List Declaration}
    (each : List.Forall₂ Group groups declarations) {group : List Token} (mem : group ∈ groups) :
    ∃ declaration, Group group declaration := by
  rw [← List.map_fst_zip (Nat.le_of_eq each.length_eq)] at mem
  obtain ⟨⟨_, declaration⟩, paired, rfl⟩ := List.mem_map.mp mem
  exact ⟨declaration, List.forall₂_zip each paired⟩

section Sources

variable {source : String} {ts : TokenSequence} {parts : List (List Piece)} {closing : List Char}

/-- What is left of the source, as a text. -/
theorem blanked_eq (laid : WellLaid 0 parts.flatten)
    (spelled : source.toList = spell parts.flatten ++ closing)
    (statements : ts.statements = parts.map (List.map Piece.token)) :
    ts.blanked source = utf8 (parts.flatMap (edit ts.isFaulty) ++ closing) := by
  have bytes : source.toUTF8.data.toList = utf8 (spell parts.flatten ++ closing) := by
    rw [← spelled, ← toUTF8_ofList, String.ofList_toList]
  rw [TokenSequence.blanked, bytes]
  apply utf8_edits laid
  intro i
  rw [TokenSequence.hides, statements, List.any_filter, List.any_map, Nat.zero_add]
  rfl

/-- The blanked source declares what was recovered, and its tokens are those of the statements that
are not faulty, where they were. -/
theorem parseSource_blanked (found : tokenize source = .ok ts) :
    ∃ text us, text.toUTF8.data.toList = ts.blanked source ∧ tokenize text = .ok us ∧
      us.body = (ts.statements.filter (!ts.isFaulty ·)).flatten ∧ us.last = ts.last ∧
      parseSource text = .ok (parseRecovering ts).program ∧
      List.Forall₂ (fun statement error => error.PointsInto (inView ts.last statement))
        (ts.statements.filter ts.isFaulty) (parseRecovering ts).errors := by
  obtain ⟨pieces, closing, laid, blank, spelled, body⟩ := exists_laid_of_tokenize found
  rw [← ts.flatten_statements] at body
  obtain ⟨parts, rfl, statements⟩ := exists_parts body.symm
  obtain ⟨kept, blamed⟩ := forall₂_filter_isFaulty ((ascending_of_tokenize found).imp Nat.ne_of_lt)
  let text := String.ofList (parts.flatMap (edit ts.isFaulty) ++ closing)
  -- a statement that is kept ends in a semicolon, so the blanks behind it do not matter
  have ends : ∀ part ∈ parts, ts.isFaulty (part.map Piece.token) = false →
      ∀ rest, EndBefore part rest := by
    intro part mem sound rest
    have among : part.map Piece.token ∈ ts.statements.filter (!ts.isFaulty ·) := by
      rw [List.mem_filter, statements]
      exact ⟨List.mem_map_of_mem mem, by simp [sound]⟩
    obtain ⟨declaration, isGroup⟩ := exists_group_of_mem kept among
    exact endBefore_of_groups List.flatten_singleton.symm (.cons isGroup .nil) rest
  have tokens : (Lexer.ofSource text).tokens =
      .ok ((ts.statements.filter (!ts.isFaulty ·)).flatten ++ [ts.last]) := by
    rw [Lexer.ofSource, String.toList_ofList, tokens_edit laid blank ends, ← statements,
      ← spelled, byteLength_toList, last_of_tokenize found, Nat.zero_add]
  obtain ⟨us, found', whole⟩ := exists_tokenize_iff_yield.mpr (Lexer.yield_iff.mpr tokens)
  obtain ⟨body', last⟩ := List.append_inj' whole rfl
  refine ⟨text, us, ?_, found', body', (List.cons.inj last).1, ?_, blamed⟩
  · rw [toUTF8_ofList, blanked_eq laid spelled statements]
  · exact parseSource_eq_ok_iff.mpr ⟨us, found', parse_of_groups body' kept⟩

/-- The second statement and the unfinished third are both blanked out, to the last byte. -/
theorem parseSource_blanked_open_end :
    ∃ ts us, tokenize "bool é = true; int\ty 5; float" = .ok ts ∧
      ts.blanked "bool é = true; int\ty 5; float" =
        "bool é = true;               ".toUTF8.data.toList ∧
      tokenize "bool é = true;               " = .ok us ∧
      us.body = [⟨.type .boolean, "bool", 0⟩, ⟨.identifier, "é", 5⟩, ⟨.symbol .equals, "=", 8⟩,
        ⟨.truth true, "true", 10⟩, ⟨.symbol .semicolon, ";", 14⟩] ∧ us.last = .endAt 30 ∧
      parseSource "bool é = true;               " = .ok ⟨[⟨.boolean, "é", .truth true⟩]⟩ := by
  let ts : TokenSequence := ⟨[⟨.type .boolean, "bool", 0⟩, ⟨.identifier, "é", 5⟩,
      ⟨.symbol .equals, "=", 8⟩, ⟨.truth true, "true", 10⟩, ⟨.symbol .semicolon, ";", 14⟩,
      ⟨.type .int, "int", 16⟩, ⟨.identifier, "y", 20⟩, ⟨.integer, "5", 22⟩,
      ⟨.symbol .semicolon, ";", 23⟩, ⟨.type .float, "float", 25⟩], .endAt 30, by decide, rfl⟩
  have found : tokenize "bool é = true; int\ty 5; float" = .ok ts := by decide +kernel
  have blanked : ts.blanked "bool é = true; int\ty 5; float" =
      "bool é = true;               ".toUTF8.data.toList := by decide +kernel
  obtain ⟨text, us, bytes, found', body, last, parsed, -⟩ := parseSource_blanked found
  obtain rfl : text = "bool é = true;               " := by
    rw [← String.toByteArray_inj]
    exact ByteArray.ext (Array.toList_inj.mp (bytes.trans blanked))
  refine ⟨ts, us, found, blanked, found', body.trans ?_, last, parsed.trans ?_⟩
  · decide +kernel
  · decide +kernel

end Sources

end TypedDecl

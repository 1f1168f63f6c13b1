import TypedDecl.Proofs.Lexical.Offsets

/-!
Bytes of a text replaced by blanks.  Where whole tokens are blanked out, from the first byte of one
to the last byte of another, the tokens around them are read as before and at their old places.
-/

namespace TypedDecl

open Text

namespace Text

/-- The text in UTF-8. -/
def utf8 (cs : List Char) : List UInt8 := cs.flatMap String.utf8EncodeChar

/-- Every byte at a hidden place is replaced by a blank. -/
def blankOut (hidden : Nat → Bool) (bytes : List UInt8) : List UInt8 :=
  bytes.mapIdx fun i byte => if hidden i then 0x20 else byte

@[simp] theorem utf8_append (cs ds : List Char) : utf8 (cs ++ ds) = utf8 cs ++ utf8 ds :=
  List.flatMap_append

@[simp] theorem length_utf8 (cs : List Char) : (utf8 cs).length = byteLength cs := by
  induction cs with
  | nil => rfl
  | cons c cs ih => rw [utf8, List.flatMap_cons, List.length_append, ← utf8, ih]; simp

theorem toUTF8_ofList (cs : List Char) : (String.ofList cs).toUTF8.data.toList = utf8 cs := by
  rw [String.toUTF8_eq_toByteArray, String.toByteArray_ofList]
  exact List.toList_data_toByteArray

@[simp] theorem utf8_replicate_blank (n : Nat) :
    utf8 (List.replicate n ' ') = List.replicate n 0x20 := by
  have one : String.utf8EncodeChar ' ' = [0x20] := by decide
  induction n with
  | zero => rfl
  | succ n ih => rw [List.replicate_succ, utf8, List.flatMap_cons, ← utf8, ih, one]; rfl

@[simp] theorem byteLength_replicate_blank (n : Nat) : byteLength (List.replicate n ' ') = n := by
  rw [← length_utf8, utf8_replicate_blank, List.length_replicate]

theorem blankOut_append (hidden : Nat → Bool) (front back : List UInt8) :
    blankOut hidden (front ++ back) =
      blankOut hidden front ++ blankOut (fun i => hidden (front.length + i)) back := by
  simp only [blankOut, List.mapIdx_append, Nat.add_comm]

variable {hidden : Nat → Bool} {bytes : List UInt8}

theorem blankOut_of_shown (shown : ∀ i < bytes.length, hidden i = false) :
    blankOut hidden bytes = bytes := by
  apply List.ext_getElem
  · simp [blankOut]
  · intro i _ inside
    simp [blankOut, shown i inside]

theorem blankOut_of_hidden (all : ∀ i < bytes.length, hidden i = true) :
    blankOut hidden bytes = List.replicate bytes.length 0x20 := by
  apply List.ext_getElem
  · simp [blankOut]
  · intro i inside _
    have here : i < bytes.length := by simpa [blankOut] using inside
    simp [blankOut, all i here]

end Text

/-- The byte is one of those from the first byte of the first token to the last byte of the last. -/
def coveredBy (tokens : List Token) (i : Nat) : Bool :=
  match tokens.head?, tokens.getLast? with
  | some first, some last => first.offset ≤ i && i < last.offset + last.extent
  | _, _ => false

theorem not_coveredBy_of_lt {tokens : List Token} {i : Nat}
    (before : ∀ token ∈ tokens, i < token.offset) : coveredBy tokens i = false := by
  cases tokens with
  | nil => rfl
  | cons first tokens =>
    have := before first List.mem_cons_self
    simp [coveredBy, List.getLast?_cons, Nat.not_le.mpr this]

/-- The blanks in front of the pieces, and as many more as their tokens and gaps take up. -/
def conceal : List Piece → List Char
  | [] => []
  | piece :: pieces =>
    piece.gap ++ List.replicate (byteLength (piece.token.text.toList ++ spell pieces)) ' '

theorem byteLength_conceal (pieces : List Piece) :
    byteLength (conceal pieces) = byteLength (spell pieces) := by
  cases pieces with
  | nil => rfl
  | cons piece pieces =>
    rw [conceal, byteLength_append, byteLength_replicate_blank, spell_cons, List.append_assoc,
      byteLength_append piece.gap]

theorem allBlank_conceal {pieces : List Piece} (blank : ∀ piece ∈ pieces, AllBlank piece.gap) :
    AllBlank (conceal pieces) := by
  cases pieces with
  | nil => exact allBlank_nil
  | cons piece pieces =>
    intro c mem
    rcases List.mem_append.mp mem with inGap | hidden
    · exact blank piece List.mem_cons_self c inGap
    · rw [List.eq_of_mem_replicate hidden]
      rfl

namespace WellLaid

variable {offset : Nat} {first second pieces : List Piece}

theorem end_of_getLast? (laid : WellLaid offset pieces) :
    ∀ last ∈ pieces.getLast?,
      last.token.offset + last.token.extent = offset + byteLength (spell pieces) := by
  intro last isLast
  obtain ⟨before, rfl⟩ := List.getLast?_eq_some_iff.mp isLast
  rw [laid.place before last [] rfl, ← byteLength_text, spell_append]
  simp only [spell_cons, spell_nil, byteLength_append, byteLength_nil]
  omega

/-- The bytes of a part of the pieces lie behind the blanks in front of it. -/
theorem coveredBy_iff {piece : Piece} (laid : WellLaid offset (piece :: pieces)) (i : Nat) :
    coveredBy ((piece :: pieces).map Piece.token) i = true ↔
      offset + byteLength piece.gap ≤ i ∧ i < offset + byteLength (spell (piece :: pieces)) := by
  have starts := (wellLaid_cons.mp laid).2.2.1
  obtain ⟨last, isLast⟩ : ∃ last, (piece :: pieces).getLast? = some last :=
    ⟨_, List.getLast?_eq_some_getLast (List.cons_ne_nil piece pieces)⟩
  have ends := laid.end_of_getLast? last isLast
  have lastToken : ((piece :: pieces).map Piece.token).getLast? = some last.token := by
    rw [List.getLast?_map, isLast, Option.map_some]
  rw [← starts, ← ends, coveredBy, lastToken, List.map_cons, List.head?_cons]
  simp

theorem not_coveredBy_of_le (laid : WellLaid offset pieces) {i : Nat}
    (behind : offset + byteLength (spell pieces) ≤ i) :
    coveredBy (pieces.map Piece.token) i = false := by
  cases pieces with
  | nil => rfl
  | cons piece pieces =>
    rw [← Bool.not_eq_true, laid.coveredBy_iff]
    omega

end WellLaid

section Parts

variable (faulty : List Token → Bool)

/-- A faulty part is concealed, and any other is spelled. -/
def edit (part : List Piece) : List Char :=
  if faulty (part.map Piece.token) then conceal part else spell part

variable {faulty} {parts : List (List Piece)} {offset : Nat} {closing : List Char}

/-- Pieces are parted as their tokens are. -/
theorem exists_parts {pieces : List Piece} {statements : List (List Token)}
    (tokens : pieces.map Piece.token = statements.flatten) :
    ∃ parts : List (List Piece), pieces = parts.flatten ∧
      statements = parts.map (List.map Piece.token) := by
  induction statements generalizing pieces with
  | nil => exact ⟨[], List.map_eq_nil_iff.mp tokens, rfl⟩
  | cons statement statements ih =>
    obtain ⟨part, pieces, rfl, rfl, others⟩ := List.map_eq_append_iff.mp tokens
    obtain ⟨parts, rfl, rfl⟩ := ih others
    exact ⟨part :: parts, rfl, rfl⟩

/-- What is blanked out leaves the other parts where and as they are. -/
theorem tokens_edit (laid : WellLaid offset parts.flatten) (blank : AllBlank closing)
    (ends : ∀ part ∈ parts, faulty (part.map Piece.token) = false →
      ∀ rest, EndBefore part rest) :
    Lexer.tokens ⟨parts.flatMap (edit faulty) ++ closing, offset⟩ =
      .ok (((parts.map (List.map Piece.token)).filter (!faulty ·)).flatten ++
        [.endAt (offset + byteLength (spell parts.flatten ++ closing))]) := by
  induction parts generalizing offset with
  | nil => simpa using Lexer.tokens_blank blank
  | cons part parts ih =>
    obtain ⟨here, laid⟩ := laid.of_append
    obtain ⟨stops, ends⟩ := List.forall_mem_cons.mp ends
    have later := ih laid ends
    have place : offset + byteLength (spell part) +
        byteLength (spell parts.flatten ++ closing) =
          offset + byteLength (spell (part :: parts).flatten ++ closing) := by
      rw [List.flatten_cons, spell_append]
      simp only [byteLength_append]
      omega
    rw [place] at later
    rw [List.flatMap_cons, List.append_assoc, List.map_cons, List.filter_cons]
    cases wrong : faulty (part.map Piece.token) with
    | true =>
      have gap := allBlank_conceal here.blank
      rw [edit, if_pos wrong, Lexer.tokens_congr (Lexer.next_gap gap), byteLength_conceal, later]
      rfl
    | false =>
      rw [edit, if_neg (by simp [wrong]), Lexer.tokens_spell here (stops wrong _), later]
      simp [Except.map]

theorem utf8_edit {part : List Piece} (laid : WellLaid offset part) {hidden : Nat → Bool}
    (tells : ∀ i < byteLength (spell part), hidden i =
      (faulty (part.map Piece.token) && coveredBy (part.map Piece.token) (offset + i))) :
    blankOut hidden (utf8 (spell part)) = utf8 (edit faulty part) := by
  cases wrong : faulty (part.map Piece.token) with
  | false =>
    simp only [wrong, Bool.false_and] at tells
    rw [edit, wrong, blankOut_of_shown]
    · rfl
    · intro i inside
      exact tells i (by rwa [length_utf8] at inside)
  | true =>
    simp only [wrong, Bool.true_and] at tells
    rw [edit, if_pos wrong]
    cases part with
    | nil => rfl
    | cons piece pieces =>
      have covers := laid.coveredBy_iff
      have whole : spell (piece :: pieces) =
          piece.gap ++ (piece.token.text.toList ++ spell pieces) := by
        rw [spell_cons, List.append_assoc]
      rw [whole, byteLength_append] at tells covers
      rw [conceal, whole, utf8_append piece.gap, utf8_append piece.gap, blankOut_append,
        blankOut_of_shown, blankOut_of_hidden, utf8_replicate_blank, length_utf8]
      · intro i inside
        rw [length_utf8] at inside ⊢
        rw [tells _ (by omega), covers]
        omega
      · intro i inside
        rw [length_utf8] at inside
        rw [tells i (by omega), ← Bool.not_eq_true, covers]
        omega

/-- No part covers bytes in front of them all. -/
theorem any_coveredBy_of_lt (laid : WellLaid offset parts.flatten) {i : Nat}
    (before : i < offset) : parts.any (fun part =>
      faulty (part.map Piece.token) && coveredBy (part.map Piece.token) i) = false := by
  rw [List.any_eq_false]
  intro part mem
  have passed : coveredBy (part.map Piece.token) i = false := by
    apply not_coveredBy_of_lt
    intro token among
    obtain ⟨piece, inPart, rfl⟩ := List.mem_map.mp among
    have inside : piece ∈ parts.flatten := List.mem_flatten_of_mem mem inPart
    exact Nat.lt_of_lt_of_le before (laid.le_offset _ (List.mem_map_of_mem inside))
  simp [passed]

/-- Blanking out the faulty parts is concealing each of them, whatever stands around it. -/
theorem utf8_edits (laid : WellLaid offset parts.flatten) {hidden : Nat → Bool}
    (tells : ∀ i, hidden i = parts.any fun part =>
      faulty (part.map Piece.token) && coveredBy (part.map Piece.token) (offset + i)) :
    blankOut hidden (utf8 (spell parts.flatten ++ closing)) =
      utf8 (parts.flatMap (edit faulty) ++ closing) := by
  induction parts generalizing offset hidden with
  | nil =>
    apply blankOut_of_shown
    intro i _
    exact tells i
  | cons part parts ih =>
    obtain ⟨here, later⟩ := laid.of_append
    have front : blankOut hidden (utf8 (spell part)) = utf8 (edit faulty part) := by
      apply utf8_edit here
      intro i inside
      rw [tells, List.any_cons, any_coveredBy_of_lt later (by omega), Bool.or_false]
    have back : blankOut (fun i => hidden (byteLength (spell part) + i))
        (utf8 (spell parts.flatten ++ closing)) = utf8 (parts.flatMap (edit faulty) ++ closing) := by
      apply ih later
      intro i
      have passed := here.not_coveredBy_of_le (i := offset + (byteLength (spell part) + i))
        (by omega)
      rw [tells, List.any_cons, passed, Bool.and_false, Bool.false_or, Nat.add_assoc]
    rw [List.flatten_cons, spell_append, List.append_assoc, utf8_append (spell part),
      blankOut_append, length_utf8, front, back, ← utf8_append, List.flatMap_cons,
      List.append_assoc]

end Parts

end TypedDecl

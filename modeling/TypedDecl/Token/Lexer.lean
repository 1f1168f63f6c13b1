import TypedDecl.Text.Bytes
import TypedDecl.Text.Classes
import TypedDecl.Token.Basic
import TypedDecl.Error.Lex

/-!
The lexer reads one token at a time.  Every token goes as far as its class of characters does,
and every step but the last ones leaves less to read.
-/

namespace TypedDecl

open Text

/-- The text still to read, and the number of bytes before it. -/
structure Lexer where
  rest : List Char
  offset : Nat
  deriving DecidableEq

namespace Lexer

def ofSource (source : String) : Lexer := ⟨source.toList, 0⟩

/-- The longest beginning of the rest that lies in a class of characters. -/
def run (inClass : Char → Bool) (lexer : Lexer) : List Char := lexer.rest.takeWhile inClass

def skip (inClass : Char → Bool) (lexer : Lexer) : Lexer :=
  ⟨lexer.rest.dropWhile inClass, lexer.offset + byteLength (lexer.run inClass)⟩

def drop (lexer : Lexer) : Lexer :=
  ⟨lexer.rest.tail, lexer.offset + byteLength (lexer.rest.take 1)⟩

abbrev Step := Except LexError Token × Lexer

def word (lexer : Lexer) : Step :=
  let text := String.ofList (lexer.run continuesWord)
  (.ok ⟨.ofWord text, text, lexer.offset⟩, lexer.skip continuesWord)

/-- A number with two points is read to its end before it is refused. -/
def number (lexer : Lexer) : Step :=
  let digits := lexer.run continuesNumber
  let text := String.ofList digits
  (match digits.count '.' with
    | 0 => .ok ⟨.integer, text, lexer.offset⟩
    | 1 => .ok ⟨.floating, text, lexer.offset⟩
    | _ => .error (.malformedNumber text lexer.offset),
   lexer.skip continuesNumber)

/-- The string ends at the next quote; nothing in it is an escape. -/
def string (lexer : Lexer) : Step :=
  let content := lexer.drop
  let closing := content.skip continuesString
  match closing.rest with
  | [] => (.error (.unterminatedString lexer.offset), closing)
  | _ :: _ =>
    (.ok ⟨.quoted, String.ofList (content.run continuesString), lexer.offset⟩, closing.drop)

/-- The end of input can be read again and again, and so can an invalid character. -/
def next (lexer : Lexer) : Step :=
  let lexer := lexer.skip isBlank
  match lexer.rest with
  | [] => (.ok ⟨.endOfInput, "", lexer.offset⟩, lexer)
  | c :: _ =>
    if startsWord c then lexer.word
    else if startsNumber c then lexer.number
    else if startsString c then lexer.string
    else match Symbol.ofChar? c with
      | some symbol => (.ok ⟨.symbol symbol, String.singleton c, lexer.offset⟩, lexer.drop)
      | none => (.error (.invalidCharacter c lexer.offset), lexer)

/-- Read a number of times from one lexer, going on after faults. -/
def reads : Nat → Lexer → List (Except LexError Token)
  | 0, _ => []
  | n + 1, lexer => lexer.next.1 :: reads n lexer.next.2

theorem length_skip_le (inClass : Char → Bool) (lexer : Lexer) :
    (lexer.skip inClass).rest.length ≤ lexer.rest.length :=
  (List.dropWhile_sublist inClass).length_le

theorem length_skip_lt {inClass : Char → Bool} {lexer : Lexer} {c : Char} {cs : List Char}
    (rest : lexer.rest = c :: cs) (mem : inClass c = true) :
    (lexer.skip inClass).rest.length < lexer.rest.length := by
  have := (List.dropWhile_sublist inClass (l := cs)).length_le
  simp only [skip, rest, List.dropWhile_cons, mem, ↓reduceIte, List.length_cons]
  omega

theorem length_drop_lt {lexer : Lexer} {c : Char} {cs : List Char}
    (rest : lexer.rest = c :: cs) : lexer.drop.rest.length < lexer.rest.length := by
  simp [drop, rest]

theorem length_string_lt {lexer : Lexer} {c : Char} {cs : List Char}
    (rest : lexer.rest = c :: cs) : lexer.string.2.rest.length < lexer.rest.length := by
  have opened := length_drop_lt rest
  have closed := length_skip_le continuesString lexer.drop
  simp only [string]
  split
  · simp only
    omega
  · next found =>
    have := length_drop_lt found
    simp only
    omega

/-- A token other than the end takes up at least a character. -/
theorem length_next_lt {lexer : Lexer} {token : Token} (read : lexer.next.1 = .ok token)
    (notEnd : token.kind ≠ .endOfInput) : lexer.next.2.rest.length < lexer.rest.length := by
  refine Nat.lt_of_lt_of_le ?_ (length_skip_le isBlank lexer)
  revert read
  simp only [next]
  split
  · rintro ⟨⟩
    exact absurd rfl notEnd
  · next c cs found =>
    split
    · next starts =>
      exact fun _ => length_skip_lt found (continuesWord_of_startsWord starts)
    · split
      · next starts =>
        exact fun _ => length_skip_lt found (continuesNumber_of_startsNumber starts)
      · split
        · exact fun _ => length_string_lt found
        · split
          · exact fun _ => length_drop_lt found
          · rintro ⟨⟩

end Lexer

end TypedDecl

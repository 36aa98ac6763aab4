import ClusterWave.Json.Number

/-!
# JSON tokens

The characters of a document pass one by one through `Token.Lexer`, which holds the token that is
still open. A word or a number ends at the first character that cannot belong to it.
-/

namespace ClusterWave

namespace Json

inductive Token where
  | leftBrace
  | rightBrace
  | leftBracket
  | rightBracket
  | colon
  | comma
  /-- `null`, a truth value or a number. -/
  | scalar (value : Json)
  /-- The characters between two quotes. -/
  | text (raw : List Char)

namespace Token

/-- What an escape in a text still needs. -/
inductive Escape where
  | none
  | kind
  | hex (digits : Nat)

/-- The token that is still open, with its characters, last one first. -/
inductive Pending where
  | nothing
  | word (done : List Char)
  | number (done : List Char)
  | text (done : List Char) (escape : Escape)

/-- The open token and the finished ones, last one first. -/
structure Lexer where
  pending : Pending
  finished : List Token

def isBlank (c : Char) : Bool := c == ' ' || c == '\n' || c == '\t' || c == '\r'

def isNumberChar (c : Char) : Bool :=
  isDigit c || c == '-' || c == '+' || c == '.' || c == 'e' || c == 'E'

def isLetter (c : Char) : Bool := 'a' ≤ c && c ≤ 'z'

def mark? (c : Char) : Option Token :=
  if c == '\x7b' then some .leftBrace
  else if c == '\x7d' then some .rightBrace
  else if c == '[' then some .leftBracket
  else if c == ']' then some .rightBracket
  else if c == ':' then some .colon
  else if c == ',' then some .comma
  else none

def word? (w : List Char) : Option Token :=
  if w == "null".toList then some (.scalar .null)
  else if w == "true".toList then some (.scalar (.bool true))
  else if w == "false".toList then some (.scalar (.bool false))
  else none

/-- Finish the open token; a text cannot end without its quote. -/
def Lexer.close? (s : Lexer) : Option Lexer :=
  match s.pending with
  | .nothing => some s
  | .word done => (word? done.reverse).map fun t => ⟨.nothing, t :: s.finished⟩
  | .number done =>
    (Number.ofText? done.reverse).map fun n => ⟨.nothing, .scalar (.number n) :: s.finished⟩
  | .text _ _ => none

/-- Begin a token after the finished ones. -/
def Lexer.open? (finished : List Token) (c : Char) : Option Lexer :=
  if isBlank c then some ⟨.nothing, finished⟩
  else if c == '"' then some ⟨.text [] .none, finished⟩
  else if c == '-' || isDigit c then some ⟨.number [c], finished⟩
  else if isLetter c then some ⟨.word [c], finished⟩
  else (mark? c).map fun t => ⟨.nothing, t :: finished⟩

/-- Add a character to an open text. -/
def Lexer.extendText? (finished : List Token) (done : List Char) (escape : Escape) (c : Char) :
    Option Lexer :=
  match escape with
  | .hex n =>
    (hexDigit? c).map fun _ =>
      ⟨.text (c :: done) (if n ≤ 1 then .none else .hex (n - 1)), finished⟩
  | .kind =>
    if c == 'u' then some ⟨.text (c :: done) (.hex 4), finished⟩
    else (shortEscape? c).map fun _ => ⟨.text (c :: done) .none, finished⟩
  | .none =>
    if c == '"' then some ⟨.nothing, .text done.reverse :: finished⟩
    else if c == '\\' then some ⟨.text (c :: done) .kind, finished⟩
    else if c.toNat < 0x20 then none
    else some ⟨.text (c :: done) .none, finished⟩

/-- Take in one character. -/
def Lexer.step? (s : Lexer) (c : Char) : Option Lexer :=
  match s.pending with
  | .text done escape => extendText? s.finished done escape c
  | .word done =>
    if isLetter c then some ⟨.word (c :: done), s.finished⟩
    else s.close?.bind fun s => open? s.finished c
  | .number done =>
    if isNumberChar c then some ⟨.number (c :: done), s.finished⟩
    else s.close?.bind fun s => open? s.finished c
  | .nothing => open? s.finished c

/-- The tokens of a document. -/
def scan? (cs : List Char) : Option (List Token) := do
  let s ← cs.foldlM Lexer.step? ⟨.nothing, []⟩
  let s ← s.close?
  some s.finished.reverse

end Token

end Json

end ClusterWave

import StreamDecode.Json.Quoted
import StreamDecode.Text.Number

/-!
# JSON tokens

`Json.tokens` cuts a text into tokens, one character at a time.  Words and numbers go on as long as
their characters do, and are checked when they end.
-/

namespace StreamDecode

namespace Json

inductive Token where
  | openBrace
  | closeBrace
  | openBracket
  | closeBracket
  | colon
  | comma
  | null
  | true
  | false
  | number (text : List Char)
  | quoted (q : Quoted)
  deriving DecidableEq, Repr

/-! ## numbers -/

/-- what follows a run of digits; there is at least one -/
def skipDigits : List Char → Option (List Char)
  | [] => none
  | c :: rest => if c.isDigit then some (rest.dropWhile Char.isDigit) else none

/-- what follows the digits before the point; a zero stands alone -/
def skipInteger : List Char → Option (List Char)
  | '0' :: rest => some rest
  | s => skipDigits s

def skipFraction : List Char → Option (List Char)
  | '.' :: rest => skipDigits rest
  | s => some s

def skipSign : List Char → List Char
  | '+' :: rest => rest
  | '-' :: rest => rest
  | s => s

def skipExponent : List Char → Option (List Char)
  | 'e' :: rest => skipDigits (skipSign rest)
  | 'E' :: rest => skipDigits (skipSign rest)
  | s => some s

def skipMinus : List Char → List Char
  | '-' :: rest => rest
  | s => s

def isNumber (s : List Char) : Bool :=
  (((skipInteger (skipMinus s)).bind skipFraction).bind skipExponent) == some []

/-! ## characters -/

def isSpace (c : Char) : Bool := c == ' ' || c == '\n' || c == '\r' || c == '\t'

def isNumeric (c : Char) : Bool := c.isDigit || c == '+' || c == '-' || c == '.' || c == 'e' || c == 'E'

/-- the token that a character is by itself -/
def punctuation : Char → Option Token
  | '\x7b' => some .openBrace
  | '\x7d' => some .closeBrace
  | '[' => some .openBracket
  | ']' => some .closeBracket
  | ':' => some .colon
  | ',' => some .comma
  | _ => none

/-- the character that a backslash and this character stand for -/
def shortEscape : Char → Option Char
  | '"' => some '"'
  | '\\' => some '\\'
  | '/' => some '/'
  | 'b' => some '\x08'
  | 'f' => some '\x0c'
  | 'n' => some '\n'
  | 'r' => some '\r'
  | 't' => some '\t'
  | _ => none

/-- a word, if it is one of the three -/
def keyword (letters : List Char) : Option Token :=
  if letters = ['n', 'u', 'l', 'l'] then some .null
  else if letters = ['t', 'r', 'u', 'e'] then some .true
  else if letters = ['f', 'a', 'l', 's', 'e'] then some .false
  else none

def numeral (chars : List Char) : Option Token :=
  if isNumber chars then some (.number chars) else none

/-! ## the reader -/

/-- where the reader stands; what was read of a token is kept backwards -/
inductive Mode where
  | between
  | word (letters : List Char)
  | number (chars : List Char)
  | quoted (pieces : Quoted)
  /-- behind a backslash -/
  | escaped (pieces : Quoted)
  /-- in a unit, of which so many digits are read -/
  | unit (pieces : Quoted) (digits value : Nat)
  deriving DecidableEq, Repr

/-- the tokens read so far, backwards, and where the reader stands -/
structure Reader where
  tokens : List Token
  mode : Mode
  deriving DecidableEq, Repr

namespace Reader

def start : Reader := ⟨[], .between⟩

/-- a character where a token may start -/
def begin (tokens : List Token) (c : Char) : Option Reader :=
  match punctuation c with
  | some t => some ⟨t :: tokens, .between⟩
  | none =>
    if isSpace c then some ⟨tokens, .between⟩
    else if c = '"' then some ⟨tokens, .quoted []⟩
    else if c.isDigit || c == '-' then some ⟨tokens, .number [c]⟩
    else if c.isLower then some ⟨tokens, .word [c]⟩
    else none

def step (r : Reader) (c : Char) : Option Reader :=
  match r.mode with
  | .between => begin r.tokens c
  | .word letters =>
    if c.isLower then some { r with mode := .word (c :: letters) }
    else (keyword letters.reverse).bind fun t => begin (t :: r.tokens) c
  | .number chars =>
    if isNumeric c then some { r with mode := .number (c :: chars) }
    else (numeral chars.reverse).bind fun t => begin (t :: r.tokens) c
  | .quoted pieces =>
    if c = '"' then some ⟨.quoted pieces.reverse :: r.tokens, .between⟩
    else if c = '\\' then some { r with mode := .escaped pieces }
    else if c.toNat < 0x20 then none
    else some { r with mode := .quoted (.char c :: pieces) }
  | .escaped pieces =>
    if c = 'u' then some { r with mode := .unit pieces 0 0 }
    else (shortEscape c).map fun e => { r with mode := .quoted (.char e :: pieces) }
  | .unit pieces digits value =>
    (digitValue c).map fun d =>
      if digits = 3 then { r with mode := .quoted (.unit (16 * value + d) :: pieces) }
      else { r with mode := .unit pieces (digits + 1) (16 * value + d) }

/-- the tokens at the end of the text -/
def finish (r : Reader) : Option (List Token) :=
  match r.mode with
  | .between => some r.tokens.reverse
  | .word letters => (keyword letters.reverse).map fun t => (t :: r.tokens).reverse
  | .number chars => (numeral chars.reverse).map fun t => (t :: r.tokens).reverse
  | .quoted _ | .escaped _ | .unit _ _ _ => none

/-- the reader after some characters -/
def read (r : Reader) (s : List Char) : Option Reader := s.foldlM step r

theorem read_nil (r : Reader) : r.read [] = some r := rfl

theorem read_cons (r : Reader) (c : Char) (s : List Char) :
    r.read (c :: s) = (r.step c).bind (·.read s) := rfl

theorem read_append (r : Reader) (s t : List Char) :
    r.read (s ++ t) = (r.read s).bind (·.read t) := by
  simp only [read, List.foldlM_append]
  rfl

end Reader

def tokens (s : List Char) : Option (List Token) := (Reader.start.read s).bind (·.finish)

end Json

end StreamDecode

import StreamDecode.Json.Token

/-!
# JSON values

`Json.parse` reads one value that takes up a whole text.  It goes through the tokens from the front
with the arrays and objects that are still open on a stack, so values nest as deep as the text does.
Numbers stay as they are written; the members of an object stay in order, repeated keys included.
-/

namespace StreamDecode

namespace Json

inductive Value where
  | null
  | bool (b : Bool)
  | number (text : List Char)
  | quoted (q : Quoted)
  | array (items : List Value)
  | object (members : List (Quoted × Value))

/-- an open array or object; what was read of it is kept backwards -/
inductive Enclosing where
  | array (items : List Value)
  /-- the value of `key` is being read -/
  | object (members : List (Quoted × Value)) (key : Quoted)

/-- what is due -/
inductive Due where
  | value
  /-- the first item of an array or its end -/
  | firstItem
  /-- the first key of an object or its end -/
  | firstKey
  | key (members : List (Quoted × Value))
  | colon (members : List (Quoted × Value)) (key : Quoted)
  /-- what comes after a value -/
  | follow (v : Value)

structure Builder where
  stack : List Enclosing
  due : Due

namespace Builder

def start : Builder := ⟨[], .value⟩

/-- a token where a value is due -/
def value (stack : List Enclosing) : Token → Option Builder
  | .null => some ⟨stack, .follow .null⟩
  | .true => some ⟨stack, .follow (.bool Bool.true)⟩
  | .false => some ⟨stack, .follow (.bool Bool.false)⟩
  | .number text => some ⟨stack, .follow (.number text)⟩
  | .quoted q => some ⟨stack, .follow (.quoted q)⟩
  | .openBracket => some ⟨.array [] :: stack, .firstItem⟩
  | .openBrace => some ⟨stack, .firstKey⟩
  | .closeBracket | .closeBrace | .colon | .comma => none

/-- a token after the value `v` -/
def follow (v : Value) : List Enclosing → Token → Option Builder
  | .array items :: stack, .comma => some ⟨.array (v :: items) :: stack, .value⟩
  | .array items :: stack, .closeBracket => some ⟨stack, .follow (.array (v :: items).reverse)⟩
  | .object members key :: stack, .comma => some ⟨stack, .key ((key, v) :: members)⟩
  | .object members key :: stack, .closeBrace =>
    some ⟨stack, .follow (.object ((key, v) :: members).reverse)⟩
  | _, _ => none

def step (b : Builder) (t : Token) : Option Builder :=
  match b.due, t with
  | .value, t => value b.stack t
  | .firstItem, .closeBracket => some ⟨b.stack.tail, .follow (.array [])⟩
  | .firstItem, t => value b.stack t
  | .firstKey, .closeBrace => some ⟨b.stack, .follow (.object [])⟩
  | .firstKey, .quoted key => some ⟨b.stack, .colon [] key⟩
  | .firstKey, _ => none
  | .key members, .quoted key => some ⟨b.stack, .colon members key⟩
  | .key _, _ => none
  | .colon members key, .colon => some ⟨.object members key :: b.stack, .value⟩
  | .colon _ _, _ => none
  | .follow v, t => follow v b.stack t

/-- the value, if the tokens end where one is complete -/
def finish (b : Builder) : Option Value :=
  match b.stack, b.due with
  | [], .follow v => some v
  | _, _ => none

/-- the builder after some tokens -/
def read (b : Builder) (ts : List Token) : Option Builder := ts.foldlM step b

theorem read_nil (b : Builder) : b.read [] = some b := rfl

theorem read_cons (b : Builder) (t : Token) (ts : List Token) :
    b.read (t :: ts) = (b.step t).bind (·.read ts) := rfl

theorem read_append (b : Builder) (ts us : List Token) :
    b.read (ts ++ us) = (b.read ts).bind (·.read us) := by
  simp only [read, List.foldlM_append]
  rfl

end Builder

def build (ts : List Token) : Option Value := (Builder.start.read ts).bind (·.finish)

/-- the value that a text writes -/
def parse (s : String) : Option Value := (tokens s.toList).bind build

/-- the number that is written in digits alone, if it is below `bound` -/
def Value.natBelow (bound : Nat) : Value → Option Nat
  | .number text =>
    match readDigits 10 text with
    | some n => if n < bound then some n else none
    | none => none
  | _ => none

/-- the characters of a quoted text -/
def Value.text? : Value → Option String
  | .quoted q => q.text?
  | _ => none

/-- text without quotes, backslashes and control characters, in quotes -/
def quote (s : String) : String := "\"" ++ s ++ "\""

end Json

end StreamDecode

import StreamDecode.Json.Value
import Mathlib.Data.List.TakeWhile

/-!
# Objects of numbers and plain texts

An object whose values are natural numbers and texts without escapes is read back from every text
that writes its tokens, however many spaces stand between them.

* `Scalar`                 such a value;
* `Spaced ts s`            `s` writes the tokens `ts`, with spaces between them;
* `tokens_of_spaced`       these are the tokens that are read;
* `build_objectTokens`     the tokens of an object build it;
* `spaced_objectText`      the text without spaces is one of those texts;
* `parse_of_spaced`        what is read of a text that writes an object is the object.
-/

namespace StreamDecode

namespace Json

/-- a natural number, or a text -/
inductive Scalar where
  | natural (n : Nat)
  | plain (s : String)
  deriving DecidableEq, Repr

/-- it stands for itself between quotes: it does not end the text, starts no escape and needs none -/
abbrev IsPlainChar (c : Char) : Prop := c ≠ '"' ∧ c ≠ '\\' ∧ 0x20 ≤ c.toNat

namespace Scalar

def token : Scalar → Token
  | natural n => .number (Nat.toDigits 10 n)
  | plain s => .quoted (s.toList.map .char)

def value : Scalar → Value
  | natural n => .number (Nat.toDigits 10 n)
  | plain s => .quoted (s.toList.map .char)

def text : Scalar → String
  | natural n => decimal n
  | plain s => quote s

def IsPlain : Scalar → Prop
  | natural _ => True
  | plain s => ∀ c ∈ s.toList, IsPlainChar c

instance : DecidablePred IsPlain
  | natural _ => .isTrue trivial
  | plain s => List.decidableBAll IsPlainChar s.toList

end Scalar

/-- the characters that write a token -/
inductive Writes : Token → List Char → Prop
  | mark {c : Char} {t : Token} (h : punctuation c = some t) : Writes t [c]
  | scalar {v : Scalar} (h : v.IsPlain) : Writes v.token v.text.toList

/-- a token ends where `s` follows: a number does not go on -/
def Ends (s : List Char) : Token → Prop
  | .number _ => ∀ c ∈ s.head?, ¬isNumeric c
  | _ => True

/-- the characters that write some tokens, with spaces between them -/
inductive Spaced : List Token → List Char → Prop
  | nil : Spaced [] []
  | space {c : Char} {ts : List Token} {s : List Char} (hc : isSpace c) (h : Spaced ts s) :
    Spaced ts (c :: s)
  | token {t : Token} {p : List Char} {ts : List Token} {s : List Char} (ht : Writes t p)
    (hend : Ends s t) (h : Spaced ts s) : Spaced (t :: ts) (p ++ s)

/-! ## characters -/

section
variable {c : Char}

theorem punctuation_of_isSpace (h : isSpace c) : punctuation c = none := by
  unfold punctuation
  split
  all_goals first | rfl | exact absurd h (by decide)

theorem punctuation_of_isDigit (h : c.isDigit) : punctuation c = none := by
  unfold punctuation
  split
  all_goals first | rfl | exact absurd h (by decide)

theorem not_isSpace_of_isDigit (h : c.isDigit) : ¬isSpace c := by
  intro hspace
  simp only [isSpace, Bool.or_eq_true, beq_iff_eq] at hspace
  rcases hspace with ((rfl | rfl) | rfl) | rfl <;> exact absurd h (by decide)

theorem isNumeric_of_isDigit (h : c.isDigit) : isNumeric c := by
  simp [isNumeric, h]

end

/-- digits are a number, unless a zero leads -/
theorem isNumber_of_isDigit {c : Char} {s : List Char} (hc : c.isDigit) (hzero : c ≠ '0')
    (hs : ∀ d ∈ s, d.isDigit) : isNumber (c :: s) := by
  have hminus : skipMinus (c :: s) = c :: s := by
    unfold skipMinus
    split
    · next h =>
      cases h
      exact absurd hc (by decide)
    · rfl
  have hinteger : skipInteger (c :: s) = some [] := by
    unfold skipInteger
    split
    · next h => exact absurd (List.cons.inj h).1 hzero
    · rw [skipDigits, if_pos hc, List.dropWhile_eq_nil_iff.2 hs]
  rw [isNumber, hminus, hinteger]
  rfl

theorem isDigit_of_mem_toDigits (n : Nat) : ∀ c ∈ Nat.toDigits 10 n, c.isDigit := fun _ hc =>
  Nat.isDigit_of_mem_toDigits (by decide) (by decide) hc

/-- the digits of a number are a number: zero leads only where it is all there is -/
theorem isNumber_toDigits (n : Nat) : isNumber (Nat.toDigits 10 n) := by
  by_cases hn : n = 0
  · rw [hn]
    decide
  · have hdigits := isDigit_of_mem_toDigits n
    have hhead : (Nat.toDigits 10 n).head? ≠ some '0' := head_toDigits_ne_zero (by decide) hn
    cases hs : Nat.toDigits 10 n with
    | nil => exact absurd hs Nat.toDigits_ne_nil
    | cons c s =>
      rw [hs] at hdigits hhead
      obtain ⟨hc, hs⟩ := List.forall_mem_cons.1 hdigits
      exact isNumber_of_isDigit hc (fun h => hhead (congrArg some h)) hs

namespace Reader

section
variable {us : List Token} {c : Char} {s : List Char}

theorem begin_of_punctuation {t : Token} (h : punctuation c = some t) :
    begin us c = some ⟨t :: us, .between⟩ := by
  rw [begin, h]

theorem begin_of_isSpace (h : isSpace c) : begin us c = some ⟨us, .between⟩ := by
  rw [begin, punctuation_of_isSpace h]
  exact if_pos h

theorem begin_of_isDigit (h : c.isDigit) : begin us c = some ⟨us, .number [c]⟩ := by
  have hquote : c ≠ '"' := by
    rintro rfl
    exact absurd h (by decide)
  rw [begin, punctuation_of_isDigit h]
  simp [not_isSpace_of_isDigit h, hquote, h]

theorem read_isDigit (h : ∀ c ∈ s, c.isDigit) (chars : List Char) :
    (⟨us, .number chars⟩ : Reader).read s = some ⟨us, .number (s.reverse ++ chars)⟩ := by
  induction s generalizing chars with
  | nil => rfl
  | cons c s ih =>
    obtain ⟨hc, hs⟩ := List.forall_mem_cons.1 h
    have hstep : (⟨us, .number chars⟩ : Reader).step c = some ⟨us, .number (c :: chars)⟩ :=
      if_pos (isNumeric_of_isDigit hc)
    rw [read_cons, hstep, Option.bind_some, ih hs, List.reverse_cons, List.append_assoc]
    rfl

theorem read_plain (h : ∀ c ∈ s, IsPlainChar c) (pieces : Quoted) :
    (⟨us, .quoted pieces⟩ : Reader).read s =
      some ⟨us, .quoted ((s.map .char).reverse ++ pieces)⟩ := by
  induction s generalizing pieces with
  | nil => rfl
  | cons c s ih =>
    obtain ⟨⟨hquote, hescape, hcontrol⟩, hs⟩ := List.forall_mem_cons.1 h
    have hstep : (⟨us, .quoted pieces⟩ : Reader).step c =
        some ⟨us, .quoted (.char c :: pieces)⟩ := by
      simp [step, hquote, hescape, Nat.not_lt.2 hcontrol]
    rw [read_cons, hstep, Option.bind_some, ih hs]
    simp

theorem read_toDigits (n : Nat) :
    (⟨us, .between⟩ : Reader).read (Nat.toDigits 10 n) =
      some ⟨us, .number (Nat.toDigits 10 n).reverse⟩ := by
  have hdigits := isDigit_of_mem_toDigits n
  cases hp : Nat.toDigits 10 n with
  | nil => exact absurd hp Nat.toDigits_ne_nil
  | cons c p =>
    rw [hp] at hdigits
    obtain ⟨hc, hp⟩ := List.forall_mem_cons.1 hdigits
    have hfirst : (⟨us, .between⟩ : Reader).step c = some ⟨us, .number [c]⟩ := begin_of_isDigit hc
    rw [read_cons, hfirst, Option.bind_some, read_isDigit hp, List.reverse_cons]

theorem read_quote {text : String} (h : (Scalar.plain text).IsPlain) :
    (⟨us, .between⟩ : Reader).read (quote text).toList =
      some ⟨(Scalar.plain text).token :: us, .between⟩ := by
  have htext : (quote text).toList = '"' :: (text.toList ++ ['"']) := by simp [quote]
  have hopen : (⟨us, .between⟩ : Reader).step '"' = some ⟨us, .quoted []⟩ := rfl
  have hclose : (⟨us, .quoted (text.toList.map .char).reverse⟩ : Reader).step '"' =
      some ⟨(Scalar.plain text).token :: us, .between⟩ := by
    simp [step, Scalar.token]
  rw [htext, read_cons, hopen, Option.bind_some, read_append, read_plain h, List.append_nil,
    Option.bind_some, read_cons, hclose]
  rfl

end

/-- the tokens of a text that goes on with `s` -/
def tokensFrom (r : Reader) (s : List Char) : Option (List Token) := (r.read s).bind (·.finish)

section
variable {us : List Token} {s : List Char}

theorem tokensFrom_append {r r' : Reader} {p : List Char} (h : r.read p = some r') :
    r.tokensFrom (p ++ s) = r'.tokensFrom s := by
  rw [tokensFrom, read_append, h]
  rfl

/-- a number ends at the first character that does not belong to it -/
theorem tokensFrom_number {p : List Char} (hp : isNumber p) (hs : ∀ c ∈ s.head?, ¬isNumeric c) :
    (⟨us, .number p.reverse⟩ : Reader).tokensFrom s =
      (⟨.number p :: us, .between⟩ : Reader).tokensFrom s := by
  have hnumeral : numeral p = some (.number p) := if_pos hp
  cases s with
  | nil => simp [tokensFrom, read_nil, finish, hnumeral]
  | cons c s =>
    have hc : ¬isNumeric c := hs c rfl
    have hstep : (⟨us, .number p.reverse⟩ : Reader).step c = begin (.number p :: us) c := by
      simp [step, hc, hnumeral]
    rw [tokensFrom, read_cons, hstep]
    rfl

theorem tokensFrom_scalar {v : Scalar} (hv : v.IsPlain) (hend : Ends s v.token) :
    (⟨us, .between⟩ : Reader).tokensFrom (v.text.toList ++ s) =
      (⟨v.token :: us, .between⟩ : Reader).tokensFrom s := by
  cases v with
  | natural n =>
    have htext : (Scalar.natural n).text.toList = Nat.toDigits 10 n := String.toList_ofList
    rw [htext, tokensFrom_append (read_toDigits n)]
    exact tokensFrom_number (isNumber_toDigits n) hend
  | plain text => exact tokensFrom_append (read_quote hv)

theorem tokensFrom_token {t : Token} {p : List Char} (ht : Writes t p) (hend : Ends s t) :
    (⟨us, .between⟩ : Reader).tokensFrom (p ++ s) =
      (⟨t :: us, .between⟩ : Reader).tokensFrom s := by
  cases ht with
  | mark h => exact tokensFrom_append (congrArg (Option.bind · _) (begin_of_punctuation h))
  | scalar h => exact tokensFrom_scalar h hend

/-- between two tokens, what comes is read as if it stood alone -/
theorem tokensFrom_of_spaced {ts : List Token} (h : Spaced ts s) (us : List Token) :
    (⟨us, .between⟩ : Reader).tokensFrom s = some (us.reverse ++ ts) := by
  induction h generalizing us with
  | nil => exact congrArg some (List.append_nil _).symm
  | @space c ts s hc _ ih =>
    have hread : (⟨us, .between⟩ : Reader).read [c] = some ⟨us, .between⟩ :=
      congrArg (Option.bind · _) (begin_of_isSpace hc)
    exact (tokensFrom_append hread).trans (ih us)
  | token ht hend _ ih =>
    rw [tokensFrom_token ht hend, ih, List.reverse_cons, List.append_assoc]
    rfl

end

end Reader

/-- the tokens that are read are those that were written -/
theorem tokens_of_spaced {ts : List Token} {s : List Char} (h : Spaced ts s) : tokens s = some ts :=
  Reader.tokensFrom_of_spaced h []

/-! ## objects -/

/-- a key and its value -/
abbrev Member := String × Scalar

namespace Member

def tokens (m : Member) : List Token := [(Scalar.plain m.1).token, .colon, m.2.token]

def value (m : Member) : Quoted × Value := (m.1.toList.map .char, m.2.value)

def text (m : Member) : String := quote m.1 ++ ":" ++ m.2.text

def IsPlain (m : Member) : Prop := (Scalar.plain m.1).IsPlain ∧ m.2.IsPlain

end Member

def objectTokens (members : List Member) : List Token :=
  .openBrace :: ([.comma].intercalate (members.map (·.tokens)) ++ [.closeBrace])

def objectText (members : List Member) : String :=
  "\x7b" ++ String.intercalate "," (members.map (·.text)) ++ "\x7d"

namespace Builder

theorem step_scalar (stack : List Enclosing) (v : Scalar) :
    (⟨stack, .value⟩ : Builder).step v.token = some ⟨stack, .follow v.value⟩ := by
  cases v <;> rfl

section
variable {stack : List Enclosing} {done : List (Quoted × Value)}

/-- a member, in a builder that waits for a key -/
theorem read_member {b : Builder}
    (hb : ∀ key, b.step (.quoted key) = some ⟨stack, .colon done key⟩) (m : Member)
    (ts : List Token) :
    b.read (m.tokens ++ ts) =
      (⟨.object done m.value.1 :: stack, .follow m.value.2⟩ : Builder).read ts := by
  have hkey : b.step (Scalar.plain m.1).token = some ⟨stack, .colon done m.value.1⟩ := hb _
  have hcolon : (⟨stack, .colon done m.value.1⟩ : Builder).step .colon =
      some ⟨.object done m.value.1 :: stack, .value⟩ := rfl
  have hread : b.read m.tokens =
      some ⟨.object done m.value.1 :: stack, .follow m.value.2⟩ := by
    rw [Member.tokens, read_cons, hkey, Option.bind_some, read_cons, hcolon, Option.bind_some,
      read_cons, step_scalar]
    rfl
  rw [read_append, hread]
  rfl

/-- the members that are left, and the end of the object; a key is due first or after a comma -/
theorem read_members {b : Builder}
    (hb : ∀ key, b.step (.quoted key) = some ⟨stack, .colon done key⟩) (m : Member)
    (ms : List Member) :
    b.read ([.comma].intercalate ((m :: ms).map (·.tokens)) ++ [.closeBrace]) =
      some ⟨stack, .follow (.object (done.reverse ++ (m :: ms).map (·.value)))⟩ := by
  induction ms generalizing b done m with
  | nil =>
    have hclose : (⟨.object done m.value.1 :: stack, .follow m.value.2⟩ : Builder).step .closeBrace =
        some ⟨stack, .follow (.object (m.value :: done).reverse)⟩ := rfl
    rw [List.map_singleton, List.intercalate_singleton, read_member hb, read_cons, hclose,
      Option.bind_some, List.reverse_cons]
    rfl
  | cons next ms ih =>
    have hcomma : (⟨.object done m.value.1 :: stack, .follow m.value.2⟩ : Builder).step .comma =
        some ⟨stack, .key (m.value :: done)⟩ := rfl
    have hrest := ih (b := ⟨stack, .key (m.value :: done)⟩) (fun _ => rfl) next
    rw [List.reverse_cons, List.append_assoc] at hrest
    rw [List.map_cons, List.map_cons, List.intercalate_cons_cons, List.append_assoc,
      List.append_assoc, read_member hb, List.singleton_append, read_cons, hcomma, Option.bind_some]
    exact hrest

end

end Builder

theorem build_objectTokens (members : List Member) :
    build (objectTokens members) = some (.object (members.map (·.value))) := by
  have hopen : Builder.start.step .openBrace = some ⟨[], .firstKey⟩ := rfl
  rw [build, objectTokens, Builder.read_cons, hopen, Option.bind_some]
  cases members with
  | nil => rfl
  | cons m ms =>
    have hread := Builder.read_members (b := ⟨[], .firstKey⟩) (fun _ => rfl) m ms
    rw [hread]
    rfl

theorem parse_of_spaced {members : List Member} {text : String}
    (h : Spaced (objectTokens members) text.toList) :
    parse text = some (.object (members.map (·.value))) := by
  rw [parse, tokens_of_spaced h, Option.bind_some, build_objectTokens]

/-! ## the text without spaces -/

section
variable {c : Char} {t : Token} {ts : List Token} {s : List Char}

theorem ends_of_punctuation (h : punctuation c = some t) : Ends s t := by
  unfold punctuation at h
  split at h <;> cases h <;> trivial

theorem not_isNumeric_of_punctuation (h : punctuation c = some t) : ¬isNumeric c := by
  unfold punctuation at h
  split at h
  all_goals first | decide | cases h

/-- whatever is not of a number ends the token before it -/
theorem ends_cons (h : ¬isNumeric c) : Ends (c :: s) t := by
  cases t with
  | number text =>
    rintro d ⟨⟩
    exact h
  | openBrace | closeBrace | openBracket | closeBracket | colon | comma => trivial
  | null | true | false | quoted => trivial

theorem spaced_mark (hc : punctuation c = some t) (h : Spaced ts s) : Spaced (t :: ts) (c :: s) :=
  .token (.mark hc) (ends_of_punctuation hc) h

theorem spaced_quote {key : String} (hkey : (Scalar.plain key).IsPlain) (h : Spaced ts s) :
    Spaced ((Scalar.plain key).token :: ts) ((quote key).toList ++ s) :=
  .token (.scalar hkey) trivial h

/-- a member, then the mark that ends it -/
theorem spaced_member {m : Member} (hm : m.IsPlain) (hc : punctuation c = some t)
    (h : Spaced ts s) : Spaced (m.tokens ++ t :: ts) (m.text.toList ++ c :: s) := by
  have hvalue : Spaced (m.2.token :: t :: ts) (m.2.text.toList ++ c :: s) :=
    .token (.scalar hm.2) (ends_cons (not_isNumeric_of_punctuation hc)) (spaced_mark hc h)
  have htext : m.text.toList ++ c :: s =
      (quote m.1).toList ++ ':' :: (m.2.text.toList ++ c :: s) := by
    simp [Member.text]
  rw [htext]
  exact spaced_quote hm.1 (spaced_mark rfl hvalue)

end

/-- some members and the brace behind them -/
theorem spaced_members {m : Member} {ms : List Member} (hm : m.IsPlain)
    (hms : ∀ m ∈ ms, m.IsPlain) :
    Spaced ([.comma].intercalate ((m :: ms).map (·.tokens)) ++ [.closeBrace])
      ([','].intercalate ((m :: ms).map (·.text.toList)) ++ ['\x7d']) := by
  induction ms generalizing m with
  | nil =>
    rw [List.map_singleton, List.map_singleton, List.intercalate_singleton,
      List.intercalate_singleton]
    exact spaced_member hm rfl .nil
  | cons next ms ih =>
    obtain ⟨hnext, hms⟩ := List.forall_mem_cons.1 hms
    have hrest := spaced_member (c := ',') hm rfl (ih hnext hms)
    simpa [List.intercalate_cons_cons] using hrest

theorem spaced_objectText {members : List Member} (h : ∀ m ∈ members, m.IsPlain) :
    Spaced (objectTokens members) (objectText members).toList := by
  have htext : (objectText members).toList =
      '\x7b' :: ([','].intercalate (members.map (·.text.toList)) ++ ['\x7d']) := by
    simp [objectText, String.toList_intercalate, List.map_map, Function.comp_def]
  rw [htext, objectTokens]
  refine spaced_mark rfl ?_
  cases members with
  | nil => exact spaced_mark rfl .nil
  | cons m ms =>
    obtain ⟨hm, hms⟩ := List.forall_mem_cons.1 h
    exact spaced_members hm hms

end Json

end StreamDecode

/-!
# Blank characters

The characters with the Unicode property `White_Space`, and the cutting of text at its ends and at
a separator.

* `trim_between`              what is left of a text without blanks between blanks;
* `splitAt_append_cons`       the first piece ends at the first separator.
-/

namespace StreamDecode

/-- the property `White_Space`, as inclusive ranges of code points -/
def blankRanges : List (Nat × Nat) :=
  [(0x9, 0xD), (0x20, 0x20), (0x85, 0x85), (0xA0, 0xA0), (0x1680, 0x1680), (0x2000, 0x200A),
   (0x2028, 0x2029), (0x202F, 0x202F), (0x205F, 0x205F), (0x3000, 0x3000)]

def isBlank (c : Char) : Bool :=
  blankRanges.any fun r => r.1 ≤ c.toNat && c.toNat ≤ r.2

/-- `s` without the blanks at its ends -/
def trim (s : List Char) : List Char :=
  ((s.dropWhile isBlank).reverse.dropWhile isBlank).reverse

@[simp] theorem trim_nil : trim [] = [] := rfl

theorem dropWhile_isBlank {before p : List Char} (hbefore : ∀ c ∈ before, isBlank c)
    (hp : ∀ c ∈ p.head?, ¬isBlank c) : (before ++ p).dropWhile isBlank = p := by
  rw [List.dropWhile_append_of_pos hbefore]
  cases p with
  | nil => rfl
  | cons c p => exact List.dropWhile_cons_of_neg (hp c rfl)

/-- text without blanks is what is left of it between blanks -/
theorem trim_between {before p after : List Char} (hbefore : ∀ c ∈ before, isBlank c)
    (hp : ∀ c ∈ p, ¬isBlank c) (hafter : ∀ c ∈ after, isBlank c) :
    trim (before ++ (p ++ after)) = p := by
  cases p with
  | nil =>
    have hall : (before ++ after).dropWhile isBlank = [] := by
      rw [← List.append_nil (before ++ after)]
      exact dropWhile_isBlank (List.forall_mem_append.2 ⟨hbefore, hafter⟩) (by simp)
    rw [trim, List.nil_append, hall]
    rfl
  | cons c p =>
    have hfront : (before ++ (c :: p ++ after)).dropWhile isBlank = c :: p ++ after :=
      dropWhile_isBlank hbefore fun d hd => by
        cases hd
        exact hp c List.mem_cons_self
    have hback : (c :: p ++ after).reverse.dropWhile isBlank = (c :: p).reverse := by
      rw [List.reverse_append]
      refine dropWhile_isBlank (fun d hd => hafter d (List.mem_reverse.1 hd)) fun d hd => ?_
      exact hp d (List.mem_reverse.1 (List.mem_of_mem_head? hd))
    rw [trim, hfront, hback, List.reverse_reverse]

/-- the pieces of `s` between the occurrences of `sep`; one more than there are occurrences -/
def splitAt (sep : Char) : List Char → List (List Char)
  | [] => [[]]
  | c :: s =>
    if c = sep then [] :: splitAt sep s
    else match splitAt sep s with
      | [] => [[c]]
      | piece :: rest => (c :: piece) :: rest

theorem splitAt_of_notMem {sep : Char} {p : List Char} (hp : sep ∉ p) : splitAt sep p = [p] := by
  induction p with
  | nil => rfl
  | cons c p ih =>
    rw [List.mem_cons, not_or] at hp
    simp only [splitAt, if_neg (Ne.symm hp.1), ih hp.2]

theorem splitAt_append_cons {sep : Char} {p : List Char} (hp : sep ∉ p) (s : List Char) :
    splitAt sep (p ++ sep :: s) = p :: splitAt sep s := by
  induction p with
  | nil => simp [splitAt]
  | cons c p ih =>
    rw [List.mem_cons, not_or] at hp
    simp only [List.cons_append, splitAt, if_neg (Ne.symm hp.1), ih hp.2]

end StreamDecode

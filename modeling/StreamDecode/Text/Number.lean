/-!
# Unsigned numbers in text

Digits in a base up to sixteen, most significant first.  Writing is `Nat.toDigits`; reading is
`readDigits`, which takes letters of either case (`readDigits_toDigits`).
-/

namespace StreamDecode

/-- the value of a digit, letters of either case -/
def digitValue (c : Char) : Option Nat :=
  if '0' ≤ c ∧ c ≤ '9' then some (c.toNat - '0'.toNat)
  else if 'a' ≤ c ∧ c ≤ 'f' then some (c.toNat - 'a'.toNat + 10)
  else if 'A' ≤ c ∧ c ≤ 'F' then some (c.toNat - 'A'.toNat + 10)
  else none

/-- the value of a digit that is below `base` -/
def digitBelow (base : Nat) (c : Char) : Option Nat :=
  match digitValue c with
  | some d => if d < base then some d else none
  | none => none

/-- the number whose digits are the value `acc` followed by `s` -/
def readDigitsFrom (base : Nat) (acc : Nat) (s : List Char) : Option Nat :=
  s.foldlM (fun acc c => (digitBelow base c).map (base * acc + ·)) acc

/-- the number with the digits `s`; there is at least one -/
def readDigits (base : Nat) : List Char → Option Nat
  | [] => none
  | s => readDigitsFrom base 0 s

theorem readDigitsFrom_append (base acc : Nat) (s r : List Char) :
    readDigitsFrom base acc (s ++ r) =
      (readDigitsFrom base acc s).bind fun n => readDigitsFrom base n r := by
  simp [readDigitsFrom, List.foldlM_append]

theorem digitBelow_digitChar {base d : Nat} (hbase : base ≤ 16) (hd : d < base) :
    digitBelow base d.digitChar = some d := by
  have hvalue : ∀ d < 16, digitValue d.digitChar = some d := by decide
  rw [digitBelow, hvalue d (Nat.lt_of_lt_of_le hd hbase)]
  exact if_pos hd

theorem readDigitsFrom_toDigits {base : Nat} (hone : 1 < base) (hbase : base ≤ 16) (n : Nat) :
    readDigitsFrom base 0 (Nat.toDigits base n) = some n := by
  induction n using Nat.strongRecOn with
  | ind n ih =>
    have hlast : ∀ acc d, d < base → readDigitsFrom base acc [d.digitChar] = some (base * acc + d) := by
      intro acc d hd
      simp [readDigitsFrom, digitBelow_digitChar hbase hd]
    by_cases hn : n < base
    · rw [Nat.toDigits_of_lt_base hn, hlast 0 n hn, Nat.mul_zero, Nat.zero_add]
    · have hle : base ≤ n := Nat.le_of_not_lt hn
      have hpos : 0 < base := Nat.zero_lt_of_lt hone
      rw [Nat.toDigits_of_base_le hone hle, readDigitsFrom_append,
        ih (n / base) (Nat.div_lt_self (Nat.lt_of_lt_of_le hpos hle) hone), Option.bind_some,
        hlast _ _ (Nat.mod_lt n hpos), Nat.div_add_mod]

/-- a number that is written can be read -/
theorem readDigits_toDigits {base : Nat} (hone : 1 < base) (hbase : base ≤ 16) (n : Nat) :
    readDigits base (Nat.toDigits base n) = some n := by
  have hread := readDigitsFrom_toDigits hone hbase n
  cases hdigits : Nat.toDigits base n with
  | nil => exact absurd hdigits Nat.toDigits_ne_nil
  | cons c s =>
    rw [hdigits] at hread
    exact hread

/-- a digit that is written is one of sixteen -/
theorem exists_digitChar_of_mem {base : Nat} (hone : 1 < base) (n : Nat) {c : Char}
    (hc : c ∈ Nat.toDigits base n) : ∃ d < base, c = d.digitChar := by
  induction n using Nat.strongRecOn with
  | ind n ih =>
    by_cases hn : n < base
    · rw [Nat.toDigits_of_lt_base hn, List.mem_singleton] at hc
      exact ⟨n, hn, hc⟩
    · have hle : base ≤ n := Nat.le_of_not_lt hn
      have hpos : 0 < base := Nat.zero_lt_of_lt hone
      rw [Nat.toDigits_of_base_le hone hle, List.mem_append, List.mem_singleton] at hc
      rcases hc with hc | hc
      · exact ih _ (Nat.div_lt_self (Nat.lt_of_lt_of_le hpos hle) hone) hc
      · exact ⟨_, Nat.mod_lt n hpos, hc⟩

/-- only zero is written with a leading zero -/
theorem head_toDigits_ne_zero {base n : Nat} (hone : 1 < base) (hn : n ≠ 0) :
    (Nat.toDigits base n).head? ≠ some '0' := by
  induction n using Nat.strongRecOn with
  | ind n ih =>
    by_cases hlt : n < base
    · rw [Nat.toDigits_of_lt_base hlt]
      simpa using hn
    · have hle : base ≤ n := Nat.le_of_not_lt hlt
      have hpos : 0 < base := Nat.zero_lt_of_lt hone
      have hhead := ih _ (Nat.div_lt_self (Nat.lt_of_lt_of_le hpos hle) hone)
        (Nat.ne_of_gt (Nat.div_pos hle hpos))
      rw [Nat.toDigits_of_base_le hone hle]
      cases hdigits : Nat.toDigits base (n / base) with
      | nil => exact absurd hdigits Nat.toDigits_ne_nil
      | cons c s =>
        rw [hdigits] at hhead
        exact hhead

/-- `n` in decimal -/
def decimal (n : Nat) : String := String.ofList (Nat.toDigits 10 n)

/-- `n` in decimal, a minus sign before a negative number -/
def signedDecimal : Int → String
  | .ofNat n => decimal n
  | .negSucc n => "-" ++ decimal (n + 1)

/-- `n` in lower-case hexadecimal -/
def hexDigits (n : Nat) : List Char := Nat.toDigits 16 n

/-- `n` in lower-case hexadecimal after `0x`, with at least `width` digits -/
def hexText (width n : Nat) : String :=
  let digits := hexDigits n
  "0x" ++ String.ofList (List.replicate (width - digits.length) '0' ++ digits)

end StreamDecode

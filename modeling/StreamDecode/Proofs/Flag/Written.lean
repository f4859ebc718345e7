import StreamDecode.Flag.Text
import Mathlib.Data.List.Basic
import Mathlib.Data.List.Nodup
import Mathlib.Data.List.TakeWhile

/-!
# Flag sets as they are written

The text of a flag set stands for the set: all of its bits come back, those of overlapping flags and
those that no flag declares, too.

* `FlagTable.Readable`    the names of a table are words, each of one flag;
* `mask_cover`            the written flags and the rest cover what was to be covered;
* `mask_named_or`         together they are the set;
* `ofText?_text`          what is read of a text is what was written.
-/

namespace StreamDecode

/-! ## words -/

/-- the characters of names and of digits -/
def isWordChar (c : Char) : Bool := c.isAlphanum || c == '_'

/-- a letter, and what may follow it -/
def isName : List Char → Bool
  | [] => false
  | c :: s => c.isAlpha && s.all isWordChar

/-- characters, each in a word -/
def IsWord (s : List Char) : Prop := s ≠ [] ∧ ∀ c ∈ s, isWordChar c

theorem toNat_of_isWordChar {c : Char} (h : isWordChar c) :
    (0x30 ≤ c.toNat ∧ c.toNat ≤ 0x39) ∨ (0x41 ≤ c.toNat ∧ c.toNat ≤ 0x5A) ∨ c.toNat = 0x5F ∨
      (0x61 ≤ c.toNat ∧ c.toNat ≤ 0x7A) := by
  have hclasses : isWordChar c = (c.isUpper || c.isLower || c.isDigit || c == '_') := rfl
  have hupper : c.isUpper = decide (0x41 ≤ c.toNat ∧ c.toNat ≤ 0x5A) := rfl
  have hlower : c.isLower = (decide (0x61 ≤ c.toNat) && decide (c.toNat ≤ 0x7A)) := rfl
  rw [hclasses, hupper, hlower] at h
  simp only [Bool.or_eq_true, Bool.and_eq_true, decide_eq_true_eq, beq_iff_eq,
    Char.isDigit_iff_toNat] at h
  rcases h with ((h | h) | h) | rfl
  · exact .inr (.inl h)
  · exact .inr (.inr (.inr h))
  · exact .inl h
  · exact .inr (.inr (.inl rfl))

theorem not_isBlank_of_isWordChar {c : Char} (h : isWordChar c) : ¬isBlank c := by
  have hranges := toNat_of_isWordChar h
  simp [isBlank, blankRanges]
  omega

theorem isWord_of_isName {s : List Char} (h : isName s) : IsWord s := by
  cases s with
  | nil => cases h
  | cons c s =>
    obtain ⟨hc, hs⟩ := Bool.and_eq_true_iff.1 h
    refine ⟨List.cons_ne_nil _ _, List.forall_mem_cons.2 ⟨?_, List.all_eq_true.1 hs⟩⟩
    simp [isWordChar, Char.isAlphanum, hc]

theorem isWordChar_digitChar : ∀ d < 16, isWordChar d.digitChar := by decide

theorem isWord_hexDigits (n : Nat) : IsWord (hexDigits n) := by
  refine ⟨Nat.toDigits_ne_nil, fun c hc => ?_⟩
  obtain ⟨d, hd, rfl⟩ := exists_digitChar_of_mem (by decide) n hc
  exact isWordChar_digitChar d hd

theorem toList_hexText (n : Nat) : (hexText 0 n).toList = '0' :: 'x' :: hexDigits n := by
  simp [hexText]

theorem isWord_hexText (n : Nat) : IsWord (hexText 0 n).toList := by
  rw [toList_hexText]
  refine ⟨List.cons_ne_nil _ _, List.forall_mem_cons.2 ⟨by decide, ?_⟩⟩
  exact List.forall_mem_cons.2 ⟨by decide, (isWord_hexDigits n).2⟩

/-! ## text in parts -/

section
variable {parts : List (List Char)}

theorem forall_mem_intercalate {p : Char → Prop} {sep : List Char} (hsep : ∀ c ∈ sep, p c)
    (hparts : ∀ part ∈ parts, ∀ c ∈ part, p c) : ∀ c ∈ sep.intercalate parts, p c := by
  induction parts with
  | nil => simp
  | cons part rest ih =>
    obtain ⟨hpart, hrest⟩ := List.forall_mem_cons.1 hparts
    cases rest with
    | nil => simpa using hpart
    | cons next rest =>
      rw [List.intercalate_cons_cons]
      exact List.forall_mem_append.2 ⟨List.forall_mem_append.2 ⟨hpart, hsep⟩, ih hrest⟩

theorem isBlank_of_trim_eq_nil {s : List Char} (h : trim s = []) : ∀ c ∈ s, isBlank c := by
  rw [trim, List.reverse_eq_nil_iff, List.dropWhile_eq_nil_iff] at h
  refine List.dropWhile_eq_nil_iff.1 (by_contra fun hne => ?_)
  have hhead := List.head_dropWhile_not isBlank hne
  rw [h _ (List.mem_reverse.2 (List.head_mem hne))] at hhead
  cases hhead

/-- the parts of a text are what stands between the bars, without the blanks around it; the blanks
before a part are those of the separator before it -/
theorem map_trim_splitAt (hne : parts ≠ []) (hparts : ∀ part ∈ parts, IsWord part)
    {before : List Char} (hbefore : ∀ c ∈ before, isBlank c) :
    (splitAt '|' (before ++ [' ', '|', ' '].intercalate parts)).map trim = parts := by
  induction parts generalizing before with
  | nil => exact absurd rfl hne
  | cons part rest ih =>
    obtain ⟨hpart, hrest⟩ := List.forall_mem_cons.1 hparts
    have hblank : ∀ c ∈ part, ¬isBlank c := fun c hc => not_isBlank_of_isWordChar (hpart.2 c hc)
    have hspace : ∀ c ∈ [' '], isBlank c := List.forall_mem_singleton.2 (by decide)
    have hbar : '|' ∉ before ++ (part ++ [' ']) := by
      have hfree : ¬isBlank '|' ∧ ¬isWordChar '|' := by decide
      simp only [List.mem_append, not_or]
      exact ⟨fun h => hfree.1 (hbefore _ h), fun h => hfree.2 (hpart.2 _ h), by decide⟩
    cases rest with
    | nil =>
      have hlast : '|' ∉ before ++ part := fun h => hbar (by
        rw [← List.append_assoc]
        exact List.mem_append_left _ h)
      have htrim : trim (before ++ (part ++ [])) = part := trim_between hbefore hblank (by simp)
      rw [List.append_nil] at htrim
      rw [List.intercalate_singleton, splitAt_of_notMem hlast, List.map_singleton, htrim]
    | cons next rest =>
      have hsplit : before ++ [' ', '|', ' '].intercalate (part :: next :: rest) =
          (before ++ (part ++ [' '])) ++ '|' :: ([' '] ++
            [' ', '|', ' '].intercalate (next :: rest)) := by
        rw [List.intercalate_cons_cons]
        simp
      rw [hsplit, splitAt_append_cons hbar, List.map_cons, trim_between hbefore hblank hspace,
        ih (List.cons_ne_nil _ _) hrest hspace]

end

/-! ## the bits of a text -/

/-- the bits of some flags -/
def Flag.mask (fs : List Flag) : UInt32 := fs.foldr (fun f m => f.bits ||| m) 0

theorem or_and_not (a b : UInt32) : a ||| (b &&& ~~~a) = a ||| b := by
  rw [← UInt32.toBitVec_inj]
  ext i hi
  rw [UInt32.toBitVec_or, UInt32.toBitVec_and, UInt32.toBitVec_not, UInt32.toBitVec_or]
  simp only [BitVec.getElem_or, BitVec.getElem_and, BitVec.getElem_not]
  cases a.toBitVec[i] <;> simp

theorem or_of_and_eq {a b : UInt32} (h : a &&& b = b) : b ||| a = a := by
  rw [← h, ← UInt32.toBitVec_inj]
  ext i hi
  rw [UInt32.toBitVec_or, UInt32.toBitVec_and]
  simp only [BitVec.getElem_or, BitVec.getElem_and]
  cases a.toBitVec[i] <;> simp

namespace Flags

section
variable {source : UInt32} {f : Flag} {fs : List Flag} {left : UInt32}

/-- the flag is written: the set contains it, and it still covers a bit -/
def Covers (source left : UInt32) (f : Flag) : Prop :=
  source &&& f.bits = f.bits ∧ left &&& f.bits ≠ 0

theorem cover_cons_of_covers (h : Covers source left f) :
    cover source (f :: fs) left =
      (f :: (cover source fs (left &&& ~~~f.bits)).1, (cover source fs (left &&& ~~~f.bits)).2) := by
  simp [cover, h.1, h.2]

theorem cover_cons_of_not_covers (h : ¬Covers source left f) :
    cover source (f :: fs) left = cover source fs left := by
  rw [cover, if_neg]
  simpa [Covers] using h

end

section
variable (source : UInt32) (fs : List Flag) (left : UInt32)

theorem mem_cover {f : Flag} (h : f ∈ (cover source fs left).1) :
    f ∈ fs ∧ source &&& f.bits = f.bits := by
  induction fs generalizing left with
  | nil => cases h
  | cons g fs ih =>
    by_cases hg : Covers source left g
    · rw [cover_cons_of_covers hg] at h
      rcases List.mem_cons.1 h with rfl | h
      · exact ⟨List.mem_cons_self, hg.1⟩
      · exact (ih _ h).imp_left (List.mem_cons_of_mem _)
    · rw [cover_cons_of_not_covers hg] at h
      exact (ih _ h).imp_left (List.mem_cons_of_mem _)

/-- what is written and what stays uncovered cover what was to be covered -/
theorem mask_cover : Flag.mask (cover source fs left).1 ||| (cover source fs left).2 =
    Flag.mask (cover source fs left).1 ||| left := by
  induction fs generalizing left with
  | nil => rfl
  | cons f fs ih =>
    by_cases hf : Covers source left f
    · rw [cover_cons_of_covers hf]
      -- what `f` takes away from what is left is in its own bits
      set rest := cover source fs (left &&& ~~~f.bits) with hrest
      calc Flag.mask (f :: rest.1) ||| rest.2
        _ = f.bits ||| (Flag.mask rest.1 ||| rest.2) := UInt32.or_assoc _ _ _
        _ = f.bits ||| (Flag.mask rest.1 ||| (left &&& ~~~f.bits)) := by rw [hrest, ih]
        _ = Flag.mask rest.1 ||| (f.bits ||| (left &&& ~~~f.bits)) := by
          rw [← UInt32.or_assoc, UInt32.or_comm f.bits, UInt32.or_assoc]
        _ = Flag.mask rest.1 ||| (f.bits ||| left) := by rw [or_and_not]
        _ = Flag.mask (f :: rest.1) ||| left := by
          rw [← UInt32.or_assoc, UInt32.or_comm (Flag.mask rest.1)]
          rfl
    · rw [cover_cons_of_not_covers hf, ih]

end

variable {t : FlagTable} (a : Flags t)

theorem mask_or_of_contained {fs : List Flag} (h : ∀ f ∈ fs, a.bits &&& f.bits = f.bits) :
    Flag.mask fs ||| a.bits = a.bits := by
  induction fs with
  | nil => exact UInt32.zero_or
  | cons f fs ih =>
    obtain ⟨hf, hrest⟩ := List.forall_mem_cons.1 h
    show f.bits ||| Flag.mask fs ||| a.bits = a.bits
    rw [UInt32.or_assoc, ih hrest, or_of_and_eq hf]

/-- the written flags and the rest are the set -/
theorem mask_named_or : Flag.mask a.named ||| a.unnamed = a.bits :=
  (mask_cover _ _ _).trans (a.mask_or_of_contained fun _ h => (mem_cover _ _ _ h).2)

end Flags

/-! ## reading -/

/-- the names are words, each of one flag -/
structure FlagTable.Readable (t : FlagTable) : Prop where
  distinct : (t.flags.map (·.name)).Nodup
  named : ∀ f ∈ t.flags, isName f.name.toList

theorem FlagTable.Readable.find?_name {t : FlagTable} (ht : t.Readable) {f : Flag}
    (hf : f ∈ t.flags) : t.flags.find? (·.name == f.name) = some f := by
  cases hfind : t.flags.find? (·.name == f.name) with
  | none => exact absurd (beq_self_eq_true f.name) (List.find?_eq_none.1 hfind f hf)
  | some g =>
    have hname : g.name = f.name := by simpa using List.find?_some hfind
    rw [List.inj_on_of_nodup_map ht.distinct (List.mem_of_find?_eq_some hfind) hf hname]

namespace Flags

variable {t : FlagTable}

theorem readPart_name (ht : t.Readable) {f : Flag} (hf : f ∈ t.flags) :
    (readPart f.name.toList : Option (Flags t)) = some ⟨f.bits⟩ := by
  have hname := ht.named f hf
  unfold readPart
  split
  · next h => rw [h] at hname; cases hname
  · next h => rw [h] at hname; cases hname
  · rw [String.ofList_toList, ofName?, ht.find?_name hf]
    rfl

theorem readHex_hexDigits (n : UInt32) :
    (readHex (hexDigits n.toNat) : Option (Flags t)) = some ⟨n⟩ := by
  have hword := isWord_hexDigits n.toNat
  have hdigits : readDigits 16 (hexDigits n.toNat) = some n.toNat :=
    readDigits_toDigits (by decide) (by decide) _
  have hplus : ∀ r, hexDigits n.toNat ≠ '+' :: r := by
    intro r hr
    rw [hr] at hword
    exact absurd (hword.2 '+' List.mem_cons_self) (by decide)
  have hsize : n.toNat < UInt32.size := n.toNat_lt
  unfold readHex
  split
  · next h => exact absurd h (hplus _)
  · simp [hdigits, hsize]

theorem readPart_hexText (n : UInt32) :
    (readPart (hexText 0 n.toNat).toList : Option (Flags t)) = some ⟨n⟩ := by
  rw [toList_hexText]
  exact readHex_hexDigits n

/-- a part on top of what was read before it -/
def readMore (acc : Flags t) (part : List Char) : Option (Flags t) := (readPart part).map (acc ∪ ·)

theorem readParts_eq (parts : List (List Char)) :
    readParts parts = (parts.map trim).foldlM readMore (empty : Flags t) := by
  rw [List.foldlM_map]
  rfl

/-- the names of some flags add their bits -/
theorem foldlM_readMore_names (ht : t.Readable) {fs : List Flag} (hfs : ∀ f ∈ fs, f ∈ t.flags)
    (acc : Flags t) :
    (fs.map (·.name.toList)).foldlM readMore acc = some ⟨acc.bits ||| Flag.mask fs⟩ := by
  induction fs generalizing acc with
  | nil => exact congrArg some (ext_bits UInt32.or_zero.symm)
  | cons f fs ih =>
    obtain ⟨hf, hrest⟩ := List.forall_mem_cons.1 hfs
    have hfirst : readMore acc f.name.toList = some (acc ∪ ⟨f.bits⟩) := by
      rw [readMore, readPart_name ht hf, Option.map_some]
    rw [List.map_cons, List.foldlM_cons, hfirst]
    exact (ih hrest _).trans (congrArg some (ext_bits (UInt32.or_assoc _ _ _)))

variable (a : Flags t)

theorem isWord_of_mem_parts (ht : t.Readable) :
    ∀ part ∈ a.parts.map String.toList, IsWord part := by
  intro part hpart
  obtain ⟨s, hs, rfl⟩ := List.mem_map.1 hpart
  rcases List.mem_append.1 hs with hs | hs
  · obtain ⟨f, hf, rfl⟩ := List.mem_map.1 hs
    exact isWord_of_isName (ht.named f (mem_cover _ _ _ hf).1)
  · split at hs
    · cases hs
    · obtain rfl := List.mem_singleton.1 hs
      exact isWord_hexText _

theorem foldlM_readMore_parts (ht : t.Readable) :
    (a.parts.map String.toList).foldlM readMore empty = some a := by
  have hnamed : (a.named.map (·.name.toList)).foldlM readMore (empty : Flags t) =
      some ⟨Flag.mask a.named⟩ := by
    refine (foldlM_readMore_names ht (fun f hf => (mem_cover _ _ _ hf).1) _).trans ?_
    exact congrArg some (ext_bits UInt32.zero_or)
  have hbits := a.mask_named_or
  have hmap : a.parts.map String.toList = a.named.map (·.name.toList) ++
      if a.unnamed == 0 then [] else [(hexText 0 a.unnamed.toNat).toList] := by
    rw [parts, List.map_append, List.map_map]
    split <;> rfl
  rw [hmap, List.foldlM_append, hnamed]
  by_cases hrest : a.unnamed = 0
  · rw [hrest, UInt32.or_zero] at hbits
    simp [hrest, hbits]
  · have hlast : readMore ⟨Flag.mask a.named⟩ (hexText 0 a.unnamed.toNat).toList = some a := by
      rw [readMore, readPart_hexText, Option.map_some]
      exact congrArg some (ext_bits hbits)
    simp [hrest, hlast]

theorem toList_text : a.text.toList = [' ', '|', ' '].intercalate (a.parts.map String.toList) :=
  String.toList_intercalate

theorem mem_text (ht : t.Readable) : ∀ c ∈ a.text.toList, isWordChar c ∨ c = ' ' ∨ c = '|' := by
  have hsep : ∀ c ∈ [' ', '|', ' '], isWordChar c ∨ c = ' ' ∨ c = '|' := by simp
  rw [toList_text]
  exact forall_mem_intercalate hsep fun part hpart c hc =>
    .inl ((a.isWord_of_mem_parts ht part hpart).2 c hc)

/-- what is read of a text is what was written -/
theorem ofText?_text (ht : t.Readable) : ofText? a.text = some a := by
  have hwords := a.isWord_of_mem_parts ht
  have htext := a.toList_text
  have hparts := a.foldlM_readMore_parts ht
  by_cases hne : a.parts.map String.toList = []
  · rw [hne] at htext hparts
    rw [ofText?, htext]
    exact hparts
  · have hsplit : (splitAt '|' a.text.toList).map trim = a.parts.map String.toList := by
      rw [htext, ← List.nil_append (List.intercalate _ _)]
      exact map_trim_splitAt hne hwords (by simp)
    -- a blank text would have no bar, so it would be one part without characters
    have hshown : trim a.text.toList ≠ [] := by
      intro htrim
      have hbar : '|' ∉ a.text.toList := fun h =>
        absurd (isBlank_of_trim_eq_nil htrim _ h) (by decide)
      rw [splitAt_of_notMem hbar, List.map_singleton, htrim] at hsplit
      exact (hwords [] (hsplit ▸ List.mem_singleton_self _)).1 rfl
    rw [ofText?, if_neg (by simpa using hshown), readParts_eq, hsplit, hparts]

end Flags

end StreamDecode

import StreamDecode.Config.Json
import StreamDecode.Proofs.Flag.Written
import StreamDecode.Proofs.Json.Spaced

/-!
# Configurations as they are written

What is written of a configuration is read back, field by field: an object of some fields of `c`
stands for `c` in these fields and for the default in the others.

* `SessionConfig.pick`              a configuration that takes some fields from another;
* `ConfigField.assign?_scalar`      a field that was written is read;
* `SessionConfig.foldlM_add?`       the fields of an object are read one after the other;
* `SessionConfig.json_round_trip`   every object of some fields, each once, is read.
-/

namespace StreamDecode

namespace Json

theorem text?_plain (s : String) : Quoted.text? (s.toList.map .char) = some s := by
  rw [Quoted.text?, Quoted.chars_map_char, Option.map_some, String.ofList_toList]

theorem natBelow_natural {bound n : Nat} (h : n < bound) :
    (Scalar.natural n).value.natBelow bound = some n := by
  have hread : readDigits 10 (Nat.toDigits 10 n) = some n :=
    readDigits_toDigits (by decide) (by decide) n
  simp [Scalar.value, Value.natBelow, hread, h]

end Json

/-! ## flags -/

theorem readable_streamFormatTable : streamFormatTable.Readable := by
  constructor <;> decide

theorem readable_perfOptionTable : perfOptionTable.Readable := by
  constructor <;> decide

namespace Flags

variable {t : FlagTable}

theorem isPlain_text (ht : t.Readable) (a : Flags t) : (Json.Scalar.plain a.text).IsPlain := by
  intro c hc
  rcases a.mem_text ht c hc with hword | rfl | rfl
  · have hranges := toNat_of_isWordChar hword
    refine ⟨?_, ?_, by omega⟩
    · rintro rfl
      revert hword
      decide
    · rintro rfl
      revert hword
      decide
  · decide
  · decide

theorem ofJson?_plain (ht : t.Readable) (a : Flags t) :
    ofJson? (Json.Scalar.plain a.text).value = some a := by
  have htext : (Json.Scalar.plain a.text).value.text? = some a.text := Json.text?_plain a.text
  rw [ofJson?, htext, Option.bind_some, a.ofText?_text ht]

end Flags

/-! ## fields -/

namespace ConfigField

/-- the value of a field -/
def scalar (c : SessionConfig) : ConfigField → Json.Scalar
  | streamFormat => .plain c.streamFormat.text
  | width => .natural c.width.toNat
  | height => .natural c.height.toNat
  | perfOptions => .plain c.perfOptions.text
  | bufferCount => .natural c.bufferCount.toNat
  | threadCount => .natural c.threadCount.toNat

theorem text_scalar (c : SessionConfig) (f : ConfigField) : (f.scalar c).text = f.json c := by
  cases f <;> rfl

theorem isPlain_scalar (c : SessionConfig) (f : ConfigField) : (f.scalar c).IsPlain := by
  cases f with
  | streamFormat => exact c.streamFormat.isPlain_text readable_streamFormatTable
  | perfOptions => exact c.perfOptions.isPlain_text readable_perfOptionTable
  | width | height | bufferCount | threadCount => trivial

theorem isPlain_name (f : ConfigField) : (Json.Scalar.plain f.name).IsPlain := by
  cases f <;> decide

theorem ofName?_name (f : ConfigField) : ofName? f.name = some f := by
  cases f <;> rfl

/-- a field as a member of an object -/
def written (c : SessionConfig) (f : ConfigField) : Json.Member := (f.name, f.scalar c)

end ConfigField

namespace SessionConfig

/-- `d` with some of its fields taken from `c` -/
def pick (c d : SessionConfig) (fields : List ConfigField) : SessionConfig where
  streamFormat := if .streamFormat ∈ fields then c.streamFormat else d.streamFormat
  width := if .width ∈ fields then c.width else d.width
  height := if .height ∈ fields then c.height else d.height
  perfOptions := if .perfOptions ∈ fields then c.perfOptions else d.perfOptions
  bufferCount := if .bufferCount ∈ fields then c.bufferCount else d.bufferCount
  threadCount := if .threadCount ∈ fields then c.threadCount else d.threadCount

variable (c : SessionConfig)

theorem pick_all (d : SessionConfig) : c.pick d ConfigField.all = c := rfl

theorem pick_cons (d : SessionConfig) (f : ConfigField) (fs : List ConfigField) :
    c.pick (c.pick d [f]) fs = c.pick d (f :: fs) := by
  cases f <;> simp [pick]

end SessionConfig

/-- a field that was written is read -/
theorem ConfigField.assign?_scalar (c d : SessionConfig) (f : ConfigField) :
    f.assign? d (f.scalar c).value = some (c.pick d [f]) := by
  cases f with
  | streamFormat =>
    have hread := Flags.ofJson?_plain readable_streamFormatTable c.streamFormat
    rw [assign?, scalar, hread]
    rfl
  | perfOptions =>
    have hread := Flags.ofJson?_plain readable_perfOptionTable c.perfOptions
    rw [assign?, scalar, hread]
    rfl
  | width =>
    have hword : c.width.toNat.toUInt32 = c.width := UInt32.ofNat_toNat
    rw [assign?, scalar, Json.natBelow_natural c.width.toNat_lt, Option.map_some, hword]
    rfl
  | height =>
    have hword : c.height.toNat.toUInt32 = c.height := UInt32.ofNat_toNat
    rw [assign?, scalar, Json.natBelow_natural c.height.toNat_lt, Option.map_some, hword]
    rfl
  | bufferCount =>
    have hword : c.bufferCount.toNat.toUInt64 = c.bufferCount := UInt64.ofNat_toNat
    rw [assign?, scalar, Json.natBelow_natural c.bufferCount.toNat_lt, Option.map_some, hword]
    rfl
  | threadCount =>
    have hword : c.threadCount.toNat.toUInt64 = c.threadCount := UInt64.ofNat_toNat
    rw [assign?, scalar, Json.natBelow_natural c.threadCount.toNat_lt, Option.map_some, hword]
    rfl

namespace SessionConfig

variable (c : SessionConfig)

/-! ## objects -/

theorem add?_written {d : Draft} {f : ConfigField} (hf : f ∉ d.seen) :
    d.add? (f.written c).value = some ⟨c.pick d.config [f], f :: d.seen⟩ := by
  have hkey : (f.written c).value.1.text? = some f.name := Json.text?_plain f.name
  have hvalue : (f.written c).value.2 = (f.scalar c).value := rfl
  rw [Draft.add?, hkey]
  simp only [ConfigField.ofName?_name, if_neg hf, hvalue, ConfigField.assign?_scalar,
    Option.map_some]

/-- fields that were not read before are read one after the other -/
theorem foldlM_add? {fs : List ConfigField} (hfs : fs.Nodup) {d : Draft}
    (hseen : ∀ f ∈ fs, f ∉ d.seen) :
    (fs.map fun f => (f.written c).value).foldlM Draft.add? d =
      some ⟨c.pick d.config fs, fs.reverse ++ d.seen⟩ := by
  induction fs generalizing d with
  | nil => rfl
  | cons f fs ih =>
    obtain ⟨hf, hfs⟩ := List.nodup_cons.1 hfs
    obtain ⟨hfresh, hseen⟩ := List.forall_mem_cons.1 hseen
    have hrest : ∀ g ∈ fs, g ∉ f :: d.seen := fun g hg => by
      rw [List.mem_cons, not_or]
      exact ⟨fun h => hf (h ▸ hg), hseen g hg⟩
    rw [List.map_cons, List.foldlM_cons, add?_written c hfresh]
    refine (ih hfs hrest).trans ?_
    rw [pick_cons, List.reverse_cons, List.append_assoc]
    rfl

theorem jsonOf_eq (fields : List ConfigField) :
    c.jsonOf fields = Json.objectText (fields.map (·.written c)) := by
  have hmember : ∀ f : ConfigField, (f.written c).text = f.member c := fun f => by
    rw [ConfigField.member, ← f.text_scalar c]
    rfl
  rw [jsonOf, Json.objectText, List.map_map]
  simp only [Function.comp_def, hmember]

/-- the tokens of an object of some fields of `c` -/
def tokensOf (fields : List ConfigField) : List Json.Token :=
  Json.objectTokens (fields.map (·.written c))

theorem spaced_jsonOf (fields : List ConfigField) :
    Json.Spaced (c.tokensOf fields) (c.jsonOf fields).toList := by
  rw [jsonOf_eq]
  refine Json.spaced_objectText fun m hm => ?_
  obtain ⟨f, -, rfl⟩ := List.mem_map.1 hm
  exact ⟨f.isPlain_name, f.isPlain_scalar c⟩

theorem ofText?_of_spaced {fields : List ConfigField} (h : fields.Nodup) {text : String}
    (htext : Json.Spaced (c.tokensOf fields) text.toList) :
    ofText? text = some (c.pick {} fields) := by
  have hread := foldlM_add? c h (d := .blank) fun _ _ => List.not_mem_nil
  rw [ofText?, Json.parse_of_spaced htext, Option.bind_some, List.map_map]
  show ofMembers? _ = _
  rw [ofMembers?]
  refine (congrArg (Option.map _) hread).trans ?_
  rfl

/-- **An object of some fields of a configuration stands for the configuration in these fields and
for the default in the others**, whatever the values, the order of the fields and the spaces
between the tokens.  With all fields it stands for the configuration. -/
theorem json_round_trip (fields : List ConfigField) (h : fields.Nodup) :
    ofText? (c.jsonOf fields) = some (c.pick {} fields) ∧
      (∀ text : String, Json.Spaced (c.tokensOf fields) text.toList →
        ofText? text = some (c.pick {} fields)) ∧
      ofText? c.json = some c := by
  have hall : ConfigField.all.Nodup := by decide
  refine ⟨c.ofText?_of_spaced h (c.spaced_jsonOf fields), fun _ => c.ofText?_of_spaced h, ?_⟩
  rw [json, c.ofText?_of_spaced hall (c.spaced_jsonOf _), pick_all]

/-- overlapping masks, bits without a name and the greatest number, in another order; and spaces -/
theorem json_round_trip_mixed :
    ([.bufferCount, .perfOptions, .streamFormat] : List ConfigField).Nodup ∧
      ofText? ("\x7b\"buffer_count\":18446744073709551615," ++
          "\"perf_flags\":\"HARDWARE_ACCELERATION | 0xfffffff3\"," ++
          "\"video_format\":\"H264 | H265 | H265_MAIN10 | AV1_MAIN8 | MASK_H265 | 0xabcd0000\"\x7d") =
        some { streamFormat := ⟨0xabcd1f01⟩, perfOptions := ⟨0xfffffffb⟩,
               bufferCount := 0xffffffffffffffff } ∧
      ofText? "\x7b \"height\": 720, \"width\":1280 \x7d" =
        some { width := 1280, height := 720 } := by
  let c : SessionConfig :=
    { streamFormat := ⟨0xabcd1f01⟩, width := 1280, height := 720, perfOptions := ⟨0xfffffffb⟩,
      bufferCount := 0xffffffffffffffff, threadCount := 0 }
  have hfields : ([.bufferCount, .perfOptions, .streamFormat] : List ConfigField).Nodup := by decide
  have hsizes : ([.height, .width] : List ConfigField).Nodup := by decide
  have htext : c.jsonOf [.bufferCount, .perfOptions, .streamFormat] =
      "\x7b\"buffer_count\":18446744073709551615," ++
        "\"perf_flags\":\"HARDWARE_ACCELERATION | 0xfffffff3\"," ++
        "\"video_format\":\"H264 | H265 | H265_MAIN10 | AV1_MAIN8 | MASK_H265 | 0xabcd0000\"\x7d" := by
    decide +kernel
  have hspaces : "\x7b \"height\": 720, \"width\":1280 \x7d".toList =
      '\x7b' :: ' ' :: ((Json.quote "height").toList ++ ':' :: ' ' ::
        ((Json.Scalar.natural 720).text.toList ++ ',' :: ' ' ::
          ((Json.quote "width").toList ++ ':' ::
            ((Json.Scalar.natural 1280).text.toList ++ [' ', '\x7d'])))) := by
    decide +kernel
  have hspaced : Json.Spaced (c.tokensOf [.height, .width])
      "\x7b \"height\": 720, \"width\":1280 \x7d".toList := by
    rw [hspaces]
    have hwidth : Json.Spaced [(Json.Scalar.natural 1280).token, .closeBrace]
        ((Json.Scalar.natural 1280).text.toList ++ [' ', '\x7d']) :=
      .token (.scalar trivial) (Json.ends_cons (by decide)) (.space rfl (Json.spaced_mark rfl .nil))
    have hheight := Json.Spaced.token (.scalar (v := .natural 720) trivial)
      (Json.ends_cons (by decide)) (Json.spaced_mark (c := ',') rfl
        (.space (c := ' ') rfl (Json.spaced_quote (ConfigField.isPlain_name .width)
          (Json.spaced_mark (c := ':') rfl hwidth))))
    exact Json.spaced_mark rfl (.space rfl (Json.spaced_quote (ConfigField.isPlain_name .height)
      (Json.spaced_mark rfl (.space rfl hheight))))
  rw [← htext]
  exact ⟨hfields, (c.json_round_trip _ hfields).1, (c.json_round_trip _ hsizes).2.1 _ hspaced⟩

end SessionConfig

end StreamDecode

import StreamDecode.Backend.Candidate
import StreamDecode.Device.Basic
import StreamDecode.Resource.Registry
import Mathlib.Data.Set.Basic

/-!
# Keys of different scopes

A key is a scope, a slash, what the key is of, and a name.  A scope is any text, which may have
slashes itself and look like a key; but the names have none, so the last slash of a key is where its
scope ends.

* `IsKey.scope_eq`     a key tells its scope;
* `backendKey_ne_deviceKey`   no key is of a backend and of a device of one scope;
* `foreignKeys`        the keys of other scopes, which are none of the scope itself
                       (`ownKeys_subset`).
-/

namespace StreamDecode

/-- what stands before the last slash of a text is settled -/
theorem slash_inj {a a' b b' : List Char} (hb : '/' ∉ b) (hb' : '/' ∉ b')
    (h : a ++ '/' :: b = a' ++ '/' :: b') : a = a' := by
  -- a slash between the two would be in the rest of one of them
  have hnone : ∀ {b b' c : List Char}, '/' ∉ b → '/' :: b = c ++ '/' :: b' → c = [] := by
    intro b b' c hb hc
    cases c with
    | nil => rfl
    | cons x c =>
      refine absurd ?_ hb
      rw [(List.cons.inj hc).2]
      exact List.mem_append_right _ List.mem_cons_self
  rcases List.append_eq_append_iff.1 h with ⟨c, rfl, hc⟩ | ⟨c, rfl, hc⟩
  · rw [hnone hb hc, List.append_nil]
  · rw [hnone hb' hc, List.append_nil]

/-! ## names -/

/-- the names that keys are made of: those of candidates and of devices -/
inductive IsName : String → Prop
  | candidate {codec : Codec} {preference : Preference} {c : Candidate}
    (h : c ∈ candidates codec preference) : IsName c.name
  | device (kind : DeviceKind) : IsName kind.name

theorem IsName.slash_notMem {name : String} (h : IsName name) : '/' ∉ name.toList := by
  cases h with
  | @candidate codec preference c h =>
    have hall : ∀ c ∈ candidates codec preference, '/' ∉ c.name.toList := by
      cases codec <;> cases preference <;> decide
    exact hall c h
  | device kind =>
    cases kind with
    | other raw => exact (by decide : '/' ∉ "unknown".toList)
    | _ => decide

/-! ## keys -/

section
variable (scope name : String)

theorem toList_backendKey :
    (backendKey scope name).toList = scope.toList ++ '/' :: ("backend:".toList ++ name.toList) := by
  rw [backendKey, String.toList_append, String.toList_append, List.append_assoc]
  rfl

theorem toList_deviceKey :
    (deviceKey scope name).toList = scope.toList ++ '/' :: ("device:".toList ++ name.toList) := by
  rw [deviceKey, String.toList_append, String.toList_append, List.append_assoc]
  rfl

end

theorem backendKey_ne_deviceKey (scope name name' : String) :
    backendKey scope name ≠ deviceKey scope name' := by
  intro h
  have hlist := congrArg String.toList h
  rw [toList_backendKey, toList_deviceKey, List.append_cancel_left_eq] at hlist
  cases hlist

/-- the key of something in a scope -/
inductive IsKey (scope : String) : String → Prop
  | backend {name : String} (h : IsName name) : IsKey scope (backendKey scope name)
  | device {name : String} (h : IsName name) : IsKey scope (deviceKey scope name)

section
variable {scope scope' key : String}

theorem IsKey.exists_slash (h : IsKey scope key) :
    ∃ tail, '/' ∉ tail ∧ key.toList = scope.toList ++ '/' :: tail := by
  have htail : ∀ {tag name : String}, '/' ∉ tag.toList → IsName name →
      '/' ∉ tag.toList ++ name.toList := by
    intro tag name htag hname
    rw [List.mem_append]
    exact not_or.2 ⟨htag, hname.slash_notMem⟩
  cases h with
  | backend hname => exact ⟨_, htail (by decide) hname, toList_backendKey _ _⟩
  | device hname => exact ⟨_, htail (by decide) hname, toList_deviceKey _ _⟩

theorem IsKey.scope_eq (h : IsKey scope key) (h' : IsKey scope' key) : scope = scope' := by
  obtain ⟨tail, htail, hkey⟩ := h.exists_slash
  obtain ⟨tail', htail', hkey'⟩ := h'.exists_slash
  exact String.toList_inj.1 (slash_inj htail htail' (hkey.symm.trans hkey'))

end

/-! ## keys of a scope -/

variable (scope : String)

def backendKeys : Set String :=
  {key | ∃ codec preference, ∃ c ∈ candidates codec preference, key = backendKey scope c.name}

def deviceKeys : Set String := {key | ∃ kind : DeviceKind, key = deviceKey scope kind.name}

def ownKeys : Set String := backendKeys scope ∪ deviceKeys scope

/-- the keys of backends and devices of other scopes, with any name of a candidate or of a device -/
def foreignKeys : Set String := {key | ∃ scope', scope' ≠ scope ∧ IsKey scope' key}

theorem ownKeys_subset : ownKeys scope ⊆ (foreignKeys scope)ᶜ := by
  rintro key hkey ⟨scope', hscope, hforeign⟩
  have hown : IsKey scope key := by
    rcases hkey with ⟨codec, preference, c, hc, rfl⟩ | ⟨kind, rfl⟩
    · exact .backend (.candidate hc)
    · exact .device (.device kind)
  exact hscope (hforeign.scope_eq hown)

end StreamDecode

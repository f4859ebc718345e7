/-!
# The device registry

The keys of the devices in use.  A vendor backend and a device of each kind have one key within a
scope; a key is held by one claim at a time.

`mem_claim?` and `mem_release` say what the two operations do to the set of keys.
-/

namespace StreamDecode

/-- the right to a device, held from the claim to its release -/
structure Claim where
  key : String
  deriving DecidableEq, Repr

/-- the key of a vendor backend, which owns its device -/
def backendKey (scope backend : String) : String := scope ++ "/backend:" ++ backend

/-- the key of a device that a context is created for -/
def deviceKey (scope device : String) : String := scope ++ "/device:" ++ device

/-- the claimed keys, the latest first -/
structure Registry where
  keys : List String
  deriving DecidableEq, Repr

namespace Registry

def empty : Registry := ⟨[]⟩

instance : Membership String Registry := ⟨fun r key => key ∈ r.keys⟩

instance (key : String) (r : Registry) : Decidable (key ∈ r) :=
  inferInstanceAs (Decidable (key ∈ r.keys))

theorem mem_def (key : String) (r : Registry) : key ∈ r ↔ key ∈ r.keys := Iff.rfl

/-- the registry after `key` was claimed; a key that is held cannot be claimed -/
def claim? (r : Registry) (key : String) : Option Registry :=
  if key ∈ r then none else some ⟨key :: r.keys⟩

def release (r : Registry) (key : String) : Registry := ⟨r.keys.filter (· != key)⟩

theorem claim?_eq_none_iff (r : Registry) (key : String) : r.claim? key = none ↔ key ∈ r := by
  simp [claim?]

theorem claim?_of_notMem {r : Registry} {key : String} (h : key ∉ r) :
    r.claim? key = some ⟨key :: r.keys⟩ := if_neg h

theorem mem_claim? {r s : Registry} {key : String} (h : r.claim? key = some s) (k : String) :
    k ∈ s ↔ k = key ∨ k ∈ r := by
  unfold claim? at h
  split at h
  · cases h
  · cases h
    simp [mem_def]

@[simp] theorem mem_release (r : Registry) (key k : String) :
    k ∈ r.release key ↔ k ∈ r ∧ k ≠ key := by
  simp [mem_def, release]

/-- releasing what was just claimed gives the registry back -/
theorem release_claim? {r s : Registry} {key : String} (h : r.claim? key = some s) :
    s.release key = r := by
  unfold claim? at h
  split at h
  · cases h
  · next free =>
    cases h
    have keep : r.keys.filter (· != key) = r.keys :=
      List.filter_eq_self.2 fun k hk => by
        simp only [bne_iff_ne]
        rintro rfl
        exact free hk
    simp [release, keep]

theorem release_cons {r : Registry} {key : String} (h : key ∉ r) :
    release ⟨key :: r.keys⟩ key = r := release_claim? (claim?_of_notMem h)

end Registry

end StreamDecode

import StreamDecode.Engine.Acts
import Mathlib.Data.List.Basic
import Mathlib.Data.List.Nodup

/-!
# Live claims

A key is given back by its text, not by the claim that holds it.  That the right claim goes nevertheless
is for the keys of live claims to be distinct, whatever is claimed and dropped in whatever order.

* `Grant`, `LiveClaims`   claims that were granted, and the world with those that are live;
* `LiveClaims.Sound`      the registry has the keys of the live claims, each once; one claim or one drop
                          keeps it (`Sound.claim`, `Sound.drop`), so any run does (`Sound.run`);
* `grants_dropAll`, `older_run`   what is live after drops, and what a run leaves alone;
* `LiveClaims.exact_run`  what the registry answers, what a drop frees, and what it is when all that was
                          claimed since is dropped.
-/

namespace StreamDecode

variable {σ : Type}

/-- a claim that was granted, with its number among all that were -/
structure Grant where
  number : Nat
  claim : Claim
  deriving DecidableEq

def Grant.key (g : Grant) : String := g.claim.key

/-- a world with the claims that are live in it -/
structure LiveClaims (σ : Type) where
  world : World σ
  /-- the latest first -/
  grants : List Grant
  /-- how many claims were granted so far -/
  count : Nat

inductive ClaimOp where
  | claim (key : String)
  /-- drops the live claim of that number -/
  | drop (number : Nat)

/-- no claim that was granted before the first `n` others is dropped -/
def ClaimOp.spares (n : Nat) : ClaimOp → Bool
  | claim _ => true
  | drop number => decide (n ≤ number)

namespace LiveClaims

/-- no key is claimed yet -/
def vacant (w : World σ) : LiveClaims σ := ⟨{ w with registry := .empty }, [], 0⟩

variable (l : LiveClaims σ)

def claim (key : String) : LiveClaims σ :=
  let step := Act.claim key l.world
  match step.value with
  | .ok claim => ⟨step.world, ⟨l.count, claim⟩ :: l.grants, l.count + 1⟩
  | .error _ => { l with world := step.world }

def drop (number : Nat) : LiveClaims σ :=
  match l.grants.find? (·.number == number) with
  | some g =>
    { l with
      world := (Act.unclaim g.claim l.world).world
      grants := l.grants.filter (·.number != number) }
  | none => l

def perform : ClaimOp → LiveClaims σ
  | .claim key => l.claim key
  | .drop number => l.drop number

def run (ops : List ClaimOp) : LiveClaims σ := ops.foldl perform l

/-- the numbers of the live claims that were granted after the first `n` -/
def since (n : Nat) : List Nat := (l.grants.filter (n ≤ ·.number)).map (·.number)

/-- the registry has the keys of the live claims, each once -/
structure Sound : Prop where
  registry : l.world.registry.keys = l.grants.map (·.key)
  distinct : (l.grants.map (·.key)).Nodup
  numbers : (l.grants.map (·.number)).Nodup
  granted : ∀ g ∈ l.grants, g.number < l.count

/-- what the registry knows of the live claims -/
structure Exact : Prop where
  claimed : ∀ key, key ∈ l.world.registry ↔ ∃ g ∈ l.grants, g.key = key
  distinct : (l.grants.map (·.key)).Nodup
  answers : ∀ key, (Act.isClaimed key l.world).value = true ↔ ∃ g ∈ l.grants, g.key = key
  grants : ∀ key, (∃ c, (Act.claim key l.world).value = .ok c) ↔ ∀ g ∈ l.grants, g.key ≠ key
  /-- a claim that is granted adds its key -/
  adds : ∀ key c, (Act.claim key l.world).value = .ok c → c.key = key ∧
    ∀ k, k ∈ (Act.claim key l.world).world.registry ↔ k = key ∨ k ∈ l.world.registry
  /-- a claim that is refused leaves everything as it is -/
  refuses : ∀ g ∈ l.grants, Act.claim g.key l.world = ⟨.error (.deviceBusy g.key), [], l.world⟩
  /-- a drop frees the key of the claim -/
  frees : ∀ g ∈ l.grants, ∀ k,
    k ∈ (l.drop g.number).world.registry ↔ k ∈ l.world.registry ∧ k ≠ g.key
  /-- and no key that another claim holds -/
  keeps : ∀ g ∈ l.grants, ∀ g' ∈ l.grants, g' ≠ g → g'.key ∈ (l.drop g.number).world.registry

variable {l}

/-! ## one claim, one drop -/

theorem claim_of_mem {key : String} (h : key ∈ l.world.registry) : l.claim key = l := by
  rw [claim, Act.claim_of_mem h]

theorem claim_of_notMem {key : String} (h : key ∉ l.world.registry) :
    l.claim key = ⟨{ l.world with registry := ⟨key :: l.world.registry.keys⟩ },
      ⟨l.count, ⟨key⟩⟩ :: l.grants, l.count + 1⟩ := by
  rw [claim, Act.claim_of_notMem h]

theorem grants_drop (number : Nat) :
    (l.drop number).grants = l.grants.filter (·.number != number) := by
  unfold drop
  split
  · rfl
  · next hnone =>
    refine (List.filter_eq_self.2 fun g hg => ?_).symm
    have hne := List.find?_eq_none.1 hnone g hg
    simpa using hne

theorem count_drop (number : Nat) : (l.drop number).count = l.count := by
  unfold drop
  split <;> rfl

namespace Sound

variable (hl : l.Sound)
include hl

theorem mem_registry (key : String) : key ∈ l.world.registry ↔ ∃ g ∈ l.grants, g.key = key := by
  rw [Registry.mem_def, hl.registry, List.mem_map]

theorem eq_of_number {g g' : Grant} (hg : g ∈ l.grants) (hg' : g' ∈ l.grants)
    (h : g.number = g'.number) : g = g' := List.inj_on_of_nodup_map hl.numbers hg hg' h

theorem eq_of_key {g g' : Grant} (hg : g ∈ l.grants) (hg' : g' ∈ l.grants)
    (h : g.key = g'.key) : g = g' := List.inj_on_of_nodup_map hl.distinct hg hg' h

theorem drop_of_mem {g : Grant} (hg : g ∈ l.grants) :
    l.drop g.number = { l with
      world := { l.world with registry := l.world.registry.release g.key }
      grants := l.grants.filter (·.number != g.number) } := by
  unfold LiveClaims.drop
  split
  · next g' hfind =>
    have hnumber : g'.number = g.number := by simpa using List.find?_some hfind
    obtain rfl := hl.eq_of_number (List.mem_of_find?_eq_some hfind) hg hnumber
    rfl
  · next hnone => exact absurd (beq_self_eq_true g.number) (List.find?_eq_none.1 hnone g hg)

theorem claim (key : String) : (l.claim key).Sound := by
  by_cases h : key ∈ l.world.registry
  · rwa [claim_of_mem h]
  · rw [claim_of_notMem h]
    refine ⟨congrArg (key :: ·) hl.registry, ?_, ?_, ?_⟩
    · rw [Registry.mem_def, hl.registry] at h
      exact List.nodup_cons.2 ⟨h, hl.distinct⟩
    · refine List.nodup_cons.2 ⟨fun hmem => ?_, hl.numbers⟩
      obtain ⟨g, hg, hnumber⟩ := List.mem_map.1 hmem
      exact Nat.ne_of_lt (hl.granted g hg) hnumber
    · refine List.forall_mem_cons.2 ⟨l.count.lt_succ_self, fun g hg => ?_⟩
      exact Nat.lt_succ_of_lt (hl.granted g hg)

theorem drop (number : Nat) : (l.drop number).Sound := by
  cases hfind : l.grants.find? (·.number == number) with
  | none =>
    rw [LiveClaims.drop, hfind]
    exact hl
  | some g =>
    have hg := List.mem_of_find?_eq_some hfind
    obtain rfl : g.number = number := by simpa using List.find?_some hfind
    rw [hl.drop_of_mem hg]
    have hsub : List.Sublist (l.grants.filter (·.number != g.number)) l.grants :=
      List.filter_sublist
    refine ⟨?_, hl.distinct.sublist (hsub.map _), hl.numbers.sublist (hsub.map _), fun g' hg' => ?_⟩
    · -- the keys are filtered by their text, the claims by their number
      show l.world.registry.keys.filter (· != g.key) = _
      rw [hl.registry, List.filter_map]
      refine congrArg _ (List.filter_congr fun g' hg' => ?_)
      have hiff : g'.key = g.key ↔ g'.number = g.number :=
        ⟨fun h => congrArg Grant.number (hl.eq_of_key hg' hg h),
          fun h => congrArg Grant.key (hl.eq_of_number hg' hg h)⟩
      simp [bne, hiff]
    · exact hl.granted g' (hsub.subset hg')

theorem perform (op : ClaimOp) : (l.perform op).Sound := by
  cases op with
  | claim key => exact hl.claim key
  | drop number => exact hl.drop number

theorem run (ops : List ClaimOp) : (l.run ops).Sound := by
  induction ops generalizing l with
  | nil => exact hl
  | cons op ops ih => exact ih (hl.perform op)

theorem exact : l.Exact where
  claimed := hl.mem_registry
  distinct := hl.distinct
  answers key := by
    rw [← hl.mem_registry]
    exact decide_eq_true_iff
  grants key := by
    by_cases h : key ∈ l.world.registry
    · obtain ⟨g, hg, hkey⟩ := (hl.mem_registry key).1 h
      rw [Act.claim_of_mem h]
      refine iff_of_false ?_ fun hfree => hfree g hg hkey
      rintro ⟨c, ⟨⟩⟩
    · rw [Act.claim_of_notMem h]
      exact iff_of_true ⟨_, rfl⟩ fun g hg hkey => h ((hl.mem_registry key).2 ⟨g, hg, hkey⟩)
  adds key c hc := by
    by_cases h : key ∈ l.world.registry
    · rw [Act.claim_of_mem h] at hc
      cases hc
    · rw [Act.claim_of_notMem h] at hc ⊢
      cases hc
      exact ⟨rfl, fun k => List.mem_cons⟩
  refuses g hg := Act.claim_of_mem ((hl.mem_registry _).2 ⟨g, hg, rfl⟩)
  frees g hg k := by
    rw [hl.drop_of_mem hg]
    exact Registry.mem_release _ _ _
  keeps g hg g' hg' hne := by
    rw [hl.drop_of_mem hg]
    refine (Registry.mem_release _ _ _).2 ⟨(hl.mem_registry _).2 ⟨g', hg', rfl⟩, fun hkey => ?_⟩
    exact hne (hl.eq_of_key hg' hg hkey)

end Sound

theorem sound_vacant (w : World σ) : (vacant w).Sound :=
  ⟨rfl, List.nodup_nil, List.nodup_nil, List.forall_mem_nil _⟩

/-! ## what was claimed since -/

theorem grants_dropAll (numbers : List Nat) :
    (l.run (numbers.map .drop)).grants = l.grants.filter (·.number ∉ numbers) := by
  induction numbers generalizing l with
  | nil => simp [run]
  | cons number numbers ih =>
    show ((l.drop number).run (numbers.map .drop)).grants = _
    rw [ih, grants_drop, List.filter_filter]
    refine List.filter_congr fun g _ => ?_
    simp [bne, Bool.and_comm, Bool.beq_eq_decide_eq]

/-- the claims that were granted first are left alone -/
theorem older_run {n : Nat} {ops : List ClaimOp} (hn : n ≤ l.count)
    (hops : ∀ op ∈ ops, op.spares n) :
    (l.run ops).grants.filter (·.number < n) = l.grants.filter (·.number < n) := by
  induction ops generalizing l with
  | nil => rfl
  | cons op ops ih =>
    obtain ⟨hop, hrest⟩ := List.forall_mem_cons.1 hops
    have hstep : (l.perform op).grants.filter (·.number < n) = l.grants.filter (·.number < n) ∧
        n ≤ (l.perform op).count := by
      cases op with
      | claim key =>
        show (l.claim key).grants.filter _ = _ ∧ n ≤ (l.claim key).count
        by_cases h : key ∈ l.world.registry
        · rw [claim_of_mem h]
          exact ⟨rfl, hn⟩
        · rw [claim_of_notMem h]
          exact ⟨List.filter_cons_of_neg (by simpa using hn), Nat.le_succ_of_le hn⟩
      | drop number =>
        show (l.drop number).grants.filter _ = _ ∧ n ≤ (l.drop number).count
        rw [grants_drop, count_drop, List.filter_filter]
        refine ⟨List.filter_congr fun g _ => ?_, hn⟩
        have hspared : g.number < n → g.number ≠ number := fun hg =>
          Nat.ne_of_lt (Nat.lt_of_lt_of_le hg (of_decide_eq_true hop))
        by_cases hg : g.number < n
        · simp [hg, hspared hg]
        · simp [hg]
    exact (ih hstep.2 hrest).trans hstep.1

/-- the registry knows the live claims after any run; and it is again what it was at any point of the
run, once all claims that were granted since are dropped, in whatever order -/
theorem exact_run (w : World σ) (ops : List ClaimOp) :
    let l := (vacant w).run ops
    l.Exact ∧ ∀ more (order : List Nat), (∀ op ∈ more, op.spares l.count) →
      order.Perm ((l.run more).since l.count) →
        ((l.run more).run (order.map .drop)).world.registry = l.world.registry := by
  intro l
  have hl : l.Sound := (sound_vacant w).run ops
  refine ⟨hl.exact, fun more order hmore horder => ?_⟩
  have hgrants : ((l.run more).run (order.map .drop)).grants = l.grants := by
    have holder : l.grants.filter (·.number < l.count) = l.grants :=
      List.filter_eq_self.2 fun g hg => decide_eq_true (hl.granted g hg)
    rw [grants_dropAll, ← holder, ← older_run (Nat.le_refl _) hmore]
    refine List.filter_congr fun g hg => ?_
    have hmem : g.number ∈ order ↔ l.count ≤ g.number := by
      rw [horder.mem_iff, since, List.mem_map]
      constructor
      · rintro ⟨g', hg', hnumber⟩
        rw [← hnumber]
        simpa using (List.mem_filter.1 hg').2
      · intro h
        exact ⟨g, List.mem_filter.2 ⟨hg, decide_eq_true h⟩, rfl⟩
    simp [hmem]
  have hregistry : ∀ {l' : LiveClaims σ}, l'.Sound → l'.grants = l.grants →
      l'.world.registry = l.world.registry := by
    intro l' hl' h
    have hkeys : l'.world.registry.keys = l.world.registry.keys := by
      rw [hl'.registry, hl.registry, h]
    exact congrArg Registry.mk hkeys
  exact hregistry ((hl.run more).run _) hgrants

/-- a claim that is refused, and a drop -/
def earlierOps : List ClaimOp :=
  [.claim "s/device:vaapi", .claim "s/device:vaapi", .claim "s/backend:h264", .drop 0]

/-- the key that was dropped is claimed again, twice with a drop between; the empty text is a key, too -/
def laterOps : List ClaimOp :=
  [.claim "s/device:vaapi", .claim "", .claim "s/backend:h264", .drop 2, .claim "s/device:vaapi"]

theorem exact_run_mixed :
    let l := (vacant (⟨.empty, (), .none⟩ : World Unit)).run earlierOps
    l.Exact ∧ l.world.registry = ⟨["s/backend:h264"]⟩ ∧
      (l.run laterOps).world.registry = ⟨["s/device:vaapi", "", "s/backend:h264"]⟩ ∧
      ((l.run laterOps).run [.drop 3, .drop 4]).world.registry = l.world.registry := by
  intro l
  have hl : l = (vacant ⟨.empty, (), .none⟩).run earlierOps := rfl
  obtain ⟨hexact, hback⟩ := exact_run (⟨.empty, (), .none⟩ : World Unit) earlierOps
  rw [← hl] at hexact hback
  have hearlier : l.world.registry = ⟨["s/backend:h264"]⟩ := by decide
  have hlater : (l.run laterOps).world.registry =
      ⟨["s/device:vaapi", "", "s/backend:h264"]⟩ := by decide
  have hspared : ∀ op ∈ laterOps, op.spares l.count := by decide
  have horder : [3, 4].Perm ((l.run laterOps).since l.count) := by decide
  have hdrops : [.drop 3, .drop 4] = [3, 4].map ClaimOp.drop := rfl
  have hrestored := hback laterOps [3, 4] hspared horder
  rw [hdrops]
  exact ⟨hexact, hearlier, hlater, hrestored⟩

end LiveClaims

end StreamDecode

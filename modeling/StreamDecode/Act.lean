import StreamDecode.Event
import StreamDecode.Resource.Registry

/-!
# Acts

An act runs in a world, which holds the registry, the state of the engine and the number of
resources that it handed out, and leaves a value, a trace and the world after it.  The trace of two
acts in a row is the trace of the first followed by the trace of the second (`events_bind`).
-/

namespace StreamDecode

/-- how many resources of each kind an engine has handed out -/
structure Issued where
  frames : Nat
  devices : Nat
  contexts : Nat
  deriving DecidableEq, Repr

def Issued.none : Issued := ⟨0, 0, 0⟩

structure World (σ : Type) where
  registry : Registry
  engine : σ
  issued : Issued

/-- what an act leaves behind -/
structure Step (σ α : Type) where
  value : α
  events : Trace
  world : World σ

def Act (σ α : Type) : Type := World σ → Step σ α

namespace Act

variable {σ α β : Type}

def pure (a : α) : Act σ α := fun w => ⟨a, [], w⟩

def bind (x : Act σ α) (f : α → Act σ β) : Act σ β := fun w =>
  let s := x w
  let t := f s.value s.world
  ⟨t.value, s.events ++ t.events, t.world⟩

instance : Monad (Act σ) where
  pure := pure
  bind := bind

@[ext] theorem ext {x y : Act σ α} (h : ∀ w, x w = y w) : x = y := funext h

@[simp] theorem pure_apply (a : α) (w : World σ) : (Pure.pure a : Act σ α) w = ⟨a, [], w⟩ := rfl

section
variable (x : Act σ α) (f : α → Act σ β) (w : World σ)

theorem bind_apply : (x >>= f) w = ⟨(f (x w).value (x w).world).value,
    (x w).events ++ (f (x w).value (x w).world).events, (f (x w).value (x w).world).world⟩ := rfl

@[simp] theorem value_bind : ((x >>= f) w).value = (f (x w).value (x w).world).value := rfl

@[simp] theorem events_bind :
    ((x >>= f) w).events = (x w).events ++ (f (x w).value (x w).world).events := rfl

@[simp] theorem world_bind : ((x >>= f) w).world = (f (x w).value (x w).world).world := rfl

end

instance : LawfulMonad (Act σ) := LawfulMonad.mk' (Act σ)
  (fun x => by
    ext w
    show bind x (fun a => pure a) w = x w
    simp [bind, pure])
  (fun _ _ => by
    ext w
    simp [Bind.bind, Pure.pure, bind, pure])
  (fun _ _ _ => by
    ext w
    simp [Bind.bind, bind])

theorem map_apply (f : α → β) (x : Act σ α) (w : World σ) :
    (f <$> x) w = ⟨f (x w).value, (x w).events, (x w).world⟩ := by
  rw [← bind_pure_comp, bind_apply]
  simp

/-- leaves one event -/
def emit (e : Event) : Act σ Unit := fun w => ⟨(), [e], w⟩

/-- leaves one notice -/
def tell (n : Notice) : Act σ Unit := emit (.notice n)

@[simp] theorem emit_apply (e : Event) (w : World σ) : emit e w = ⟨(), [e], w⟩ := rfl

@[simp] theorem tell_apply (n : Notice) (w : World σ) : tell n w = ⟨(), [.notice n], w⟩ := rfl

end Act

end StreamDecode

import StreamDecode.Proofs.Session.Kinds

/-!
# Runs of calls on a session

A session is called any number of times between its start and its end (`Session.perform`).

* `leaves_perform`   no call concerns a resource or a key;
* `idles_perform`    all calls are answered, and the session holds after them what it held before.
-/

namespace StreamDecode

variable {σ κ α : Type}

namespace Session

/-- a call on a session between its start and its end -/
inductive Call where
  | decode (buf : Bytes) (len : UInt64)
  | nextFrame (hostVisible : Bool)
  | reset

/-- the host looks at the frame that a call yields -/
def Call.shows (preference : Preference) : Call → Prop
  | .nextFrame hostVisible => preference = .software ∨ hostVisible
  | .decode _ _ | .reset => False

inductive Answer where
  | submitted (result : Except SessionError Unit)
  | received (result : Except SessionError (Option OutputFrame))
  | flushed

/-- answers of different calls are brought into one type -/
def Outcome.answer (f : Except SessionError α → Answer) :
    Outcome κ α → Except Fault (Answer × Session κ)
  | .error fault => .error fault
  | .ok (result, s) => .ok (f result, s)

variable (engine : Engine σ κ)

def Call.act (s : Session κ) : Call → Act σ (Except Fault (Answer × Session κ))
  | .decode buf len => Outcome.answer .submitted <$> s.decode engine buf len
  | .nextFrame hostVisible => Outcome.answer .received <$> s.nextFrame engine hostVisible
  | .reset => (fun s => .ok (.flushed, s)) <$> s.reset engine

/-- calls one after the other; a fault ends it -/
def perform (s : Session κ) : List Call → Act σ (Except Fault (List Answer × Session κ))
  | [] => return .ok ([], s)
  | call :: calls => do
    match ← call.act engine s with
    | .error fault => return .error fault
    | .ok (answer, s) =>
      match ← perform s calls with
      | .error fault => return .error fault
      | .ok (answers, s) => return .ok (answer :: answers, s)

theorem perform_cons {s s' s'' : Session κ} {call : Call} {calls : List Call} {answer : Answer}
    {answers : List Answer} {w : World σ} (h : (call.act engine s w).value = .ok (answer, s'))
    (h' : (s'.perform engine calls (call.act engine s w).world).value = .ok (answers, s'')) :
    (s.perform engine (call :: calls) w).value = .ok (answer :: answers, s'') := by
  rw [perform, Act.value_bind, h]
  dsimp only
  rw [Act.value_bind, h']
  rfl

theorem events_perform_cons {s s' s'' : Session κ} {call : Call} {calls : List Call}
    {answer : Answer} {answers : List Answer} {w : World σ}
    (h : (call.act engine s w).value = .ok (answer, s'))
    (h' : (s'.perform engine calls (call.act engine s w).world).value = .ok (answers, s'')) :
    (s.perform engine (call :: calls) w).events = (call.act engine s w).events ++
      (s'.perform engine calls (call.act engine s w).world).events := by
  rw [perform, Act.events_bind, h]
  dsimp only
  rw [Act.events_bind, h']
  simp

theorem world_perform_cons {s s' s'' : Session κ} {call : Call} {calls : List Call} {answer : Answer}
    {answers : List Answer} {w : World σ} (h : (call.act engine s w).value = .ok (answer, s'))
    (h' : (s'.perform engine calls (call.act engine s w).world).value = .ok (answers, s'')) :
    (s.perform engine (call :: calls) w).world =
      (s'.perform engine calls (call.act engine s w).world).world := by
  rw [perform, Act.world_bind, h]
  dsimp only
  rw [Act.world_bind, h']
  rfl

open Act

theorem Call.leaves_act (s : Session κ) (call : Call) :
    (call.act engine s).Leaves Event.isDecoding := by
  cases call with
  | decode buf len => exact .map _ (leaves_decode engine s buf len)
  | nextFrame hostVisible => exact .map _ (leaves_nextFrame engine s hostVisible)
  | reset => exact .map _ (leaves_reset engine s)

theorem leaves_perform (s : Session κ) (calls : List Call) :
    (s.perform engine calls).Leaves Event.isDecoding := by
  induction calls generalizing s with
  | nil => exact .pure _
  | cons call calls ih =>
    rw [perform]
    refine (call.leaves_act engine s).bind fun r => ?_
    cases r with
    | error fault => exact .pure _
    | ok r =>
      refine (ih r.2).bind fun r => ?_
      cases r <;> exact .pure _

variable {s : Session κ}

theorem Answers.answer {r : Outcome κ α} (h : s.Answers r) (f : Except SessionError α → Answer) :
    ∃ answer s', Outcome.answer f r = .ok (answer, s') ∧ s.Continues s' := by
  obtain ⟨result, s', rfl, hs⟩ := h
  exact ⟨_, s', rfl, hs⟩

theorem Call.idles_act (hcursor : s.ring.next < s.ring.slots.length) (call : Call) :
    (call.act engine s).Idles fun r => ∃ answer s', r = .ok (answer, s') ∧ s.Continues s' := by
  cases call with
  | decode buf len =>
    rw [act, ← bind_pure_comp]
    exact (idles_decode engine s buf len).bind fun r hr => .pure (Answers.answer hr _)
  | nextFrame hostVisible =>
    rw [act, ← bind_pure_comp]
    exact (idles_nextFrame engine hcursor hostVisible).bind fun r hr =>
      .pure (Answers.answer hr _)
  | reset =>
    rw [act, ← bind_pure_comp]
    exact (idles_reset engine s).bind fun s' hs => .pure ⟨_, s', rfl, hs⟩

/-- all calls are answered, and the session holds after them what it held before -/
theorem idles_perform (hcursor : s.ring.next < s.ring.slots.length) (calls : List Call) :
    (s.perform engine calls).Idles fun r =>
      ∃ answers s', r = .ok (answers, s') ∧ answers.length = calls.length ∧ s.Continues s' := by
  induction calls generalizing s with
  | nil => exact .pure ⟨[], s, rfl, rfl, .refl s⟩
  | cons call calls ih =>
    rw [perform]
    refine (call.idles_act engine hcursor).bind fun r hr => ?_
    obtain ⟨answer, s₁, rfl, h₁⟩ := hr
    refine (ih (h₁.cursor hcursor)).bind fun r hr => ?_
    obtain ⟨answers, s₂, rfl, hlen, h₂⟩ := hr
    exact .pure ⟨_, s₂, rfl, congrArg (· + 1) hlen, h₁.trans h₂⟩

end Session

end StreamDecode

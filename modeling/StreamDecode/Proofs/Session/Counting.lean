import StreamDecode.Proofs.Session.Opened
import StreamDecode.Proofs.Session.Run

/-!
# Counting

The counters of a session are the tally of its answers, whatever the engine does.

* `Stats.note`            what one answer adds to the counters;
* `Session.notes_act`     a call adds its answer.
-/

namespace StreamDecode

variable {σ κ α : Type}

/-- the counters after an answer; a staged frame counts as a transfer too -/
def Stats.note (stats : Stats) : Session.Answer → Stats
  | .submitted (.ok ()) => stats.countSubmit
  | .submitted (.error (.submit _)) => stats.countSubmit.countSubmitError
  | .submitted (.error _) | .flushed | .received (.ok none) => stats
  | .received (.ok (some f)) =>
    match f.source with
    | .ring => stats.countFrame
    | .staging => stats.countFrame.countTransfer
  | .received (.error (.transfer _)) => stats.countFrame.countTransferError
  | .received (.error _) => stats.countReceiveError

namespace Session

open Act

/-- if there is an answer, it is in the counters -/
def Notes (stats : Stats) (f : Except SessionError α → Answer) (r : Outcome κ α) : Prop :=
  ∀ result s, r = .ok (result, s) → s.stats = stats.note (f result)

theorem Notes.fault {stats : Stats} {f : Except SessionError α → Answer} (fault : Fault) :
    Notes stats f (.error fault : Outcome κ α) := by
  rintro result s ⟨⟩

theorem Notes.answer {stats : Stats} {f : Except SessionError α → Answer}
    {result : Except SessionError α} {s : Session κ} (h : s.stats = stats.note (f result)) :
    Notes stats f (.ok (result, s)) := by
  rintro _ _ ⟨⟩
  exact h

variable (engine : Engine σ κ) (s : Session κ)

theorem notes_decode (buf : Bytes) (len : UInt64) :
    (s.decode engine buf len).Yields (Notes s.stats .submitted) := by
  by_cases h : buf.length < requiredSize len engine.padding
  · rw [decode_of_short engine h]
    exact .pure (.answer rfl)
  · rw [decode_of_padded engine h]
    refine Yields.map (.after fun (result, context) => ?_)
    cases result with
    | ok => exact .pure (.answer rfl)
    | error cause => exact .after fun _ => .pure (.answer rfl)

theorem notes_handOut (slot : Nat) (frame : Frame) {stats : Stats}
    (h : s.stats = stats.countFrame) :
    (s.handOut engine slot frame).Yields fun r => Notes stats .received (.ok r) := by
  refine .after fun (result, path) => ?_
  cases result with
  | ok resolution =>
    cases resolution with
    | direct => exact .pure (.answer h)
    | staged staged => exact .pure (.answer (congrArg Stats.countTransfer h))
  | error cause =>
    exact .after fun _ => .pure (.answer (congrArg Stats.countTransferError h))

theorem notes_produce (hostVisible : Bool) :
    (s.produce engine hostVisible).Yields (Notes s.stats .received) := by
  unfold produce
  split
  · exact .pure (.fault _)
  · dsimp only
    split
    · exact Yields.map (notes_handOut engine _ _ _ rfl)
    · exact .pure (.answer rfl)

theorem notes_nextFrame (hostVisible : Bool) :
    (s.nextFrame engine hostVisible).Yields (Notes s.stats .received) := by
  unfold nextFrame
  split
  · exact .pure (.fault _)
  · refine .after fun (result, frame, context) => ?_
    cases result with
    | ok => exact notes_produce engine _ hostVisible
    | error cause =>
      dsimp only
      split
      · exact .pure (.answer rfl)
      · exact .after fun _ => .pure (.answer rfl)

theorem notes_act (call : Call) :
    (call.act engine s).Yields fun r =>
      ∀ answer s', r = .ok (answer, s') → s'.stats = s.stats.note answer := by
  have hanswer {α : Type} {f : Except SessionError α → Answer} {r : Outcome κ α}
      (hr : Notes s.stats f r) (answer : Answer) (s' : Session κ)
      (h : Outcome.answer f r = .ok (answer, s')) : s'.stats = s.stats.note answer := by
    obtain fault | ⟨result, s''⟩ := r
    · cases h
    · cases h
      exact hr _ _ rfl
  cases call with
  | decode buf len => exact Yields.map ((notes_decode engine s buf len).mono fun r hr => hanswer hr)
  | nextFrame hostVisible =>
    exact Yields.map ((notes_nextFrame engine s hostVisible).mono fun r hr => hanswer hr)
  | reset =>
    refine Yields.map (.after fun _ => .after fun context => .pure ?_)
    rintro answer s' ⟨⟩
    rfl

end Session

end StreamDecode

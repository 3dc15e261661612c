import Mathlib.Data.List.DropRight
import Mathlib.Data.List.Induction
import Storyboard.Proofs.DispatchTree

/-!
# Bounded logs

Two logs keep only their latest lines. The evaluator keeps a note of each expression it could
not evaluate, the latest two hundred (`World.notes`); the dispatcher writes a journal line per
dispatch and keeps the latest five hundred (`World.journal`). Each can be emptied: the notes are
taken out (`World.takeNotes`) or cleared (`World.clearNotes`), the journal is cleared
(`World.clearJournal`).

A bounded log is its unbounded record cut to its last lines (`List.rtake`). However the calls
interleave, the notes are the latest two hundred of those made since the notes were last taken
out or cleared, and the journal is the latest five hundred of the lines written since it was last
cleared. Taking the notes hands back exactly those and leaves none.

The record is read off the calls. For the notes it is the notes of the evaluations after the last
call that empties them (`NoteCall.since`); evaluating does not change the state, so every
evaluation reads the state the calls started from. For the journal it is the lines of each
dispatch's tree, in post-order, which `Hub.dispatch_journal_eq` says are the lines a dispatch
writes; a dispatch changes the state, so the record follows the run (`Hub.linesSinceClear`). One
call keeps the log equal to the cut record, since cutting twice cuts as much as once
(`drop_drop_append`), and a run follows by induction.

Main statement: `logs_keep_latest_since_emptied`.
-/

namespace Storyboard

/-- Cutting a record to its last `n` items, adding more and cutting again keeps the last `n` of
the whole record. -/
theorem rtake_append_rtake {α : Type} (l m : List α) (n : Nat) :
    (l.rtake n ++ m).rtake n = (l ++ m).rtake n := by
  unfold List.rtake
  exact drop_drop_append l m n

/-- Keeping notes after a log cut to its last two hundred keeps the last two hundred of the log
and the notes. -/
theorem EvalNote.keep_rtake (log new : List EvalNote) :
    EvalNote.keep (log.rtake 200) new = (log ++ new).rtake 200 := by
  unfold EvalNote.keep
  exact rtake_append_rtake log new 200

/-- Writing lines one by one after a journal cut to its last five hundred keeps the last five
hundred of the journal and the lines. -/
theorem Journal.add_rtake (acc lines : List Entry) :
    Journal.add (acc.rtake 500) lines = (acc ++ lines).rtake 500 := by
  induction lines generalizing acc with
  | nil => simp only [Journal.add, List.foldl_nil, List.append_nil]
  | cons x rest ih =>
    have hx : Journal.add (acc.rtake 500) [x] = (acc ++ [x]).rtake 500 := by
      simp only [Journal.add, List.foldl_cons, List.foldl_nil]
      exact rtake_append_rtake acc [x] 500
    rw [← List.singleton_append, Journal.add_append, hx, ih, List.append_assoc]

/-! ## The evaluator's notes -/

/-- A call on the evaluator's notes: an evaluation, which makes its notes in order, taking the
notes out, or clearing them. -/
inductive NoteCall where
  | eval (c : Caller) (e : String)
  | take
  | clear

namespace NoteCall

/-- The world after a call. -/
def apply : NoteCall → World → World
  | .eval c e, w => (w.eval c e).2
  | .take, w => w.takeNotes.2
  | .clear, w => w.clearNotes

/-- The world after calls, one after another. -/
def run (w : World) (calls : List NoteCall) : World :=
  calls.foldl (fun w k => k.apply w) w

/-- Whether a call keeps the notes there: only an evaluation does. -/
def isEval : NoteCall → Bool
  | .eval _ _ => true
  | _ => false

/-- The notes a call makes against the state `s`: those of an evaluation. -/
def made (s : Store) : NoteCall → List EvalNote
  | .eval c e => (Expr.eval (c.view s) e).2
  | _ => []

/-- The notes made since the notes were last taken out or cleared: those of the evaluations
after the last call that empties them. -/
def since (s : Store) (calls : List NoteCall) : List EvalNote :=
  (calls.rtakeWhile isEval).flatMap (made s)

theorem run_concat (w : World) (calls : List NoteCall) (k : NoteCall) :
    run w (calls ++ [k]) = k.apply (run w calls) := by
  rw [run, List.foldl_append, List.foldl_cons, List.foldl_nil]
  rfl

/-- No call changes the state. -/
theorem store_run (w : World) (calls : List NoteCall) : (run w calls).store = w.store := by
  induction calls using List.reverseRec with
  | nil => rw [run, List.foldl_nil]
  | append_singleton calls k ih =>
    rw [run_concat, ← ih]
    cases k with
    | eval c e => rw [apply, World.eval_snd]
    | take => rfl
    | clear => rfl

/-- A call's notes: an evaluation keeps the notes it makes, the others leave none. -/
theorem notes_apply (k : NoteCall) (w : World) :
    (k.apply w).notes = if k.isEval then EvalNote.keep w.notes (k.made w.store) else [] := by
  cases k with
  | eval c e =>
    rw [apply, World.eval_snd]
    simp only [isEval, made, if_true]
  | take => rfl
  | clear => rfl

/-- One more call adds its notes to the record, or, emptying the notes, forgets it. -/
theorem since_concat (s : Store) (calls : List NoteCall) (k : NoteCall) :
    since s (calls ++ [k]) = if k.isEval then since s calls ++ k.made s else [] := by
  unfold since
  rw [List.rtakeWhile_concat]
  split
  · rw [List.flatMap_append, List.flatMap_singleton]
  · rfl

/-- Started with no notes, the notes after any calls are the latest two hundred of those made
since they were last taken out or cleared. -/
theorem notes_run {w : World} (hw : w.notes = []) (calls : List NoteCall) :
    (run w calls).notes = (since w.store calls).rtake 200 := by
  induction calls using List.reverseRec with
  | nil => rw [run, List.foldl_nil, hw, since, List.rtakeWhile_nil, List.flatMap_nil, List.rtake_nil]
  | append_singleton calls k ih =>
    rw [run_concat, notes_apply, since_concat, store_run]
    split
    · rw [ih, EvalNote.keep_rtake]
    · rfl

end NoteCall

/-! ## The event journal -/

/-- A call on the dispatcher's journal: an event dispatched from the top, or clearing the
journal. -/
inductive JournalCall where
  | execute (e : EventDef) (c : Caller)
  | clear

namespace Hub

/-- The world after a call on the journal. -/
def journalApply (hub : Hub) : JournalCall → World → World
  | .execute e c, w => (hub.dispatch 0 e c w).2
  | .clear, w => w.clearJournal

/-- The world after calls on the journal, one after another. -/
def journalRun (hub : Hub) (w : World) (calls : List JournalCall) : World :=
  calls.foldl (fun w k => hub.journalApply k w) w

/-- The journal lines written since the journal was last cleared, all of them, after the lines
`acc` written before the calls: a dispatch writes the lines of the dispatches of its tree, in
post-order, and clearing forgets them. -/
def linesSinceClear (hub : Hub) : World → List Entry → List JournalCall → List Entry
  | _, acc, [] => acc
  | w, acc, .execute e c :: calls =>
    hub.linesSinceClear (hub.dispatch 0 e c w).2
      (acc ++ (hub.dispatchTree 0 e c w).postorder.map hub.journalLine) calls
  | w, _, .clear :: calls => hub.linesSinceClear w.clearJournal [] calls

/-- A journal that is the latest five hundred lines of a record stays so over any calls, the
record growing by the lines each dispatch writes and forgotten at each clear. -/
theorem journal_journalRun (hub : Hub) (calls : List JournalCall) :
    ∀ (w : World) (acc : List Entry), w.journal = acc.rtake 500 →
      (hub.journalRun w calls).journal = (hub.linesSinceClear w acc calls).rtake 500 := by
  induction calls with
  | nil => exact fun _ _ h => h
  | cons k calls ih =>
    intro w acc h
    cases k with
    | execute e c =>
      -- the dispatch writes the lines of its tree after the journal it found
      have hj : (hub.dispatch 0 e c w).2.journal =
          (acc ++ (hub.dispatchTree 0 e c w).postorder.map hub.journalLine).rtake 500 := by
        rw [dispatch_journal_eq, h, Journal.add_rtake]
      exact ih _ _ hj
    | clear => exact ih w.clearJournal [] rfl

end Hub

/-- The evaluator's notes and the dispatcher's journal keep the latest of what was recorded
since they were last emptied. Started with no notes, after any evaluations, takings and
clearings, the notes are the latest two hundred of those the evaluations made since the notes
were last taken out or cleared, in order, and taking them hands back exactly those and leaves
none. Started with an empty journal, after any dispatches and clearings, the journal is the
latest five hundred of the lines written since it was last cleared, in order: each dispatch
writes a line for each dispatch of its tree, in post-order. -/
theorem logs_keep_latest_since_emptied (w : World) (calls : List NoteCall) (hub : Hub)
    (jcalls : List JournalCall) :
    (NoteCall.run { w with notes := [] } calls).notes = (NoteCall.since w.store calls).rtake 200 ∧
      (NoteCall.run { w with notes := [] } calls).takeNotes.1 =
        (NoteCall.since w.store calls).rtake 200 ∧
      (NoteCall.run { w with notes := [] } calls).takeNotes.2.notes = [] ∧
      (hub.journalRun { w with journal := [] } jcalls).journal =
        (hub.linesSinceClear { w with journal := [] } [] jcalls).rtake 500 := by
  have hnotes := NoteCall.notes_run (w := { w with notes := [] }) rfl calls
  exact ⟨hnotes, hnotes, rfl, hub.journal_journalRun jcalls _ [] rfl⟩

end Storyboard

import Storyboard.Proofs.Batches

/-!
# Loading a screen forgets the session's history

Loading seeds the state afresh from the declared variables and the project's widgets, empties
the journal and marks the screen loaded, then fires the `load` trigger. What a session went
through before is kept only in the evaluator's notes and in the requests it sent, and a run
reads neither (`Hub.runAction_alike`); the answers still scripted for its requests are the
one thing left over that a run does read.

Main statement (`loading_forgets_history`): two sessions of one project, after any operations
each, with the same answers left for their requests, load a screen with the same outcome, the
same state and the same journal, and both end loaded.

* `Session.applyAll_setup`: operations change only the world and whether the screen is loaded;
  the events, the declared state and the widgets stay those of the project.
* `Session.reloaded_alike`: sessions with the same declared state and widgets and the same
  answers left are alike once reloaded.
* `Session.triggerAll_alike`: firing the events of a trigger on alike worlds runs alike.
-/

namespace Storyboard

namespace Session

/-- An operation changes only the world and whether the screen is loaded. -/
theorem apply_setup (s : Session) (op : Op) :
    (s.apply op).2 = { s with world := (s.apply op).2.world, loaded := (s.apply op).2.loaded } := by
  cases op with
  | fireEvent id c =>
    simp only [apply, fireEvent]
    cases s.hub.registry.find? (·.id == id) <;> rfl
  | _ => rfl

/-- After any operations a session is the one it started as, with another world and loaded
flag. -/
theorem applyAll_setup (s : Session) (ops : List Op) :
    ∃ w b, s.applyAll ops = { s with world := w, loaded := b } := by
  induction ops generalizing s with
  | nil => exact ⟨s.world, s.loaded, rfl⟩
  | cons op ops ih =>
    obtain ⟨w, b, h⟩ := ih (s.apply op).2
    rw [applyAll, h, apply_setup]
    exact ⟨w, b, rfl⟩

/-- Reloading reads of the world only the answers left: sessions with the same declared
state and widgets and the same answers left are alike once reloaded. -/
theorem reloaded_alike {s s' : Session} (hd : s.declared = s'.declared)
    (hi : s.widgetIds = s'.widgetIds) (hr : s.world.wire.replies = s'.world.wire.replies) :
    s.reloaded.world.Alike s'.reloaded.world := by
  refine ⟨?_, hr, rfl⟩
  simp only [reloaded, hd, hi]

/-- Firing the events of a trigger on alike worlds gives the same outcome and runs alike. -/
theorem triggerAll_alike (hub : Hub) (events : List EventDef) (c : Caller) (acc : Outcome)
    {w w' : World} (h : w.Alike w') :
    (triggerAll hub events c w acc).1 = (triggerAll hub events c w' acc).1 ∧
      World.RanAlike w (triggerAll hub events c w acc).2 w' (triggerAll hub events c w' acc).2 := by
  induction events generalizing w w' acc with
  | nil => exact ⟨rfl, h.stay⟩
  | cons e rest ih =>
    obtain ⟨hr, hw⟩ := hub.dispatch_alike 0 e c h
    rw [triggerAll, triggerAll]
    rcases h1 : hub.dispatch 0 e c w with ⟨r, w1⟩
    rcases h2 : hub.dispatch 0 e c w' with ⟨r', w2⟩
    rw [h1, h2] at hr hw
    simp only at hr hw ⊢
    subst hr
    by_cases hstop : r.stopsPropagation = true
    · rw [if_pos hstop, if_pos hstop]
      exact ⟨rfl, hw⟩
    · rw [if_neg hstop, if_neg hstop]
      obtain ⟨hr', hw'⟩ := ih (acc.absorb r) hw.alike
      exact ⟨hr', hw.trans hw'⟩

end Session

/-- Loading a screen forgets the session's history: two sessions of one project, each after
any operations, that have the same answers left for their requests load with the same
outcome, the same state and the same journal, both ending loaded. -/
theorem loading_forgets_history (p : Project) (replies replies' : List Reply)
    (ops ops' : List Session.Op) (c : Caller)
    (h : ((Session.ofProject p replies).applyAll ops).world.wire.replies
      = ((Session.ofProject p replies').applyAll ops').world.wire.replies) :
    let s := ((Session.ofProject p replies).applyAll ops).load c
    let s' := ((Session.ofProject p replies').applyAll ops').load c
    s.1 = s'.1 ∧ s.2.world.store = s'.2.world.store ∧ s.2.world.journal = s'.2.world.journal ∧
      s.2.loaded = true ∧ s'.2.loaded = true := by
  intro s s'
  obtain ⟨w, b, hs⟩ := (Session.ofProject p replies).applyAll_setup ops
  obtain ⟨w', b', hs'⟩ := (Session.ofProject p replies').applyAll_setup ops'
  rw [hs, hs'] at h
  -- both sessions reload to alike worlds, and the same events of the project then run on them
  have halike : ({ Session.ofProject p replies with world := w, loaded := b } : Session).reloaded.world.Alike
      ({ Session.ofProject p replies' with world := w', loaded := b' } : Session).reloaded.world :=
    Session.reloaded_alike rfl rfl h
  obtain ⟨hr, hw⟩ := Session.triggerAll_alike (Session.ofProject p replies).hub
    (matchingEvents p.events .load none) c Outcome.ok halike
  simp only [s, s', hs, hs', Session.load, Session.trigger]
  exact ⟨hr, hw.alike.store, hw.alike.journal, rfl, rfl⟩

/-- A session whose state was replaced and then unloaded, and one that was loaded, both with
no answers scripted, load alike. -/
theorem reload_after_state_change_and_after_load :
    ((Session.ofProject {} []).applyAll [.setState {}, .unload]).world.wire.replies
        = ((Session.ofProject {} []).applyAll [.load {}]).world.wire.replies ∧
      let s := ((Session.ofProject {} []).applyAll [.setState {}, .unload]).load {}
      let s' := ((Session.ofProject {} []).applyAll [.load {}]).load {}
      s.1 = s'.1 ∧ s.2.world.store = s'.2.world.store ∧ s.2.world.journal = s'.2.world.journal ∧
        s.2.loaded = true ∧ s'.2.loaded = true :=
  ⟨rfl, loading_forgets_history {} [] [] [.setState {}, .unload] [.load {}] {} rfl⟩

end Storyboard

import Storyboard.Proofs.Visits

/-!
# Nested batches and conditions

A batch runs its actions in order and absorbs their outcomes into `Outcome.ok`; an atomic
batch stops after the first action that failed. A batch whose first action is itself a
batch with the same flag behaves as the batch of the two lists joined: the inner batch
fails exactly when one of its actions failed, and then it stopped at that action, which is
where the joined batch stops too. A condition runs its chosen branch as a non-atomic batch
does; it differs from that batch only in the note its evaluation may leave, and notes never
change what a run does.

Main statement (`batch_nesting_and_condition_laws`): for every hub, depth, caller and world,
the nested batch and the joined one give the same outcome and the same world, and a
condition gives the outcome, the state, the requests and the journal of the batch of the
branch its condition picks on the state before it.

The first part rests on two facts about `Hub.runList`: it absorbs into its accumulator
what it would absorb into `Outcome.ok` (`runList_absorb`), and running a joined list runs
the first part and then, unless that stopped, the second (`runList_append`). Both need
the associativity of `Outcome.absorb`, hence outcomes whose changes are sorted, which every
run gives (`runAction_sorted`). The second part is a frame property proved over the whole
mutual block of the runtime (`Hub.runAction_alike`): a run reads neither the notes nor the
requests already sent, so runs from worlds that differ only there give the same outcome and
worlds that again differ only there, having sent the same requests.
-/

namespace Storyboard

attribute [simp] Outcome.absorb_success

@[simp] theorem Outcome.ok_success : Outcome.ok.success = true := rfl

namespace Hub

/-- The outcome of every action keeps its changes sorted. -/
theorem runAction_sorted (hub : Hub) (em : Option Nat) (a : Action) (c : Caller) (w : World) :
    (hub.runAction em a c w).1.Sorted := by
  have h : (hub.runAction em a c w).1.sansData = _ := (hub.runAction_folds em a c w).1
  have hs : (hub.runAction em a c w).1.sansData.Sorted := h ▸ Step.sorted_fold _ Outcome.sorted_ok
  exact hs

/-! ## Lists of actions -/

/-- A list of actions absorbs into any accumulator what it absorbs into `Outcome.ok`. -/
theorem runList_absorb (hub : Hub) (em : Option Nat) (stop : Bool) (as : List Action) (c : Caller)
    (w : World) {acc : Outcome} (hacc : acc.Sorted) :
    hub.runList em stop as c w acc =
      (acc.absorb (hub.runList em stop as c w Outcome.ok).1, (hub.runList em stop as c w Outcome.ok).2) := by
  induction as generalizing w acc with
  | nil => simp [runList]
  | cons a rest ih =>
    have hs := hub.runAction_sorted em a c w
    rw [runList, runList]
    rcases hr : hub.runAction em a c w with ⟨r, w1⟩
    rw [hr] at hs
    dsimp only
    rw [Outcome.ok_absorb hs]
    by_cases hstop : (stop && !r.success) = true
    · simp only [hstop, if_true]
    · simp only [hstop, Bool.false_eq_true, if_false]
      -- both sides run the rest; the accumulators meet by associativity
      rw [ih w1 (Outcome.sorted_absorb r hacc), ih w1 hs, Outcome.absorb_assoc _ hacc hs]

/-- Running a joined list runs the first part into `Outcome.ok`; unless that stopped, the
second part follows from where it left off. -/
theorem runList_append (hub : Hub) (em : Option Nat) (stop : Bool) (xs ys : List Action)
    (c : Caller) (w : World) {acc : Outcome} (hacc : acc.Sorted) :
    hub.runList em stop (xs ++ ys) c w acc =
      if stop && !(hub.runList em stop xs c w Outcome.ok).1.success then
        (acc.absorb (hub.runList em stop xs c w Outcome.ok).1, (hub.runList em stop xs c w Outcome.ok).2)
      else
        hub.runList em stop ys c (hub.runList em stop xs c w Outcome.ok).2
          (acc.absorb (hub.runList em stop xs c w Outcome.ok).1) := by
  induction xs generalizing w acc with
  | nil => simp [runList]
  | cons a xs ih =>
    have hs := hub.runAction_sorted em a c w
    rcases hr : hub.runAction em a c w with ⟨r, w1⟩
    rw [hr] at hs
    have hfirst : hub.runList em stop (a :: xs) c w Outcome.ok
        = if stop && !r.success then (r, w1) else hub.runList em stop xs c w1 r := by
      rw [runList, hr]
      dsimp only
      rw [Outcome.ok_absorb hs]
    rw [List.cons_append, runList, hr, hfirst]
    dsimp only
    by_cases hstop : (stop && !r.success) = true
    · simp only [hstop, if_true]
    · simp only [hstop, Bool.false_eq_true, if_false]
      rw [ih w1 (Outcome.sorted_absorb r hacc), runList_absorb hub em stop xs c w1 hs,
        Outcome.absorb_assoc _ hacc hs]
      -- the first part stops for the same reason whether or not `r` is absorbed before it
      have hcond : (stop && !(r.absorb (hub.runList em stop xs c w1 Outcome.ok).1).success)
          = (stop && !(hub.runList em stop xs c w1 Outcome.ok).1.success) := by
        cases stop <;> simp_all
      rw [hcond]

/-- A batch whose first action is a batch with the same flag runs as the batch of the two
lists joined: the same outcome and the same world. -/
theorem runAction_batch_nested (hub : Hub) (em : Option Nat) (i j k : String) (xs ys : List Action)
    (f : Bool) (c : Caller) (w : World) :
    hub.runAction em (.mk i (.batch (.mk j (.batch xs f) :: ys) f)) c w
      = hub.runAction em (.mk k (.batch (xs ++ ys) f)) c w := by
  rw [runAction, runAction, runList_append hub em f xs ys c w Outcome.sorted_ok, runList, runAction]

end Hub

/-! ## Notes and sent requests do not steer a run -/

/-- Two worlds that differ at most in the evaluator's notes and in the requests already
sent, neither of which a run reads. -/
structure World.Alike (w w' : World) : Prop where
  store : w.store = w'.store
  replies : w.wire.replies = w'.wire.replies
  journal : w.journal = w'.journal

/-- Runs from `w` to `v` and from `w'` to `v'` that end in alike worlds, each having added the
same requests to those it had sent. -/
structure World.RanAlike (w v w' v' : World) : Prop where
  alike : v.Alike v'
  sent : ∃ more, v.wire.sent = w.wire.sent ++ more ∧ v'.wire.sent = w'.wire.sent ++ more

/-- Two worlds that differ at most in the evaluator's notes. -/
structure World.Agree (w w' : World) : Prop where
  store : w.store = w'.store
  wire : w.wire = w'.wire
  journal : w.journal = w'.journal

namespace World

variable {w w' v v' u u' : World}

theorem Agree.alike (h : w.Agree w') : w.Alike w' :=
  ⟨h.store, congrArg Wire.replies h.wire, h.journal⟩

/-- Steps that keep the wire and end alike run alike, sending nothing. -/
theorem RanAlike.of_frame (h : v.Alike v') (hv : w.Frame v) (hv' : w'.Frame v') :
    RanAlike w v w' v' :=
  ⟨h, [], by rw [hv.wire, List.append_nil], by rw [hv'.wire, List.append_nil]⟩

theorem Alike.stay (h : w.Alike w') : RanAlike w w w' w' :=
  .of_frame h (.refl w) (.refl w')

theorem RanAlike.trans (h₁ : RanAlike w v w' v') (h₂ : RanAlike v u v' u') : RanAlike w u w' u' := by
  obtain ⟨-, m₁, hv, hv'⟩ := h₁
  obtain ⟨hu, m₂, hu₁, hu₁'⟩ := h₂
  exact ⟨hu, m₁ ++ m₂, by rw [hu₁, hv, List.append_assoc], by rw [hu₁', hv', List.append_assoc]⟩

/-- Alike runs from worlds that agree end in worlds that agree: the same requests follow the
same ones. -/
theorem RanAlike.agree (h : RanAlike w v w' v') (hw : w.Agree w') : v.Agree v' := by
  obtain ⟨⟨hs, hr, hj⟩, more, hv, hv'⟩ := h
  have hsent : v.wire.sent = v'.wire.sent := by rw [hv, hv', hw.wire]
  refine ⟨hs, ?_, hj⟩
  obtain ⟨store, ⟨replies, sent⟩, notes, journal⟩ := v
  obtain ⟨store', ⟨replies', sent'⟩, notes', journal'⟩ := v'
  simp only at hr hsent ⊢
  rw [hr, hsent]

theorem eval_fst (c : Caller) (e : String) : (w.eval c e).1 = (Expr.eval (c.view w.store) e).1 :=
  rfl

theorem eval_snd (c : Caller) (e : String) :
    (w.eval c e).2 = { w with notes := EvalNote.keep w.notes (Expr.eval (c.view w.store) e).2 } :=
  rfl

theorem holds_snd (c : Caller) (e : String) : (w.holds c e).2 = (w.eval c e).2 :=
  rfl

/-- Evaluating leaves a world that differs only in its notes. -/
theorem agree_eval (c : Caller) (e : String) : (w.eval c e).2.Agree w := by
  rw [eval_snd]
  exact ⟨rfl, rfl, rfl⟩

/-- Evaluating on alike worlds gives the same value and alike worlds. -/
theorem Alike.eval (h : w.Alike w') (c : Caller) (e : String) :
    (w.eval c e).1 = (w'.eval c e).1 ∧ (w.eval c e).2.Alike (w'.eval c e).2 := by
  rw [eval_fst, eval_fst, eval_snd, eval_snd, h.store]
  exact ⟨rfl, rfl, h.replies, h.journal⟩

theorem Alike.holds (h : w.Alike w') (c : Caller) (e : String) :
    (w.holds c e).1 = (w'.holds c e).1 ∧ (w.holds c e).2.Alike (w'.holds c e).2 :=
  ⟨congrArg Loose.isTruthy (h.eval c e).1, (h.eval c e).2⟩

theorem Alike.holdsAll (h : w.Alike w') (c : Caller) (es : List String) :
    (w.holdsAll c es).1 = (w'.holdsAll c es).1 ∧ (w.holdsAll c es).2.Alike (w'.holdsAll c es).2 := by
  induction es generalizing w w' with
  | nil => exact ⟨rfl, h⟩
  | cons e es ih =>
    obtain ⟨hb, hw⟩ := h.holds c e
    rw [holdsAll, holdsAll]
    rcases h1 : w.holds c e with ⟨b, w1⟩
    rcases h2 : w'.holds c e with ⟨b', w2⟩
    rw [h1, h2] at hb hw
    simp only at hb hw ⊢
    subst hb
    cases b with
    | false => exact ⟨rfl, hw⟩
    | true => exact ih hw

theorem Alike.guard (h : w.Alike w') (c : Caller) (e : EventDef) :
    (w.guard c e).1 = (w'.guard c e).1 ∧ (w.guard c e).2.Alike (w'.guard c e).2 := by
  unfold World.guard
  split
  · exact h.holdsAll c _
  · exact ⟨rfl, h⟩

/-- Reading the state runs alike: the same value, and nothing sent. -/
theorem Alike.eval_ran (h : w.Alike w') (c : Caller) (e : String) :
    (w.eval c e).1 = (w'.eval c e).1 ∧ RanAlike w (w.eval c e).2 w' (w'.eval c e).2 :=
  ⟨(h.eval c e).1, .of_frame (h.eval c e).2 (w.eval_frame c e) (w'.eval_frame c e)⟩

theorem Alike.holds_ran (h : w.Alike w') (c : Caller) (e : String) :
    (w.holds c e).1 = (w'.holds c e).1 ∧ RanAlike w (w.holds c e).2 w' (w'.holds c e).2 :=
  ⟨(h.holds c e).1, .of_frame (h.holds c e).2 (w.holds_frame c e) (w'.holds_frame c e)⟩

theorem Alike.guard_ran (h : w.Alike w') (c : Caller) (e : EventDef) :
    (w.guard c e).1 = (w'.guard c e).1 ∧ RanAlike w (w.guard c e).2 w' (w'.guard c e).2 :=
  ⟨(h.guard c e).1, .of_frame (h.guard c e).2 (w.guard_frame c e) (w'.guard_frame c e)⟩

theorem record_store (e : Entry) : (w.record e).store = w.store := by
  unfold World.record
  rfl

theorem record_wire (e : Entry) : (w.record e).wire = w.wire := by
  unfold World.record
  rfl

theorem Alike.record (h : w.Alike w') (e : Entry) : (w.record e).Alike (w'.record e) := by
  refine ⟨?_, ?_, ?_⟩
  · rw [record_store, record_store, h.store]
  · rw [record_wire, record_wire, h.replies]
  · unfold World.record
    rw [h.journal]

/-- Recording the same line after alike runs: a journal line sends nothing. -/
theorem RanAlike.record (h : RanAlike w v w' v') (e : Entry) :
    RanAlike w (v.record e) w' (v'.record e) := by
  obtain ⟨hv, more, hs, hs'⟩ := h
  exact ⟨hv.record e, more, by rw [record_wire, hs], by rw [record_wire, hs']⟩

theorem Alike.toastEffect (h : w.Alike w') (message : String) (variant : Option String)
    (duration : Option Nat) (c : Caller) :
    (toastEffect message variant duration c w).1 = (toastEffect message variant duration c w').1 ∧
      (toastEffect message variant duration c w).2.Alike (toastEffect message variant duration c w').2 := by
  unfold Storyboard.toastEffect
  by_cases hc : message.contains '\x7b' = true
  · rw [if_pos hc, if_pos hc, h.store]
    exact ⟨rfl, h⟩
  · rw [if_neg hc, if_neg hc]
    exact ⟨congrArg (fun v => Effect.toast (Loose.display v) variant duration) (h.eval c message).1,
      (h.eval c message).2⟩

theorem Alike.operand (h : w.Alike w') (p : StateUpdate) (c : Caller) :
    (p.operand c w).1 = (p.operand c w').1 ∧ (p.operand c w).2.Alike (p.operand c w').2 := by
  unfold StateUpdate.operand
  split
  · next e _ => exact ⟨congrArg (·.getD .null) (h.eval c e).1, (h.eval c e).2⟩
  · exact ⟨rfl, h⟩

theorem Alike.writeTarget (h : w.Alike w') (t : String) (v : Json) (c : Caller) :
    (writeTarget t v c w).1 = (writeTarget t v c w').1 ∧
      (writeTarget t v c w).2.Alike (writeTarget t v c w').2 := by
  unfold Storyboard.writeTarget
  split
  · exact ⟨rfl, h⟩
  · rw [h.store]
    split
    · exact ⟨rfl, ⟨rfl, h.replies, h.journal⟩⟩
    · exact ⟨rfl, h⟩

theorem Alike.stateUpdate (h : w.Alike w') (p : StateUpdate) (c : Caller) :
    (p.run c w).1 = (p.run c w').1 ∧ (p.run c w).2.Alike (p.run c w').2 := by
  obtain ⟨hv, hw⟩ := h.operand p c
  unfold StateUpdate.run
  split
  · exact ⟨rfl, h⟩
  · dsimp only
    rw [h.store]
    rcases h1 : p.operand c w with ⟨v, w1⟩
    rcases h2 : p.operand c w' with ⟨v', w2⟩
    rw [h1, h2] at hv hw
    simp only at hv hw
    subst hv
    generalize p.operation = op
    by_cases hset : op = "set"
    · subst hset
      exact hw.writeTarget _ _ _
    by_cases hinc : op = "increment"
    · subst hinc
      exact h.writeTarget _ _ _
    by_cases hdec : op = "decrement"
    · subst hdec
      exact h.writeTarget _ _ _
    by_cases hpush : op = "push"
    · subst hpush
      exact hw.writeTarget _ _ _
    by_cases hrem : op = "remove_by_index"
    · subst hrem
      exact hw.writeTarget _ _ _
    -- any other operation is refused on both sides
    split
    · rename_i heq
      split at heq <;> simp_all
    · split
      · rename_i heq
        split at heq <;> simp_all
      · exact ⟨rfl, h⟩

end World

/-- Handing a request to wires with the same answers left gives the same answer and leaves
the same answers. -/
theorem Wire.send_alike {v v' : Wire} (h : v.replies = v'.replies) (s : Sent) :
    (v.send s).1 = (v'.send s).1 ∧ (v.send s).2.replies = (v'.send s).2.replies := by
  unfold Wire.send
  rw [h]
  cases v'.replies <;> exact ⟨rfl, rfl⟩

namespace Hub

mutual

/-- Running an action on worlds that differ only in their notes and in the requests already
sent gives the same outcome, and worlds that again differ only there, each run having sent
the same requests. -/
theorem runAction_alike (hub : Hub) (em : Option Nat) (a : Action) (c : Caller) {w w' : World}
    (h : w.Alike w') :
    (hub.runAction em a c w).1 = (hub.runAction em a c w').1 ∧
      World.RanAlike w (hub.runAction em a c w).2 w' (hub.runAction em a c w').2 := by
  obtain ⟨id, kind⟩ := a
  cases kind with
  | stateUpdate p =>
    rw [runAction, runAction]
    exact ⟨congrArg Step.outcome (h.stateUpdate p c).1,
      .of_frame (h.stateUpdate p c).2 (p.run_frame c w) (p.run_frame c w')⟩
  | recalculate target formula =>
    rw [runAction, runAction]
    obtain ⟨hv, hw⟩ := h.eval_ran c formula
    rcases h1 : w.eval c formula with ⟨v, w1⟩
    rcases h2 : w'.eval c formula with ⟨v', w2⟩
    rw [h1, h2] at hv hw
    simp only at hv hw ⊢
    subst hv
    exact ⟨congrArg Step.outcome (hw.alike.writeTarget target _ c).1,
      hw.trans (.of_frame (hw.alike.writeTarget target _ c).2 (writeTarget_frame _ _ _ _)
        (writeTarget_frame _ _ _ _))⟩
  | navigation how target params =>
    rw [runAction, runAction]
    exact ⟨rfl, h.stay⟩
  | toast m v d =>
    rw [runAction, runAction]
    exact ⟨congrArg (Outcome.ok.withEffect ·) (h.toastEffect m v d c).1,
      .of_frame (h.toastEffect m v d c).2 (toastEffect_frame m v d c w) (toastEffect_frame m v d c w')⟩
  | emitEvent name payload =>
    cases em with
    | none =>
      rw [runAction, runAction]
      exact ⟨rfl, h.stay⟩
    | some d =>
      rw [runAction, runAction]
      obtain ⟨hr, hw⟩ := dispatchAll_alike hub d (hub.listeners name) (c.withParams payload) Outcome.ok h
      exact ⟨congrArg (Outcome.absorb _) hr, hw⟩
  | condition cond t f =>
    rw [runAction, runAction]
    obtain ⟨hb, hread⟩ := h.holds_ran c cond
    rcases h1 : w.holds c cond with ⟨b, w1⟩
    rcases h2 : w'.holds c cond with ⟨b', w2⟩
    rw [h1, h2] at hb hread
    simp only at hb hread ⊢
    subst hb
    cases b with
    | true =>
      obtain ⟨hr, hran⟩ := runList_alike hub em false t c Outcome.ok hread.alike
      exact ⟨hr, hread.trans hran⟩
    | false =>
      obtain ⟨hr, hran⟩ := runList_alike hub em false f c Outcome.ok hread.alike
      exact ⟨hr, hread.trans hran⟩
  | batch as atomic =>
    rw [runAction, runAction]
    exact runList_alike hub em atomic as c Outcome.ok h
  | apiCall r onSuccess onError =>
    rw [runAction, runAction]
    -- the address and the check read the store, the answer is the next one left on either wire
    rw [h.store]
    rcases checkDomain (r.address c w'.store) (r.allowedDomains.getD hub.allowed) with f | u
    · exact ⟨rfl, h.stay⟩
    · cases u
      obtain ⟨hreply, hleft⟩ := Wire.send_alike h.replies ⟨r.method, r.address c w'.store, r.headers, r.body⟩
      have hsent := w.wire.sent_send ⟨r.method, r.address c w'.store, r.headers, r.body⟩
      have hsent' := w'.wire.sent_send ⟨r.method, r.address c w'.store, r.headers, r.body⟩
      rcases h1 : w.wire.send ⟨r.method, r.address c w'.store, r.headers, r.body⟩ with ⟨reply, wire⟩
      rcases h2 : w'.wire.send ⟨r.method, r.address c w'.store, r.headers, r.body⟩ with ⟨reply', wire'⟩
      rw [h1, h2] at hreply hleft
      rw [h1] at hsent
      rw [h2] at hsent'
      simp only at hreply hleft hsent hsent' ⊢
      subst hreply
      -- both sides send the same request
      have hw : World.RanAlike w ⟨w'.store, wire, w.notes, w.journal⟩ w' ⟨w'.store, wire', w'.notes, w'.journal⟩ :=
        ⟨⟨rfl, hleft, h.journal⟩, _, hsent, hsent'⟩
      cases reply with
      | answer resp =>
        dsimp only
        by_cases hok : resp.isSuccess = true
        · rw [if_pos hok, if_pos hok]
          -- the data comes from the same response, or from the same evaluation of it
          cases r.mapResponse with
          | none =>
            dsimp only
            obtain ⟨hr, hw'⟩ := runList_alike hub em false onSuccess
              (c.withParam "response" resp.body) Outcome.ok hw.alike
            exact ⟨congrArg (fun res : Outcome => { res with data := some resp.body }) hr, hw.trans hw'⟩
          | some e =>
            dsimp only
            obtain ⟨hv, hw1⟩ := hw.alike.eval_ran (c.withParam "response" resp.body) e
            rcases h1 : (⟨w'.store, wire, w.notes, w.journal⟩ : World).eval
              (c.withParam "response" resp.body) e with ⟨v, w1⟩
            rcases h2 : (⟨w'.store, wire', w'.notes, w'.journal⟩ : World).eval
              (c.withParam "response" resp.body) e with ⟨v', w2⟩
            rw [h1, h2] at hv hw1
            simp only at hv hw1 ⊢
            subst hv
            obtain ⟨hr, hw'⟩ := runList_alike hub em false onSuccess
              (c.withParam "response" resp.body) Outcome.ok hw1.alike
            exact ⟨congrArg (fun res : Outcome => { res with data := v }) hr,
              hw.trans (hw1.trans hw')⟩
        · rw [if_neg hok, if_neg hok]
          obtain ⟨hr, hw'⟩ := runList_alike hub em false onError _ _ hw.alike
          exact ⟨hr, hw.trans hw'⟩
      | broken message =>
        obtain ⟨hr, hw'⟩ := runList_alike hub em false onError _ _ hw.alike
        exact ⟨hr, hw.trans hw'⟩
  | openWidget id =>
    rw [runAction, runAction]
    exact ⟨rfl, h.stay⟩
  | closeWidget id =>
    rw [runAction, runAction]
    exact ⟨rfl, h.stay⟩
  | stopPropagation =>
    rw [runAction, runAction]
    exact ⟨rfl, h.stay⟩
  | unsupported t params =>
    rw [runAction, runAction]
    exact ⟨rfl, h.stay⟩
termination_by (hub.budget em, 2, sizeOf a)

theorem runList_alike (hub : Hub) (em : Option Nat) (stop : Bool) (as : List Action) (c : Caller)
    (acc : Outcome) {w w' : World} (h : w.Alike w') :
    (hub.runList em stop as c w acc).1 = (hub.runList em stop as c w' acc).1 ∧
      World.RanAlike w (hub.runList em stop as c w acc).2 w' (hub.runList em stop as c w' acc).2 := by
  cases as with
  | nil =>
    rw [runList, runList]
    exact ⟨rfl, h.stay⟩
  | cons a rest =>
    obtain ⟨hr, hw⟩ := runAction_alike hub em a c h
    rw [runList, runList]
    rcases h1 : hub.runAction em a c w with ⟨r, w1⟩
    rcases h2 : hub.runAction em a c w' with ⟨r', w2⟩
    rw [h1, h2] at hr hw
    simp only at hr hw ⊢
    subst hr
    by_cases hstop : (stop && !r.success) = true
    · rw [if_pos hstop, if_pos hstop]
      exact ⟨rfl, hw⟩
    · rw [if_neg hstop, if_neg hstop]
      obtain ⟨hr', hw'⟩ := runList_alike hub em stop rest c _ hw.alike
      exact ⟨hr', hw.trans hw'⟩
termination_by (hub.budget em, 2, sizeOf as)

theorem dispatchAll_alike (hub : Hub) (d : Nat) (events : List EventDef) (c : Caller)
    (acc : Outcome) {w w' : World} (h : w.Alike w') :
    (hub.dispatchAll d events c w acc).1 = (hub.dispatchAll d events c w' acc).1 ∧
      World.RanAlike w (hub.dispatchAll d events c w acc).2 w' (hub.dispatchAll d events c w' acc).2 := by
  cases events with
  | nil =>
    rw [dispatchAll, dispatchAll]
    exact ⟨rfl, h.stay⟩
  | cons e rest =>
    obtain ⟨hr, hw⟩ := dispatch_alike hub d e c h
    rw [dispatchAll, dispatchAll]
    rcases h1 : hub.dispatch d e c w with ⟨r, w1⟩
    rcases h2 : hub.dispatch d e c w' with ⟨r', w2⟩
    rw [h1, h2] at hr hw
    simp only at hr hw ⊢
    subst hr
    by_cases hstop : (!r.success) = true
    · rw [if_pos hstop, if_pos hstop]
      exact ⟨rfl, hw⟩
    · rw [if_neg hstop, if_neg hstop]
      obtain ⟨hr', hw'⟩ := dispatchAll_alike hub d rest c _ hw.alike
      exact ⟨hr', hw.trans hw'⟩
termination_by (hub.maxDepth + 1 - d, 1, events.length)

theorem dispatch_alike (hub : Hub) (d : Nat) (e : EventDef) (c : Caller) {w w' : World}
    (h : w.Alike w') :
    (hub.dispatch d e c w).1 = (hub.dispatch d e c w').1 ∧
      World.RanAlike w (hub.dispatch d e c w).2 w' (hub.dispatch d e c w').2 := by
  rw [dispatch, dispatch]
  by_cases hd : hub.maxDepth ≤ d
  · rw [dif_pos hd, dif_pos hd]
    exact ⟨rfl, h.stay.record _⟩
  · rw [dif_neg hd, dif_neg hd]
    by_cases hen : e.isEnabled = true
    · have hon : ¬(!e.isEnabled) = true := by simp [hen]
      rw [if_neg hon, if_neg hon]
      obtain ⟨hp, hread⟩ := h.guard_ran c e
      rcases h1 : w.guard c e with ⟨pass, w1⟩
      rcases h2 : w'.guard c e with ⟨pass', w2⟩
      rw [h1, h2] at hp hread
      simp only at hp hread ⊢
      subst hp
      cases pass with
      | false => exact ⟨rfl, hread.record _⟩
      | true =>
        obtain ⟨hr, hw'⟩ := runList_alike hub (some (d + 1)) true e.actions c Outcome.ok hread.alike
        rcases h3 : hub.runList (some (d + 1)) true e.actions c w1 Outcome.ok with ⟨r, w3⟩
        rcases h4 : hub.runList (some (d + 1)) true e.actions c w2 Outcome.ok with ⟨r', w4⟩
        rw [h3, h4] at hr hw'
        simp only at hr hw' ⊢
        subst hr
        exact ⟨rfl, (hread.trans hw').record _⟩
    · have hoff : (!e.isEnabled) = true := by simpa using hen
      rw [if_pos hoff, if_pos hoff]
      exact ⟨rfl, h.stay.record _⟩
termination_by (hub.maxDepth + 1 - d, 0, 0)
decreasing_by exact Prod.Lex.left _ _ (by simp only [budget]; omega)

end

/-- Running actions on worlds that differ only in their notes gives the same outcome and worlds
that again differ only in their notes. -/
theorem runList_agree (hub : Hub) (em : Option Nat) (stop : Bool) (as : List Action) (c : Caller)
    (acc : Outcome) {w w' : World} (h : w.Agree w') :
    (hub.runList em stop as c w acc).1 = (hub.runList em stop as c w' acc).1 ∧
      (hub.runList em stop as c w acc).2.Agree (hub.runList em stop as c w' acc).2 :=
  ⟨(hub.runList_alike em stop as c acc h.alike).1, (hub.runList_alike em stop as c acc h.alike).2.agree h⟩

/-- A condition gives the outcome of the non-atomic batch of the branch its condition picks
on the state before it, and a world that differs from that batch's only in the notes. -/
theorem runAction_condition (hub : Hub) (em : Option Nat) (i j cond : String) (t f : List Action)
    (c : Caller) (w : World) :
    (hub.runAction em (.mk i (.condition cond t f)) c w).1
        = (hub.runAction em (.mk j (.batch (if (Expr.holds (c.view w.store) cond).1 then t else f)
          false)) c w).1 ∧
      (hub.runAction em (.mk i (.condition cond t f)) c w).2.Agree
        (hub.runAction em (.mk j (.batch (if (Expr.holds (c.view w.store) cond).1 then t else f)
          false)) c w).2 := by
  rw [runAction, runAction]
  -- reading the condition only adds a note, and it reads what the batch's branch is chosen by
  have hw : (w.holds c cond).2.Agree w := by
    rw [World.holds_snd]
    exact w.agree_eval c cond
  have hb : (w.holds c cond).1 = (Expr.holds (c.view w.store) cond).1 := rfl
  rcases h1 : w.holds c cond with ⟨b, w1⟩
  rw [h1] at hw hb
  simp only at hw hb ⊢
  rw [← hb]
  cases b with
  | true => exact runList_agree hub em false t c Outcome.ok hw
  | false => exact runList_agree hub em false f c Outcome.ok hw

end Hub

/-- Batches nest and conditions branch as their flattened forms run: a batch whose first
action is a batch with the same flag runs exactly as the batch of the two lists joined, and
a condition gives the outcome, the state, the requests sent, the answers left and the
journal of the non-atomic batch of the branch its condition picks on the state before it;
for every hub, depth of the events fired, caller and world. -/
theorem batch_nesting_and_condition_laws (hub : Hub) (em : Option Nat) (c : Caller) (w : World)
    (i j k : String) (xs ys : List Action) (f : Bool) (cond : String) (t e : List Action) :
    hub.runAction em (.mk i (.batch (.mk j (.batch xs f) :: ys) f)) c w
        = hub.runAction em (.mk k (.batch (xs ++ ys) f)) c w ∧
      (hub.runAction em (.mk i (.condition cond t e)) c w).1
        = (hub.runAction em (.mk k (.batch (if (Expr.holds (c.view w.store) cond).1 then t else e)
          false)) c w).1 ∧
      (hub.runAction em (.mk i (.condition cond t e)) c w).2.Agree
        (hub.runAction em (.mk k (.batch (if (Expr.holds (c.view w.store) cond).1 then t else e)
          false)) c w).2 :=
  ⟨hub.runAction_batch_nested em i j k xs ys f c w, hub.runAction_condition em i k cond t e c w⟩

end Storyboard

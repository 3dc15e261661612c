import Storyboard.Proofs.Visits

/-!
# Events fire one another only along the emit graph

The emit graph of a hub is read off the actions of the events, without running them: an edge
goes from an event `e` to a registered event `f` when some action of `e`, at any depth of
nesting in condition branches, batches and request callbacks, is an `emit_event` of a name that
`f` listens to (`Hub.EmitEdge`). The start of a run need not be registered; it has edges out
all the same.

A run decides as it goes which branch a condition takes, whether a request succeeds, and
whether a list stops early. Whatever it decides, the events it dispatches follow edges of the
graph: every dispatch at depth `d` of a run started from `e₀` at depth zero ends a path of `d`
edges from `e₀` (`Hub.EmitPath`). The dispatches of a run are the places `Visit.event` it
visits, each of which leaves one line in the journal (`journal_lists_dispatches_in_postorder`).

Since an event is refused for depth only when it is fired at the limit `m = hub.maxDepth` or
deeper, a run fails for depth only if the graph has a path of `m` edges from `e₀`.

The proof follows the recursion of the run, as `Hub.actionVisits_within` does, carrying for
each action the fact that every event an `emit_event` inside it can fire at the current depth
ends a path of that many edges (`Hub.FiresAlong`).
-/

namespace Storyboard

/-- An event emits `name` when one of its actions, or an action nested in one, is an
`emit_event` of that name. -/
def EventDef.Emits (e : EventDef) (name : String) : Prop :=
  ∃ a ∈ e.actions, ∃ id payload, (Action.mk id (.emitEvent name payload)).Inside a

namespace Hub

/-- An edge of the emit graph: from `e` to a registered event that listens to a name `e`
emits. -/
def EmitEdge (hub : Hub) (e f : EventDef) : Prop :=
  f ∈ hub.registry ∧ ∃ name, e.Emits name ∧ f.listensTo name = true

/-- A path of `n` edges of the emit graph from `e₀`. -/
inductive EmitPath (hub : Hub) (e₀ : EventDef) : EventDef → Nat → Prop
  | start : EmitPath hub e₀ e₀ 0
  | edge {e f : EventDef} {n : Nat} : EmitPath hub e₀ e n → hub.EmitEdge e f → EmitPath hub e₀ f (n + 1)

/-- A path of `n` edges has a prefix of each length up to `n`. -/
theorem EmitPath.shorten {hub : Hub} {e₀ f : EventDef} {n : Nat} (h : hub.EmitPath e₀ f n) :
    ∀ m ≤ n, ∃ g, hub.EmitPath e₀ g m := by
  induction h with
  | start => exact fun m hm => ⟨e₀, Nat.le_zero.1 hm ▸ .start⟩
  | @edge e f n _ hef ih =>
    intro m hm
    rcases Nat.lt_or_eq_of_le hm with hlt | rfl
    · exact ih m (by omega)
    · exact ⟨f, .edge ‹_› hef⟩

/-- Every event the action `b` fires, if it is an `emit_event`, ends a path of `d` edges from
`e₀`: the invariant a run at depth `d` carries for the actions it may run. -/
def FiresAlong (hub : Hub) (e₀ : EventDef) (d : Nat) (b : Action) : Prop :=
  ∀ id name payload, b = .mk id (.emitEvent name payload) → ∀ f ∈ hub.listeners name, hub.EmitPath e₀ f d

/-- A place dispatches an event only at the end of a path as long as its depth. -/
def Along (hub : Hub) (e₀ : EventDef) (v : Visit) : Prop :=
  ∀ f d c w, v = .event f d c w → hub.EmitPath e₀ f d

theorem along_action (hub : Hub) (e₀ : EventDef) (a : Action) (c : Caller) (w : World) :
    hub.Along e₀ (.action a c w) := fun _ _ _ _ h => by cases h

/-- The actions of an event dispatched at the end of a path of `d` edges fire only events at
the end of a path of `d + 1` edges. -/
theorem firesAlong_actions {hub : Hub} {e₀ e : EventDef} {d : Nat} (he : hub.EmitPath e₀ e d) :
    ∀ a ∈ e.actions, a.Throughout (hub.FiresAlong e₀ (d + 1)) := by
  intro a ha b hb id name payload hbe f hf
  subst hbe
  obtain ⟨hreg, hlistens⟩ := List.mem_filter.1 hf
  exact .edge he ⟨hreg, name, ⟨a, ha, id, payload, hb⟩, hlistens⟩

variable (hub : Hub) (e₀ : EventDef)

mutual

/-- Every event a run of `a` dispatches ends a path as long as its depth, when every
`emit_event` inside `a` fires only such events. -/
theorem actionVisits_along (em : Option Nat) (a : Action) (c : Caller) (w : World) :
    (∀ d, em = some d → a.Throughout (hub.FiresAlong e₀ d)) →
      ∀ v ∈ hub.actionVisits em a c w, hub.Along e₀ v := by
  obtain ⟨id, kind⟩ := a
  intro ha
  cases kind with
  | emitEvent name payload =>
    cases em with
    | none =>
      simp only [actionVisits, List.mem_cons, List.not_mem_nil, or_false, forall_eq]
      exact along_action hub e₀ _ c w
    | some d =>
      rw [actionVisits]
      refine List.forall_mem_cons.2 ⟨along_action hub e₀ _ c w, ?_⟩
      -- the listeners of the name are dispatched at `d`, each at the end of a path of `d` edges
      exact eventVisits_along d _ _ w fun f hf => (ha d rfl).self id name payload rfl f hf
  | condition cond t f =>
    rw [actionVisits]
    refine List.forall_mem_cons.2 ⟨along_action hub e₀ _ c w, ?_⟩
    rcases w.holds c cond with ⟨passed, w₁⟩
    cases passed with
    | true =>
      exact listVisits_along em false t c w₁
        fun d hd b hb => (ha d hd).child (List.mem_append_left f hb)
    | false =>
      exact listVisits_along em false f c w₁
        fun d hd b hb => (ha d hd).child (List.mem_append_right t hb)
  | batch as atomic =>
    rw [actionVisits]
    exact List.forall_mem_cons.2 ⟨along_action hub e₀ _ c w,
      listVisits_along em atomic as c w fun d hd b hb => (ha d hd).child hb⟩
  | apiCall r onSuccess onError =>
    rcases hd : checkDomain (r.address c w.store) (r.allowedDomains.getD hub.allowed) with g | u
    · rw [(runAction_apiCall_of_error hub em id r onSuccess onError c w hd).2]
      exact List.forall_mem_cons.2 ⟨along_action hub e₀ _ c w, fun _ h => absurd h List.not_mem_nil⟩
    · cases u
      obtain ⟨cbs, c', w', acc, hcbs, -, -, -, -, -, hvis⟩ :=
        runAction_apiCall_of_ok hub em id r onSuccess onError c w hd
      rw [hvis]
      refine List.forall_mem_cons.2 ⟨along_action hub e₀ _ c w, ?_⟩
      -- the callbacks that run are among the request's own actions
      rcases hcbs with h | h <;> rw [h]
      · exact listVisits_along em false onSuccess c' w'
          fun d hd b hb => (ha d hd).child (List.mem_append_left onError hb)
      · exact listVisits_along em false onError c' w'
          fun d hd b hb => (ha d hd).child (List.mem_append_right onSuccess hb)
  | _ =>
    simp only [actionVisits, List.mem_cons, List.not_mem_nil, or_false, forall_eq]
    exact along_action hub e₀ _ c w
termination_by (hub.budget em, 2, sizeOf a)

/-- Every event a run of actions dispatches ends a path as long as its depth. -/
theorem listVisits_along (em : Option Nat) (stop : Bool) (as : List Action) (c : Caller)
    (w : World) (has : ∀ d, em = some d → ∀ a ∈ as, a.Throughout (hub.FiresAlong e₀ d)) :
    ∀ v ∈ hub.listVisits em stop as c w, hub.Along e₀ v := by
  cases as with
  | nil => simp [listVisits]
  | cons a rest =>
    rw [listVisits]
    rcases hub.runAction em a c w with ⟨r, w₁⟩
    refine List.forall_mem_append.2
      ⟨actionVisits_along em a c w fun d hd => has d hd a List.mem_cons_self, ?_⟩
    split
    · exact fun _ h => absurd h List.not_mem_nil
    · exact listVisits_along em stop rest c w₁
        fun d hd b hb => has d hd b (List.mem_cons_of_mem a hb)
termination_by (hub.budget em, 2, sizeOf as)

/-- Events dispatched at depth `d`, each at the end of a path of `d` edges, dispatch only
events at the end of paths as long as their depth. -/
theorem eventVisits_along (d : Nat) (events : List EventDef) (c : Caller) (w : World)
    (hes : ∀ f ∈ events, hub.EmitPath e₀ f d) :
    ∀ v ∈ hub.eventVisits d events c w, hub.Along e₀ v := by
  cases events with
  | nil => simp [eventVisits]
  | cons e rest =>
    rw [eventVisits]
    rcases hub.dispatch d e c w with ⟨r, w₁⟩
    refine List.forall_mem_append.2 ⟨dispatchVisits_along d e c w (hes e List.mem_cons_self), ?_⟩
    split
    · exact fun _ h => absurd h List.not_mem_nil
    · exact eventVisits_along d rest c w₁ fun f hf => hes f (List.mem_cons_of_mem e hf)
termination_by (hub.maxDepth + 1 - d, 1, events.length)

/-- An event dispatched at the end of a path of `d` edges dispatches only events at the end of
paths as long as their depth. -/
theorem dispatchVisits_along (d : Nat) (e : EventDef) (c : Caller) (w : World)
    (he : hub.EmitPath e₀ e d) : ∀ v ∈ hub.dispatchVisits d e c w, hub.Along e₀ v := by
  rw [dispatchVisits]
  refine List.forall_mem_cons.2 ⟨fun f d' c' w' hv => ?_, ?_⟩
  · cases hv
    exact he
  · by_cases hd : hub.maxDepth ≤ d
    · simp only [hd, dite_true]
      exact fun _ h => absurd h List.not_mem_nil
    · simp only [hd, dite_false]
      split
      · exact fun _ h => absurd h List.not_mem_nil
      · rcases w.guard c e with ⟨pass, w₁⟩
        dsimp only
        split
        · exact fun _ h => absurd h List.not_mem_nil
        · exact listVisits_along (some (d + 1)) true e.actions c w₁
            fun d' hd' => Option.some_inj.1 hd' ▸ firesAlong_actions he
termination_by (hub.maxDepth + 1 - d, 0, 0)
decreasing_by exact Prod.Lex.left _ _ (by simp only [budget]; omega)

end

/-- Only an event fired at the limit or deeper is refused for depth, and it is refused at its
own depth. -/
theorem stepsAt_depthExceeded {v : Visit} {a b : Nat}
    (h : Step.fail (.depthExceeded a b) ∈ hub.stepsAt v) :
    ∃ f c w, v = .event f a c w ∧ hub.maxDepth ≤ a := by
  -- no action is refused for depth: its steps refuse nothing
  have hnone : ∀ s : Step, s.refusedAt? = none → s ≠ .fail (.depthExceeded a b) :=
    fun s hs hs' => by
      rw [hs'] at hs
      cases hs
  rcases v with ⟨⟨id, kind⟩, c, w⟩ | ⟨f, d, c, w⟩
  · cases kind with
    | stateUpdate p =>
      simp only [stepsAt, List.mem_singleton] at h
      exact absurd h.symm (hnone _ (p.run_refusedAt c w))
    | recalculate target formula =>
      simp only [stepsAt, List.mem_singleton] at h
      exact absurd h.symm (hnone _ (writeTarget_refusedAt _ _ _ _))
    | apiCall r onSuccess onError =>
      simp only [stepsAt] at h
      split at h
      · next g hg =>
        obtain ⟨what, rfl⟩ := checkDomain_error hg
        simp at h
      · split at h
        · split at h
          · cases h
          · simp at h
        · simp at h
    | _ => simp [stepsAt] at h
  · simp only [stepsAt] at h
    split at h
    · next hd =>
      obtain ⟨rfl, -⟩ := Failure.depthExceeded.inj (Step.fail.inj (List.mem_singleton.1 h))
      exact ⟨f, c, w, rfl, hd⟩
    · cases h

end Hub

/-- Every event that a dispatch from depth zero dispatches at depth `d`, itself included, ends
a path of `d` edges of the emit graph from the event it started from. So if its outcome fails
for depth, the graph has a path from that event as long as the limit. -/
theorem dispatches_follow_emit_paths (hub : Hub) (e₀ : EventDef) (c : Caller) (w : World) :
    (∀ f d c' w', Visit.event f d c' w' ∈ hub.dispatchVisits 0 e₀ c w → hub.EmitPath e₀ f d) ∧
    (∀ a b, (hub.dispatch 0 e₀ c w).1.error = some (Failure.depthExceeded a b).message →
      ∃ f, hub.EmitPath e₀ f hub.maxDepth) := by
  have hvis := hub.dispatchVisits_along e₀ 0 e₀ c w .start
  refine ⟨fun f d c' w' hv => hvis _ hv f d c' w' rfl, fun a b herr => ?_⟩
  -- the error is the text of the first failure among the dispatch's steps
  rw [(hub.dispatch_folds 0 e₀ c w).1.error, hub.dispatchSteps_eq_flatMap] at herr
  obtain ⟨g, hg, hmsg⟩ := Option.map_eq_some_iff.1 herr
  obtain ⟨s, hs, hsg⟩ := List.exists_of_findSome?_eq_some hg
  obtain ⟨v, hv, hsv⟩ := List.mem_flatMap.1 hs
  have hgd : g = .depthExceeded a b := Failure.message_eq_depthExceeded_iff.1 hmsg
  have hsf : s = .fail g := by
    cases s with
    | fail g' =>
      simp only [Step.failure?, Option.some.injEq] at hsg
      rw [hsg]
    | write t x => cases hsg
    | signal e => cases hsg
  rw [hsf, hgd] at hsv
  -- the failure is a refusal at a place fired at the limit or deeper
  obtain ⟨f, c', w', rfl, hle⟩ := hub.stepsAt_depthExceeded hsv
  exact (hvis _ hv f a c' w' rfl).shorten _ hle

end Storyboard

import Storyboard.Proofs.Requests
import Storyboard.Lint

/-!
# What a reviewed project can fail with

The review (`Project.review`) and the runs answer the same questions with separate code:
the review checks a target with `Review.validTarget` and an operation against
`Review.operations`, the run splits the target with `splitTarget` and matches the
operation; the review walks the actions inside conditions, batches and calls with
`Review.visit`, the run goes through them as it runs them.

* `ActionKind.runnable`: what the review accepts of an action itself. A project whose
  review finds no error has only runnable actions, at every depth of every event
  (`Project.hub_runnable`).
* `stepsAt_fail`: at the places of a run of runnable actions, no failure is an unknown type
  or operation, and a scope refusal is a local write by a caller with no widget instance.
* `Session.applyAll_known`: over any sequence of operations, no journal line reports an
  unknown type or operation.
* `rejected_iff_refused`: for a call whose URL has no placeholder, the review's warning
  and the runtime's refusal agree.

Main statement: `reviewed_projects_fail_only_by_design`.
-/

namespace Storyboard

/-! ## Failure texts

The outcome and the journal carry failures as text. The failures whose text is their name
and their detail can be read back from it. -/

/-- The texts of an unknown operation and of an unknown action type part at the twelfth
letter. -/
theorem Failure.unsupportedOperation_message_ne (o t : String) :
    (Failure.unsupportedOperation o).message ≠ (Failure.unsupportedActionType t).message := by
  intro h
  have h12 := congrArg (fun m : String => (m.toList.drop 11).head?) h
  have ho : (("UnsupportedOperation: " ++ o).toList.drop 11).head? = some 'O' := by
    simp only [String.toList_append]
    rfl
  have ht : (("UnsupportedActionType: " ++ t).toList.drop 11).head? = some 'A' := by
    simp only [String.toList_append]
    rfl
  change (("UnsupportedOperation: " ++ o).toList.drop 11).head?
    = (("UnsupportedActionType: " ++ t).toList.drop 11).head? at h12
  rw [ho, ht] at h12
  simp at h12

/-- The failures whose text is their name and the detail they carry. -/
def Failure.plainText : Failure → Bool
  | .invalidScope _ | .unsupportedOperation _ | .unsupportedActionType _ | .domainNotAllowed _
  | .transport _ => true
  | _ => false

/-- A failure with the text of a failure whose text is its name and its detail is that
failure. -/
theorem Failure.eq_of_message_eq {f g : Failure} (hg : g.plainText = true)
    (h : f.message = g.message) : f = g := by
  have hi : f.initial = g.initial := by
    have := f.head?_message
    rw [h, g.head?_message] at this
    exact (Option.some_inj.1 this).symm
  -- different first letters leave the same kind, and the two unknown kinds
  cases g <;> simp only [Failure.plainText, Bool.false_eq_true] at hg <;> cases f <;>
    simp [Failure.initial] at hi
  case unsupportedOperation.unsupportedActionType =>
    exact absurd h.symm (Failure.unsupportedOperation_message_ne _ _)
  case unsupportedActionType.unsupportedOperation =>
    exact absurd h (Failure.unsupportedOperation_message_ne _ _)
  all_goals
    obtain rfl := (String.append_right_inj _).1 h
    rfl

/-- The failures of an unknown action type or an unknown state-update operation. -/
def Failure.isUnknown : Failure → Bool
  | .unsupportedActionType _ | .unsupportedOperation _ => true
  | _ => false

/-- A failure that is not of an unknown type or operation has neither text. -/
theorem Failure.message_ne_unknown {f : Failure} (hf : f.isUnknown = false) (t : String) :
    f.message ≠ (Failure.unsupportedActionType t).message ∧
      f.message ≠ (Failure.unsupportedOperation t).message := by
  constructor
  · intro h
    rw [Failure.eq_of_message_eq rfl h] at hf
    cases hf
  · intro h
    rw [Failure.eq_of_message_eq rfl h] at hf
    cases hf

/-! ## Writes

A target that passes the review names a scope and a path; the only write it can still fail
is a local one, by a caller that names no widget instance. -/

theorem Scope.eq_widget_of_ofName? {s : String} (h : Scope.ofName? s = some .widget) :
    s = "local" := by
  unfold Scope.ofName? at h
  split at h <;> first | rfl | cases h

theorem Store.write?_eq_none {s : Store} {scope : Scope} {inst : Option String} {path : String}
    {v : Json} (h : s.write? scope inst path v = none) : scope = .widget ∧ inst = none := by
  unfold Store.write? at h
  split at h <;> first | exact ⟨rfl, rfl⟩ | cases h

/-- A target split into the widget scope and a path is `local.` and that path. -/
theorem splitTarget_widget {t path : String} (h : splitTarget t = .ok (.widget, path)) :
    t = "local." ++ path := by
  unfold splitTarget at h
  dsimp only at h
  have hsplit := (t.toList.takeWhile_append_dropWhile (p := (· != '.')))
  have hdrop : t.toList.drop (t.toList.takeWhile (· != '.')).length
      = t.toList.dropWhile (· != '.') := by
    nth_rewrite 2 [← hsplit]
    exact List.drop_left
  rw [hdrop] at h
  split at h
  · next _ dot c rest hd =>
    split at h
    · next sc hs =>
      cases h
      have hscope := congrArg String.toList (Scope.eq_widget_of_ofName? hs)
      simp only [String.toList_ofList] at hscope
      -- the scope ends at the first dot
      have hdot : dot = '.' := by
        have := List.head?_dropWhile_not (· != '.') t.toList
        rw [hd] at this
        simpa using this
      apply String.toList_injective
      rw [← hsplit, hscope, hd, hdot]
      simp only [String.toList_append, String.toList_ofList]
      rfl
    · cases h
  · cases h

/-- A write to a target the review accepts fails only as a local write by a caller with no
widget instance. -/
theorem writeTarget_fail {t : String} {v : Json} {c : Caller} {w : World} {f : Failure}
    (ht : Review.validTarget t = true) (h : (writeTarget t v c w).1 = .fail f) :
    f = .invalidScope "local (no widget instance in context)" ∧ c.instanceId = none ∧
      ∃ path, t = "local." ++ path := by
  unfold writeTarget at h
  unfold Review.validTarget at ht
  split at h
  · next f' hs => simp [hs] at ht
  · next scope path hs =>
    split at h
    · cases h
    · next hw =>
      obtain ⟨rfl, hinst⟩ := Store.write?_eq_none hw
      cases h
      exact ⟨rfl, hinst, path, splitTarget_widget hs⟩

/-- A state update with a target and an operation the review accepts fails only as a
local write by a caller with no widget instance. -/
theorem StateUpdate.run_fail {p : StateUpdate} {c : Caller} {w : World} {f : Failure}
    (ht : Review.validTarget p.target = true) (hop : Review.operations.contains p.operation = true)
    (h : (p.run c w).1 = .fail f) :
    f = .invalidScope "local (no widget instance in context)" ∧ c.instanceId = none ∧
      ∃ path, p.target = "local." ++ path := by
  unfold StateUpdate.run at h
  split at h
  · next f' hs => simp [Review.validTarget, hs] at ht
  · dsimp only at h
    split at h
    · exact writeTarget_fail ht h
    · -- every operation of the review's table yields a value to write
      next hnext =>
      simp only [Review.operations, List.contains_cons, List.contains_nil, Bool.or_false,
        Bool.or_eq_true, beq_iff_eq] at hop
      rcases hop with hop | hop | hop | hop | hop <;> rw [hop] at hnext <;> cases hnext

/-! ## The places of a run of reviewed actions -/

/-- Whether the review finds nothing wrong with an action itself: its type is known, and a
write names a scope and a path and, for a state update, a known operation. -/
def ActionKind.runnable : ActionKind → Bool
  | .unsupported .. => false
  | .stateUpdate u => Review.validTarget u.target && Review.operations.contains u.operation
  | .recalculate target _ => Review.validTarget target
  | _ => true

/-- The target an action writes: a state update's or a recalculation's. -/
def ActionKind.target? : ActionKind → Option String
  | .stateUpdate u => some u.target
  | .recalculate target _ => some target
  | _ => none

/-- A place is a write to a target in the local scope, by a caller that names no widget
instance. -/
def Visit.LocalWithoutInstance : Visit → Prop
  | .action a c _ => (∃ path, a.kind.target? = some ("local." ++ path)) ∧ c.instanceId = none
  | .event .. => False

/-- At a place of a run of runnable actions, no failure is of an unknown type or
operation, and a scope refusal is a local write by a caller with no widget instance. -/
theorem stepsAt_fail {hub : Hub} {v : Visit} {f : Failure}
    (hv : ∀ a ∈ v.action?, a.kind.runnable = true) (hf : Step.fail f ∈ hub.stepsAt v) :
    f.isUnknown = false ∧ ∀ x, f = .invalidScope x → v.LocalWithoutInstance := by
  cases v with
  | event e d c w =>
    -- an event fails only by its depth
    simp only [Hub.stepsAt] at hf
    split at hf
    · obtain rfl := Step.fail.inj (List.mem_singleton.1 hf)
      simp [Failure.isUnknown]
    · cases hf
  | action a c w =>
    obtain ⟨id, kind⟩ := a
    have hr : kind.runnable = true := hv _ rfl
    cases kind with
    | stateUpdate p =>
      simp only [ActionKind.runnable, Bool.and_eq_true] at hr
      simp only [Hub.stepsAt, List.mem_singleton] at hf
      obtain ⟨rfl, hinst, path, ht⟩ := StateUpdate.run_fail hr.1 hr.2 hf.symm
      exact ⟨rfl, fun _ _ => ⟨⟨path, by simp [ActionKind.target?, ht]⟩, hinst⟩⟩
    | recalculate target formula =>
      simp only [ActionKind.runnable] at hr
      simp only [Hub.stepsAt, List.mem_singleton] at hf
      obtain ⟨rfl, hinst, path, ht⟩ := writeTarget_fail hr hf.symm
      exact ⟨rfl, fun _ _ => ⟨⟨path, by simp [ActionKind.target?, ht]⟩, hinst⟩⟩
    | apiCall r onSuccess onError =>
      -- a call fails only by its host, its status or its transport
      simp only [Hub.stepsAt] at hf
      split at hf
      · next g hd =>
        obtain rfl := Step.fail.inj (List.mem_singleton.1 hf)
        obtain ⟨what, rfl⟩ := checkDomain_error hd
        simp [Failure.isUnknown]
      · split at hf
        · split at hf
          · cases hf
          · obtain rfl := Step.fail.inj (List.mem_singleton.1 hf)
            simp [Failure.isUnknown]
        · obtain rfl := Step.fail.inj (List.mem_singleton.1 hf)
          simp [Failure.isUnknown]
    | unsupported t params => simp [ActionKind.runnable] at hr
    | _ => simp [Hub.stepsAt] at hf

/-! ## The review goes through every action

`Review.visit` reports an action's own findings, then those of the actions inside it; so
the findings of an action at any depth of an event are part of the review. -/

namespace Review

theorem visitAll_eq_flatMap (p : Project) (owner : Option EventDef) (parent : String)
    (as : List Action) : visitAll p owner parent as = as.flatMap (visit p owner parent) := by
  induction as with
  | nil => rw [visitAll, List.flatMap_nil]
  | cons a as ih => rw [visitAll, ih, List.flatMap_cons]

/-- The findings of an action: its own, then those of the actions inside it, located
under it. -/
theorem visit_mk (p : Project) (owner : Option EventDef) (parent id : String) (kind : ActionKind) :
    visit p owner parent (.mk id kind)
      = actionFindings p owner (parent ++ " > action '" ++ id ++ "'") kind
        ++ kind.children.flatMap (visit p owner (parent ++ " > action '" ++ id ++ "'")) := by
  cases kind <;> simp only [visit, ActionKind.children, visitAll_eq_flatMap, List.flatMap_append,
    List.flatMap_nil]

/-- The own findings of an action inside another, at any depth, are among the outer
action's findings. -/
theorem findings_inside {a b : Action} (h : b.Inside a) (p : Project) (owner : Option EventDef) :
    ∀ parent, ∃ loc, actionFindings p owner loc b.kind <:+: visit p owner parent a := by
  induction h with
  | refl a =>
    intro parent
    obtain ⟨id, kind⟩ := a
    exact ⟨_, by rw [visit_mk]; exact (List.prefix_append _ _).isInfix⟩
  | @child a b x hb _ ih =>
    intro parent
    obtain ⟨id, kind⟩ := a
    obtain ⟨loc, hloc⟩ := ih (parent ++ " > action '" ++ id ++ "'")
    refine ⟨loc, hloc.trans ?_⟩
    rw [visit_mk]
    exact (List.infix_of_mem_flatten (List.mem_map_of_mem hb)).trans
      (List.suffix_append _ _).isInfix

/-- An action whose own findings hold no error is runnable. -/
theorem runnable_of_findings {p : Project} {owner : Option EventDef} {loc : String}
    {k : ActionKind} (h : ∀ d ∈ actionFindings p owner loc k, d.level ≠ .error) :
    k.runnable = true := by
  cases k with
  | unsupported t params => exact absurd rfl (h _ (List.mem_singleton_self _))
  | stateUpdate u =>
    simp only [actionFindings, checkTarget] at h
    simp only [ActionKind.runnable, Bool.and_eq_true]
    constructor
    · by_contra hv
      rw [if_neg hv] at h
      exact h _ (List.mem_append_left _ (List.mem_singleton_self _)) rfl
    · by_contra hop
      rw [if_neg hop] at h
      exact h _ (List.mem_append_right _ (List.mem_singleton_self _)) rfl
  | recalculate target formula =>
    simp only [actionFindings, checkTarget] at h
    simp only [ActionKind.runnable]
    by_contra hv
    rw [if_neg hv] at h
    exact h _ (List.mem_singleton_self _) rfl
  | _ => rfl

end Review

/-- The own findings of every action of every event, at any depth, are part of the
review. -/
theorem Project.findings_in_review {p : Project} {e : EventDef} (he : e ∈ p.events)
    {a b : Action} (ha : a ∈ e.actions) (hb : b.Inside a) :
    ∃ loc, Review.actionFindings p (some e) loc b.kind <:+: p.review := by
  obtain ⟨loc, hloc⟩ := Review.findings_inside hb p (some e) ("event '" ++ e.id ++ "'")
  refine ⟨loc, hloc.trans ?_⟩
  -- the action's findings lie in its event's, which lie in the review's
  have hevent : Review.visit p (some e) ("event '" ++ e.id ++ "'") a <:+: Review.event p e := by
    rw [Review.event, Review.visitAll_eq_flatMap]
    exact (List.infix_of_mem_flatten (List.mem_map_of_mem ha)).trans
      (List.suffix_append _ _).isInfix
  have hevents : Review.event p e <:+: p.events.flatMap (Review.event p) :=
    List.infix_of_mem_flatten (List.mem_map_of_mem he)
  have hreview : p.events.flatMap (Review.event p) <:+: p.review := by
    rw [Project.review]
    exact (List.infix_append _ _ _).trans (List.prefix_append _ _).isInfix
  exact hevent.trans (hevents.trans hreview)

/-- A project whose review finds no error runs only runnable actions, at every depth of
every event. -/
theorem Project.hub_runnable {p : Project} (hp : Diagnostic.anyError p.review = false)
    (replies : List Reply) :
    (Session.ofProject p replies).hub.Throughout (·.kind.runnable = true) := by
  intro e he a ha b hb
  obtain ⟨loc, hloc⟩ := p.findings_in_review he ha hb
  refine @Review.runnable_of_findings p (some e) loc _ fun d hd herr => ?_
  have hno := List.any_eq_false.1 hp d (hloc.subset hd)
  simp [herr] at hno

/-! ## Sessions of a reviewed project -/

namespace Session

/-- The error of an operation's outcome is the text of a failure taken at one of the places
it visits. -/
theorem apply_error (s : Session) (op : Op) :
    ∀ r ∈ (s.apply op).1, ∀ m ∈ r.error,
      ∃ v ∈ s.opVisits op, ∃ f, Step.fail f ∈ s.hub.stepsAt v ∧ m = f.message := by
  intro r hr m hm
  rw [(s.apply_folds op r hr).error, s.opSteps_eq_flatMap op] at hm
  obtain ⟨f, hf, rfl⟩ := Option.map_eq_some_iff.1 hm
  obtain ⟨st, hst, hsf⟩ := List.exists_of_findSome?_eq_some hf
  cases st with
  | fail g =>
    cases hsf
    obtain ⟨v, hv, hst⟩ := List.mem_flatMap.1 hst
    exact ⟨v, hv, _, hst, rfl⟩
  | _ => cases hsf

/-- No line of a journal reports an unknown type or operation. -/
def Known (j : List Entry) : Prop :=
  ∀ x ∈ j, ∀ m ∈ x.error, ∃ f : Failure, m = f.message ∧ f.isUnknown = false

section

variable {s : Session} (hs : s.hub.Throughout (·.kind.runnable = true))
include hs

/-- A failure at a place an operation visits, in a session whose events hold only runnable
actions, is not of an unknown type or operation, and a scope refusal is a local write by a
caller with no widget instance. -/
theorem opVisits_fail {op : Op} {v : Visit} {f : Failure} (hv : v ∈ s.opVisits op)
    (hf : Step.fail f ∈ s.hub.stepsAt v) :
    f.isUnknown = false ∧ ∀ x, f = .invalidScope x → v.LocalWithoutInstance :=
  stepsAt_fail (s.opVisits_within hs op v hv).2 hf

/-- An operation keeps a journal free of unknown types and operations. -/
theorem apply_known (hj : Known s.world.journal) (op : Op) : Known (s.apply op).2.world.journal := by
  unfold Known
  intro x hx m hm
  rcases s.apply_journal op x hx with hx | hr
  · exact hj x hx m hm
  · obtain ⟨v, hv, f, hf, rfl⟩ := hr m hm
    exact ⟨f, rfl, (opVisits_fail hs hv hf).1⟩

end

/-- Any sequence of operations keeps a journal free of unknown types and operations, in a
session whose events hold only runnable actions. -/
theorem applyAll_known (ops : List Op) :
    ∀ s : Session, s.hub.Throughout (·.kind.runnable = true) → Known s.world.journal →
      Known (s.applyAll ops).world.journal := by
  induction ops with
  | nil => exact fun s _ hj => hj
  | cons op ops ih =>
    intro s hs hj
    -- the operation keeps the hub, so the invariant carries on to the rest
    exact ih (s.apply op).2 ((apply_hub s op).symm ▸ hs) (apply_known hs hj op)

end Session

/-! ## Calls the review warns about -/

theorem Failure.domainNotAllowed_message_inj {x y : String} :
    (Failure.domainNotAllowed x).message = (Failure.domainNotAllowed y).message ↔ x = y :=
  ⟨fun h => (String.append_right_inj _).1 h, fun h => h ▸ rfl⟩

/-- For a call whose URL has no placeholder, checked against the project's hosts when it
names none, the review warns that it will be rejected with a host's refusal exactly when
every run of it is refused with that refusal, and exactly when one run is. -/
theorem Hub.rejected_iff_refused (hub : Hub) {p : Project}
    (hallowed : hub.allowed = p.runtime.allowedDomains) (owner : Option EventDef) (loc id : String)
    {r : Request} (onSuccess onError : List Action) (what : String)
    (hurl : r.url.contains '\x7b' = false) :
    let a := Action.mk id (.apiCall r onSuccess onError)
    let warned := Review.actionFindings p owner loc a.kind
      = [⟨.warning, "api_call will be rejected: " ++ (Failure.domainNotAllowed what).message, some loc⟩]
    (warned ↔ ∀ em c w, hub.runAction em a c w = (Outcome.failure (.domainNotAllowed what), w)) ∧
      (warned ↔ ∃ em c w, hub.runAction em a c w = (Outcome.failure (.domainNotAllowed what), w)) := by
  intro a warned
  -- the review and the run check the same address against the same hosts
  have hcheck (c : Caller) (st : Store) :
      checkDomain (r.address c st) (r.allowedDomains.getD hub.allowed)
        = checkDomain r.url (r.allowedDomains.getD p.runtime.allowedDomains) := by
    simp [Request.address, hurl, hallowed]
  rcases hd : checkDomain r.url (r.allowedDomains.getD p.runtime.allowedDomains) with f | u
  · -- refused: the review warns with the refusal, and every run is refused with it
    obtain ⟨y, rfl⟩ := checkDomain_error hd
    have hwarned : warned ↔ y = what := by
      simp only [warned, a, Action.kind_mk, Review.actionFindings, hurl, hd, Bool.false_eq_true,
        if_false, List.cons.injEq, Diagnostic.mk.injEq, String.append_right_inj,
        Failure.domainNotAllowed_message_inj, true_and, and_true]
    have hrefused (em : Option Nat) (c : Caller) (w : World) :
        hub.runAction em a c w = (Outcome.failure (.domainNotAllowed what), w) ↔ y = what := by
      rw [(hub.runAction_apiCall_of_error em id r onSuccess onError c w ((hcheck c w.store).trans hd)).1]
      constructor
      · intro h
        exact Failure.domainNotAllowed_message_inj.1 (Option.some_inj.1 (congrArg (·.1.error) h))
      · rintro rfl
        rfl
    exact ⟨hwarned.trans ⟨fun h em c w => (hrefused em c w).2 h,
        fun h => (hrefused none {} {}).1 (h none {} {})⟩,
      hwarned.trans ⟨fun h => ⟨none, {}, {}, (hrefused none {} {}).2 h⟩,
        fun ⟨em, c, w, h⟩ => (hrefused em c w).1 h⟩⟩
  · -- passed: the review is silent, and every run sends the call's request
    cases u
    have hsilent : ¬warned := by
      simp [warned, a, Review.actionFindings, hurl, hd]
    have hsends (em : Option Nat) (c : Caller) (w : World) :
        hub.runAction em a c w ≠ (Outcome.failure (.domainNotAllowed what), w) := by
      intro h
      have hok := (hcheck c w.store).trans hd
      obtain ⟨cbs, c', w', acc, -, -, -, -, -, -, hvis⟩ :=
        hub.runAction_apiCall_of_ok em id r onSuccess onError c w hok
      have hsent := hub.runAction_sent em a c w
      have hreq : hub.request? (.action a c w)
          = some ⟨r.method, r.address c w.store, r.headers, r.body⟩ := by
        simp [a, Hub.request?, hok]
      rw [h, hvis, List.filterMap_cons_some hreq] at hsent
      have := congrArg List.length hsent
      simp at this
    exact ⟨iff_of_false hsilent fun h => hsends none {} {} (h none {} {}),
      iff_of_false hsilent fun ⟨em, c, w, h⟩ => hsends em c w h⟩

/-! ## Reviewed projects -/

/-- How the operation `op` of the session `s` of the project `p` fails, when it fails only in
the ways the review leaves open:
* neither its outcome nor any journal line carries the text of an unknown action type or
  operation;
* its outcome's error, and each journal line it adds, is a scope refusal only when it comes
  from a place of the operation that writes a `local.` target for a caller with no widget
  instance;
* the review looks at every action of every event, at any depth;
* for a call whose URL has no placeholder, the review warns that it will be rejected with a
  host's refusal exactly when running it in `s` is refused with that refusal, in every run,
  and exactly when it is in one run. -/
structure Session.FailsOnlyByDesign (p : Project) (s : Session) (op : Session.Op) : Prop where
  outcome_known : ∀ r ∈ (s.apply op).1, ∀ m ∈ r.error, ∀ t,
    m ≠ (Failure.unsupportedActionType t).message ∧ m ≠ (Failure.unsupportedOperation t).message
  journal_known : ∀ x ∈ (s.apply op).2.world.journal, ∀ m ∈ x.error, ∀ t,
    m ≠ (Failure.unsupportedActionType t).message ∧ m ≠ (Failure.unsupportedOperation t).message
  outcome_scope : ∀ r ∈ (s.apply op).1, ∀ what, r.error = some (Failure.invalidScope what).message →
    ∃ v ∈ s.opVisits op, v.LocalWithoutInstance
  journal_scope : ∀ x ∈ (s.apply op).2.world.journal, x ∉ s.world.journal →
    ∀ what, x.error = some (Failure.invalidScope what).message →
      ∃ v ∈ s.opVisits op, v.LocalWithoutInstance
  reviewed : ∀ e ∈ p.events, ∀ a ∈ e.actions, ∀ b : Action, b.Inside a →
    ∃ loc, Review.actionFindings p (some e) loc b.kind <:+: p.review
  rejected : ∀ owner loc id onSuccess onError what, ∀ r : Request, r.url.contains '\x7b' = false →
    let a := Action.mk id (.apiCall r onSuccess onError)
    let warned := Review.actionFindings p owner loc a.kind
      = [⟨.warning, "api_call will be rejected: " ++ (Failure.domainNotAllowed what).message, some loc⟩]
    (warned ↔ ∀ em c w, s.hub.runAction em a c w = (Outcome.failure (.domainNotAllowed what), w)) ∧
      (warned ↔ ∃ em c w, s.hub.runAction em a c w = (Outcome.failure (.domainNotAllowed what), w))

/-- A project whose review finds no error fails only by design: in every session of it,
after any operations with any callers and scripted replies, the next operation fails only
in the ways the review leaves open. -/
theorem reviewed_projects_fail_only_by_design (p : Project) (replies : List Reply)
    (hp : Diagnostic.anyError p.review = false) (ops : List Session.Op) (op : Session.Op) :
    ((Session.ofProject p replies).applyAll ops).FailsOnlyByDesign p op := by
  set s := (Session.ofProject p replies).applyAll ops
  have hhub : s.hub = (Session.ofProject p replies).hub := Session.applyAll_hub _ ops
  have hs : s.hub.Throughout (·.kind.runnable = true) := hhub ▸ Project.hub_runnable hp replies
  have hj : Session.Known s.world.journal :=
    Session.applyAll_known ops _ (Project.hub_runnable hp replies) fun _ hx => absurd hx List.not_mem_nil
  -- a scope refusal's text is only that refusal's
  have hscope {v : Visit} {f : Failure} {what : String} (hv : v ∈ s.opVisits op)
      (hf : Step.fail f ∈ s.hub.stepsAt v) (hm : (Failure.invalidScope what).message = f.message) :
      v.LocalWithoutInstance :=
    (Session.opVisits_fail hs hv hf).2 what (Failure.eq_of_message_eq rfl hm.symm)
  refine ⟨?_, ?_, ?_, ?_, fun e he a ha b hb => p.findings_in_review he ha hb, ?_⟩
  · intro r hr m hm t
    obtain ⟨v, hv, f, hf, rfl⟩ := s.apply_error op r hr m hm
    exact Failure.message_ne_unknown (Session.opVisits_fail hs hv hf).1 t
  · intro x hx m hm t
    obtain ⟨f, rfl, hf⟩ := Session.apply_known hs hj op x hx m hm
    exact Failure.message_ne_unknown hf t
  · intro r hr what herr
    obtain ⟨v, hv, f, hf, hm⟩ := s.apply_error op r hr _ herr
    exact ⟨v, hv, hscope hv hf hm⟩
  · intro x hx hnew what herr
    rcases s.apply_journal op x hx with hold | hrep
    · exact absurd hold hnew
    · obtain ⟨v, hv, f, hf, hm⟩ := hrep _ herr
      exact ⟨v, hv, hscope hv hf hm⟩
  · intro owner loc id onSuccess onError what r hurl
    exact s.hub.rejected_iff_refused (hhub ▸ rfl) owner loc id onSuccess onError what hurl

/-- An event that counts clicks in the app scope. -/
def counterEvent : EventDef :=
  { id := "save", trigger := { kind := .click },
    actions := [.mk "count" (.stateUpdate { target := "app.count", operation := "increment" })] }

/-- A project of one event that counts clicks. -/
def counterProject : Project where
  events := [counterEvent]

theorem counterProject_review : counterProject.review = [] := by
  have hdup : Review.duplicateIds counterProject = [] := by
    simp [Review.duplicateIds, Review.duplicates, counterProject, counterEvent]
  have hevent : Review.event counterProject counterEvent = [] := by
    have ht : Review.validTarget "app.count" = true := by decide
    have hop : Review.operations.contains "increment" = true := by decide
    have hk : (TriggerKind.click == TriggerKind.custom) = false := by decide
    simp only [Review.event, counterEvent, Review.visitAll, Review.visit, Review.actionFindings,
      Review.checkTarget, ht, hop, hk, Bool.false_and, Bool.false_eq_true, if_false, if_true,
      List.append_nil]
  have hevents : counterProject.events = [counterEvent] := rfl
  have hwidgets : counterProject.widgets = [] := rfl
  have hvars : counterProject.stateVariables = [] := rfl
  simp only [Project.review, hdup, hevent, hevents, hwidgets, hvars, Review.defaults,
    Review.nesting, List.flatMap_cons, List.flatMap_nil]
  rfl

/-- The click counter passes the review, so a click on it fails only by design. -/
theorem counter_click_fails_only_by_design :
    Diagnostic.anyError counterProject.review = false ∧
      (Session.ofProject counterProject []).FailsOnlyByDesign counterProject (.trigger .click none {}) := by
  have hp : Diagnostic.anyError counterProject.review = false := by
    rw [counterProject_review]
    rfl
  exact ⟨hp, reviewed_projects_fail_only_by_design counterProject [] hp [] (.trigger .click none {})⟩

end Storyboard

import Storyboard.Proofs.Steps

/-!
# The depth limit of events

Events fire one another through `emit_event`: the listeners of an event fired at depth `d`
are dispatched at depth `d + 1`, and a dispatch at the limit `m = hub.maxDepth` or deeper
is refused. Since the depth grows by one at each hop and nothing runs past the limit, the
recursion of a run is bounded, which is also why `Hub.dispatch` is a total function.

This file reads the event journal of a run as a tree (`Recorded`): a dispatch above the
limit leaves the lines of the dispatches it fired, one level deeper, and then its own;
a dispatch at the limit leaves one line, its refusal. The refusal's error names the depth
it was refused at, so the lines at depth `m` are exactly the refusals. A dispatch above
the limit that failed through a refusal further down repeats the refusal's text: the text
alone does not mark the refused lines, their depth does (`refusal_text_reaches_parent_line`).

Main statement (`dispatch_respects_depth_limit`): a dispatch at the limit or deeper runs
no action and only records its refusal; the lines a dispatch from depth zero records form
such a tree, every line at most `m` deep; and at depth `m` lie exactly the refusals.

The proof follows the recursion of the steps (`Hub.actionSteps` and its block), whose
world agrees with the run's. The part that needs the texts of failures is the last one: a
line above the limit carries the first failure of its steps, and that is never a refusal
at its own depth, because refusals among its steps happen one level deeper or more.
-/

namespace Storyboard

/-! ## The texts of failures -/

/-- The characters of a number's text are its decimal digits. -/
theorem toList_toString (n : Nat) : (toString n).toList = Nat.toDigits 10 n := by
  rw [Nat.toString_eq_repr, Nat.toList_repr]

/-- Where a run of digits meets a blank, two such texts that agree split the same way. -/
theorem digits_append_blank {a b s t : List Char} (ha : ∀ c ∈ a, c.isDigit)
    (hb : ∀ c ∈ b, c.isDigit) (h : a ++ ' ' :: s = b ++ ' ' :: t) : a = b ∧ s = t := by
  induction a generalizing b with
  | nil =>
    cases b with
    | nil => simpa using h
    | cons c b =>
      -- a blank is no digit
      have hc : c.isDigit := hb c List.mem_cons_self
      simp only [List.nil_append, List.cons_append, List.cons.injEq] at h
      rw [← h.1] at hc
      exact absurd hc (by decide)
  | cons c a ih =>
    cases b with
    | nil =>
      have hc : c.isDigit := ha c List.mem_cons_self
      simp only [List.nil_append, List.cons_append, List.cons.injEq] at h
      rw [h.1] at hc
      exact absurd hc (by decide)
    | cons c' b =>
      simp only [List.cons_append, List.cons.injEq] at h
      obtain ⟨rfl, h⟩ := h
      obtain ⟨rfl, rfl⟩ := ih (fun x hx => ha x (List.mem_cons_of_mem c hx))
        (fun x hx => hb x (List.mem_cons_of_mem c hx)) h
      exact ⟨rfl, rfl⟩

/-- The text of a number names it. -/
theorem toString_injective {a b : Nat} (h : toString a = toString b) : a = b := by
  have hd : Nat.toDigits 10 a = Nat.toDigits 10 b := by
    rw [← toList_toString, ← toList_toString, h]
  calc a = Nat.ofDigitChars 10 (Nat.toDigits 10 a) 0 := Nat.ofDigitChars_ten_toDigits.symm
    _ = Nat.ofDigitChars 10 (Nat.toDigits 10 b) 0 := by rw [hd]
    _ = b := Nat.ofDigitChars_ten_toDigits

/-- The first letter of a failure's text. -/
def Failure.initial : Failure → Char
  | .invalidScope _ => 'I'
  | .unsupportedOperation _ | .unsupportedActionType _ => 'U'
  | .domainNotAllowed _ => 'D'
  | .depthExceeded .. => 'M'
  | .http .. => 'H'
  | .transport _ => 'T'

theorem Failure.head?_message (f : Failure) : f.message.toList.head? = some f.initial := by
  cases f with
  | depthExceeded d m =>
    change ("MaxEventDepthExceeded: depth " ++ toString d ++ " reached the limit of "
      ++ toString m).toList.head? = _
    simp only [String.toList_append, List.append_assoc]
    rfl
  | http s t =>
    change ("HttpError(" ++ toString s ++ "): " ++ t).toList.head? = _
    simp only [String.toList_append, List.append_assoc]
    rfl
  | invalidScope w =>
    change ("InvalidScope: " ++ w).toList.head? = _
    simp only [String.toList_append]
    rfl
  | unsupportedOperation o =>
    change ("UnsupportedOperation: " ++ o).toList.head? = _
    simp only [String.toList_append]
    rfl
  | unsupportedActionType t =>
    change ("UnsupportedActionType: " ++ t).toList.head? = _
    simp only [String.toList_append]
    rfl
  | domainNotAllowed w =>
    change ("DomainNotAllowed: " ++ w).toList.head? = _
    simp only [String.toList_append]
    rfl
  | transport m =>
    change ("Transport: " ++ m).toList.head? = _
    simp only [String.toList_append]
    rfl

/-- Only a refusal's text starts with `M`. -/
theorem Failure.message_head_eq_M_iff {f : Failure} :
    f.message.toList.head? = some 'M' ↔ ∃ d m, f = .depthExceeded d m := by
  rw [f.head?_message, Option.some_inj]
  cases f <;> simp [Failure.initial]

/-- The text of a refusal names its depth and limit, and no other failure has it. -/
theorem Failure.message_eq_depthExceeded_iff {f : Failure} {d m : Nat} :
    f.message = (Failure.depthExceeded d m).message ↔ f = .depthExceeded d m := by
  refine ⟨fun h => ?_, fun h => h ▸ rfl⟩
  obtain ⟨d', m', rfl⟩ := Failure.message_head_eq_M_iff.1
    (h ▸ Failure.message_head_eq_M_iff.2 ⟨d, m, rfl⟩)
  -- the two texts agree on the digits of the depth up to the blank, then on the limit
  change "MaxEventDepthExceeded: depth " ++ toString d' ++ " reached the limit of " ++ toString m'
    = "MaxEventDepthExceeded: depth " ++ toString d ++ " reached the limit of " ++ toString m at h
  have hl := congrArg String.toList h
  simp only [String.toList_append, List.append_assoc, List.append_cancel_left_eq] at hl
  have hblank : " reached the limit of ".toList = ' ' :: "reached the limit of ".toList := rfl
  rw [hblank] at hl
  have digits (n : Nat) : ∀ c ∈ (toString n).toList, c.isDigit := fun c hc =>
    Nat.isDigit_of_mem_toDigits (by decide) (by decide) (toList_toString n ▸ hc)
  obtain ⟨hd, hm⟩ := digits_append_blank (digits d') (digits d) hl
  rw [toString_injective (String.toList_injective hd),
    toString_injective (String.toList_injective (List.append_cancel_left hm))]

/-! ## What the primitive actions leave alone

Only a dispatch writes the journal, and only a dispatch refuses. The primitive actions
read the store and write it and note evaluations; these lemmas say that the wire and the
journal stay as they were and that they fail for other reasons than depth. -/

/-- The depth at which a step refused an event, if it is such a refusal. -/
def Step.refusedAt? : Step → Option Nat
  | .fail (.depthExceeded d _) => some d
  | _ => none

/-- `w'` has the wire and the journal of `w`: it differs at most in the store and in the
evaluator's notes, all that reading and writing state may change. -/
structure World.Frame (w w' : World) : Prop where
  wire : w'.wire = w.wire
  journal : w'.journal = w.journal

theorem World.Frame.refl (w : World) : w.Frame w := ⟨rfl, rfl⟩

theorem World.Frame.trans {w₁ w₂ w₃ : World} (h₁ : w₁.Frame w₂) (h₂ : w₂.Frame w₃) :
    w₁.Frame w₃ :=
  ⟨h₂.wire.trans h₁.wire, h₂.journal.trans h₁.journal⟩

theorem World.eval_frame (w : World) (c : Caller) (e : String) : w.Frame (w.eval c e).2 := by
  unfold World.eval
  rcases Expr.eval (c.view w.store) e with ⟨v, ns⟩
  exact ⟨rfl, rfl⟩

theorem World.holds_frame (w : World) (c : Caller) (e : String) : w.Frame (w.holds c e).2 := by
  have h := w.eval_frame c e
  unfold World.holds
  rcases hv : w.eval c e with ⟨v, w'⟩
  rw [hv] at h
  exact h

theorem World.holdsAll_frame (w : World) (c : Caller) (es : List String) :
    w.Frame (w.holdsAll c es).2 := by
  induction es generalizing w with
  | nil => exact .refl w
  | cons e es ih =>
    have h := w.holds_frame c e
    rw [World.holdsAll]
    rcases hb : w.holds c e with ⟨b, w'⟩
    rw [hb] at h
    cases b with
    | false => exact h
    | true => exact h.trans (ih w')

theorem World.guard_frame (w : World) (c : Caller) (e : EventDef) : w.Frame (w.guard c e).2 := by
  unfold World.guard
  split
  · exact w.holdsAll_frame c _
  · exact .refl w

theorem toastEffect_frame (message : String) (variant : Option String)
    (duration : Option Nat) (c : Caller) (w : World) :
    w.Frame (toastEffect message variant duration c w).2 := by
  unfold toastEffect
  by_cases hc : message.contains '\x7b' = true
  · rw [if_pos hc]
    exact .refl w
  · rw [if_neg hc]
    have h := w.eval_frame c message
    rcases hv : w.eval c message with ⟨v, w'⟩
    rw [hv] at h
    exact h

theorem StateUpdate.operand_frame (p : StateUpdate) (c : Caller) (w : World) :
    w.Frame (p.operand c w).2 := by
  unfold StateUpdate.operand
  split
  · next e _ =>
    have h := w.eval_frame c e
    rcases hv : w.eval c e with ⟨v, w'⟩
    rw [hv] at h
    exact h
  · exact .refl w

theorem writeTarget_frame (t : String) (v : Json) (c : Caller) (w : World) :
    w.Frame (writeTarget t v c w).2 := by
  unfold writeTarget
  split
  · exact .refl w
  · split
    · exact ⟨rfl, rfl⟩
    · exact .refl w

theorem StateUpdate.run_frame (p : StateUpdate) (c : Caller) (w : World) :
    w.Frame (p.run c w).2 := by
  unfold StateUpdate.run
  split
  · exact .refl w
  · dsimp only
    split
    · next v w' heq =>
      -- the operand is read, or nothing is, before the write
      have hw : w.Frame w' := by
        split at heq
        · simp only [Option.some.injEq] at heq
          rw [show w' = (p.operand c w).2 from (congrArg Prod.snd heq).symm]
          exact p.operand_frame c w
        · simp only [Option.some.injEq, Prod.mk.injEq] at heq
          rw [← heq.2]
          exact .refl w
        · simp only [Option.some.injEq, Prod.mk.injEq] at heq
          rw [← heq.2]
          exact .refl w
        · simp only [Option.some.injEq, Prod.mk.injEq] at heq
          rw [← heq.2]
          exact p.operand_frame c w
        · simp only [Option.some.injEq, Prod.mk.injEq] at heq
          rw [← heq.2]
          exact p.operand_frame c w
        · cases heq
      exact hw.trans (writeTarget_frame _ _ _ _)
    · exact .refl w

/-- A target is refused only for its scope. -/
theorem splitTarget_error {t : String} {f : Failure} (h : splitTarget t = .error f) :
    ∃ what, f = .invalidScope what := by
  unfold splitTarget at h
  dsimp only at h
  split at h
  · split at h
    · cases h
    · cases h
      exact ⟨_, rfl⟩
  · cases h
    exact ⟨_, rfl⟩

/-- A request is refused only for its host. -/
theorem checkDomain_error {url : String} {allowed : List String} {f : Failure}
    (h : checkDomain url allowed = .error f) : ∃ what, f = .domainNotAllowed what := by
  unfold checkDomain at h
  split at h
  · cases h
    exact ⟨_, rfl⟩
  · split at h
    · cases h
    · cases h
      exact ⟨_, rfl⟩

theorem writeTarget_refusedAt (t : String) (v : Json) (c : Caller) (w : World) :
    (writeTarget t v c w).1.refusedAt? = none := by
  unfold writeTarget
  split
  · next f hf =>
    obtain ⟨what, rfl⟩ := splitTarget_error hf
    rfl
  · split <;> rfl

theorem StateUpdate.run_refusedAt (p : StateUpdate) (c : Caller) (w : World) :
    (p.run c w).1.refusedAt? = none := by
  unfold StateUpdate.run
  split
  · next f hf =>
    obtain ⟨what, rfl⟩ := splitTarget_error hf
    rfl
  · dsimp only
    split
    · exact writeTarget_refusedAt _ _ _ _
    · rfl

/-! ## The journal as a tree of dispatches -/

/-- A journal line is a refusal under the limit `m` when it failed with the text of a
refusal at its own depth. -/
def Entry.Refused (m : Nat) (x : Entry) : Prop :=
  x.verdict = .failed ∧ x.error = some (Failure.depthExceeded x.depth m).message

/-- The journal after lines are recorded one by one, each time keeping the latest five
hundred. -/
def Journal.add (j lines : List Entry) : List Entry :=
  lines.foldl (fun j x => (j ++ [x]).drop ((j ++ [x]).length - 500)) j

theorem World.record_journal (w : World) (x : Entry) :
    (w.record x).journal = Journal.add w.journal [x] := by
  simp only [World.record, Journal.add, List.foldl_cons, List.foldl_nil]

theorem Journal.add_append (j l₁ l₂ : List Entry) :
    Journal.add j (l₁ ++ l₂) = Journal.add (Journal.add j l₁) l₂ := List.foldl_append

/-- Keeping the latest lines twice keeps as many as keeping them once. -/
theorem drop_drop_append {α : Type} (a b : List α) (n : Nat) :
    (a.drop (a.length - n) ++ b).drop ((a.drop (a.length - n) ++ b).length - n)
      = (a ++ b).drop ((a ++ b).length - n) := by
  rw [← List.drop_append_of_le_length (Nat.sub_le a.length n), List.drop_drop, List.length_drop]
  congr 1
  simp only [List.length_append]
  omega

/-- Recording lines one by one keeps the latest five hundred of the journal followed by
them. -/
theorem Journal.add_eq_drop (j lines : List Entry) (h : lines ≠ []) :
    Journal.add j lines = (j ++ lines).drop ((j ++ lines).length - 500) := by
  induction lines generalizing j with
  | nil => exact absurd rfl h
  | cons x rest ih =>
    have hx : Journal.add j [x] = (j ++ [x]).drop ((j ++ [x]).length - 500) := by
      simp only [Journal.add, List.foldl_cons, List.foldl_nil]
    rw [← List.singleton_append, Journal.add_append, hx]
    by_cases hr : rest = []
    · subst hr
      simp only [Journal.add, List.foldl_nil, List.append_nil]
    · rw [ih _ hr, drop_drop_append, List.append_assoc]

/-- The journal lines a dispatch at depth `d` leaves under the limit `m`. At the limit or
deeper it is refused: one line, a refusal. Above it, the lines of the dispatches its
actions fired, each one level deeper, come first, and then its own line, no refusal. -/
inductive Recorded (m : Nat) : Nat → List Entry → Prop
  | refused {d : Nat} {x : Entry} : m ≤ d → x.depth = d → x.Refused m → Recorded m d [x]
  | ran {d : Nat} {x : Entry} {fired : List (List Entry)} :
      d < m → (∀ b ∈ fired, Recorded m (d + 1) b) → x.depth = d → ¬ x.Refused m →
      Recorded m d (fired.flatten ++ [x])

theorem Recorded.ne_nil {m d : Nat} {lines : List Entry} (h : Recorded m d lines) :
    lines ≠ [] := by
  cases h with
  | refused => exact List.cons_ne_nil _ _
  | ran => simp

/-- Under a dispatch at depth `d` within the limit, every line lies between `d` and the
limit, and the lines at the limit are exactly the refusals. -/
theorem Recorded.depth_bounds {m d : Nat} {lines : List Entry} (h : Recorded m d lines)
    (hd : d ≤ m) :
    ∀ x ∈ lines, d ≤ x.depth ∧ x.depth ≤ m ∧ (x.depth = m ↔ x.Refused m) := by
  induction h with
  | refused hle hx hr =>
    intro x' hx'
    rw [List.mem_singleton] at hx'
    subst hx'
    -- a refusal within the limit sits at the limit itself
    exact ⟨hx.ge, by omega, fun _ => hr, fun _ => by omega⟩
  | ran hlt _ hx hnot ih =>
    intro x' hx'
    rcases List.mem_append.1 hx' with hin | hin
    · obtain ⟨b, hb, hxb⟩ := List.mem_flatten.1 hin
      obtain ⟨hlo, hhi, hiff⟩ := ih b hb (by omega) x' hxb
      exact ⟨by omega, hhi, hiff⟩
    · rw [List.mem_singleton] at hin
      subst hin
      exact ⟨hx.ge, by omega, fun h => by omega, fun h => absurd h hnot⟩

/-- What a part of a run whose events fire at `em` leaves: in the journal, the lines of
whole dispatches at depth `em`; among its steps, refusals at that depth or deeper only.
Outside events (`em = none`) it dispatches and refuses nothing. -/
structure Fires (m : Nat) (em : Option Nat) (j j' : List Entry) (ss : List Step) : Prop where
  lines : ∃ fired : List (List Entry),
    (∀ b ∈ fired, ∃ d, em = some d ∧ Recorded m d b) ∧ j' = Journal.add j fired.flatten
  deep : ∀ s ∈ ss, ∀ a, s.refusedAt? = some a → ∃ d, em = some d ∧ d ≤ a

namespace Fires

variable {m : Nat} {em : Option Nat} {j j₁ j₂ j₃ j' : List Entry} {s : Step}
  {ss tt : List Step}

theorem nil : Fires m em j j [] := ⟨⟨[], by simp, rfl⟩, by simp⟩

/-- A step that is no refusal and leaves the journal alone. -/
theorem single (hs : s.refusedAt? = none) (hj : j' = j) : Fires m em j j' [s] := by
  subst hj
  refine ⟨⟨[], by simp, rfl⟩, ?_⟩
  intro s' hs' a ha
  rw [List.mem_singleton] at hs'
  subst hs'
  rw [hs] at ha
  cases ha

theorem append (h₁ : Fires m em j₁ j₂ ss) (h₂ : Fires m em j₂ j₃ tt) :
    Fires m em j₁ j₃ (ss ++ tt) := by
  obtain ⟨⟨f₁, hf₁, hj₁⟩, hd₁⟩ := h₁
  obtain ⟨⟨f₂, hf₂, hj₂⟩, hd₂⟩ := h₂
  refine ⟨⟨f₁ ++ f₂, ?_, ?_⟩, ?_⟩
  · intro b hb
    rcases List.mem_append.1 hb with hb | hb
    · exact hf₁ b hb
    · exact hf₂ b hb
  · rw [List.flatten_append, Journal.add_append, ← hj₁, hj₂]
  · intro s hs
    rcases List.mem_append.1 hs with hs | hs
    · exact hd₁ s hs
    · exact hd₂ s hs

theorem cons (hs : s.refusedAt? = none) (h : Fires m em j j' ss) : Fires m em j j' (s :: ss) :=
  (single hs rfl).append h

/-- One dispatch at depth `d` makes a part that fires at `d`. -/
theorem of_recorded {d : Nat} {lines : List Entry} (hl : Recorded m d lines)
    (hj : j' = Journal.add j lines)
    (hdeep : ∀ s ∈ ss, ∀ a, s.refusedAt? = some a → d ≤ a) : Fires m (some d) j j' ss :=
  ⟨⟨[lines], by simpa using hl, by simpa using hj⟩,
    fun s hs a ha => ⟨d, rfl, hdeep s hs a ha⟩⟩

end Fires

/-- The line of a dispatch that ran is no refusal: its error is the first failure among
its steps, and none of them refused at the dispatch's own depth. -/
theorem entry_not_refused {m d : Nat} {e : EventDef} {ss : List Step} (v : Verdict)
    (hdeep : ∀ s ∈ ss, ∀ a, s.refusedAt? = some a → d < a) :
    ¬ (Hub.entry e v ((ss.findSome? Step.failure?).map Failure.message) d).Refused m := by
  rintro ⟨-, herr⟩
  obtain ⟨f, hf, hmsg⟩ := Option.map_eq_some_iff.1 herr
  obtain ⟨s, hs, hsf⟩ := List.exists_of_findSome?_eq_some hf
  have hfd : f = .depthExceeded d m := Failure.message_eq_depthExceeded_iff.1 hmsg
  -- the first failure would be a refusal at depth `d` itself
  have hsd : s.refusedAt? = some d := by
    cases s with
    | fail f' =>
      simp only [Step.failure?, Option.some.injEq] at hsf
      rw [hsf, hfd]
      rfl
    | write t v => cases hsf
    | signal e => cases hsf
  exact absurd (hdeep s hs d hsd) (Nat.lt_irrefl d)

namespace Hub

mutual

/-- An action whose events fire at `em` records whole dispatches at that depth. -/
theorem actionSteps_fires (hub : Hub) (em : Option Nat) (a : Action) (c : Caller) (w : World) :
    Fires hub.maxDepth em w.journal (hub.actionSteps em a c w).2.journal
      (hub.actionSteps em a c w).1 := by
  obtain ⟨id, kind⟩ := a
  cases kind with
  | stateUpdate p =>
    rw [actionSteps]
    exact Fires.single (p.run_refusedAt c w) (p.run_frame c w).journal
  | recalculate target formula =>
    rw [actionSteps]
    rcases he : w.eval c formula with ⟨v, w1⟩
    have hj : w1.journal = w.journal := by rw [← (w.eval_frame c formula).journal, he]
    exact Fires.single (writeTarget_refusedAt target _ c w1)
      ((writeTarget_frame target _ c w1).journal.trans hj)
  | navigation how target params =>
    rw [actionSteps]
    exact Fires.single rfl rfl
  | toast m v d =>
    rw [actionSteps]
    exact Fires.single rfl (toastEffect_frame m v d c w).journal
  | emitEvent name payload =>
    cases em with
    | none =>
      rw [actionSteps]
      exact Fires.single rfl rfl
    | some d =>
      rw [actionSteps]
      -- the signal comes first, then the listeners, all dispatched at `d`
      exact (eventSteps_fires hub d (hub.listeners name) (c.withParams payload) w).cons rfl
  | condition cond t f =>
    rw [actionSteps]
    rcases hh : w.holds c cond with ⟨passed, w1⟩
    have hj : w1.journal = w.journal := by rw [← (w.holds_frame c cond).journal, hh]
    have ht := listSteps_fires hub em false t c w1
    have hf := listSteps_fires hub em false f c w1
    rw [hj] at ht hf
    cases passed with
    | true => exact ht
    | false => exact hf
  | batch as atomic =>
    rw [actionSteps]
    exact listSteps_fires hub em atomic as c w
  | apiCall r onSuccess onError =>
    rw [actionSteps]
    rcases hd : checkDomain (r.address c w.store) (r.allowedDomains.getD hub.allowed) with f | u
    · obtain ⟨what, rfl⟩ := checkDomain_error hd
      exact Fires.single rfl rfl
    · cases u
      rcases hs : w.wire.send ⟨r.method, r.address c w.store, r.headers, r.body⟩ with
        ⟨reply, wire⟩
      cases reply with
      | answer resp =>
        dsimp only
        cases hok : resp.isSuccess with
        | true =>
          cases r.mapResponse with
          | none => exact listSteps_fires hub em false onSuccess _ { w with wire := wire }
          | some e =>
            -- mapping the response notes an evaluation and nothing else
            have h := listSteps_fires hub em false onSuccess (c.withParam "response" resp.body)
              (World.eval { w with wire := wire } (c.withParam "response" resp.body) e).2
            rw [(World.eval_frame _ _ _).journal] at h
            exact h
        | false => exact (listSteps_fires hub em false onError _ { w with wire := wire }).cons rfl
      | broken message =>
        exact (listSteps_fires hub em false onError _ { w with wire := wire }).cons rfl
  | openWidget id =>
    rw [actionSteps]
    exact Fires.single rfl rfl
  | closeWidget id =>
    rw [actionSteps]
    exact Fires.single rfl rfl
  | stopPropagation =>
    rw [actionSteps]
    exact Fires.single rfl rfl
  | unsupported t params =>
    rw [actionSteps]
    exact Fires.single rfl rfl
termination_by (hub.budget em, 2, sizeOf a)

/-- Actions run in order record whole dispatches at the depth their events fire at. -/
theorem listSteps_fires (hub : Hub) (em : Option Nat) (stop : Bool) (as : List Action)
    (c : Caller) (w : World) :
    Fires hub.maxDepth em w.journal (hub.listSteps em stop as c w).2.journal
      (hub.listSteps em stop as c w).1 := by
  cases as with
  | nil =>
    rw [listSteps]
    exact Fires.nil
  | cons a rest =>
    have ha := actionSteps_fires hub em a c w
    rw [listSteps]
    rcases hs : hub.actionSteps em a c w with ⟨ss, w1⟩
    rw [hs] at ha
    dsimp only at ha ⊢
    by_cases hstop : (stop && ss.any Step.isFailure) = true
    · simp only [hstop, if_true]
      exact ha
    · simp only [hstop, Bool.false_eq_true, if_false]
      have hr := listSteps_fires hub em stop rest c w1
      rcases ht : hub.listSteps em stop rest c w1 with ⟨tt, w2⟩
      rw [ht] at hr
      exact ha.append hr
termination_by (hub.budget em, 2, sizeOf as)

/-- Events dispatched in order at depth `d` record whole dispatches at `d`. -/
theorem eventSteps_fires (hub : Hub) (d : Nat) (events : List EventDef) (c : Caller) (w : World) :
    Fires hub.maxDepth (some d) w.journal (hub.eventSteps d events c w).2.journal
      (hub.eventSteps d events c w).1 := by
  cases events with
  | nil =>
    rw [eventSteps]
    exact Fires.nil
  | cons e rest =>
    obtain ⟨⟨lines, hl, hj⟩, hdeep⟩ := dispatchSteps_records hub d e c w
    have he := Fires.of_recorded hl hj hdeep
    rw [eventSteps]
    rcases hs : hub.dispatchSteps d e c w with ⟨ss, w1⟩
    rw [hs] at he
    dsimp only at he ⊢
    by_cases hstop : ss.any Step.isFailure = true
    · simp only [hstop, if_true]
      exact he
    · simp only [hstop, Bool.false_eq_true, if_false]
      have hr := eventSteps_fires hub d rest c w1
      rcases ht : hub.eventSteps d rest c w1 with ⟨tt, w2⟩
      rw [ht] at hr
      exact he.append hr
termination_by (hub.maxDepth + 1 - d, 1, events.length)

/-- A dispatch at depth `d` records one tree of lines under it, and its steps refuse
nothing above `d`. -/
theorem dispatchSteps_records (hub : Hub) (d : Nat) (e : EventDef) (c : Caller) (w : World) :
    (∃ lines, Recorded hub.maxDepth d lines ∧
      (hub.dispatchSteps d e c w).2.journal = Journal.add w.journal lines) ∧
      ∀ s ∈ (hub.dispatchSteps d e c w).1, ∀ a, s.refusedAt? = some a → d ≤ a := by
  rw [dispatchSteps]
  by_cases hd : hub.maxDepth ≤ d
  · simp only [hd, dite_true]
    refine ⟨⟨_, .refused hd rfl ⟨rfl, rfl⟩, World.record_journal _ _⟩, ?_⟩
    intro s hs a ha
    rw [List.mem_singleton] at hs
    subst hs
    cases ha
    exact Nat.le_refl d
  · simp only [hd, dite_false]
    -- a line of its own, with nothing fired, for a dispatch that runs no action
    have alone (v : Verdict) (hv : v ≠ .failed) (w' : World) (hj : w'.journal = w.journal) :
        Recorded hub.maxDepth d [entry e v none d] ∧
          (w'.record (entry e v none d)).journal = Journal.add w.journal [entry e v none d] :=
      ⟨.ran (by omega) (fun b (hb : b ∈ ([] : List (List Entry))) => absurd hb List.not_mem_nil)
        rfl (fun h => hv h.1),
        by rw [World.record_journal, hj]⟩
    by_cases hen : e.isEnabled = true
    · simp only [hen, Bool.not_true, Bool.false_eq_true, if_false]
      rcases hp : w.guard c e with ⟨pass, w1⟩
      have hj1 : w1.journal = w.journal := by rw [← (w.guard_frame c e).journal, hp]
      cases pass with
      | false =>
        exact ⟨⟨_, alone .skipped (by decide) w1 hj1⟩, by simp⟩
      | true =>
        simp only [Bool.not_true, Bool.false_eq_true, if_false]
        obtain ⟨⟨fired, hfired, hj⟩, hdeep⟩ :=
          listSteps_fires hub (some (d + 1)) true e.actions c w1
        rcases hs : hub.listSteps (some (d + 1)) true e.actions c w1 with ⟨ss, w2⟩
        rw [hs] at hj hdeep
        dsimp only at hj hdeep ⊢
        -- the actions fired dispatches one level deeper, and refused nothing above it
        have hdeep' : ∀ s ∈ ss, ∀ a, s.refusedAt? = some a → d < a := fun s hs a ha => by
          obtain ⟨k, hk, hle⟩ := hdeep s hs a ha
          cases hk
          omega
        have hfired' : ∀ b ∈ fired, Recorded hub.maxDepth (d + 1) b := fun b hb => by
          obtain ⟨k, hk, hb⟩ := hfired b hb
          cases hk
          exact hb
        have hnot : ¬ (entry e (if ss.any Step.isFailure then .failed else .executed)
            ((ss.findSome? Step.failure?).map Failure.message) d).Refused hub.maxDepth :=
          entry_not_refused _ hdeep'
        refine ⟨⟨_, .ran (by omega) hfired' rfl hnot, ?_⟩, ?_⟩
        · rw [World.record_journal, hj, ← hj1, Journal.add_append]
        · exact fun s hs a ha => Nat.le_of_lt (hdeep' s hs a ha)
    · simp only [hen, Bool.not_false, if_true]
      exact ⟨⟨_, alone .disabled (by decide) w rfl⟩, by simp⟩
termination_by (hub.maxDepth + 1 - d, 0, 0)
decreasing_by exact Prod.Lex.left _ _ (by simp only [budget]; omega)

end

end Hub

/-- A dispatch at the limit or deeper runs no action and only records its refusal, so
under a limit of zero nothing runs at all. A dispatch from depth zero records a tree of
lines rooted at depth zero, in which each event fired from a dispatch lies one level
deeper; every line is at most at the limit, and the lines at the limit are exactly the
refusals. The journal keeps the latest five hundred lines. -/
theorem dispatch_respects_depth_limit (hub : Hub) (e : EventDef) (c : Caller) (w : World) :
    (∀ (d : Nat) (e' : EventDef) (c' : Caller) (w' : World), hub.maxDepth ≤ d →
      hub.dispatch d e' c' w' = (Outcome.failure (.depthExceeded d hub.maxDepth),
        w'.record (Hub.entry e' .failed (some (Failure.depthExceeded d hub.maxDepth).message) d))) ∧
    (hub.maxDepth = 0 → hub.dispatch 0 e c w = (Outcome.failure (.depthExceeded 0 0),
        w.record (Hub.entry e .failed (some (Failure.depthExceeded 0 0).message) 0))) ∧
    ∃ lines, Recorded hub.maxDepth 0 lines ∧
      (hub.dispatch 0 e c w).2.journal
        = (w.journal ++ lines).drop ((w.journal ++ lines).length - 500) ∧
      ∀ x ∈ lines, x.depth ≤ hub.maxDepth ∧ (x.depth = hub.maxDepth ↔ x.Refused hub.maxDepth) := by
  have refuse : ∀ (d : Nat) (e' : EventDef) (c' : Caller) (w' : World), hub.maxDepth ≤ d →
      hub.dispatch d e' c' w' = (Outcome.failure (.depthExceeded d hub.maxDepth),
        w'.record
          (Hub.entry e' .failed (some (Failure.depthExceeded d hub.maxDepth).message) d)) := by
    intro d e' c' w' hd
    rw [Hub.dispatch]
    simp only [hd, dite_true]
  refine ⟨refuse, fun h0 => ?_, ?_⟩
  · have h := refuse 0 e c w (Nat.le_of_eq h0)
    rw [h0] at h
    exact h
  · -- the run leaves the world its steps leave, and they record one tree from depth zero
    obtain ⟨⟨lines, hl, hj⟩, -⟩ := hub.dispatchSteps_records 0 e c w
    refine ⟨lines, hl, ?_, fun x hx => ?_⟩
    · rw [(hub.dispatch_folds 0 e c w).2, hj, Journal.add_eq_drop _ _ hl.ne_nil]
    · obtain ⟨-, hhi, hiff⟩ := hl.depth_bounds (Nat.zero_le _) x hx
      exact ⟨hhi, hiff⟩

/-- An event that fires `b`. -/
def firing : EventDef :=
  { id := "a", trigger := { kind := .custom, name := some "a" },
    actions := [.mk "go" (.emitEvent "b" none)] }

/-- An event that answers `b`. -/
def answering : EventDef := { id := "b", trigger := { kind := .custom, name := some "b" } }

/-- The two under a limit of one. -/
def limitOne : Hub := { registry := [firing, answering], maxDepth := 1 }

/-- Under a limit of one, an event that fires another is recorded at depth zero as failed
with the very text of its listener's refusal at depth one: the text of a refusal does
not mark the lines at the limit alone. -/
theorem refusal_text_reaches_parent_line :
    ((limitOne.dispatch 0 firing {} {}).2.journal.map
        fun x => (x.eventId, x.verdict, x.error, x.depth)) =
      [("b", .failed, some (Failure.depthExceeded 1 1).message, 1),
       ("a", .failed, some (Failure.depthExceeded 1 1).message, 0)] := by
  simp [Hub.dispatch, Hub.runList, Hub.runAction, Hub.dispatchAll, Hub.listeners, limitOne,
    firing, answering, EventDef.listensTo, EventDef.isEnabled, World.guard, World.record,
    Hub.entry, Outcome.absorb, Outcome.ok, Outcome.withEffect, Outcome.failure]

end Storyboard

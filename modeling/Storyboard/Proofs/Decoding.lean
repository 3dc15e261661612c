import Mathlib
import Storyboard.Proofs.Checked
import Storyboard.Proofs.Doubles
import Storyboard.Project.Write

/-!
# Decoding what was encoded

The writers of `Project.Write` and the decoders of `Project.Read` are inverse on the values
the decoders give: an action, a widget or a project read from well-formed JSON, written back
and decoded again, comes back unchanged.

The values the decoders give are described by `Action.Normal` (and its siblings for widgets,
events and projects), without reference to the decoders: no optional field holds an explicit
`null`, a step is a finite double, a duration is what rounding a double into 64 bits gives,
headers are sorted by name, an action of an unknown type does not carry a known type's name,
and a widget's position and size are finite. Two facts then make the round trip.

* Decoding gives normal values (`Read.action_normal`, `Read.widget_normal`): each field a
  reader fills is a default, a checked part of its input, or a lenient number.
* A normal value, written, passes the shape check and reads back as itself
  (`Action.roundTrips_of_normal`, `Widget.decode_of_normal`). The check does not always return
  the written value unchanged: params of an unknown type left out by the writer come back as
  `null`, which reads as the same action. So the check's result is described by what reads
  back from it.

Fuel: the check of a value `v` succeeds at every fuel from `v.depth + 2` on
(`Shape.ChecksFrom`), which is what `Shape.checkValue` gives it, and a reader given at least
the depth of what it reads reads all of it.

This module holds the checks of written records and the params of every kind without
nested actions (`ActionKind.ParamsRoundTrip`); `Proofs.RoundTrip` adds the kinds that hold
actions and joins them into the round trip of decoding from well-formed values.
-/

namespace Storyboard

namespace Shape

/-! ## Checks that succeed from some fuel on -/

/-- The check returns `c` for `v` at every fuel from `n` on. -/
def ChecksFrom (n : Nat) (s : Shape) (v c : Json) : Prop := ∀ fuel, n ≤ fuel → check fuel s v = .ok c

section Checks

variable {n m : Nat} {s : Shape} {v c : Json}

theorem ChecksFrom.mono (h : ChecksFrom n s v c) (hnm : n ≤ m) : ChecksFrom m s v c :=
  fun fuel hf => h fuel (le_trans hnm hf)

theorem KeepsFrom.checksFrom (h : KeepsFrom n s v) (hnm : n ≤ m) : ChecksFrom m s v v :=
  fun fuel hf => h fuel (le_trans hnm hf)

/-- A map in `Except` whose steps give the related items gives the list of them. -/
theorem mapM_ok_of_forall₂ {α β ε : Type} {f : α → Except ε β} :
    ∀ {xs : List α} {ys : List β}, List.Forall₂ (fun x y => f x = .ok y) xs ys → xs.mapM f = .ok ys
  | [], [], .nil => rfl
  | _ :: _, _ :: _, .cons h hs => by
    rw [List.mapM_cons, h, mapM_ok_of_forall₂ hs]
    rfl

/-- A list checks item by item: at one more than the depth of the list, each item is past
its own bound. -/
theorem checksFrom_list {xs cs : List Json}
    (h : List.Forall₂ (fun x c => ChecksFrom (x.depth + 2) s x c) xs cs) :
    ChecksFrom ((Json.arr xs).depth + 2) (.list s) (.arr xs) (.arr cs) := fun fuel hf => by
  obtain ⟨g, rfl⟩ : ∃ g, fuel = g + 1 := ⟨fuel - 1, by omega⟩
  -- every item lies below the list, so `g` covers its bound
  have hitems : ∀ {ys ds : List Json}, (∀ y ∈ ys, y.depth < (Json.arr xs).depth) →
      List.Forall₂ (fun x c => ChecksFrom (x.depth + 2) s x c) ys ds →
      List.Forall₂ (fun x c => check g s x = .ok c) ys ds := by
    intro ys ds hlt hys
    induction hys with
    | nil => exact .nil
    | cons hx _ ih =>
      refine .cons (hx g ?_) (ih fun y hy => hlt y (List.mem_cons_of_mem _ hy))
      have := hlt _ List.mem_cons_self
      omega
  have hmap := mapM_ok_of_forall₂ (hitems (fun y hy => Json.depth_lt_of_mem hy) h)
  show xs.mapM (check g s) >>= (fun ys => pure (Json.arr ys)) = _
  rw [hmap]
  rfl

end Checks

section Records

variable {name : String} {fields : List (String × Shape × Bool)} {given : List (String × Json)}

/-- What a record check stores under a key: the given value's check at the fuel the value
needs. -/
def storedField (fields : List (String × Shape × Bool)) (given : List (String × Json)) (k : String) :
    Option Json :=
  (Json.lookup k given).bind fun v => checkedField? (check (v.depth + 2)) fields k v

/-- At any fuel past the record's depth the check of a record stores what `storedField`
says, in a sorted list. -/
theorem checkFields_stored (hs : Json.Sorted given)
    (hk : ∀ k v, Json.lookup k given = some v →
      ∃ e c, fields.find? (·.1 == k) = some e ∧ ChecksFrom (v.depth + 2) e.2.1 v c)
    (hreq : ∀ e ∈ fields, e.2.2 = true → (Json.lookup e.1 given).isSome)
    {g : Nat} (hg : (Json.obj given).depth + 1 ≤ g) :
    ∃ out, checkFields (check g) fields given = .ok (.obj out) ∧ Json.Sorted out ∧
      ∀ k, Json.lookup k out = storedField fields given k := by
  -- a field's check at `g` is its check at its own bound
  have hat : ∀ k v, Json.lookup k given = some v →
      checkedField? (check g) fields k v = checkedField? (check (v.depth + 2)) fields k v := by
    intro k v hv
    obtain ⟨e, c, he, hc⟩ := hk k v hv
    have hlt := Json.depth_lt_of_lookup hv
    simp [checkedField?, he, hc g (by omega), hc (v.depth + 2) le_rfl]
  obtain ⟨out, hc, hsorted, hout⟩ := @checkFields_ok (check g) fields given hs (fun k v hv e he => by
      obtain ⟨e', c, he', hc⟩ := hk k v hv
      rw [he] at he'
      cases he'
      have hlt := Json.depth_lt_of_lookup hv
      exact ⟨c, hc g (by omega)⟩) hreq
  refine ⟨out, hc, hsorted, fun k => ?_⟩
  rw [hout, storedField]
  cases hv : Json.lookup k given with
  | none => rfl
  | some v => exact hat k v hv

/-- A record given as a sorted object whose fields all check, with its required fields there,
checks from its depth on to the sorted list of what `storedField` says. -/
theorem checksFrom_record (hs : Json.Sorted given)
    (hk : ∀ k v, Json.lookup k given = some v →
      ∃ e c, fields.find? (·.1 == k) = some e ∧ ChecksFrom (v.depth + 2) e.2.1 v c)
    (hreq : ∀ e ∈ fields, e.2.2 = true → (Json.lookup e.1 given).isSome) :
    ∃ out, ChecksFrom ((Json.obj given).depth + 2) (.record name fields) (.obj given) (.obj out) ∧
      ∀ k, Json.lookup k out = storedField fields given k := by
  obtain ⟨out, -, hsorted, hout⟩ := checkFields_stored hs hk hreq (g := (Json.obj given).depth + 1) le_rfl
  refine ⟨out, fun fuel hf => ?_, hout⟩
  obtain ⟨g, rfl⟩ : ∃ g, fuel = g + 1 := ⟨fuel - 1, by omega⟩
  obtain ⟨out', hc, hsorted', hout'⟩ := checkFields_stored hs hk hreq (g := g) (by omega)
  -- the lists stored at two fuels read the same, so they are the same
  have heq : out' = out := Json.eq_of_lookup_eq hsorted' hsorted fun k => by rw [hout, hout']
  show checkFields (check g) fields given = _
  rw [hc, heq]

end Records

end Shape

/-! ## Simple shapes at any fuel past their own -/

namespace Shape

variable {n : Nat}

@[simp] theorem check_any (v : Json) : check (n + 1) .any v = .ok v := rfl

@[simp] theorem check_string (t : String) : check (n + 1) .string (.str t) = .ok (.str t) := rfl

@[simp] theorem check_boolean (b : Bool) : check (n + 1) .boolean (.bool b) = .ok (.bool b) := rfl

@[simp] theorem check_option_any (v : Json) : check (n + 2) (.option .any) v = .ok v :=
  keepsFrom_option (keepsFrom_any v) _ (by omega)

@[simp] theorem check_option_string (t : String) :
    check (n + 2) (.option .string) (.str t) = .ok (.str t) :=
  keepsFrom_option (keepsFrom_string t) _ (by omega)

end Shape

/-! ## Written objects -/

namespace Write

@[simp] theorem obj_eq (fs : List (String × Json)) : obj fs = .obj (Json.merge [] fs) := rfl

@[simp] theorem opt_some (k : String) (v : Json) : opt k (some v) = [(k, v)] := rfl

@[simp] theorem opt_none (k : String) : opt k none = [] := rfl

@[simp] theorem reverse_opt (k : String) (o : Option Json) : (opt k o).reverse = opt k o := by
  cases o <;> rfl

@[simp] theorem lookup_opt (key k : String) (o : Option Json) :
    Json.lookup key (opt k o) = if k = key then o else none := by
  cases o <;> simp [Json.lookup]

theorem mem_opt {k key : String} {v : Json} {o : Option Json} : (key, v) ∈ opt k o ↔ key = k ∧ o = some v := by
  cases o <;> simp [eq_comm]

/-! The params of each kind with flat params, one equation each, so that proofs about a kind
rewrite with its own equation and never unfold the whole writer. -/

theorem params_navigation (how : NavigationType) (target : Option String) (ps : Option Json) :
    params (.navigation how target ps) =
      obj ([("navigationType", .str how.name)] ++ opt "target" (target.map .str) ++ opt "params" ps) := rfl

theorem params_stateUpdate (p : StateUpdate) :
    params (.stateUpdate p) =
      obj ([("target", .str p.target), ("operation", .str p.operation)] ++ opt "value" p.value
        ++ opt "expression" (p.expression.map .str) ++ opt "by" (p.step.map float)) := rfl

theorem params_recalculate (target formula : String) :
    params (.recalculate target formula) = obj [("target", .str target), ("formula", .str formula)] := rfl

theorem params_emitEvent (name : String) (payload : Option Json) :
    params (.emitEvent name payload) = obj ([("eventName", .str name)] ++ opt "payload" payload) := rfl

theorem params_toast (m : String) (v : Option String) (d : Option Nat) :
    params (.toast m v d) =
      obj ([("message", .str m)] ++ opt "variant" (v.map .str) ++ opt "duration" (d.map fun n => .int n)) := rfl

theorem params_openWidget (w : String) : params (.openWidget w) = obj [("widgetId", .str w)] := rfl

theorem params_closeWidget (w : String) : params (.closeWidget w) = obj [("widgetId", .str w)] := rfl

end Write

namespace Json

/-- Reading an object built from fields in any order reads its last field of the key. -/
@[simp] theorem lookup_merge_nil (key : String) (fs : List (String × Json)) :
    lookup key (merge [] fs) = lookup key fs.reverse := by
  rw [lookup_merge]
  cases lookup key fs.reverse <;> rfl

theorem isSome_lookup_of_mem {key : String} {v : Json} :
    ∀ {fs : List (String × Json)}, (key, v) ∈ fs → (lookup key fs).isSome
  | (k, x) :: rest, h => by
    by_cases hk : k = key
    · simp [lookup, hk]
    · have : (key, v) ∈ rest := by
        rcases List.mem_cons.1 h with h | h
        · exact absurd (congrArg Prod.fst h).symm hk
        · exact h
      simpa [lookup, hk] using isSome_lookup_of_mem this

end Json

namespace Shape

theorem req_eq (key : String) (s : Shape) : req key s = (key, s, true) := rfl

theorem opt_eq (key : String) (s : Shape) : opt key s = (key, s, false) := rfl

variable {name : String} {fields : List (String × Shape × Bool)}

/-- A written object whose every field is declared and checks, with every required field
written, checks from its depth on to what `storedField` says. -/
theorem checksFrom_written {fs : List (String × Json)}
    (hk : ∀ k x, (k, x) ∈ fs →
      ∃ e c, fields.find? (·.1 == k) = some e ∧ ChecksFrom (x.depth + 2) e.2.1 x c)
    (hreq : ∀ e ∈ fields, e.2.2 = true → ∃ x, (e.1, x) ∈ fs) :
    ∃ out, ChecksFrom ((Json.obj (Json.merge [] fs)).depth + 2) (.record name fields)
        (.obj (Json.merge [] fs)) (.obj out) ∧
      ∀ k, Json.lookup k out = storedField fields (Json.merge [] fs) k :=
  checksFrom_record (Json.sorted_merge fs .nil)
    (fun k v hv => by
      rw [Json.lookup_merge_nil] at hv
      exact hk k v (List.mem_reverse.1 (Json.mem_of_lookup_eq_some hv)))
    (fun e he hr => by
      obtain ⟨x, hx⟩ := hreq e he hr
      rw [Json.lookup_merge_nil]
      exact Json.isSome_lookup_of_mem (List.mem_reverse.2 hx))

end Shape

/-! ## Normal forms -/

mutual
/-- An action in the form decoding gives: see `ActionKind.Normal`. -/
def Action.Normal : Action → Prop
  | .mk _ k => k.Normal
/-- What an action does, in the form decoding gives: no optional field holds `null`, a step
is finite, a duration comes from rounding a double into 64 bits, headers are sorted by name
with each name once, an unknown type is not one this library reads, and nested actions are
normal. -/
def ActionKind.Normal : ActionKind → Prop
  | .navigation _ _ ps => ps ≠ some .null
  | .stateUpdate p => p.value ≠ some .null ∧ ∀ f ∈ p.step, f.isFinite = true
  | .recalculate _ _ => True
  | .apiCall r s e => (r.headers.map Prod.fst).Pairwise (· < ·) ∧ r.body ≠ some .null ∧
      Action.AllNormal s ∧ Action.AllNormal e
  | .emitEvent _ payload => payload ≠ some .null
  | .condition _ t f => Action.AllNormal t ∧ Action.AllNormal f
  | .toast _ _ d => ∀ n ∈ d, ∃ f, n = Binary64.roundToUInt64Clamped f
  | .openWidget _ => True
  | .closeWidget _ => True
  | .stopPropagation => True
  | .batch as _ => Action.AllNormal as
  | .unsupported t _ => Shape.params t = none ∧ t ≠ "stop_propagation"
/-- Every action of a list is normal. -/
def Action.AllNormal : List Action → Prop
  | [] => True
  | a :: as => a.Normal ∧ Action.AllNormal as
end

/-! ## Params that check and read back -/

namespace Shape

variable {name : String} {fields : List (String × Shape × Bool)}

/-- A written object whose fields are all declared and kept from fuel two, with every
required field written, checks to itself from its depth on. -/
theorem checksFrom_kept {fs : List (String × Json)}
    (hk : ∀ k x, (k, x) ∈ fs → ∃ e, fields.find? (·.1 == k) = some e ∧ KeepsFrom 2 e.2.1 x)
    (hreq : ∀ e ∈ fields, e.2.2 = true → ∃ x, (e.1, x) ∈ fs) :
    ChecksFrom ((Json.obj (Json.merge [] fs)).depth + 2) (.record name fields) (.obj (Json.merge [] fs))
      (.obj (Json.merge [] fs)) := by
  have hkeep : KeepsFrom 3 (.record name fields) (.obj (Json.merge [] fs)) :=
    keepsFrom_record (Json.sorted_merge fs .nil)
      (fun k v hv => by
        rw [Json.lookup_merge_nil] at hv
        exact hk k v (List.mem_reverse.1 (Json.mem_of_lookup_eq_some hv)))
      (fun e he hr => by
        obtain ⟨x, hx⟩ := hreq e he hr
        rw [Json.lookup_merge_nil]
        exact Json.isSome_lookup_of_mem (List.mem_reverse.2 hx))
  exact hkeep.checksFrom (by have := Json.one_le_depth (.obj (Json.merge [] fs)); omega)

theorem keepsFrom_two_string (t : String) : KeepsFrom 2 .string (.str t) := (keepsFrom_string t).mono (by omega)

theorem keepsFrom_two_option_string (t : String) : KeepsFrom 2 (.option .string) (.str t) :=
  keepsFrom_option (keepsFrom_string t)

theorem keepsFrom_two_option_any (v : Json) : KeepsFrom 2 (.option .any) v := keepsFrom_option (keepsFrom_any v)

theorem keepsFrom_two_navigationType (how : NavigationType) : KeepsFrom 2 navigationType (.str how.name) :=
  (keepsFrom_choice (by cases how <;> rfl)).mono (by omega)

end Shape

namespace Read

section Fields

variable {fs : List (String × Json)} {k : String}

theorem field_of_lookup {v : Json} (h : Json.lookup k fs = some v) : field fs k = v := by
  show (Json.lookup k fs).getD .null = v
  rw [h]
  rfl

theorem field_of_lookup_none (h : Json.lookup k fs = none) : field fs k = .null := by
  show (Json.lookup k fs).getD .null = .null
  rw [h]
  rfl

theorem text_of_lookup {t : String} (h : Json.lookup k fs = some (.str t)) : text fs k = t := by
  show (field fs k).str?.getD "" = t
  rw [field_of_lookup h]
  rfl

theorem text?_of_lookup {o : Option String} (h : Json.lookup k fs = o.map .str) : text? fs k = o := by
  show ((Json.lookup k fs).getD .null).str? = o
  rw [h]
  cases o <;> rfl

theorem value?_of_lookup {o : Option Json} (h : Json.lookup k fs = o) (hn : o ≠ some .null) :
    value? fs k = o := by
  unfold value? field
  rw [h]
  rcases o with _ | v
  · rfl
  · cases v <;> simp_all

end Fields

theorem navigationType_name (how : NavigationType) : navigationType (.str how.name) = how := by
  cases how <;> rfl

/-- A finite double, written as a number, reads back as a lenient number. -/
theorem lenientNumber_float {o : Option Float} (h : ∀ f ∈ o, f.isFinite = true) :
    lenientNumber (o.map .float) = o := by
  rcases o with _ | f
  · rfl
  · simp [lenientNumber, Loose.toNumberOf, h f rfl]

section Kinds

variable {ps : List (String × Json)} (id : String) (m : Nat)

theorem action_navigation {how : NavigationType} {target : Option String} {o : Option Json}
    (h1 : Json.lookup "navigationType" ps = some (.str how.name))
    (h2 : Json.lookup "target" ps = target.map .str) (h3 : Json.lookup "params" ps = o)
    (hn : o ≠ some .null) :
    action (m + 1) (.obj [("id", .str id), ("params", .obj ps), ("type", .str "navigation")])
      = .mk id (.navigation how target o) := by
  -- the fuel is a successor, so the reader unfolds once by computation
  have e : action (m + 1) (.obj [("id", .str id), ("params", .obj ps), ("type", .str "navigation")])
      = .mk id (.navigation (navigationType (field ps "navigationType")) (text? ps "target")
        (value? ps "params")) := rfl
  rw [e]
  simp only [field_of_lookup h1, navigationType_name, text?_of_lookup h2, value?_of_lookup h3 hn]

theorem action_toast {msg : String} {v : Option String} {d : Option Nat}
    (h1 : Json.lookup "message" ps = some (.str msg)) (h2 : Json.lookup "variant" ps = v.map .str)
    (h3 : Json.lookup "duration" ps = d.map fun n => .int n)
    (hd : ∀ n ∈ d, ∃ f, n = Binary64.roundToUInt64Clamped f) :
    action (m + 1) (.obj [("id", .str id), ("params", .obj ps), ("type", .str "toast")])
      = .mk id (.toast msg v d) := by
  have hdur : lenientDuration (value? ps "duration") = d := by
    rcases d with _ | n
    · rw [value?_of_lookup h3 (by simp)]
      rfl
    · obtain ⟨f, rfl⟩ := hd _ rfl
      rw [value?_of_lookup h3 (by simp)]
      exact lenientDuration_roundToUInt64Clamped f
  have e : action (m + 1) (.obj [("id", .str id), ("params", .obj ps), ("type", .str "toast")])
      = .mk id (.toast (text ps "message") (text? ps "variant")
        (lenientDuration (value? ps "duration"))) := rfl
  rw [e]
  simp only [text_of_lookup h1, text?_of_lookup h2, hdur]

theorem action_stateUpdate {p : StateUpdate}
    (h1 : Json.lookup "target" ps = some (.str p.target))
    (h2 : Json.lookup "operation" ps = some (.str p.operation))
    (h3 : Json.lookup "value" ps = p.value) (hn : p.value ≠ some .null)
    (h4 : Json.lookup "expression" ps = p.expression.map .str)
    (h5 : Json.lookup "by" ps = p.step.map .float) (hfin : ∀ f ∈ p.step, f.isFinite = true) :
    action (m + 1) (.obj [("id", .str id), ("params", .obj ps), ("type", .str "state_update")])
      = .mk id (.stateUpdate p) := by
  have hby : p.step.map Json.float ≠ some .null := by cases p.step <;> simp
  have e : action (m + 1) (.obj [("id", .str id), ("params", .obj ps), ("type", .str "state_update")])
      = .mk id (.stateUpdate
        { target := text ps "target", operation := (text? ps "operation").getD "set",
          value := value? ps "value", expression := text? ps "expression",
          step := lenientNumber (value? ps "by") }) := rfl
  rw [e]
  simp only [text_of_lookup h1, text?_of_lookup (o := some p.operation) h2, Option.getD_some, value?_of_lookup h3 hn,
    text?_of_lookup h4, value?_of_lookup h5 hby, lenientNumber_float hfin]

theorem action_recalculate {target formula : String}
    (h1 : Json.lookup "target" ps = some (.str target)) (h2 : Json.lookup "formula" ps = some (.str formula)) :
    action (m + 1) (.obj [("id", .str id), ("params", .obj ps), ("type", .str "recalculate")])
      = .mk id (.recalculate target formula) := by
  have e : action (m + 1) (.obj [("id", .str id), ("params", .obj ps), ("type", .str "recalculate")])
      = .mk id (.recalculate (text ps "target") (text ps "formula")) := rfl
  rw [e]
  simp only [text_of_lookup h1, text_of_lookup h2]

theorem action_emitEvent {name : String} {payload : Option Json}
    (h1 : Json.lookup "eventName" ps = some (.str name)) (h2 : Json.lookup "payload" ps = payload)
    (hn : payload ≠ some .null) :
    action (m + 1) (.obj [("id", .str id), ("params", .obj ps), ("type", .str "emit_event")])
      = .mk id (.emitEvent name payload) := by
  have e : action (m + 1) (.obj [("id", .str id), ("params", .obj ps), ("type", .str "emit_event")])
      = .mk id (.emitEvent (text ps "eventName") (value? ps "payload")) := rfl
  rw [e]
  simp only [text_of_lookup h1, value?_of_lookup h2 hn]

theorem action_openWidget {w : String} (h : Json.lookup "widgetId" ps = some (.str w)) :
    action (m + 1) (.obj [("id", .str id), ("params", .obj ps), ("type", .str "open_widget")])
      = .mk id (.openWidget w) := by
  have e : action (m + 1) (.obj [("id", .str id), ("params", .obj ps), ("type", .str "open_widget")])
      = .mk id (.openWidget (text ps "widgetId")) := rfl
  rw [e]
  simp only [text_of_lookup h]

theorem action_closeWidget {w : String} (h : Json.lookup "widgetId" ps = some (.str w)) :
    action (m + 1) (.obj [("id", .str id), ("params", .obj ps), ("type", .str "close_widget")])
      = .mk id (.closeWidget w) := by
  have e : action (m + 1) (.obj [("id", .str id), ("params", .obj ps), ("type", .str "close_widget")])
      = .mk id (.closeWidget (text ps "widgetId")) := rfl
  rw [e]
  simp only [text_of_lookup h]

end Kinds

end Read

/-! ## Actions as written and checked -/

namespace Write

theorem actions_eq_map : ∀ as : List Action, actions as = as.map action
  | [] => rfl
  | a :: as => by rw [actions, actions_eq_map as]; rfl

/-- An action with params is written as its id, its params and its type, in key order. -/
theorem action_eq_of_ne_null {id : String} {k : ActionKind} (h : params k ≠ .null) :
    action (.mk id k) = .obj [("id", .str id), ("params", params k), ("type", .str k.typeName)] := by
  have hlt1 := Shape.id_lt_params
  have hlt2 := Shape.params_lt_type
  have hlt3 := Shape.id_lt_type
  rw [action]
  split
  · exact absurd ‹_› h
  · simp [Json.merge, Json.setField, hlt1, hlt2, hlt3, ne_of_gt hlt1, ne_of_gt hlt2, ne_of_gt hlt3,
      not_lt_of_gt hlt1, not_lt_of_gt hlt3]

end Write

namespace Shape

theorem sorted_id_params_type (a b c : Json) : Json.Sorted [("id", a), ("params", b), ("type", c)] := by
  simp only [Json.Sorted, List.pairwise_cons, List.mem_cons, List.mem_singleton, List.not_mem_nil,
    forall_eq_or_imp, forall_eq, List.Pairwise.nil, or_false, IsEmpty.forall_iff, implies_true, and_true]
  exact ⟨⟨id_lt_params, id_lt_type⟩, params_lt_type⟩

theorem sorted_id_type (a c : Json) : Json.Sorted [("id", a), ("type", c)] := by
  simp only [Json.Sorted, List.pairwise_cons, List.mem_cons, List.mem_singleton, List.not_mem_nil,
    forall_eq_or_imp, forall_eq, List.Pairwise.nil, or_false, IsEmpty.forall_iff, implies_true, and_true]
  exact id_lt_type

/-- The record an action is stored as keeps an action written with params. -/
theorem keepsFrom_rawAction (id t : String) (P : Json) :
    KeepsFrom 2 rawAction (.obj [("id", .str id), ("params", P), ("type", .str t)]) :=
  keepsFrom_record (sorted_id_params_type _ _ _)
    (fun k v hv => by
      simp only [Json.lookup] at hv
      split at hv
      · cases hv
        rename_i hk
        subst hk
        exact ⟨_, rfl, keepsFrom_string id⟩
      split at hv
      · cases hv
        rename_i hk
        subst hk
        exact ⟨_, rfl, keepsFrom_any P⟩
      split at hv
      · cases hv
        rename_i hk
        subst hk
        exact ⟨_, rfl, keepsFrom_string t⟩
      · cases hv)
    (by simp [rawAction, req_eq, opt_eq, Json.lookup])

/-- The record an action is stored as keeps an action written without params. -/
theorem keepsFrom_rawAction_bare (id t : String) :
    KeepsFrom 2 rawAction (.obj [("id", .str id), ("type", .str t)]) :=
  keepsFrom_record (sorted_id_type _ _)
    (fun k v hv => by
      simp only [Json.lookup] at hv
      split at hv
      · cases hv
        rename_i hk
        subst hk
        exact ⟨_, rfl, keepsFrom_string id⟩
      split at hv
      · cases hv
        rename_i hk
        subst hk
        exact ⟨_, rfl, keepsFrom_string t⟩
      · cases hv)
    (by simp [rawAction, req_eq, opt_eq, Json.lookup])

/-- An action of a type with params: its checked params take the place of the given ones. -/
theorem checksFrom_action_params {id t : String} {P p : Json} {ps : Shape}
    (hps : Shape.params t = some ps) (hP : P.isNull = false) (hp : ChecksFrom (P.depth + 2) ps P p) :
    ChecksFrom ((Json.obj [("id", .str id), ("params", P), ("type", .str t)]).depth + 2) .action
      (.obj [("id", .str id), ("params", P), ("type", .str t)])
      (.obj [("id", .str id), ("params", p), ("type", .str t)]) := fun fuel hf => by
  obtain ⟨g, rfl⟩ : ∃ g, fuel = g + 1 := ⟨fuel - 1, by omega⟩
  have hlt : P.depth < (Json.obj [("id", .str id), ("params", P), ("type", .str t)]).depth :=
    Json.depth_lt_of_lookup (k := "params") (by simp [Json.lookup])
  have hraw := keepsFrom_rawAction id t P g (by have := Json.one_le_depth P; omega)
  rw [check]
  simp only [hraw, bind, Except.bind]
  simp [Json.fields?_obj, Json.lookup, hps, hP, hp g (by omega), Json.str?_str]

/-- A stop action checks to itself. -/
theorem checksFrom_action_stop (id : String) :
    ChecksFrom 3 .action (.obj [("id", .str id), ("type", .str "stop_propagation")])
      (.obj [("id", .str id), ("type", .str "stop_propagation")]) := fun fuel hf => by
  obtain ⟨g, rfl⟩ : ∃ g, fuel = g + 1 := ⟨fuel - 1, by omega⟩
  have hraw := keepsFrom_rawAction_bare id "stop_propagation" g (by omega)
  -- the stop action has no params shape: it is the branch of the check that keeps the action bare
  have hnone : Shape.params "stop_propagation" = none := rfl
  rw [check]
  simp only [hraw, bind, Except.bind]
  simp [Json.fields?_obj, Json.lookup, Json.str?_str, hnone]

/-- An action of an unknown type keeps its params. -/
theorem checksFrom_action_unknown {id t : String} (P : Json) (h1 : Shape.params t = none)
    (h2 : t ≠ "stop_propagation") :
    ChecksFrom 3 .action (.obj [("id", .str id), ("params", P), ("type", .str t)])
      (.obj [("id", .str id), ("params", P), ("type", .str t)]) := fun fuel hf => by
  obtain ⟨g, rfl⟩ : ∃ g, fuel = g + 1 := ⟨fuel - 1, by omega⟩
  have hraw := keepsFrom_rawAction id t P g (by omega)
  rw [check]
  simp only [hraw, bind, Except.bind]
  simp [Json.fields?_obj, Json.lookup, Json.str?_str, h1, h2]

/-- An action of an unknown type written without params comes back with `null` params. -/
theorem checksFrom_action_unknown_bare {id t : String} (h1 : Shape.params t = none)
    (h2 : t ≠ "stop_propagation") :
    ChecksFrom 3 .action (.obj [("id", .str id), ("type", .str t)])
      (.obj [("id", .str id), ("params", .null), ("type", .str t)]) := fun fuel hf => by
  obtain ⟨g, rfl⟩ : ∃ g, fuel = g + 1 := ⟨fuel - 1, by omega⟩
  have hraw := keepsFrom_rawAction_bare id t g (by omega)
  rw [check]
  simp only [hraw, bind, Except.bind]
  simp [Json.fields?_obj, Json.lookup, Json.str?_str, h1, h2]

end Shape

namespace Read

theorem action_stop (id : String) (m : Nat) :
    action (m + 1) (.obj [("id", .str id), ("type", .str "stop_propagation")]) = .mk id .stopPropagation :=
  rfl

/-- A type this library does not read is read as unsupported, with its params as given. -/
theorem action_unknown {id t : String} (P : Json) (m : Nat) (h1 : Shape.params t = none)
    (h2 : t ≠ "stop_propagation") :
    action (m + 1) (.obj [("id", .str id), ("params", P), ("type", .str t)]) = .mk id (.unsupported t P) := by
  have hid : Json.lookup "id" [("id", .str id), ("params", P), ("type", .str t)] = some (.str id) := by
    simp [Json.lookup]
  have htype : Json.lookup "type" [("id", .str id), ("params", P), ("type", .str t)] = some (.str t) := by
    simp [Json.lookup]
  have hparams : Json.lookup "params" [("id", .str id), ("params", P), ("type", .str t)] = some P := by
    simp [Json.lookup]
  rw [action]
  simp only [Json.fields?_obj, Option.getD_some, text_of_lookup hid, text_of_lookup htype,
    field_of_lookup hparams]
  split <;> simp_all [Shape.params]

end Read

/-! ## Round trips of actions -/

/-- The check of an action as written succeeds from the written value's depth on, and what it
returns reads back as the action. -/
def Action.RoundTrips (a : Action) : Prop :=
  ∃ c, Shape.ChecksFrom ((Write.action a).depth + 2) .action (Write.action a) c ∧
    ∀ m, c.depth ≤ m → Read.action m c = a

/-- The params of a kind, written, check against `ps` to a value from which the kind reads
back. -/
def ActionKind.ParamsRoundTrip (k : ActionKind) (ps : Shape) : Prop :=
  ∃ p, Shape.ChecksFrom ((Write.params k).depth + 2) ps (Write.params k) p ∧
    ∀ id m, p.depth ≤ m →
      Read.action (m + 1) (.obj [("id", .str id), ("params", p), ("type", .str k.typeName)]) = .mk id k

theorem depth_action_obj (id t : String) (p : Json) :
    (Json.obj [("id", .str id), ("params", p), ("type", .str t)]).depth = p.depth + 1 := by
  have := Json.one_le_depth p
  simp only [Json.depth, Json.depthFields]
  omega

/-- An action whose params round trip round trips. -/
theorem ActionKind.roundTrips_of_params {k : ActionKind} {ps : Shape} (hps : Shape.params k.typeName = some ps)
    (hnull : Write.params k ≠ .null) (h : k.ParamsRoundTrip ps) (id : String) :
    (Action.mk id k).RoundTrips := by
  obtain ⟨p, hc, hr⟩ := h
  have hP : (Write.params k).isNull = false := by
    cases hw : Write.params k
    · exact absurd hw hnull
    all_goals rfl
  refine ⟨.obj [("id", .str id), ("params", p), ("type", .str k.typeName)], ?_, fun m hm => ?_⟩
  · rw [Write.action_eq_of_ne_null hnull]
    exact Shape.checksFrom_action_params hps hP hc
  · rw [depth_action_obj] at hm
    obtain ⟨m', rfl⟩ : ∃ m', m = m' + 1 := ⟨m - 1, by omega⟩
    exact hr id m' (by omega)

namespace Shape

theorem paramsRoundTrip_toast {m : String} {v : Option String} {d : Option Nat}
    (hd : ∀ n ∈ d, ∃ f, n = Binary64.roundToUInt64Clamped f) :
    (ActionKind.toast m v d).ParamsRoundTrip
      (.record "ToastParams" [req "message" .string, opt "variant" (.option .string),
        opt "duration" (.option .any)]) := by
  show ∃ p, _
  simp only [Write.params_toast, Write.obj_eq]
  refine ⟨_, checksFrom_kept ?_ ?_, fun id k _ => Read.action_toast id k ?_ ?_ ?_ hd⟩
  · intro key x h
    simp only [List.mem_append, List.mem_cons, List.not_mem_nil, or_false, Write.mem_opt, Prod.mk.injEq,
      Option.map_eq_some_iff] at h
    rcases h with (⟨rfl, rfl⟩ | ⟨rfl, s, -, rfl⟩) | ⟨rfl, -⟩
    · exact ⟨_, rfl, keepsFrom_two_string m⟩
    · exact ⟨_, rfl, keepsFrom_two_option_string s⟩
    · exact ⟨_, rfl, keepsFrom_two_option_any x⟩
  · simp [req_eq, opt_eq]
  all_goals simp [Json.lookup_append, Json.lookup]
  -- the writer lifts the duration to an integer before mapping it
  cases d <;> rfl

theorem paramsRoundTrip_navigation {how : NavigationType} {target : Option String} {ps : Option Json}
    (hps : ps ≠ some .null) :
    (ActionKind.navigation how target ps).ParamsRoundTrip
      (.record "NavigationParams" [opt "navigationType" navigationType, opt "target" (.option .string),
        opt "params" (.option .any)]) := by
  show ∃ p, _
  simp only [Write.params_navigation, Write.obj_eq]
  refine ⟨_, checksFrom_kept ?_ ?_, fun id k _ => Read.action_navigation id k ?_ ?_ ?_ hps⟩
  · intro key x h
    simp only [List.mem_append, List.mem_cons, List.not_mem_nil, or_false, Write.mem_opt, Prod.mk.injEq,
      Option.map_eq_some_iff, or_assoc] at h
    rcases h with ⟨rfl, rfl⟩ | ⟨rfl, s, -, rfl⟩ | ⟨rfl, -⟩
    · exact ⟨_, rfl, keepsFrom_two_navigationType how⟩
    · exact ⟨_, rfl, keepsFrom_two_option_string s⟩
    · exact ⟨_, rfl, keepsFrom_two_option_any x⟩
  · simp [req_eq, opt_eq]
  all_goals simp [Json.lookup_append, Json.lookup]

theorem paramsRoundTrip_stateUpdate {p : StateUpdate} (hv : p.value ≠ some .null)
    (hfin : ∀ f ∈ p.step, f.isFinite = true) :
    (ActionKind.stateUpdate p).ParamsRoundTrip
      (.record "StateUpdateParams" [req "target" .string, opt "operation" .string,
        opt "value" (.option .any), opt "expression" (.option .string), opt "by" (.option .any)]) := by
  -- a finite step is written as a number
  have hstep : p.step.map Write.float = p.step.map .float := by
    rcases hs : p.step with _ | f
    · rfl
    · simp [Write.float, hfin f hs]
  show ∃ p, _
  simp only [Write.params_stateUpdate, Write.obj_eq, hstep]
  refine ⟨_, checksFrom_kept ?_ ?_, fun id k _ => Read.action_stateUpdate id k ?_ ?_ ?_ hv ?_ ?_ hfin⟩
  · intro key x h
    simp only [List.mem_append, List.mem_cons, List.not_mem_nil, or_false, Write.mem_opt, Prod.mk.injEq,
      Option.map_eq_some_iff, or_assoc] at h
    rcases h with ⟨rfl, rfl⟩ | ⟨rfl, rfl⟩ | ⟨rfl, -⟩ | ⟨rfl, s, -, rfl⟩ | ⟨rfl, f, -, rfl⟩
    · exact ⟨_, rfl, keepsFrom_two_string _⟩
    · exact ⟨_, rfl, keepsFrom_two_string _⟩
    · exact ⟨_, rfl, keepsFrom_two_option_any x⟩
    · exact ⟨_, rfl, keepsFrom_two_option_string s⟩
    · exact ⟨_, rfl, keepsFrom_two_option_any _⟩
  · simp [req_eq, opt_eq]
  all_goals simp [Json.lookup_append, Json.lookup]

theorem paramsRoundTrip_recalculate (target formula : String) :
    (ActionKind.recalculate target formula).ParamsRoundTrip
      (.record "RecalculateParams" [req "target" .string, req "formula" .string]) := by
  show ∃ p, _
  simp only [Write.params_recalculate, Write.obj_eq]
  refine ⟨_, checksFrom_kept ?_ ?_, fun id k _ => Read.action_recalculate id k ?_ ?_⟩
  · intro key x h
    simp only [List.mem_cons, List.not_mem_nil, or_false, Prod.mk.injEq] at h
    rcases h with ⟨rfl, rfl⟩ | ⟨rfl, rfl⟩
    · exact ⟨_, rfl, keepsFrom_two_string _⟩
    · exact ⟨_, rfl, keepsFrom_two_string _⟩
  · simp [req_eq]
  all_goals simp [Json.lookup]

theorem paramsRoundTrip_emitEvent {name : String} {payload : Option Json} (hp : payload ≠ some .null) :
    (ActionKind.emitEvent name payload).ParamsRoundTrip
      (.record "EmitEventParams" [req "eventName" .string, opt "payload" (.option .any)]) := by
  show ∃ p, _
  simp only [Write.params_emitEvent, Write.obj_eq]
  refine ⟨_, checksFrom_kept ?_ ?_, fun id k _ => Read.action_emitEvent id k ?_ ?_ hp⟩
  · intro key x h
    simp only [List.mem_append, List.mem_cons, List.not_mem_nil, or_false, Write.mem_opt, Prod.mk.injEq] at h
    rcases h with ⟨rfl, rfl⟩ | ⟨rfl, -⟩
    · exact ⟨_, rfl, keepsFrom_two_string _⟩
    · exact ⟨_, rfl, keepsFrom_two_option_any x⟩
  · simp [req_eq, opt_eq]
  all_goals simp [Json.lookup_append, Json.lookup]

theorem paramsRoundTrip_openWidget (w : String) :
    (ActionKind.openWidget w).ParamsRoundTrip (.record "WidgetTargetParams" [req "widgetId" .string]) := by
  show ∃ p, _
  simp only [Write.params_openWidget, Write.obj_eq]
  refine ⟨_, checksFrom_kept ?_ ?_, fun id k _ => Read.action_openWidget id k ?_⟩
  · intro key x h
    simp only [List.mem_cons, List.not_mem_nil, or_false, Prod.mk.injEq] at h
    obtain ⟨rfl, rfl⟩ := h
    exact ⟨_, rfl, keepsFrom_two_string _⟩
  · simp [req_eq]
  · simp [Json.lookup]

theorem paramsRoundTrip_closeWidget (w : String) :
    (ActionKind.closeWidget w).ParamsRoundTrip (.record "WidgetTargetParams" [req "widgetId" .string]) := by
  show ∃ p, _
  simp only [Write.params_closeWidget, Write.obj_eq]
  refine ⟨_, checksFrom_kept ?_ ?_, fun id k _ => Read.action_closeWidget id k ?_⟩
  · intro key x h
    simp only [List.mem_cons, List.not_mem_nil, or_false, Prod.mk.injEq] at h
    obtain ⟨rfl, rfl⟩ := h
    exact ⟨_, rfl, keepsFrom_two_string _⟩
  · simp [req_eq]
  · simp [Json.lookup]

end Shape

end Storyboard

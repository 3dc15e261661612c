import Mathlib
import Storyboard.Proofs.Absorb
import Storyboard.Project.Read

/-!
# What the shape check keeps

`Shape.check` decodes a value in memory against a shape of the project format. Two facts
about it carry the round trip of decoding and encoding.

* The check keeps values well formed (`Shape.check_wellFormed`). `Json.WellFormed` is what
  the type's own description asks of a value and what every value read from text satisfies:
  objects sorted by key with each key once, integers within the 64-bit ranges, other
  numbers finite. The check only returns parts of its input and objects it builds itself,
  sorted by `Json.setField`.
* The check of a record given as a sorted object whose fields all pass stores each declared
  field with its checked value (`Shape.checkFields_ok`); when each field's shape returns its
  value unchanged (`Shape.KeepsFrom`), the record is returned unchanged
  (`Shape.keepsFrom_record`).

Fuel: each level of nesting the check goes down takes one unit of fuel, and an optional
shape takes one more without going down. A shape that returns a value unchanged does so at
every fuel from some bound on (`Shape.KeepsFrom`), a bound that grows by one with each
level of the shape.

The loops of the record checks are taken as written: `Shape.checkFields_eq` names the steps
of `checkFields`, and an invariant of a loop is carried step by step (`forIn_invariant`).
-/

namespace Storyboard

/-! ## Loops that succeed -/

section Loops

variable {α β γ κ ε : Type}

theorem except_bind_eq_ok {x : Except ε α} {f : α → Except ε β} {b : β} :
    x >>= f = .ok b ↔ ∃ a, x = .ok a ∧ f a = .ok b := by
  cases x <;> simp [bind, Except.bind]

/-- A map in `Except` that succeeds gives each result from one of the items. -/
theorem mapM_ok_mem {f : α → Except ε β} :
    ∀ {xs : List α} {ys : List β}, xs.mapM f = .ok ys → ∀ y ∈ ys, ∃ x ∈ xs, f x = .ok y
  | [], ys, h => by cases h; simp
  | x :: xs, ys, h => by
    rw [List.mapM_cons] at h
    obtain ⟨y, hy, h⟩ := except_bind_eq_ok.1 h
    obtain ⟨ys', hys', h⟩ := except_bind_eq_ok.1 h
    cases h
    intro z hz
    rcases List.mem_cons.1 hz with rfl | hz
    · exact ⟨x, List.mem_cons_self, hy⟩
    · obtain ⟨w, hw, hwz⟩ := mapM_ok_mem hys' z hz
      exact ⟨w, List.mem_cons_of_mem _ hw, hwz⟩

/-- A map in `Except` whose every step succeeds succeeds, each result related to its item
as the steps promise. -/
theorem mapM_ok_of_forall {f : α → Except ε β} {R : α → β → Prop} {xs : List α}
    (h : ∀ x ∈ xs, ∃ y, f x = .ok y ∧ R x y) :
    ∃ ys, xs.mapM f = .ok ys ∧ List.Forall₂ R xs ys := by
  induction xs with
  | nil => exact ⟨[], rfl, .nil⟩
  | cons x xs ih =>
    obtain ⟨y, hy, hR⟩ := h x List.mem_cons_self
    obtain ⟨ys, hys, hRs⟩ := ih fun x hx => h x (List.mem_cons_of_mem _ hx)
    refine ⟨y :: ys, ?_, .cons hR hRs⟩
    simp [List.mapM_cons, hy, hys]
    rfl

/-- A map in `Except` whose every step returns its item returns the list. -/
theorem mapM_ok_self {f : α → Except ε α} :
    ∀ {xs : List α}, (∀ x ∈ xs, f x = .ok x) → xs.mapM f = .ok xs
  | [], _ => rfl
  | x :: xs, h => by
    rw [List.mapM_cons, h x List.mem_cons_self,
      mapM_ok_self fun y hy => h y (List.mem_cons_of_mem _ hy)]
    rfl

/-- A loop in `Except` keeps what each of its steps keeps. -/
theorem forIn_invariant {xs : List α} {f : α → β → Except ε (ForInStep β)} {b b' : β}
    (P : β → Prop) (hf : ∀ x ∈ xs, ∀ b r, P b → f x b = .ok r → P r.value)
    (h : forIn xs b f = .ok b') (hb : P b) : P b' := by
  induction xs generalizing b with
  | nil =>
    simp only [List.forIn_nil] at h
    cases h
    exact hb
  | cons x xs ih =>
    simp only [List.forIn_cons] at h
    obtain ⟨r, hx, h⟩ := except_bind_eq_ok.1 h
    have hr := hf x List.mem_cons_self b r hb hx
    cases r with
    | done c => cases h; exact hr
    | yield c => exact ih (fun y hy => hf y (List.mem_cons_of_mem _ hy)) h hr

/-- A map in `Except` over pairs that keeps each key keeps the keys. -/
theorem mapM_keys {f : κ × β → Except ε (κ × γ)} (hf : ∀ kv kc, f kv = .ok kc → kc.1 = kv.1) :
    ∀ {fs : List (κ × β)} {ys : List (κ × γ)}, fs.mapM f = .ok ys → ys.map Prod.fst = fs.map Prod.fst
  | [], ys, h => by cases h; rfl
  | kv :: fs, ys, h => by
    rw [List.mapM_cons] at h
    obtain ⟨kc, hkc, h⟩ := except_bind_eq_ok.1 h
    obtain ⟨ys', hys', h⟩ := except_bind_eq_ok.1 h
    cases h
    simp [hf kv kc hkc, mapM_keys hf hys']

end Loops

namespace Json

/-- The values a `Json` stands for: every object sorted by key with each key once, every
integer within the 64-bit ranges, every other number finite. -/
inductive WellFormed : Json → Prop
  | null : WellFormed .null
  | bool (b : Bool) : WellFormed (.bool b)
  | int {n : Int} : -2^63 ≤ n → n < 2^64 → WellFormed (.int n)
  | float {f : Float} : f.isFinite = true → WellFormed (.float f)
  | str (s : String) : WellFormed (.str s)
  | arr {xs : List Json} : (∀ x ∈ xs, WellFormed x) → WellFormed (.arr xs)
  | obj {fs : List (String × Json)} : Sorted fs → (∀ kv ∈ fs, WellFormed kv.2) → WellFormed (.obj fs)

theorem WellFormed.lookup {fs : List (String × Json)} (h : WellFormed (.obj fs)) {k : String}
    {v : Json} (hv : Json.lookup k fs = some v) : v.WellFormed := by
  cases h with
  | obj _ hfs => exact hfs _ (mem_of_lookup_eq_some hv)

/-- A value well formed but for its doubles, which satisfy `p`: every object sorted by key with
each key once, every integer within the 64-bit ranges. -/
inductive FormedWith (p : Float → Prop) : Json → Prop
  | null : FormedWith p .null
  | bool (b : Bool) : FormedWith p (.bool b)
  | int {n : Int} : -2^63 ≤ n → n < 2^64 → FormedWith p (.int n)
  | float {f : Float} : p f → FormedWith p (.float f)
  | str (s : String) : FormedWith p (.str s)
  | arr {xs : List Json} : (∀ x ∈ xs, FormedWith p x) → FormedWith p (.arr xs)
  | obj {fs : List (String × Json)} : Sorted fs → (∀ kv ∈ fs, FormedWith p kv.2) → FormedWith p (.obj fs)

/-- Well formed is formed with finite doubles. -/
theorem wellFormed_iff_formedWith {v : Json} : v.WellFormed ↔ v.FormedWith (·.isFinite = true) := by
  constructor
  · intro h
    induction h with
    | null => exact .null
    | bool b => exact .bool b
    | int hlo hhi => exact .int hlo hhi
    | float hf => exact .float hf
    | str s => exact .str s
    | arr _ ih => exact .arr ih
    | obj hs _ ih => exact .obj hs ih
  · intro h
    induction h with
    | null => exact .null
    | bool b => exact .bool b
    | int hlo hhi => exact .int hlo hhi
    | float hf => exact .float hf
    | str s => exact .str s
    | arr _ ih => exact .arr ih
    | obj hs _ ih => exact .obj hs ih

section Formed

variable {p : Float → Prop}

theorem FormedWith.lookup {fs : List (String × Json)} (h : FormedWith p (.obj fs)) {k : String}
    {v : Json} (hv : Json.lookup k fs = some v) : v.FormedWith p := by
  cases h with
  | obj _ hfs => exact hfs _ (mem_of_lookup_eq_some hv)

/-- A field read off a formed value, `null` when missing, is formed alike. -/
theorem FormedWith.fieldOf {v : Json} (h : v.FormedWith p) (k : String) :
    ((v.fields?.bind (Json.lookup k)).getD .null).FormedWith p := by
  cases v with
  | obj fs =>
    cases hk : Json.lookup k fs with
    | none => simp [fields?, hk]; exact .null
    | some u => simpa [fields?, hk] using h.lookup hk
  | _ => exact .null

end Formed

/-! ### Depth -/

theorem one_le_depth (v : Json) : 1 ≤ v.depth := by
  cases v <;> simp [depth]

theorem depth_le_depthItems {x : Json} : ∀ {xs : List Json}, x ∈ xs → x.depth ≤ depthItems xs
  | _ :: _, .head _ => by simp [depthItems]
  | _ :: _, .tail _ h => by simp [depthItems, depth_le_depthItems h]

theorem depth_le_depthFields {kv : String × Json} :
    ∀ {fs : List (String × Json)}, kv ∈ fs → kv.2.depth ≤ depthFields fs
  | _ :: _, .head _ => by simp [depthFields]
  | _ :: _, .tail _ h => by simp [depthFields, depth_le_depthFields h]

theorem depth_lt_of_mem {x : Json} {xs : List Json} (h : x ∈ xs) : x.depth < (Json.arr xs).depth := by
  have := depth_le_depthItems h
  simp only [depth]
  omega

theorem depth_lt_of_mem_fields {kv : String × Json} {fs : List (String × Json)} (h : kv ∈ fs) :
    kv.2.depth < (Json.obj fs).depth := by
  have := depth_le_depthFields h
  simp only [depth]
  omega

theorem depth_lt_of_lookup {fs : List (String × Json)} {k : String} {v : Json}
    (h : Json.lookup k fs = some v) : v.depth < (Json.obj fs).depth :=
  depth_lt_of_mem_fields (mem_of_lookup_eq_some h)

/-- In a sorted field list, a field is found under its key. -/
theorem lookup_of_mem {fs : List (String × Json)} (hs : Sorted fs) {k : String} {v : Json}
    (h : (k, v) ∈ fs) : Json.lookup k fs = some v := by
  induction fs with
  | nil => simp at h
  | cons kv rest ih =>
    obtain ⟨k0, v0⟩ := kv
    rcases List.mem_cons.1 h with h | h
    · cases h
      simp [Json.lookup]
    · have hlt : k0 < k := (List.pairwise_cons.1 hs).1 _ h
      simp [Json.lookup, ne_of_lt hlt, ih (List.pairwise_cons.1 hs).2 h]

theorem WellFormed.field {fs : List (String × Json)} (h : WellFormed (.obj fs)) (k : String) :
    (Read.field fs k).WellFormed := by
  unfold Read.field
  cases hk : Json.lookup k fs with
  | none => exact .null
  | some v => exact h.lookup hk

theorem sorted_iff_keys {fs : List (String × Json)} :
    Sorted fs ↔ (fs.map Prod.fst).Pairwise (· < ·) := by
  rw [Sorted, List.pairwise_map]

theorem sorted_of_keys_eq {fs gs : List (String × Json)} (h : gs.map Prod.fst = fs.map Prod.fst)
    (hs : Sorted fs) : Sorted gs := by
  rw [sorted_iff_keys, h]
  exact sorted_iff_keys.1 hs

/-- Storing a formed value keeps a formed field list formed. -/
theorem formedWith_setField {p : Float → Prop} {out : List (String × Json)} (hs : Sorted out)
    (hv : ∀ kv ∈ out, kv.2.FormedWith p) {k : String} {c : Json} (hc : c.FormedWith p) :
    FormedWith p (.obj (setField k c out)) :=
  .obj (sorted_setField hs) fun kv hkv => by
    rcases mem_setField hkv with rfl | h
    · exact hc
    · exact hv kv h

end Json

namespace Shape

/-! ## The loops of a record check -/

/-- One step of checking a record given as an object: a declared field is checked and
stored, any other is passed over. -/
def fieldStep (chk : Shape → Json → Except String Json) (fields : List (String × Shape × Bool))
    (x : String × Json) (out : List (String × Json)) : Except String (ForInStep (List (String × Json))) :=
  match fields.find? (·.1 == x.1) with
  | some (_, s, _) => do
    let c ← chk s x.2
    pure (.yield (Json.setField x.1 c out))
  | none => pure (.yield out)

/-- One step of the check that every required field was given. -/
def requireStep (out : List (String × Json)) (x : String × Shape × Bool) (u : Unit) :
    Except String (ForInStep Unit) :=
  if (x.2.2 && !Json.hasField x.1 out) = true then throw (missingField x.1) else pure (.yield u)

/-- `checkFields` as its two loops: collect the declared fields, then require the required
ones. -/
theorem checkFields_eq (chk : Shape → Json → Except String Json) (fields : List (String × Shape × Bool))
    (given : List (String × Json)) :
    checkFields chk fields given = (do
      let out ← forIn given [] (fieldStep chk fields)
      forIn fields () (requireStep out)
      pure (.obj out)) := rfl

theorem checkFields_eq_ok {chk : Shape → Json → Except String Json}
    {fields : List (String × Shape × Bool)} {given : List (String × Json)} {c : Json}
    (h : checkFields chk fields given = .ok c) :
    ∃ out, forIn given [] (fieldStep chk fields) = .ok out ∧ c = .obj out := by
  rw [checkFields_eq] at h
  obtain ⟨out, hl, h⟩ := except_bind_eq_ok.1 h
  obtain ⟨u, -, h⟩ := except_bind_eq_ok.1 h
  cases h
  exact ⟨out, hl, rfl⟩

theorem id_lt_params : "id" < "params" := by rw [String.lt_iff_toList_lt]; decide

theorem id_lt_type : "id" < "type" := by rw [String.lt_iff_toList_lt]; decide

theorem params_lt_type : "params" < "type" := by rw [String.lt_iff_toList_lt]; decide

section Formed

variable {q : Float → Prop}

/-- The object an action is checked to, with its params. -/
theorem formedWith_checkedAction {id type : String} {p : Json} (hp : p.FormedWith q) :
    (Json.obj [("id", .str id), ("params", p), ("type", .str type)]).FormedWith q := by
  have hs : Json.Sorted [("id", Json.str id), ("params", p), ("type", .str type)] := by
    unfold Json.Sorted
    refine .cons ?_ (.cons ?_ (.cons ?_ .nil))
    · intro kv hkv
      simp only [List.mem_cons, List.not_mem_nil, or_false] at hkv
      rcases hkv with rfl | rfl
      · exact id_lt_params
      · exact id_lt_type
    · intro kv hkv
      simp only [List.mem_cons, List.not_mem_nil, or_false] at hkv
      subst hkv
      exact params_lt_type
    · simp
  refine .obj hs fun kv hkv => ?_
  · simp only [List.mem_cons, List.not_mem_nil, or_false] at hkv
    rcases hkv with rfl | rfl | rfl
    · exact .str id
    · exact hp
    · exact .str type

/-- The object an action is checked to, without params. -/
theorem formedWith_checkedAction_bare (id type : String) :
    (Json.obj [("id", .str id), ("type", .str type)]).FormedWith q := by
  have hs : Json.Sorted [("id", Json.str id), ("type", .str type)] := by
    unfold Json.Sorted
    refine .cons ?_ (.cons ?_ .nil)
    · intro kv hkv
      simp only [List.mem_cons, List.not_mem_nil, or_false] at hkv
      subst hkv
      exact id_lt_type
    · simp
  refine .obj hs fun kv hkv => ?_
  · simp only [List.mem_cons, List.not_mem_nil, or_false] at hkv
    rcases hkv with rfl | rfl
    · exact .str id
    · exact .str type

end Formed

/-- A choice is checked to a name. -/
theorem checkChoice_str {sp : List (String × String)} {v c : Json} (h : checkChoice sp v = .ok c) :
    ∃ t, c = .str t := by
  unfold checkChoice at h
  split at h
  · split at h
    · cases h; exact ⟨_, rfl⟩
    · cases h
  · split at h
    · split at h
      · cases h; exact ⟨_, rfl⟩
      · cases h
    · cases h
  · cases h
  · cases h

section Keeps

variable {p : Float → Prop} {chk : Shape → Json → Except String Json}
  (hchk : ∀ s v c, chk s v = .ok c → v.FormedWith p → c.FormedWith p)
include hchk

/-- A record checked from an object is formed when its fields are. -/
theorem checkFields_formedWith {fields : List (String × Shape × Bool)} {fs : List (String × Json)}
    {c : Json} (h : checkFields chk fields fs = .ok c) (hv : (Json.obj fs).FormedWith p) :
    c.FormedWith p := by
  have hfs : ∀ kv ∈ fs, kv.2.FormedWith p := by cases hv with | obj _ h => exact h
  obtain ⟨out, hl, rfl⟩ := checkFields_eq_ok h
  -- every stored value is a checked given value
  have key := forIn_invariant (fun out => Json.Sorted out ∧ ∀ kv ∈ out, kv.2.FormedWith p)
    (fun x hx b r hb hr => by
      unfold fieldStep at hr
      split at hr
      · obtain ⟨c, hc, hr⟩ := except_bind_eq_ok.1 hr
        cases hr
        cases Json.formedWith_setField hb.1 hb.2 (hchk _ _ _ hc (hfs x hx)) with
        | obj hs hvs => exact ⟨hs, hvs⟩
      · cases hr
        exact hb) hl ⟨List.Pairwise.nil, by simp⟩
  exact .obj key.1 key.2

/-- A record checked from an array is formed when its items are. -/
theorem checkPositional_formedWith {name : String} {fields : List (String × Shape × Bool)}
    {xs : List Json} {c : Json} (h : checkPositional chk name fields xs = .ok c)
    (hv : (Json.arr xs).FormedWith p) : c.FormedWith p := by
  have hxs : ∀ x ∈ xs, x.FormedWith p := by cases hv with | arr h => exact h
  unfold checkPositional at h
  obtain ⟨st, hl, h⟩ := except_bind_eq_ok.1 h
  have key := forIn_invariant
    (fun st : List (String × Json) × Nat => Json.Sorted st.1 ∧ ∀ kv ∈ st.1, kv.2.FormedWith p)
    (fun x _ b r hb hr => by
      simp only at hr
      split at hr
      · rename_i v hget
        obtain ⟨c, hc, hr⟩ := except_bind_eq_ok.1 hr
        cases hr
        cases Json.formedWith_setField hb.1 hb.2 (hchk _ _ _ hc (hxs v (List.mem_of_getElem? hget))) with
        | obj hs hvs => exact ⟨hs, hvs⟩
      · split at hr
        · cases hr
        · cases hr
          exact hb) hl ⟨List.Pairwise.nil, by simp⟩
  split at h
  · cases h
  · cases h
    exact .obj key.1 key.2

end Keeps

/-- The check keeps values formed: its result holds only parts of its input, defaults, and
names, each sorted into objects. -/
theorem check_formedWith {p : Float → Prop} : ∀ (fuel : Nat) (s : Shape) (v : Json) (c : Json),
    check fuel s v = .ok c → v.FormedWith p → c.FormedWith p
  | 0, s, v, c, h, _ => by simp [check] at h
  | fuel + 1, s, v, c, h, hv => by
    unfold check at h
    split at h
    case h_1 => cases h; exact hv
    case h_2 => cases h; exact hv
    case h_3 => cases h; exact hv
    case h_4 => cases h; exact hv
    case h_5 => cases h; exact hv
    case h_6 => split at h <;> cases h; exact hv
    case h_7 => split at h <;> cases h; exact hv
    case h_8 => cases h; exact hv
    case h_9 => exact check_formedWith fuel _ _ _ h hv
    case h_10 xs =>
      obtain ⟨ys, hys, h⟩ := except_bind_eq_ok.1 h
      cases h
      have hxs : ∀ x ∈ xs, x.FormedWith p := by cases hv with | arr h => exact h
      refine .arr fun y hy => ?_
      obtain ⟨x, hx, hxy⟩ := mapM_ok_mem hys y hy
      exact check_formedWith fuel _ _ _ hxy (hxs x hx)
    case h_11 fs =>
      obtain ⟨ys, hys, h⟩ := except_bind_eq_ok.1 h
      cases h
      obtain ⟨hsorted, hfs⟩ : Json.Sorted fs ∧ ∀ kv ∈ fs, kv.2.FormedWith p := by
        cases hv with | obj hs h => exact ⟨hs, h⟩
      -- each field keeps its key, and its value is checked
      have hkeys : ys.map Prod.fst = fs.map Prod.fst := mapM_keys (fun kv kc h => by
          obtain ⟨k, x⟩ := kv
          obtain ⟨c, -, h⟩ := except_bind_eq_ok.1 h
          cases h
          rfl) hys
      refine .obj (Json.sorted_of_keys_eq hkeys hsorted) fun kc hkc => ?_
      obtain ⟨⟨k, x⟩, hkx, h⟩ := mapM_ok_mem hys kc hkc
      obtain ⟨c, hc, h⟩ := except_bind_eq_ok.1 h
      cases h
      exact check_formedWith fuel _ _ _ hc (hfs _ hkx)
    case h_12 => obtain ⟨t, rfl⟩ := checkChoice_str h; exact .str t
    case h_13 => exact checkFields_formedWith (check_formedWith fuel) h hv
    case h_14 => exact checkPositional_formedWith (check_formedWith fuel) h hv
    case h_15 =>
      obtain ⟨raw, hraw, h⟩ := except_bind_eq_ok.1 h
      have hparams := (check_formedWith fuel _ _ _ hraw hv).fieldOf "params"
      simp only at h
      split at h
      · -- a known type: the params are checked against its shape
        split at h
        · rename_i p hp
          cases h
          refine formedWith_checkedAction (check_formedWith fuel _ _ _ hp ?_)
          split
          · exact .obj .nil (by simp)
          · exact hparams
        · cases h
      · split at h <;> cases h
        · exact formedWith_checkedAction_bare _ _
        · exact formedWith_checkedAction hparams
    case h_16 => cases h

theorem check_wellFormed (fuel : Nat) (s : Shape) (v c : Json) (h : check fuel s v = .ok c)
    (hv : v.WellFormed) : c.WellFormed :=
  Json.wellFormed_iff_formedWith.2 (check_formedWith fuel s v c h (Json.wellFormed_iff_formedWith.1 hv))

/-! ## Checking what is well typed -/


/-- What a record check stores for a given field: the field's checked value, when the record
declares the field and its check passes. -/
def checkedField? (chk : Shape → Json → Except String Json) (fields : List (String × Shape × Bool))
    (k : String) (v : Json) : Option Json :=
  (fields.find? (·.1 == k)).bind fun e => (chk e.2.1 v).toOption

section Collect

variable {chk : Shape → Json → Except String Json} {fields : List (String × Shape × Bool)}

/-- The loop of a record check over sorted given fields that all pass: every declared field
is stored with its checked value, over what the loop started from. -/
theorem forIn_fieldStep {given : List (String × Json)} (hs : Json.Sorted given)
    (hok : ∀ kv ∈ given, ∀ e, fields.find? (·.1 == kv.1) = some e → ∃ c, chk e.2.1 kv.2 = .ok c)
    (acc : List (String × Json)) :
    ∃ out, forIn given acc (fieldStep chk fields) = .ok out ∧ (Json.Sorted acc → Json.Sorted out) ∧
      ∀ k, Json.lookup k out
        = ((Json.lookup k given).bind (checkedField? chk fields k)).or (Json.lookup k acc) := by
  induction given generalizing acc with
  | nil => exact ⟨acc, rfl, id, fun k => by simp [Json.lookup]⟩
  | cons kv rest ih =>
    obtain ⟨k0, v0⟩ := kv
    have hrest : Json.Sorted rest := (List.pairwise_cons.1 hs).2
    -- the head key comes once: the rest has only greater keys
    have hnone : Json.lookup k0 rest = none :=
      Json.lookup_eq_none fun b hb => ne_of_gt ((List.pairwise_cons.1 hs).1 b hb)
    have ih' := ih hrest fun kv hkv => hok kv (List.mem_cons_of_mem _ hkv)
    cases hfind : fields.find? (·.1 == k0) with
    | none =>
      obtain ⟨out, hloop, hsorted, hout⟩ := ih' acc
      refine ⟨out, ?_, hsorted, fun k => ?_⟩
      · simp only [List.forIn_cons, fieldStep, hfind]
        exact hloop
      · rw [hout]
        by_cases hk : k0 = k
        · subst hk
          simp [Json.lookup, hnone, checkedField?, hfind]
        · simp [Json.lookup, hk]
    | some e =>
      obtain ⟨c, hc⟩ := hok (k0, v0) List.mem_cons_self e hfind
      obtain ⟨out, hloop, hsorted, hout⟩ := ih' (Json.setField k0 c acc)
      refine ⟨out, ?_, fun h => hsorted (Json.sorted_setField h), fun k => ?_⟩
      · simp only [List.forIn_cons, fieldStep, hfind]
        simp only at hc
        simp only [hc]
        exact hloop
      · rw [hout]
        by_cases hk : k0 = k
        · subst hk
          simp [Json.lookup, hnone, checkedField?, hfind, hc, Json.lookup_setField_self, Except.toOption]
        · simp [Json.lookup, hk, Json.lookup_setField_ne _ _ (Ne.symm hk)]

/-- The required fields of a record are all there. -/
theorem forIn_requireStep {out : List (String × Json)} :
    ∀ {fields : List (String × Shape × Bool)},
      (∀ e ∈ fields, e.2.2 = true → Json.hasField e.1 out = true) →
      forIn fields () (requireStep out) = .ok ()
  | [], _ => rfl
  | e :: rest, h => by
    have he := h e List.mem_cons_self
    simp only [List.forIn_cons, requireStep]
    rw [if_neg (by cases hr : e.2.2 <;> simp_all)]
    exact forIn_requireStep fun e' he' => h e' (List.mem_cons_of_mem _ he')

/-- A record given as a sorted object whose fields all pass, with every required field
there, checks to the object of its declared fields, each with its checked value. -/
theorem checkFields_ok {given : List (String × Json)} (hs : Json.Sorted given)
    (hok : ∀ k v, Json.lookup k given = some v →
      ∀ e, fields.find? (·.1 == k) = some e → ∃ c, chk e.2.1 v = .ok c)
    (hreq : ∀ e ∈ fields, e.2.2 = true → (Json.lookup e.1 given).isSome) :
    ∃ out, checkFields chk fields given = .ok (.obj out) ∧ Json.Sorted out ∧
      ∀ k, Json.lookup k out = (Json.lookup k given).bind (checkedField? chk fields k) := by
  obtain ⟨out, hloop, hsorted, hout⟩ :=
    forIn_fieldStep hs (fun kv hkv e he => hok kv.1 kv.2 (Json.lookup_of_mem hs hkv) e he) []
  have hout' : ∀ k, Json.lookup k out = (Json.lookup k given).bind (checkedField? chk fields k) :=
    fun k => by simp [hout, Json.lookup]
  refine ⟨out, ?_, hsorted .nil, hout'⟩
  -- each required field is given and declared, so its checked value is stored
  have hall : ∀ e ∈ fields, e.2.2 = true → Json.hasField e.1 out = true := by
    intro e he hr
    obtain ⟨v, hv⟩ := Option.isSome_iff_exists.1 (hreq e he hr)
    obtain ⟨e', he'⟩ : ∃ e', fields.find? (·.1 == e.1) = some e' :=
      Option.isSome_iff_exists.1 (List.find?_isSome.2 ⟨e, he, by simp⟩)
    obtain ⟨c, hc⟩ := hok e.1 v hv e' he'
    simp [Json.hasField, hout', hv, checkedField?, he', hc, Except.toOption]
  rw [checkFields_eq, hloop]
  show (fun _ => Json.obj out) <$> forIn fields () (requireStep out) = _
  rw [forIn_requireStep hall]
  rfl

end Collect

/-! ### Values the check returns unchanged -/

/-- The check returns `v` itself at every fuel from `n` on. -/
def KeepsFrom (n : Nat) (s : Shape) (v : Json) : Prop := ∀ fuel, n ≤ fuel → check fuel s v = .ok v

theorem KeepsFrom.mono {n m : Nat} {s : Shape} {v : Json} (h : KeepsFrom n s v) (hnm : n ≤ m) :
    KeepsFrom m s v :=
  fun fuel hf => h fuel (le_trans hnm hf)

theorem keepsFrom_any (v : Json) : KeepsFrom 1 .any v := fun fuel hf => by
  obtain ⟨g, rfl⟩ : ∃ g, fuel = g + 1 := ⟨fuel - 1, by omega⟩
  -- `check` is structural in its fuel: one step of it on a given shape reduces by definition
  rfl

theorem keepsFrom_string (t : String) : KeepsFrom 1 .string (.str t) := fun fuel hf => by
  obtain ⟨g, rfl⟩ : ∃ g, fuel = g + 1 := ⟨fuel - 1, by omega⟩
  rfl

theorem keepsFrom_boolean (b : Bool) : KeepsFrom 1 .boolean (.bool b) := fun fuel hf => by
  obtain ⟨g, rfl⟩ : ∃ g, fuel = g + 1 := ⟨fuel - 1, by omega⟩
  rfl

theorem keepsFrom_float (x : Float) : KeepsFrom 1 .float (.float x) := fun fuel hf => by
  obtain ⟨g, rfl⟩ : ∃ g, fuel = g + 1 := ⟨fuel - 1, by omega⟩
  rfl

theorem keepsFrom_usize {n : Int} (hn : 0 ≤ n) : KeepsFrom 1 .usize (.int n) := fun fuel hf => by
  obtain ⟨g, rfl⟩ : ∃ g, fuel = g + 1 := ⟨fuel - 1, by omega⟩
  exact if_pos hn

theorem keepsFrom_u64 {n : Int} (hn : 0 ≤ n) : KeepsFrom 1 .u64 (.int n) := fun fuel hf => by
  obtain ⟨g, rfl⟩ : ∃ g, fuel = g + 1 := ⟨fuel - 1, by omega⟩
  exact if_pos hn

/-- A choice keeps a name whose first spelling is itself. -/
theorem keepsFrom_choice {sp : List (String × String)} {n : String}
    (h : sp.find? (·.1 == n) = some (n, n)) : KeepsFrom 1 (.choice sp) (.str n) := fun fuel hf => by
  obtain ⟨g, rfl⟩ : ∃ g, fuel = g + 1 := ⟨fuel - 1, by omega⟩
  show checkChoice sp (.str n) = _
  unfold checkChoice
  dsimp only
  rw [h]

@[simp] theorem keepsFrom_list {n : Nat} {s : Shape} {xs : List Json} (h : ∀ x ∈ xs, KeepsFrom n s x) :
    KeepsFrom (n + 1) (.list s) (.arr xs) := fun fuel hf => by
  obtain ⟨g, rfl⟩ : ∃ g, fuel = g + 1 := ⟨fuel - 1, by omega⟩
  have hxs : xs.mapM (check g s) = .ok xs := mapM_ok_self fun x hx => h x hx g (by omega)
  show xs.mapM (check g s) >>= (fun ys => pure (Json.arr ys)) = _
  rw [hxs]
  rfl

@[simp] theorem keepsFrom_dict {n : Nat} {s : Shape} {fs : List (String × Json)}
    (h : ∀ kv ∈ fs, KeepsFrom n s kv.2) : KeepsFrom (n + 1) (.dict s) (.obj fs) := fun fuel hf => by
  obtain ⟨g, rfl⟩ : ∃ g, fuel = g + 1 := ⟨fuel - 1, by omega⟩
  show fs.mapM _ >>= (fun ys => pure (Json.obj ys)) = _
  rw [mapM_ok_self fun kv hkv => ?_]
  · rfl
  · obtain ⟨k, x⟩ := kv
    have hx := h (k, x) hkv g (by omega)
    simp only at hx
    simp [hx]

theorem check_option_of_ne_null {fuel : Nat} {s : Shape} {v : Json} (hv : v ≠ .null) :
    check (fuel + 1) (.option s) v = check fuel s v := by
  cases v
  · exact absurd rfl hv
  all_goals rfl

theorem keepsFrom_option_null (s : Shape) : KeepsFrom 1 (.option s) .null := fun fuel hf => by
  obtain ⟨g, rfl⟩ : ∃ g, fuel = g + 1 := ⟨fuel - 1, by omega⟩
  rfl

/-- An optional value keeps what its inner shape keeps, with one more unit of fuel. -/
theorem keepsFrom_option {n : Nat} {s : Shape} {v : Json} (h : KeepsFrom n s v) :
    KeepsFrom (n + 1) (.option s) v := fun fuel hf => by
  obtain ⟨g, rfl⟩ : ∃ g, fuel = g + 1 := ⟨fuel - 1, by omega⟩
  by_cases hv : v = .null
  · subst hv
    rfl
  · rw [check_option_of_ne_null hv]
    exact h g (by omega)

/-! The same facts as rewrite rules, so that `simp` reduces what a record keeps to the
fuel each field needs. -/

/-- No value is kept without fuel. -/
theorem KeepsFrom.one_le {n : Nat} {s : Shape} {v : Json} (h : KeepsFrom n s v) : 1 ≤ n := by
  rcases Nat.eq_zero_or_pos n with rfl | hn
  · have h0 := h 0 le_rfl
    cases h0
  · exact hn

@[simp] theorem keepsFrom_any_iff {n : Nat} {v : Json} : KeepsFrom n .any v ↔ 1 ≤ n :=
  ⟨KeepsFrom.one_le, (keepsFrom_any v).mono⟩

@[simp] theorem keepsFrom_string_iff {n : Nat} {t : String} : KeepsFrom n .string (.str t) ↔ 1 ≤ n :=
  ⟨KeepsFrom.one_le, (keepsFrom_string t).mono⟩

@[simp] theorem keepsFrom_boolean_iff {n : Nat} {b : Bool} : KeepsFrom n .boolean (.bool b) ↔ 1 ≤ n :=
  ⟨KeepsFrom.one_le, (keepsFrom_boolean b).mono⟩

@[simp] theorem keepsFrom_float_iff {n : Nat} {x : Float} : KeepsFrom n .float (.float x) ↔ 1 ≤ n :=
  ⟨KeepsFrom.one_le, (keepsFrom_float x).mono⟩

@[simp] theorem keepsFrom_option_iff {n : Nat} {s : Shape} {v : Json} :
    KeepsFrom (n + 1) (.option s) v ↔ v = .null ∨ KeepsFrom n s v := by
  constructor
  · intro h
    by_cases hv : v = .null
    · exact .inl hv
    · -- below the option, the inner shape sees the same value with one unit less
      refine .inr fun fuel hf => ?_
      rw [← check_option_of_ne_null hv]
      exact h (fuel + 1) (by omega)
  · rintro (rfl | h)
    · exact (keepsFrom_option_null s).mono (by omega)
    · exact keepsFrom_option h

/-- A field the record keeps is stored as it is. -/
theorem checkedField?_of_keepsFrom {fields : List (String × Shape × Bool)} {k : String} {v : Json}
    {n g : Nat} {e : String × Shape × Bool} (he : fields.find? (·.1 == k) = some e)
    (hk : KeepsFrom n e.2.1 v) (hn : n ≤ g) : checkedField? (check g) fields k v = some v := by
  simp [checkedField?, he, hk g hn, Except.toOption]

/-- A record keeps a sorted object whose fields it declares and keeps, when every required
field is there. -/
theorem keepsFrom_record {n : Nat} {name : String} {fields : List (String × Shape × Bool)}
    {given : List (String × Json)} (hs : Json.Sorted given)
    (hk : ∀ k v, Json.lookup k given = some v →
      ∃ e, fields.find? (·.1 == k) = some e ∧ KeepsFrom n e.2.1 v)
    (hreq : ∀ e ∈ fields, e.2.2 = true → (Json.lookup e.1 given).isSome) :
    KeepsFrom (n + 1) (.record name fields) (.obj given) := fun fuel hf => by
  obtain ⟨g, rfl⟩ : ∃ g, fuel = g + 1 := ⟨fuel - 1, by omega⟩
  obtain ⟨out, hc, hsorted, hout⟩ := checkFields_ok hs (fun k v hv e he => by
      obtain ⟨e', he', hkv⟩ := hk k v hv
      rw [he] at he'
      cases he'
      exact ⟨v, hkv g (by omega)⟩) hreq
  -- every field is kept, so the stored list reads as the given one
  have heq : out = given := Json.eq_of_lookup_eq hsorted hs fun k => by
    rw [hout]
    cases hv : Json.lookup k given with
    | none => rfl
    | some v =>
      obtain ⟨e, he, hkv⟩ := hk k v hv
      exact checkedField?_of_keepsFrom he hkv (by omega)
  show checkFields (check g) fields given = _
  rw [hc, heq]

end Shape

end Storyboard

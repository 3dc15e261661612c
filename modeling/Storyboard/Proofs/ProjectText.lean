import Storyboard.Proofs.Written
import Storyboard.Proofs.ScanText

/-!
# Project files printed and parsed again

A project is read from text by scanning it against `Shape.project`, and from a value in memory
by checking the value against the same shape. Here the two meet: a value `Decodes` against a
shape when its check and the scan of its compact text give the same result. Each writer's
output decodes, field by field, to something the matching reader turns back into what was
written, and so a project parsed from text and printed again parses back to itself.

* `Shape.check_mono`: more fuel keeps a finished check;
* the combinators: `Shape.decodes_list`, `Shape.decodes_record` and `Shape.decodes_written`
  for records, `Shape.decodes_written_kept` for records kept as they are;
* one lemma per writer: `Shape.decodes_settings`, `Shape.decodes_stateVariable`,
  `Shape.decodes_trigger`, `Shape.decodes_action` and `Shape.decodes_actions`,
  `Shape.decodes_event`, `Shape.decodes_widget`, `Shape.decodes_project`;
* `Project.parse_render_parsed`: the text round trip of a parsed project, under what the
  printer and reader of doubles are trusted with.
-/

namespace Storyboard

section Loops

variable {α β ε : Type}

/-- A map in `Except` that succeeds succeeds alike with steps that keep every success. -/
theorem mapM_mono {f g : α → Except ε β} (hfg : ∀ x y, f x = .ok y → g x = .ok y) {xs : List α} :
    ∀ {ys : List β}, xs.mapM f = .ok ys → xs.mapM g = .ok ys := by
  induction xs with
  | nil => exact id
  | cons x xs ih =>
    intro ys h
    rw [List.mapM_cons] at h ⊢
    obtain ⟨y, hy, h⟩ := except_bind_eq_ok.1 h
    obtain ⟨ys', hys', h⟩ := except_bind_eq_ok.1 h
    rw [hfg x y hy, ih hys']
    exact h

/-- A loop in `Except` that succeeds succeeds alike with steps that keep every success. -/
theorem forIn_mono {xs : List α} {f g : α → β → Except ε (ForInStep β)}
    (hfg : ∀ x b r, f x b = .ok r → g x b = .ok r) : ∀ {b b' : β}, forIn xs b f = .ok b' → forIn xs b g = .ok b' := by
  induction xs with
  | nil => exact id
  | cons x xs ih =>
    intro b b' h
    simp only [List.forIn_cons] at h ⊢
    obtain ⟨r, hx, h⟩ := except_bind_eq_ok.1 h
    rw [hfg x b r hx]
    cases r with
    | done c => exact h
    | yield c => exact ih h

end Loops

namespace Shape

section Mono

variable {chk chk' : Shape → Json → Except String Json} (hchk : ∀ s v c, chk s v = .ok c → chk' s v = .ok c)
include hchk

theorem checkFields_mono {fields : List (String × Shape × Bool)} {fs : List (String × Json)} {c : Json}
    (h : checkFields chk fields fs = .ok c) : checkFields chk' fields fs = .ok c := by
  rw [checkFields_eq] at h ⊢
  obtain ⟨out, hl, h⟩ := except_bind_eq_ok.1 h
  refine except_bind_eq_ok.2 ⟨out, forIn_mono (fun x b r hx => ?_) hl, h⟩
  unfold fieldStep at hx ⊢
  split at hx
  · obtain ⟨c, hc, hx⟩ := except_bind_eq_ok.1 hx
    exact except_bind_eq_ok.2 ⟨c, hchk _ _ _ hc, hx⟩
  · exact hx

theorem checkPositional_mono {name : String} {fields : List (String × Shape × Bool)} {xs : List Json} {c : Json}
    (h : checkPositional chk name fields xs = .ok c) : checkPositional chk' name fields xs = .ok c := by
  unfold checkPositional at h ⊢
  obtain ⟨st, hl, h⟩ := except_bind_eq_ok.1 h
  refine except_bind_eq_ok.2 ⟨st, forIn_mono (fun x b r hx => ?_) hl, h⟩
  simp only at hx ⊢
  split at hx
  · obtain ⟨c, hc, hx⟩ := except_bind_eq_ok.1 hx
    exact except_bind_eq_ok.2 ⟨c, hchk _ _ _ hc, hx⟩
  · exact hx

end Mono

/-- More fuel keeps a finished check: the check stops early only for want of fuel. -/
theorem check_mono (n : Nat) : ∀ (s : Shape) (v c : Json), check n s v = .ok c →
    ∀ m, n ≤ m → check m s v = .ok c := by
  induction n with
  | zero => intro s v c h; cases h
  | succ n ihn =>
    intro s v c h m hm
    obtain ⟨m, rfl⟩ : ∃ k, m = k + 1 := ⟨m - 1, by omega⟩
    have ih : ∀ s v c, check n s v = .ok c → check m s v = .ok c :=
      fun s v c h => ihn s v c h m (by omega)
    unfold check at h ⊢
    -- the same branch is taken at both fuels; only the recursive checks see the fuel
    split at h
    case h_9 => exact ih _ _ _ h
    case h_10 =>
      obtain ⟨ys, hys, h⟩ := except_bind_eq_ok.1 h
      exact except_bind_eq_ok.2 ⟨ys, mapM_mono (ih _) hys, h⟩
    case h_11 =>
      obtain ⟨ys, hys, h⟩ := except_bind_eq_ok.1 h
      refine except_bind_eq_ok.2 ⟨ys, mapM_mono (fun kx kc hkc => ?_) hys, h⟩
      obtain ⟨c, hc, hkc⟩ := except_bind_eq_ok.1 hkc
      exact except_bind_eq_ok.2 ⟨c, ih _ _ _ hc, hkc⟩
    case h_13 => exact checkFields_mono ih h
    case h_14 => exact checkPositional_mono ih h
    case h_15 =>
      obtain ⟨raw, hraw, h⟩ := except_bind_eq_ok.1 h
      refine except_bind_eq_ok.2 ⟨raw, ih _ _ _ hraw, ?_⟩
      simp only at h ⊢
      split at h
      · split at h
        · rename_i hp
          rw [ih _ _ _ hp]
          exact h
        · cases h
      · exact h
    all_goals exact h

theorem ChecksFrom.of_check {n : Nat} {s : Shape} {v c : Json} (h : check n s v = .ok c) : ChecksFrom n s v c :=
  fun fuel hf => check_mono n s v c h fuel hf

/-! ## Values that decode alike from memory and from text -/

/-- `v` checks against `s` to `c`, and its compact text scans against `s` to the same `c`. -/
def Decodes (w : Nat) (s : Shape) (v c : Json) : Prop := s.checkValue v = .ok c ∧ ScansAs w s v c

section Decodes

variable {w : Nat} {s : Shape} {v c : Json}

theorem Decodes.mono {w' : Nat} (h : Decodes w s v c) (hw : w ≤ w') : Decodes w' s v c := ⟨h.1, h.2.mono hw⟩

theorem Decodes.checksFrom (h : Decodes w s v c) : ChecksFrom (v.depth + 2) s v c := ChecksFrom.of_check h.1

theorem decodes_of_keepsFrom {n : Nat} (hk : KeepsFrom n s v) (hn : n ≤ v.depth + 2) (hs : ScansAs w s v v) :
    Decodes w s v v :=
  ⟨hk _ hn, hs⟩

theorem decodes_list {xs cs : List Json} (h : List.Forall₂ (Decodes w s) xs cs) :
    Decodes w (.list s) (.arr xs) (.arr cs) :=
  ⟨checksFrom_list (h.imp fun _ _ hx => hx.checksFrom) _ le_rfl, scansAs_list (h.imp fun _ _ hx => hx.2)⟩

theorem storedField_of_decodes {fields : List (String × Shape × Bool)} {G : List (String × Json)} {k : String}
    {e : String × Shape × Bool} (hv : Json.lookup k G = some v) (he : fields.find? (·.1 == k) = some e)
    (hd : Decodes w e.2.1 v c) : storedField fields G k = some c :=
  storedField_of_checksFrom hv he hd.checksFrom

theorem storedField_of_decodes_opt {fields : List (String × Shape × Bool)} {G : List (String × Json)} {k : String}
    {e : String × Shape × Bool} {o : Option Json} (hv : Json.lookup k G = o)
    (he : fields.find? (·.1 == k) = some e) (hd : ∀ x ∈ o, Decodes w e.2.1 x x) : storedField fields G k = o := by
  rcases o with _ | x
  · exact storedField_of_lookup_none hv
  · exact storedField_of_decodes hv he (hd x rfl)

theorem lookup_map_key (f : String → Json) (k : String) :
    ∀ G : List (String × Json), Json.lookup k (G.map fun kx => (kx.1, f kx.1)) = (Json.lookup k G).map fun _ => f k
  | [] => rfl
  | (k', x) :: G => by
    by_cases hk : k' = k
    · subst hk
      simp [Json.lookup]
    · simp [Json.lookup, hk, lookup_map_key f k G]

/-- A record given as a sorted object of declared fields that decode, with its required fields
there, decodes from memory and from text to the object of what `storedField` says. -/
theorem decodes_record {name : String} {fields : List (String × Shape × Bool)} {G : List (String × Json)}
    (hs : Json.Sorted G)
    (hk : ∀ k x, (k, x) ∈ G → ∃ e c, fields.find? (·.1 == k) = some e ∧ Decodes w e.2.1 x c)
    (hreq : ∀ e ∈ fields, e.2.2 = true → e.1 ∈ G.map Prod.fst) :
    ∃ out, Decodes w (.record name fields) (.obj G) (.obj out) ∧ Json.Sorted out ∧
      ∀ k, Json.lookup k out = storedField fields G k := by
  have hchecks : ∀ k x, Json.lookup k G = some x →
      ∃ e c, fields.find? (·.1 == k) = some e ∧ ChecksFrom (x.depth + 2) e.2.1 x c := fun k x hx => by
    obtain ⟨e, c, he, hd⟩ := hk k x (Json.mem_of_lookup_eq_some hx)
    exact ⟨e, c, he, hd.checksFrom⟩
  have hpresent : ∀ e ∈ fields, e.2.2 = true → (Json.lookup e.1 G).isSome := fun e he hr => by
    obtain ⟨⟨k, x⟩, hkx, hk⟩ := List.mem_map.1 (hreq e he hr)
    subst hk
    exact Json.isSome_lookup_of_mem hkx
  obtain ⟨out, hc, hsorted, hout⟩ := checkFields_stored hs hchecks hpresent (g := (Json.obj G).depth + 1) le_rfl
  -- what the check stores under each key is what the key's text scans to
  have hstored : ∀ k x, (k, x) ∈ G → ∃ e c, fields.find? (·.1 == k) = some e ∧
      storedField fields G k = some c ∧ ScansAs w e.2.1 x c := fun k x hkx => by
    obtain ⟨e, c, he, hd⟩ := hk k x hkx
    exact ⟨e, c, he, storedField_of_checksFrom (Json.lookup_of_mem hs hkx) he hd.checksFrom, hd.2⟩
  let cs := G.map fun kx => (kx.1, (storedField fields G kx.1).getD .null)
  have hrel : List.Forall₂ (fun kx kc => kx.1 = kc.1 ∧
      ∃ e, fields.find? (·.1 == kx.1) = some e ∧ ScansAs w e.2.1 kx.2 kc.2) G cs := by
    refine List.forall₂_map_right_iff.2 (List.forall₂_same.2 fun ⟨k, x⟩ hkx => ?_)
    obtain ⟨e, c, he, hsf, hsc⟩ := hstored k x hkx
    exact ⟨rfl, e, he, by simpa [hsf] using hsc⟩
  have hcs : out = cs := Json.eq_of_lookup_eq hsorted (Json.sorted_of_keys_eq (keys_eq_of_forall₂ hrel) hs)
    fun k => by
      rw [hout, lookup_map_key (fun k => (storedField fields G k).getD .null)]
      cases hx : Json.lookup k G with
      | none => exact storedField_of_lookup_none hx
      | some x =>
        obtain ⟨e, c, -, hsf, -⟩ := hstored k x (Json.mem_of_lookup_eq_some hx)
        simp [hsf]
  refine ⟨out, ⟨hc, ?_⟩, hsorted, hout⟩
  rw [hcs]
  exact scansAs_record hs hrel hreq

/-- A written object of declared fields that decode, with its required fields written and its
doubles reading back, decodes from memory and from text to the object of what `storedField`
says. -/
theorem decodes_written {name : String} {fields : List (String × Shape × Bool)} {fs : List (String × Json)}
    (hs : s = .record name fields) (hf : (Write.obj fs).FormedWith Json.ReadsBack)
    (hk : ∀ k x, (k, x) ∈ fs → x.FormedWith Json.ReadsBack →
      ∃ e c, fields.find? (·.1 == k) = some e ∧ Decodes w e.2.1 x c)
    (hreq : ∀ e ∈ fields, e.2.2 = true → ∃ x, (e.1, x) ∈ fs) :
    ∃ out, Decodes w s (Write.obj fs) (.obj out) ∧ Json.Sorted out ∧
      ∀ k, Json.lookup k out = storedField fields (Json.merge [] fs) k := by
  subst hs
  rw [Write.obj_eq]
  refine decodes_record (Json.sorted_merge fs .nil)
    (fun k x h => hk k x (Json.mem_of_mem_merge_nil h) (Write.formedWith_of_mem hf h)) fun e he hr => ?_
  -- a required key written is a key of the object built
  obtain ⟨x, hx⟩ := hreq e he hr
  have hsome : (Json.lookup e.1 (Json.merge [] fs)).isSome := by
    rw [Json.lookup_merge_nil]
    exact Json.isSome_lookup_of_mem (List.mem_reverse.2 hx)
  obtain ⟨y, hy⟩ := Option.isSome_iff_exists.1 hsome
  exact List.mem_map.2 ⟨(e.1, y), Json.mem_of_lookup_eq_some hy, rfl⟩

/-- A written object whose every field decodes to itself decodes to itself. -/
theorem decodes_written_kept {name : String} {fields : List (String × Shape × Bool)} {fs : List (String × Json)}
    (hf : (Write.obj fs).FormedWith Json.ReadsBack)
    (hk : ∀ k x, (k, x) ∈ fs → x.FormedWith Json.ReadsBack →
      ∃ e, fields.find? (·.1 == k) = some e ∧ Decodes w e.2.1 x x)
    (hreq : ∀ e ∈ fields, e.2.2 = true → ∃ x, (e.1, x) ∈ fs) :
    Decodes w (.record name fields) (Write.obj fs) (Write.obj fs) := by
  obtain ⟨out, hd, hsorted, hout⟩ := decodes_written rfl hf (fun k x h hx => by
    obtain ⟨e, he, hd⟩ := hk k x h hx
    exact ⟨e, x, he, hd⟩) hreq
  rw [Write.obj_eq] at hd ⊢
  -- every key is stored with the value written under it
  have heq : out = Json.merge [] fs := Json.eq_of_lookup_eq hsorted (Json.sorted_merge fs .nil) fun k => by
    rw [hout]
    cases hx : Json.lookup k (Json.merge [] fs) with
    | none => exact storedField_of_lookup_none hx
    | some x =>
      have hm := Json.mem_of_lookup_eq_some hx
      obtain ⟨e, he, hdx⟩ := hk k x (Json.mem_of_mem_merge_nil hm) (Write.formedWith_of_mem hf hm)
      exact storedField_of_decodes hx he hdx
  rw [heq] at hd
  exact hd

/-- Items that each decode, written as a list, decode to a list of what they decode to. -/
theorem decodes_forall₂ {α : Type} {write : α → Json} {P : α → Json → Prop} {xs : List α}
    (h : ∀ x ∈ xs, ∃ c, Decodes w s (write x) c ∧ P x c) :
    ∃ cs, Decodes w (.list s) (.arr (xs.map write)) (.arr cs) ∧ List.Forall₂ P xs cs := by
  have hpairs : ∃ cs, List.Forall₂ (Decodes w s) (xs.map write) cs ∧ List.Forall₂ P xs cs := by
    induction xs with
    | nil => exact ⟨[], .nil, .nil⟩
    | cons x xs ih =>
      obtain ⟨c, hc, hp⟩ := h x List.mem_cons_self
      obtain ⟨cs, hcs, hps⟩ := ih fun y hy => h y (List.mem_cons_of_mem _ hy)
      exact ⟨c :: cs, .cons hc hcs, .cons hp hps⟩
  obtain ⟨cs, hcs, hps⟩ := hpairs
  exact ⟨cs, decodes_list hcs, hps⟩

/-- Items that each decode and read back, written as a list, decode to a list that reads back
as them. -/
theorem decodes_map {α : Type} {write : α → Json} {read : Json → α} {xs : List α}
    (h : ∀ x ∈ xs, ∃ c, Decodes w s (write x) c ∧ read c = x) :
    ∃ cs, Decodes w (.list s) (.arr (xs.map write)) (.arr cs) ∧ cs.map read = xs := by
  obtain ⟨cs, hd, hread⟩ := decodes_forall₂ fun x hx => (h x hx).imp fun c hc => ⟨hc.1, hc.2.symm⟩
  have hmap := List.forall₂_map_right_iff.2 hread
  rw [List.forall₂_eq_eq_eq] at hmap
  exact ⟨cs, hd, hmap.symm⟩

end Decodes

/-! ## Values kept as they are -/

section Kept

theorem decodes_string (t : String) : Decodes 0 .string (.str t) (.str t) :=
  decodes_of_keepsFrom (keepsFrom_string t) (by omega) (scansAs_string t)

theorem decodes_float {x : Float} (hx : Json.ReadsBack x) : Decodes 0 .float (.float x) (.float x) :=
  decodes_of_keepsFrom (keepsFrom_float x) (by omega) (scansAs_float hx)

theorem decodes_any {v : Json} (hv : v.FormedWith Json.ReadsBack) : Decodes 0 .any v v :=
  decodes_of_keepsFrom (keepsFrom_any v) (by omega) (scansAs_any hv.wellFormed hv.everyDouble)

theorem decodes_choice {sp : List (String × String)} {n : String} (h : sp.find? (·.1 == n) = some (n, n)) :
    Decodes 0 (.choice sp) (.str n) (.str n) :=
  decodes_of_keepsFrom (keepsFrom_choice h) (by omega) (scansAs_choice h)

theorem decodes_nat {s : Shape} {m : Nat} (hm : m < 2 ^ 64) (hs : s = .u64 ∨ s = .usize) :
    Decodes 0 s (.int m) (.int m) := by
  have hk : KeepsFrom 1 s (.int m) := by
    rcases hs with rfl | rfl
    · exact keepsFrom_u64 (by omega)
    · exact keepsFrom_usize (by omega)
  exact decodes_of_keepsFrom hk (by omega) (scansAs_nat hm hs)

/-- A value other than `null` kept by a shape, and scanning to itself, decodes to itself as an
optional value of the shape. -/
theorem decodes_option {n : Nat} (hk : KeepsFrom n s v) (hn : n + 1 ≤ v.depth + 2) (hv : v ≠ .null)
    (hs : ScansAs w s v v) : Decodes (w + 1) (.option s) v v :=
  decodes_of_keepsFrom (keepsFrom_option hk) hn (scansAs_option hv hs)

theorem decodes_option_string (t : String) : Decodes 1 (.option .string) (.str t) (.str t) :=
  decodes_option (keepsFrom_string t) (by omega) (by simp) (scansAs_string t)

theorem decodes_option_boolean (b : Bool) : Decodes 1 (.option .boolean) (.bool b) (.bool b) :=
  decodes_option (keepsFrom_boolean b) (by omega) (by simp) (scansAs_boolean b)

theorem keepsFrom_texts (xs : List String) : KeepsFrom 2 (.list .string) (Write.texts xs) :=
  keepsFrom_list fun x hx => by
    obtain ⟨t, -, rfl⟩ := List.mem_map.1 hx
    exact keepsFrom_string t

theorem decodes_texts (xs : List String) : Decodes 0 (.list .string) (Write.texts xs) (Write.texts xs) :=
  decodes_list (List.forall₂_same.2 fun x hx => by
    obtain ⟨t, -, rfl⟩ := List.mem_map.1 hx
    exact decodes_string t)

theorem decodes_option_texts (xs : List String) :
    Decodes 1 (.option (.list .string)) (Write.texts xs) (Write.texts xs) :=
  decodes_option (keepsFrom_texts xs) (by have := Json.one_le_depth (Write.texts xs); omega)
    (by simp [Write.texts]) (decodes_texts xs).2

theorem decodes_dict_any {fs : List (String × Json)} (hf : (Json.obj fs).FormedWith Json.ReadsBack) :
    Decodes 0 (.dict .any) (.obj fs) (.obj fs) := by
  cases hf with
  | obj hs hfs =>
    exact decodes_of_keepsFrom (keepsFrom_dict fun kv _ => keepsFrom_any kv.2)
      (by have := Json.one_le_depth (.obj fs); omega)
      (scansAs_dict hs (List.forall₂_same.2 fun kv hkv => ⟨rfl, (decodes_any (hfs kv hkv)).2⟩))

/-- A record of two required doubles, written, decodes to itself. -/
theorem decodes_two_floats {name k1 k2 : String} {x y : Float} (hk : k1 ≠ k2)
    (hf : (Write.obj [(k1, .float x), (k2, .float y)]).FormedWith Json.ReadsBack) :
    Decodes 0 (.record name [req k1 .float, req k2 .float]) (Write.obj [(k1, .float x), (k2, .float y)])
      (Write.obj [(k1, .float x), (k2, .float y)]) := by
  refine decodes_written_kept hf (fun k v h hv => ?_) (by simp [req_eq])
  simp only [List.mem_cons, List.not_mem_nil, or_false, Prod.mk.injEq] at h
  rcases h with ⟨rfl, rfl⟩ | ⟨rfl, rfl⟩
  · exact ⟨req k .float, by simp [req_eq], decodes_float hv.readsBack_float⟩
  · exact ⟨req k .float, by simp [req_eq, hk], decodes_float hv.readsBack_float⟩

theorem decodes_settings (st : Settings) (hf : (Write.settings st).FormedWith Json.ReadsBack) :
    Decodes 0 .config (Write.settings st) (Write.settings st) := by
  refine decodes_written_kept hf (fun k x h hx => ?_) (by simp [opt_eq])
  simp only [List.mem_cons, List.not_mem_nil, or_false, Prod.mk.injEq] at h
  rcases h with ⟨rfl, rfl⟩ | ⟨rfl, rfl⟩ | ⟨rfl, rfl⟩
  · exact ⟨_, rfl, decodes_nat hx.natCast_lt (.inr rfl)⟩
  · exact ⟨_, rfl, decodes_texts _⟩
  · exact ⟨_, rfl, decodes_nat hx.natCast_lt (.inl rfl)⟩

theorem decodes_stateVariable (sv : StateVariable) (hf : (Write.stateVariable sv).FormedWith Json.ReadsBack) :
    Decodes 1 .stateVariable (Write.stateVariable sv) (Write.stateVariable sv) := by
  refine decodes_written_kept hf (fun k x h hx => ?_) (by simp [req_eq, opt_eq])
  simp only [List.mem_append, List.mem_cons, List.not_mem_nil, or_false, Write.mem_opt, Prod.mk.injEq,
    or_assoc] at h
  rcases h with ⟨rfl, rfl⟩ | ⟨rfl, rfl⟩ | ⟨rfl, rfl⟩ | ⟨rfl, rfl⟩ | ⟨rfl, rfl⟩ | ⟨rfl, hd⟩
  · exact ⟨_, rfl, (decodes_string _).mono (by omega)⟩
  · exact ⟨_, rfl, (decodes_string _).mono (by omega)⟩
  · exact ⟨_, rfl, (decodes_choice (by cases sv.varType <;> rfl)).mono (by omega)⟩
  · exact ⟨_, rfl, (decodes_any hx).mono (by omega)⟩
  · exact ⟨_, rfl, (decodes_choice (by cases sv.scope <;> rfl)).mono (by omega)⟩
  · obtain ⟨t, -, rfl⟩ := Option.map_eq_some_iff.1 hd
    exact ⟨_, rfl, decodes_option_string t⟩

theorem decodes_trigger (t : Trigger) (hf : (Write.trigger t).FormedWith Json.ReadsBack) :
    Decodes 1 .trigger (Write.trigger t) (Write.trigger t) := by
  refine decodes_written_kept hf (fun k x h hx => ?_) (by simp [req_eq, opt_eq])
  simp only [List.mem_append, List.mem_cons, List.not_mem_nil, or_false, Write.mem_opt, Prod.mk.injEq,
    or_assoc] at h
  rcases h with ⟨rfl, rfl⟩ | ⟨rfl, hd⟩ | ⟨rfl, hd⟩
  · exact ⟨_, rfl, (decodes_choice (by cases t.kind <;> rfl)).mono (by omega)⟩
  · obtain ⟨n, -, rfl⟩ := Option.map_eq_some_iff.1 hd
    exact ⟨_, rfl, decodes_option_string n⟩
  · obtain ⟨n, -, rfl⟩ := Option.map_eq_some_iff.1 hd
    exact ⟨_, rfl, decodes_option_string n⟩

end Kept

/-! ## Actions, events, widgets and projects -/

section ReadBack

/-- A sorted object of declared fields that each scan to themselves, with the required ones
there, scans to itself. -/
theorem scansAs_kept {w : Nat} {name : String} {fields : List (String × Shape × Bool)} {G : List (String × Json)}
    (hs : Json.Sorted G)
    (hk : ∀ kx ∈ G, ∃ e, fields.find? (·.1 == kx.1) = some e ∧ ScansAs w e.2.1 kx.2 kx.2)
    (hreq : ∀ e ∈ fields, e.2.2 = true → e.1 ∈ G.map Prod.fst) :
    ScansAs w (.record name fields) (.obj G) (.obj G) :=
  scansAs_record hs (List.forall₂_same.2 fun kx hkx => ⟨rfl, hk kx hkx⟩) hreq

/-- An action as written scans, as the record actions are stored as, to itself. -/
theorem scansAs_written_action (a : Action) (hf : (Write.action a).FormedWith Json.ReadsBack) :
    ScansAs 0 rawAction (Write.action a) (Write.action a) := by
  obtain ⟨id, k⟩ := a
  by_cases hk : Write.params k = .null
  · rw [Write.action_eq_of_null hk]
    refine scansAs_kept (sorted_id_type _ _) (fun kx hkx => ?_) (by simp [req_eq, opt_eq])
    simp only [List.mem_cons, List.not_mem_nil, or_false] at hkx
    rcases hkx with rfl | rfl
    · exact ⟨_, rfl, scansAs_string _⟩
    · exact ⟨_, rfl, scansAs_string _⟩
  · rw [Write.action_eq_of_ne_null hk] at hf ⊢
    have hP : (Write.params k).FormedWith Json.ReadsBack := by
      cases hf with
      | obj _ hfs => exact hfs ("params", _) (by simp)
    refine scansAs_kept (sorted_id_params_type _ _ _) (fun kx hkx => ?_) (by simp [req_eq, opt_eq])
    simp only [List.mem_cons, List.not_mem_nil, or_false] at hkx
    rcases hkx with rfl | rfl | rfl
    · exact ⟨_, rfl, scansAs_string _⟩
    · exact ⟨_, rfl, scansAs_any hP.wellFormed hP.everyDouble⟩
    · exact ⟨_, rfl, scansAs_string _⟩

/-- An action that round trips, written with doubles that read back, decodes from memory and
from text to a value that reads back as it. -/
theorem decodes_action {a : Action} (h : a.RoundTrips) (hf : (Write.action a).FormedWith Json.ReadsBack) :
    ∃ c, Decodes 1 .action (Write.action a) c ∧ ∀ m, c.depth ≤ m → Read.action m c = a := by
  obtain ⟨c, hc, hr⟩ := h
  exact ⟨c, ⟨hc _ le_rfl, scansAs_action (scansAs_written_action a hf) (hc _ le_rfl)⟩, hr⟩

/-- Actions that round trip, written as a list with doubles that read back, decode to a list
that reads back as them. -/
theorem decodes_actions {as : List Action} (h : ∀ a ∈ as, a.RoundTrips)
    (hf : (Json.arr (Write.actions as)).FormedWith Json.ReadsBack) :
    ∃ cs, Decodes 1 (.list .action) (.arr (Write.actions as)) (.arr cs) ∧
      ∀ m, (Json.arr cs).depth ≤ m + 1 → cs.map (Read.action m) = as := by
  obtain ⟨cs, hc, hread⟩ := Action.checksFrom_actions h
  rw [Write.actions_eq_map] at hf hc ⊢
  obtain ⟨cs', hd, -⟩ := decodes_forall₂ fun a ha =>
    decodes_action (h a ha) (hf.of_mem (List.mem_map_of_mem ha))
  -- the check of the list fixes what its items decode to
  have heq : Json.arr cs' = .arr cs := by
    have h1 := hd.1
    rw [checkValue, hc _ le_rfl] at h1
    cases h1
    rfl
  cases heq
  exact ⟨cs, hd, hread⟩

theorem decodes_event (ev : EventDef) (he : Action.AllNormal ev.actions)
    (hf : (Write.event ev).FormedWith Json.ReadsBack) :
    ∃ c, Decodes 1 .event (Write.event ev) c ∧ Read.event c = ev := by
  have htrig : (Write.trigger ev.trigger).FormedWith Json.ReadsBack :=
    Write.formedWith_of_lookup hf (k := "trigger") (by simp [Json.lookup_append, Json.lookup])
  obtain ⟨cs, hcs, hread⟩ := decodes_actions (Action.allRoundTrip _ he)
    (Write.formedWith_of_lookup hf (k := "actions") (by simp [Json.lookup_append, Json.lookup]))
  -- the fields as the event writes them, each decoding
  obtain ⟨out, hd, -, hout⟩ := decodes_written (s := event) (w := 1) rfl hf (fun k x h hx => by
    simp only [List.mem_append, List.mem_cons, List.not_mem_nil, or_false, Write.mem_opt, Prod.mk.injEq,
      or_assoc] at h
    rcases h with ⟨rfl, rfl⟩ | ⟨rfl, rfl⟩ | ⟨rfl, hd⟩ | ⟨rfl, rfl⟩ | ⟨rfl, hd⟩
    · exact ⟨_, _, rfl, (decodes_string _).mono (by omega)⟩
    · exact ⟨_, _, rfl, decodes_trigger _ hx⟩
    · obtain ⟨xs, -, rfl⟩ := Option.map_eq_some_iff.1 hd
      exact ⟨_, _, rfl, decodes_option_texts xs⟩
    · exact ⟨_, _, rfl, hcs⟩
    · obtain ⟨b, -, rfl⟩ := Option.map_eq_some_iff.1 hd
      exact ⟨_, _, rfl, decodes_option_boolean b⟩) (by simp [req_eq, opt_eq])
  -- what the check stored under each key is what the reader needs there
  refine ⟨.obj out, hd, Read.event_of_lookup ?_ ?_ ?_ ?_ ?_ (hread _ (by omega))⟩
  all_goals rw [hout]
  · exact storedField_of_decodes (by simp [Json.lookup_append, Json.lookup]) rfl (decodes_string _)
  · exact storedField_of_decodes (by simp [Json.lookup_append, Json.lookup]) rfl (decodes_trigger _ htrig)
  · refine storedField_of_decodes_opt (w := 1) (by simp [Json.lookup_append, Json.lookup]) rfl fun x hx => ?_
    obtain ⟨xs, -, rfl⟩ := Option.mem_map.1 hx
    exact decodes_option_texts xs
  · exact storedField_of_decodes (by simp [Json.lookup_append, Json.lookup]) rfl hcs
  · refine storedField_of_decodes_opt (w := 1) (by simp [Json.lookup_append, Json.lookup]) rfl fun x hx => ?_
    obtain ⟨b, -, rfl⟩ := Option.mem_map.1 hx
    exact decodes_option_boolean b

theorem decodes_widget (wd : Widget) (hw : wd.Normal) (hf : (Write.widget wd).FormedWith Json.ReadsBack) :
    ∃ c, Decodes 1 .widget (Write.widget wd) c ∧ Read.widget c = wd := by
  rw [Write.widget_eq] at hf ⊢
  obtain ⟨out, hd, -, -⟩ := decodes_written (s := widget) (w := 1) rfl hf (fun k x h hx => by
    simp only [List.mem_append, List.mem_cons, List.not_mem_nil, or_false, Write.mem_opt, Prod.mk.injEq,
      or_assoc] at h
    rcases h with ⟨rfl, rfl⟩ | ⟨rfl, rfl⟩ | ⟨rfl, hx'⟩ | ⟨rfl, rfl⟩ | ⟨rfl, rfl⟩ | ⟨rfl, rfl⟩ | ⟨rfl, hx'⟩
    · exact ⟨_, _, rfl, (decodes_string _).mono (by omega)⟩
    · exact ⟨_, _, rfl, (decodes_string _).mono (by omega)⟩
    · obtain ⟨t, -, rfl⟩ := Option.map_eq_some_iff.1 hx'
      exact ⟨_, _, rfl, decodes_option_string t⟩
    · rw [Write.float_of_isFinite hw.position.1, Write.float_of_isFinite hw.position.2] at hx ⊢
      exact ⟨_, _, rfl, (decodes_two_floats (by decide) hx).mono (by omega)⟩
    · rw [Write.float_of_isFinite hw.size.1, Write.float_of_isFinite hw.size.2] at hx ⊢
      exact ⟨_, _, rfl, (decodes_two_floats (by decide) hx).mono (by omega)⟩
    · exact ⟨_, _, rfl, (decodes_dict_any hx).mono (by omega)⟩
    · split at hx'
      · cases hx'
      · cases hx'
        obtain ⟨cs, hcs, -⟩ := decodes_actions (Action.allRoundTrip _ hw.actions) hx
        exact ⟨_, _, rfl, hcs⟩) (by simp [req_eq, opt_eq])
  refine ⟨.obj out, hd, ?_⟩
  -- the check is the one decoding runs, and it reads back as the widget
  have hdec := Widget.decode_of_normal hw
  rw [Widget.decode, Write.widget_eq, hd.1] at hdec
  exact Except.ok.inj hdec

/-- A normal project, written with doubles that read back, decodes from memory and from text
to a value that reads back as it. -/
theorem decodes_project (P : Project) (hp : P.Normal) (hf : (Write.project P).FormedWith Json.ReadsBack) :
    ∃ c, Decodes 1 .project (Write.project P) c ∧ Read.project c = P := by
  have hrt : (Write.settings P.runtime).FormedWith Json.ReadsBack :=
    Write.formedWith_of_lookup hf (k := "runtime") (by simp [Json.lookup])
  have hsv : (Json.arr (P.stateVariables.map Write.stateVariable)).FormedWith Json.ReadsBack :=
    Write.formedWith_of_lookup hf (k := "stateVariables") (by simp [Json.lookup])
  have hev : (Json.arr (P.events.map Write.event)).FormedWith Json.ReadsBack :=
    Write.formedWith_of_lookup hf (k := "events") (by simp [Json.lookup])
  have hwd : (Json.arr (P.widgets.map Write.widget)).FormedWith Json.ReadsBack :=
    Write.formedWith_of_lookup hf (k := "widgets") (by simp [Json.lookup])
  -- each list decodes item by item to values that read back
  obtain ⟨svs, hdsv, hrsv⟩ := decodes_map fun sv hm =>
    ⟨_, decodes_stateVariable sv (hsv.of_mem (List.mem_map_of_mem hm)), Read.stateVariable_write sv⟩
  obtain ⟨evs, hdev, hrev⟩ := decodes_map fun ev hm =>
    decodes_event ev (hp.events ev hm) (hev.of_mem (List.mem_map_of_mem hm))
  obtain ⟨wds, hdwd, hrwd⟩ := decodes_map fun wd hm =>
    decodes_widget wd (hp.widgets wd hm) (hwd.of_mem (List.mem_map_of_mem hm))
  obtain ⟨out, hd, -, hout⟩ := decodes_written (s := project) (w := 1) rfl hf (fun k x h hx => by
    simp only [List.mem_append, List.mem_cons, List.not_mem_nil, or_false, Write.mem_opt, Prod.mk.injEq] at h
    rcases h with ⟨rfl, hx'⟩ | ⟨rfl, rfl⟩ | ⟨rfl, rfl⟩ | ⟨rfl, rfl⟩ | ⟨rfl, rfl⟩
    · obtain ⟨t, -, rfl⟩ := Option.map_eq_some_iff.1 hx'
      exact ⟨_, _, rfl, decodes_option_string t⟩
    · exact ⟨_, _, rfl, (decodes_settings _ hx).mono (by omega)⟩
    · exact ⟨_, _, rfl, hdsv⟩
    · exact ⟨_, _, rfl, hdev⟩
    · exact ⟨_, _, rfl, hdwd⟩) (by simp [opt_eq])
  refine ⟨.obj out, hd, Read.project_of_lookup ?_ ?_ ?_ hrsv ?_ hrev ?_ hrwd⟩
  all_goals rw [hout]
  · refine storedField_of_decodes_opt (w := 1) (by simp [Json.lookup]) rfl fun x hx => ?_
    obtain ⟨t, -, rfl⟩ := Option.mem_map.1 hx
    exact decodes_option_string t
  · exact storedField_of_decodes (by simp [Json.lookup]) rfl (decodes_settings _ hrt)
  · exact storedField_of_decodes (by simp [Json.lookup]) rfl hdsv
  · exact storedField_of_decodes (by simp [Json.lookup]) rfl hdev
  · exact storedField_of_decodes (by simp [Json.lookup]) rfl hdwd

end ReadBack

end Shape

/-! ## Project files printed and parsed again -/

/-- A normal project, written with doubles that read back and nested less deep than the reader
allows, prints to a text that parses back as it. -/
theorem Project.parse_render_write {P : Project} (hp : P.Normal)
    (hf : (Write.project P).FormedWith Json.ReadsBack) (hdepth : (Write.project P).depth < 128) :
    Project.parse (Write.project P).render = .ok P := by
  obtain ⟨c, hd, hr⟩ := Shape.decodes_project P hp hf
  unfold Project.parse
  rw [Shape.scanText_render hd.2 (by omega) hdepth, ← hr]
  rfl

/-- A project parsed from text, when the doubles the parse met are finite, those it writes read
back, and what it writes is nested less deep than the reader allows, prints to a text that
parses back as it. -/
theorem Project.parse_render_parsed {t : String} {P : Project} (h : Project.parse t = .ok P)
    (hfin : ∀ c, Shape.project.scanText t = .ok c → c.EveryDouble (·.isFinite = true))
    (hd : (Write.project P).EveryDouble Json.ReadsBack) (hdepth : (Write.project P).depth < 128) :
    Project.parse (Write.project P).render = .ok P := by
  unfold Project.parse at h
  cases hs : Shape.project.scanText t with
  | error e => rw [hs] at h; cases h
  | ok c =>
    rw [hs] at h
    cases h
    -- what the parse gave is well formed, so the project read from it is normal and writes well formed
    have hw := Shape.scanText_wellFormed hs (hfin c hs)
    exact Project.parse_render_write (Read.project_normal hw)
      (Json.formedWith_readsBack (Read.written_project_wellFormed hw) hd) hdepth

end Storyboard

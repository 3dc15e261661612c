import Storyboard.Proofs.RoundTrip
import Storyboard.Proofs.Formed

/-!
# Written projects are well formed, and read back

The writers of `Project.Write` turn what the readers of `Project.Read` give back into JSON.
From a well-formed value (objects sorted by key with each key once, integers within the
64-bit ranges, doubles finite) what is written again is well formed too: objects are built by
`Write.obj`, which sorts them, every double goes through `Write.float`, and a toast duration
comes from rounding into 64 bits. A written project can therefore be printed and read again.

* `Json.FormedWith` for any property of the doubles: monotone in the property, and for doubles
  whose text reads back the same as well formed with those doubles;
* `Read.written_action_wellFormed`, by induction on the reader's fuel with one case per type
  name, and `Read.written_project_wellFormed` for whole projects;
* `Project.Normal`, the form reading gives, and `Read.project_normal`;
* the readers applied to what the writers give: `Read.settings_write`,
  `Read.stateVariable_write`, and `Read.event_of_lookup` / `Read.project_of_lookup` for records
  whose fields hold what the writers put there.
-/

namespace Storyboard

namespace Json

section Formed

variable {p q : Float → Prop} {v : Json}

theorem FormedWith.mono (hpq : ∀ f, p f → q f) (h : v.FormedWith p) : v.FormedWith q := by
  induction h with
  | null => exact .null
  | bool b => exact .bool b
  | int hlo hhi => exact .int hlo hhi
  | float hf => exact .float (hpq _ hf)
  | str t => exact .str t
  | arr _ ih => exact .arr ih
  | obj hs _ ih => exact .obj hs ih

theorem FormedWith.everyDouble (h : v.FormedWith p) : v.EveryDouble p := by
  induction h with
  | null => exact .null
  | bool b => exact .bool b
  | int => exact .int _
  | float hf => exact .float hf
  | str t => exact .str t
  | arr _ ih => exact .arr ih
  | obj _ _ ih => exact .obj ih

theorem FormedWith.natCast_lt {m : Nat} (h : (Json.int m).FormedWith p) : m < 2 ^ 64 := by
  cases h with
  | int _ hhi => exact_mod_cast hhi

theorem FormedWith.readsBack_float {x : Float} (h : (Json.float x).FormedWith ReadsBack) : ReadsBack x := by
  cases h with
  | float hx => exact hx

theorem FormedWith.of_mem {xs : List Json} {x : Json} (h : (Json.arr xs).FormedWith p) (hx : x ∈ xs) :
    x.FormedWith p := by
  cases h with
  | arr hxs => exact hxs x hx

end Formed

/-- A double whose text reads back is finite: the text of any other is `null`. -/
theorem isFinite_of_readsBack {f : Float} (h : ReadsBack f) : f.isFinite = true := by
  obtain ⟨ch, rest, htext, hch⟩ := Cursor.head_of_readsBack h
  by_contra hf
  simp only [floatText, hf, if_false] at htext
  have hn : ch = 'n' := (List.cons.inj htext.symm).1
  subst hn
  revert hch
  decide

/-- A well-formed value whose doubles read back is formed with doubles that read back. -/
theorem formedWith_readsBack {v : Json} (hw : v.WellFormed) (hd : v.EveryDouble ReadsBack) : v.FormedWith ReadsBack :=
  FormedWith.of_everyDouble ((wellFormed_iff_formedWith.1 hw).mono fun _ _ => trivial) hd

theorem FormedWith.wellFormed {v : Json} (h : v.FormedWith ReadsBack) : v.WellFormed :=
  wellFormed_iff_formedWith.2 (h.mono fun _ => isFinite_of_readsBack)

/-- Every field of an object built from fields in any order is one of them. -/
theorem mem_of_mem_merge_nil {fs : List (String × Json)} {kx : String × Json} (h : kx ∈ merge [] fs) : kx ∈ fs := by
  have hl := lookup_of_mem (sorted_merge fs .nil) h
  rw [lookup_merge_nil] at hl
  exact List.mem_reverse.1 (mem_of_lookup_eq_some hl)

end Json

namespace Write

theorem wellFormed_obj {fs : List (String × Json)} (h : ∀ kx ∈ fs, kx.2.WellFormed) : (obj fs).WellFormed := by
  rw [obj_eq]
  exact .obj (Json.sorted_merge fs .nil) fun kx hkx => h kx (Json.mem_of_mem_merge_nil hkx)

theorem wellFormed_float (f : Float) : (float f).WellFormed := by
  unfold float
  split
  · exact .float ‹_›
  · exact .null

theorem wellFormed_texts (xs : List String) : (texts xs).WellFormed :=
  .arr fun x hx => by
    obtain ⟨t, -, rfl⟩ := List.mem_map.1 hx
    exact .str t

theorem forall_mem_opt {P : String × Json → Prop} {k : String} {o : Option Json} :
    (∀ kx ∈ opt k o, P kx) ↔ ∀ x ∈ o, P (k, x) := by
  cases o <;> simp

theorem wellFormed_of_mem_map_str {o : Option String} : ∀ x ∈ o.map Json.str, x.WellFormed := by
  intro x hx
  obtain ⟨t, -, rfl⟩ := Option.mem_map.1 hx
  exact .str t

theorem wellFormed_of_mem_map_float {o : Option Float} : ∀ x ∈ o.map float, x.WellFormed := by
  intro x hx
  obtain ⟨f, -, rfl⟩ := Option.mem_map.1 hx
  exact wellFormed_float f

theorem wellFormed_of_mem_map_texts {o : Option (List String)} : ∀ x ∈ o.map texts, x.WellFormed := by
  intro x hx
  obtain ⟨xs, -, rfl⟩ := Option.mem_map.1 hx
  exact wellFormed_texts xs

theorem forall_mem_ite_none {P : Json → Prop} {c : Prop} [Decidable c] {y : Json} (h : P y) :
    ∀ x ∈ (if c then none else some y), P x := by
  split
  · nofun
  · intro x hx
    cases hx
    exact h

/-- An action is written well formed when its params are. -/
theorem wellFormed_action {id : String} {k : ActionKind} (h : (params k).WellFormed) :
    (action (.mk id k)).WellFormed := by
  by_cases hk : params k = .null
  · rw [action_eq_of_null hk]
    exact .obj (Shape.sorted_id_type _ _) (by simp [Json.WellFormed.str])
  · rw [action_eq_of_ne_null hk]
    exact .obj (Shape.sorted_id_params_type _ _ _) (by simp [Json.WellFormed.str, h])

theorem wellFormed_actions {as : List Action} (h : ∀ a ∈ as, (action a).WellFormed) :
    (Json.arr (actions as)).WellFormed :=
  .arr fun x hx => by
    rw [actions_eq_map] at hx
    obtain ⟨a, ha, rfl⟩ := List.mem_map.1 hx
    exact h a ha

theorem formedWith_of_mem {p : Float → Prop} {fs : List (String × Json)} {kx : String × Json}
    (hf : (obj fs).FormedWith p) (h : kx ∈ Json.merge [] fs) : kx.2.FormedWith p := by
  rw [obj_eq] at hf
  cases hf with
  | obj _ hfs => exact hfs kx h

theorem formedWith_of_lookup {p : Float → Prop} {fs : List (String × Json)} {k : String} {x : Json}
    (hf : (obj fs).FormedWith p) (h : Json.lookup k (Json.merge [] fs) = some x) : x.FormedWith p :=
  formedWith_of_mem hf (Json.mem_of_lookup_eq_some h)

end Write

namespace Read

theorem wellFormed_of_mem_value? {fs : List (String × Json)} (h : (Json.obj fs).WellFormed) (k : String) :
    ∀ x ∈ value? fs k, x.WellFormed := by
  intro x hx
  unfold value? at hx
  split at hx
  · cases hx
  · cases hx
    exact h.field k

theorem wellFormed_of_mem_duration (o : Option Json) :
    ∀ x ∈ (lenientDuration o).map (fun n => Json.int n), x.WellFormed := by
  intro x hx
  obtain ⟨n, hn, rfl⟩ := Option.mem_map.1 hx
  cases hd : lenientDuration o with
  | none => simp [hd] at hn
  | some m =>
    obtain ⟨f, rfl⟩ := lenientDuration_rounded m hd
    simp only [hd, Option.mem_def] at hn
    cases hn
    have hlt : Binary64.roundToUInt64Clamped f < 2^64 := by
      rcases Binary64.roundToUInt64Clamped_cases f with ⟨-, h⟩ | h <;> omega
    exact .int (by omega) (by exact_mod_cast hlt)

/-- Every action the reader gives from a well-formed value is written well formed, at any fuel. -/
theorem written_action_wellFormed : ∀ (fuel : Nat) (v : Json), v.WellFormed →
    (Write.action (action fuel v)).WellFormed
  | 0, _, _ => Write.wellFormed_action .null
  | fuel + 1, v, hv => by
    -- the parts of the value the reader visits are well formed
    have hfs := hv.fields
    have hobj := Json.WellFormed.obj hfs.1 hfs.2
    have hps := (hobj.field "params").fields
    have hpobj := Json.WellFormed.obj hps.1 hps.2
    have hacts := fun k => Write.wellFormed_actions fun a ha => by
      obtain ⟨x, hx, rfl⟩ := List.mem_map.1 ha
      exact written_action_wellFormed fuel x ((hpobj.field k).items x hx)
    refine Write.wellFormed_action ?_
    -- one case per type name the reader knows, in its order, then an unknown type
    split
    next =>
      rw [Write.params_navigation]
      refine Write.wellFormed_obj ?_
      simp only [List.forall_mem_cons, List.forall_mem_append, Write.forall_mem_opt, List.not_mem_nil,
        false_implies, implies_true, and_true, and_assoc]
      exact ⟨.str _, Write.wellFormed_of_mem_map_str, wellFormed_of_mem_value? hpobj _⟩
    next =>
      rw [Write.params_stateUpdate]
      refine Write.wellFormed_obj ?_
      simp only [List.forall_mem_cons, List.forall_mem_append, Write.forall_mem_opt, List.not_mem_nil,
        false_implies, implies_true, and_true, and_assoc]
      exact ⟨.str _, .str _, wellFormed_of_mem_value? hpobj _, Write.wellFormed_of_mem_map_str,
        Write.wellFormed_of_mem_map_float⟩
    next =>
      rw [Write.params_recalculate]
      refine Write.wellFormed_obj ?_
      simp only [List.forall_mem_cons, List.not_mem_nil, false_implies, implies_true, and_true]
      exact ⟨.str _, .str _⟩
    next =>
      rw [Write.params_apiCall]
      refine Write.wellFormed_obj ?_
      simp only [List.forall_mem_cons, List.forall_mem_append, Write.forall_mem_opt, List.not_mem_nil,
        false_implies, implies_true, and_true, and_assoc]
      refine ⟨.str _, .str _, Write.forall_mem_ite_none (Write.wellFormed_obj ?_), wellFormed_of_mem_value? hpobj _,
        Write.wellFormed_of_mem_map_texts, Write.forall_mem_ite_none (hacts _), Write.forall_mem_ite_none (hacts _),
        Write.wellFormed_of_mem_map_str⟩
      intro kx hkx
      obtain ⟨⟨k, t⟩, -, rfl⟩ := List.mem_map.1 hkx
      exact .str t
    next =>
      rw [Write.params_emitEvent]
      refine Write.wellFormed_obj ?_
      simp only [List.forall_mem_cons, List.forall_mem_append, Write.forall_mem_opt, List.not_mem_nil,
        false_implies, implies_true, and_true]
      exact ⟨.str _, wellFormed_of_mem_value? hpobj _⟩
    next =>
      rw [Write.params_condition]
      refine Write.wellFormed_obj ?_
      simp only [List.forall_mem_cons, List.not_mem_nil, false_implies, implies_true, and_true]
      exact ⟨.str _, hacts _, hacts _⟩
    next =>
      rw [Write.params_toast]
      refine Write.wellFormed_obj ?_
      simp only [List.forall_mem_cons, List.forall_mem_append, Write.forall_mem_opt, List.not_mem_nil,
        false_implies, implies_true, and_true, and_assoc]
      exact ⟨.str _, Write.wellFormed_of_mem_map_str, wellFormed_of_mem_duration _⟩
    next =>
      rw [Write.params_openWidget]
      refine Write.wellFormed_obj ?_
      simp only [List.forall_mem_cons, List.not_mem_nil, false_implies, implies_true, and_true]
      exact .str _
    next =>
      rw [Write.params_closeWidget]
      refine Write.wellFormed_obj ?_
      simp only [List.forall_mem_cons, List.not_mem_nil, false_implies, implies_true, and_true]
      exact .str _
    next => exact .null
    next =>
      rw [Write.params_batch]
      refine Write.wellFormed_obj ?_
      simp only [List.forall_mem_cons, List.not_mem_nil, false_implies, implies_true, and_true]
      exact ⟨hacts _, .bool _⟩
    next => exact hobj.field "params"

/-- The actions of a field, read from a well-formed value, are written well formed. -/
theorem written_actions_wellFormed {v : Json} (hv : v.WellFormed) :
    (Json.arr (Write.actions (actions v))).WellFormed :=
  Write.wellFormed_actions fun a ha => by
    obtain ⟨x, hx, rfl⟩ := List.mem_map.1 ha
    exact written_action_wellFormed _ x (hv.items x hx)

theorem nat_lt {fs : List (String × Json)} (h : (Json.obj fs).WellFormed) (k : String) {d : Nat} (hd : d < 2^64) :
    nat fs k d < 2^64 := by
  unfold nat
  split
  · rename_i n hn
    have hf := h.field k
    rw [hn] at hf
    cases hf with
    | int _ hhi => omega
  · exact hd

theorem written_widget_wellFormed {v : Json} (hv : v.WellFormed) : (Write.widget (widget v)).WellFormed := by
  have hfs := hv.fields
  have hobj := Json.WellFormed.obj hfs.1 hfs.2
  have hprops := (hobj.field "props").fields
  rw [Write.widget_eq]
  refine Write.wellFormed_obj ?_
  simp only [List.forall_mem_cons, List.forall_mem_append, Write.forall_mem_opt, List.not_mem_nil,
    false_implies, implies_true, and_true, and_assoc]
  refine ⟨.str _, .str _, Write.wellFormed_of_mem_map_str, Write.wellFormed_obj ?_, Write.wellFormed_obj ?_,
    .obj hprops.1 hprops.2, Write.forall_mem_ite_none (written_actions_wellFormed (hobj.field "actions"))⟩
  all_goals
    simp only [List.forall_mem_cons, List.not_mem_nil, false_implies, implies_true, and_true]
    exact ⟨Write.wellFormed_float _, Write.wellFormed_float _⟩

theorem written_stateVariable_wellFormed {v : Json} (hv : v.WellFormed) :
    (Write.stateVariable (stateVariable v)).WellFormed := by
  have hfs := hv.fields
  have hobj := Json.WellFormed.obj hfs.1 hfs.2
  refine Write.wellFormed_obj ?_
  simp only [List.forall_mem_cons, List.forall_mem_append, Write.forall_mem_opt, List.not_mem_nil,
    false_implies, implies_true, and_true, and_assoc]
  exact ⟨.str _, .str _, .str _, hobj.field "value", .str _, Write.wellFormed_of_mem_map_str⟩

theorem written_event_wellFormed {v : Json} (hv : v.WellFormed) : (Write.event (event v)).WellFormed := by
  have hfs := hv.fields
  have hobj := Json.WellFormed.obj hfs.1 hfs.2
  refine Write.wellFormed_obj ?_
  simp only [List.forall_mem_cons, List.forall_mem_append, Write.forall_mem_opt, List.not_mem_nil,
    false_implies, implies_true, and_true, and_assoc]
  refine ⟨.str _, Write.wellFormed_obj ?_, Write.wellFormed_of_mem_map_texts,
    written_actions_wellFormed (hobj.field "actions"), fun x hx => ?_⟩
  · simp only [List.forall_mem_cons, List.forall_mem_append, Write.forall_mem_opt, List.not_mem_nil,
      false_implies, implies_true, and_true, and_assoc]
    exact ⟨.str _, Write.wellFormed_of_mem_map_str, Write.wellFormed_of_mem_map_str⟩
  · obtain ⟨b, -, rfl⟩ := Option.mem_map.1 hx
    exact .bool b

theorem written_settings_wellFormed {v : Json} (hv : v.WellFormed) : (Write.settings (settings v)).WellFormed := by
  have hfs := hv.fields
  have hobj := Json.WellFormed.obj hfs.1 hfs.2
  refine Write.wellFormed_obj ?_
  simp only [List.forall_mem_cons, List.not_mem_nil, false_implies, implies_true, and_true]
  refine ⟨.int (by omega) ?_, Write.wellFormed_texts _, .int (by omega) ?_⟩
  · exact_mod_cast nat_lt hobj "maxEventDepth" (by norm_num)
  · exact_mod_cast nat_lt hobj "requestTimeoutMs" (by norm_num)

/-- Items read one by one from a well-formed list, each written well formed, make a well-formed
list. -/
theorem written_items_wellFormed {α : Type} {f : Json → α} {g : α → Json} {v : Json} (hv : v.WellFormed)
    (hg : ∀ x, x.WellFormed → (g (f x)).WellFormed) : (Json.arr (((v.items?.getD []).map f).map g)).WellFormed :=
  .arr fun y hy => by
    obtain ⟨a, ha, rfl⟩ := List.mem_map.1 hy
    obtain ⟨x, hx, rfl⟩ := List.mem_map.1 ha
    exact hg x (hv.items x hx)

/-- A project read from a well-formed value is written well formed. -/
theorem written_project_wellFormed {v : Json} (hv : v.WellFormed) : (Write.project (project v)).WellFormed := by
  have hfs := hv.fields
  have hobj := Json.WellFormed.obj hfs.1 hfs.2
  refine Write.wellFormed_obj ?_
  simp only [List.forall_mem_cons, List.forall_mem_append, Write.forall_mem_opt, List.not_mem_nil,
    false_implies, implies_true, and_true]
  exact ⟨Write.wellFormed_of_mem_map_str, written_settings_wellFormed (hobj.field "runtime"),
    written_items_wellFormed (hobj.field "stateVariables") fun _ => written_stateVariable_wellFormed,
    written_items_wellFormed (hobj.field "events") fun _ => written_event_wellFormed,
    written_items_wellFormed (hobj.field "widgets") fun _ => written_widget_wellFormed⟩

/-! ## Readers applied to what the writers give -/

theorem varType_name (t : VarType) : varType (.str t.name) = t := by
  cases t <;> rfl

theorem scope_name (s : Scope) : scope (.str s.name) = s := by
  cases s <;> rfl

theorem settings_write (st : Settings) : settings (Write.settings st) = st := by
  simp [settings, Write.settings, nat, field, Json.fields?, Write.texts, Json.lookup, List.filterMap_map,
    Function.comp_def, Json.str?]

theorem stateVariable_write (sv : StateVariable) : stateVariable (Write.stateVariable sv) = sv := by
  obtain ⟨id, key, vt, value, sc, desc⟩ := sv
  cases desc <;>
    simp [stateVariable, Write.stateVariable, text, text?, field, Json.fields?, Json.lookup, varType_name,
      scope_name, Json.str?]

theorem triggerKind_name (k : TriggerKind) : TriggerKind.ofName? k.name = some k := by
  cases k <;> rfl

/-- An event read from a record whose fields hold what an event's are written as. -/
theorem event_of_lookup {out : List (String × Json)} {ev : EventDef} {cs : List Json}
    (h1 : Json.lookup "id" out = some (.str ev.id))
    (h2 : Json.lookup "trigger" out = some (Write.trigger ev.trigger))
    (h3 : Json.lookup "conditions" out = ev.conditions.map Write.texts)
    (h4 : Json.lookup "actions" out = some (.arr cs))
    (h5 : Json.lookup "enabled" out = ev.enabled.map .bool)
    (hread : cs.map (action ((Json.arr cs).depth + 1)) = ev.actions) :
    event (.obj out) = ev := by
  have hc : ev.conditions.map Write.texts ≠ some .null := by cases ev.conditions <;> simp [Write.texts]
  obtain ⟨id, ⟨kind, name, elementId⟩, conditions, actions, enabled⟩ := ev
  unfold event
  simp only [Json.fields?, Option.getD_some, text_of_lookup h1, field_of_lookup h2, value?_of_lookup h3 hc,
    field_of_lookup h4]
  cases enabled <;> cases name <;> cases elementId <;>
    simp [Write.trigger, text?, field, Json.lookup, Json.str?, triggerKind_name, Option.map_map,
      Function.comp_def, h5, Read.actions, Json.items?, hread]

/-- A project read from a record whose fields hold what a project's are written as. -/
theorem project_of_lookup {out : List (String × Json)} {P : Project} {svs evs wds : List Json}
    (h1 : Json.lookup "name" out = P.name.map .str)
    (h2 : Json.lookup "runtime" out = some (Write.settings P.runtime))
    (h3 : Json.lookup "stateVariables" out = some (.arr svs)) (hsv : svs.map stateVariable = P.stateVariables)
    (h4 : Json.lookup "events" out = some (.arr evs)) (hev : evs.map event = P.events)
    (h5 : Json.lookup "widgets" out = some (.arr wds)) (hwd : wds.map widget = P.widgets) :
    project (.obj out) = P := by
  unfold project
  simp only [Json.fields?, Option.getD_some, text?_of_lookup h1, field_of_lookup h2, settings_write,
    field_of_lookup h3, field_of_lookup h4, field_of_lookup h5, Json.items?, hsv, hev, hwd]

end Read

/-- A project in the form reading gives: the actions of every event normal, every widget
normal. -/
structure Project.Normal (p : Project) : Prop where
  /-- The actions of every event are normal. -/
  events : ∀ e ∈ p.events, Action.AllNormal e.actions
  /-- Every widget is normal. -/
  widgets : ∀ w ∈ p.widgets, w.Normal

/-- A project read from a well-formed value is normal. -/
theorem Read.project_normal {v : Json} (hv : v.WellFormed) : (Read.project v).Normal := by
  have hfs := hv.fields
  have hobj := Json.WellFormed.obj hfs.1 hfs.2
  refine ⟨fun e he => ?_, fun w hw => ?_⟩
  · obtain ⟨x, hx, rfl⟩ := List.mem_map.1 he
    have hxf := ((hobj.field "events").items x hx).fields
    exact Read.actions_normal ((Json.WellFormed.obj hxf.1 hxf.2).field "actions")
  · obtain ⟨x, hx, rfl⟩ := List.mem_map.1 hw
    exact Read.widget_normal ((hobj.field "widgets").items x hx)

end Storyboard

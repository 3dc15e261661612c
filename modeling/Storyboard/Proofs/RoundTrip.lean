import Mathlib
import Storyboard.Proofs.Decoding

/-!
# Decoding what was written

The round trip of decoding and encoding, on values: an action or a widget decoded from a
well-formed value, written back and decoded again, comes back unchanged.

`Proofs.Decoding` describes the normal form (`Action.Normal`) and shows that actions whose
params are flat round trip. This module adds the kinds that hold further actions (the
callbacks of a request, the branches of a condition, the steps of a batch), the stop action
and actions of unknown types, and then joins them.

* A list of actions that each round trip checks, as written, to a list that reads back as it
  (`Action.checksFrom_actions`); a kind's params checked to the object of what the check
  stores read back as the kind (`Shape.paramsRoundTrip_of_written`).
* Every normal action round trips (`Action.roundTrips_of_normal`), by induction on the action
  tree together with its lists of actions.
* The reader gives normal actions and widgets from well-formed values, at any fuel
  (`Read.action_normal`, `Read.widget_normal`).

Main statements: `Action.decode_write_decoded` and `Widget.decode_write_decoded`.
-/

namespace Storyboard

namespace Write

/-- A field written only when a condition fails is an optional field. -/
theorem ite_nil_eq_opt (b : Prop) [Decidable b] (k : String) (v : Json) :
    (if b then [] else [(k, v)]) = opt k (if b then none else some v) := by
  split <;> rfl

end Write

namespace Read

@[simp] theorem texts_texts (xs : List String) : texts (Write.texts xs) = xs := by
  simp [texts, Write.texts, Json.items?_arr, List.filterMap_map, Function.comp_def, Json.str?_str]

section Kinds

variable {ps : List (String × Json)} (id : String) (m : Nat)

/-- A list of actions read from a field holding checked actions. -/
theorem actions_of_lookup {k : String} {cs : List Json} {as : List Action}
    (h : Json.lookup k ps = some (.arr cs)) (hread : cs.map (action m) = as) :
    ((field ps k).items?.getD []).map (action m) = as := by
  rw [field_of_lookup h]
  exact hread

/-- An absent list of actions reads as none. -/
theorem actions_of_lookup_none {k : String} (h : Json.lookup k ps = none) :
    ((field ps k).items?.getD []).map (action m) = [] := by
  rw [field_of_lookup_none h]
  rfl

theorem action_condition {c : String} {t f : List Action}
    (h1 : Json.lookup "condition" ps = some (.str c))
    (h2 : ((field ps "ifTrue").items?.getD []).map (action m) = t)
    (h3 : ((field ps "ifFalse").items?.getD []).map (action m) = f) :
    action (m + 1) (.obj [("id", .str id), ("params", .obj ps), ("type", .str "condition")])
      = .mk id (.condition c t f) := by
  have e : action (m + 1) (.obj [("id", .str id), ("params", .obj ps), ("type", .str "condition")])
      = .mk id (.condition (text ps "condition") (((field ps "ifTrue").items?.getD []).map (action m))
        (((field ps "ifFalse").items?.getD []).map (action m))) := rfl
  rw [e, text_of_lookup h1, h2, h3]

theorem action_batch {as : List Action} {atomic : Bool}
    (h1 : ((field ps "actions").items?.getD []).map (action m) = as)
    (h2 : Json.lookup "atomic" ps = some (.bool atomic)) :
    action (m + 1) (.obj [("id", .str id), ("params", .obj ps), ("type", .str "batch")])
      = .mk id (.batch as atomic) := by
  -- the flag is read by the reader's own match, which the statement does not restate
  show Action.mk id (.batch (((field ps "actions").items?.getD []).map (action m)) _) = _
  have hps : (field ((Json.obj [("id", .str id), ("params", .obj ps), ("type", .str "batch")]).fields?.getD [])
      "params").fields?.getD [] = ps := rfl
  rw [h1, hps, field_of_lookup h2]
  cases atomic <;> rfl

theorem action_apiCall {r : Request} {s e : List Action}
    (h1 : Json.lookup "method" ps = some (.str r.method)) (h2 : Json.lookup "url" ps = some (.str r.url))
    (h3 : ((field ps "headers").fields?.getD []).filterMap (fun kx => kx.2.str?.map (kx.1, ·)) = r.headers)
    (h4 : Json.lookup "body" ps = r.body) (hb : r.body ≠ some .null)
    (h5 : Json.lookup "allowedDomains" ps = r.allowedDomains.map Write.texts)
    (h6 : ((field ps "onSuccess").items?.getD []).map (action m) = s)
    (h7 : ((field ps "onError").items?.getD []).map (action m) = e)
    (h8 : Json.lookup "mapResponse" ps = r.mapResponse.map .str) :
    action (m + 1) (.obj [("id", .str id), ("params", .obj ps), ("type", .str "api_call")])
      = .mk id (.apiCall r s e) := by
  have hd : r.allowedDomains.map Write.texts ≠ some .null := by cases r.allowedDomains <;> simp [Write.texts]
  have eq : action (m + 1) (.obj [("id", .str id), ("params", .obj ps), ("type", .str "api_call")])
      = .mk id (.apiCall
        { method := (text? ps "method").getD "GET", url := text ps "url",
          headers := ((field ps "headers").fields?.getD []).filterMap fun kx => kx.2.str?.map (kx.1, ·),
          body := value? ps "body", allowedDomains := (value? ps "allowedDomains").map texts,
          mapResponse := text? ps "mapResponse" }
        (((field ps "onSuccess").items?.getD []).map (action m))
        (((field ps "onError").items?.getD []).map (action m))) := rfl
  rw [eq, h3, h6, h7, text?_of_lookup (o := some r.method) h1, text_of_lookup h2, value?_of_lookup h4 hb,
    value?_of_lookup h5 hd, text?_of_lookup h8, Option.getD_some]
  simp only [Option.map_map, Function.comp_def, texts_texts, Option.map_id']

end Kinds

end Read

namespace Write

theorem params_condition (c : String) (t f : List Action) :
    params (.condition c t f) = obj [("condition", .str c), ("ifTrue", .arr (actions t)), ("ifFalse", .arr (actions f))] :=
  rfl

theorem params_batch (as : List Action) (atomic : Bool) :
    params (.batch as atomic) = obj [("actions", .arr (actions as)), ("atomic", .bool atomic)] := rfl

theorem params_apiCall (r : Request) (s e : List Action) :
    params (.apiCall r s e) =
      obj ([("method", .str r.method), ("url", .str r.url)]
        ++ opt "headers" (if r.headers.isEmpty then none else some (obj (r.headers.map fun kv => (kv.1, .str kv.2))))
        ++ opt "body" r.body ++ opt "allowedDomains" (r.allowedDomains.map texts)
        ++ opt "onSuccess" (if s.isEmpty then none else some (.arr (actions s)))
        ++ opt "onError" (if e.isEmpty then none else some (.arr (actions e)))
        ++ opt "mapResponse" (r.mapResponse.map .str)) := by
  show obj _ = _
  simp only [ite_nil_eq_opt]

end Write

namespace Shape

variable {fields : List (String × Shape × Bool)} {G : List (String × Json)} {k : String}

theorem storedField_of_checksFrom {v c : Json} {e : String × Shape × Bool} (hv : Json.lookup k G = some v)
    (he : fields.find? (·.1 == k) = some e) (hc : ChecksFrom (v.depth + 2) e.2.1 v c) :
    storedField fields G k = some c := by
  simp [storedField, hv, checkedField?, he, hc _ le_rfl, Except.toOption]

theorem storedField_of_keepsFrom {v : Json} {e : String × Shape × Bool} {n : Nat} (hv : Json.lookup k G = some v)
    (he : fields.find? (·.1 == k) = some e) (hc : KeepsFrom n e.2.1 v) (hn : n ≤ v.depth + 2) :
    storedField fields G k = some v :=
  storedField_of_checksFrom hv he (hc.checksFrom hn)

theorem storedField_of_lookup_none (hv : Json.lookup k G = none) : storedField fields G k = none := by
  simp [storedField, hv]

end Shape

/-- Actions that round trip, written as a list, check to a list of values that read back as
them. -/
theorem Action.checksFrom_actions {as : List Action} (h : ∀ a ∈ as, a.RoundTrips) :
    ∃ cs, Shape.ChecksFrom ((Json.arr (Write.actions as)).depth + 2) (.list .action)
        (.arr (Write.actions as)) (.arr cs) ∧
      ∀ m, (Json.arr cs).depth ≤ m + 1 → cs.map (Read.action m) = as := by
  -- pair each written action with what its check returns
  have key : ∀ as : List Action, (∀ a ∈ as, a.RoundTrips) → ∃ cs,
      List.Forall₂ (fun x c => Shape.ChecksFrom (x.depth + 2) .action x c) (Write.actions as) cs ∧
      ∀ m, (∀ c ∈ cs, c.depth ≤ m) → cs.map (Read.action m) = as := by
    intro as h
    induction as with
    | nil => exact ⟨[], .nil, fun _ _ => rfl⟩
    | cons a as ih =>
      obtain ⟨c, hc, hr⟩ := h a List.mem_cons_self
      obtain ⟨cs, hcs, hrs⟩ := ih fun b hb => h b (List.mem_cons_of_mem _ hb)
      refine ⟨c :: cs, .cons hc hcs, fun m hm => ?_⟩
      rw [List.map_cons, hr m (hm c List.mem_cons_self), hrs m fun d hd => hm d (List.mem_cons_of_mem _ hd)]
  obtain ⟨cs, hcs, hrs⟩ := key as h
  -- every item lies below the list, so the reader's fuel covers it
  exact ⟨cs, Shape.checksFrom_list hcs, fun m hm => hrs m fun c hc => by
    have := Json.depth_lt_of_mem hc
    omega⟩

namespace Shape

/-- The params of a kind written as an object of declared fields that all check, with the
required ones there, round trip when the kind reads back from what the check stores. -/
theorem paramsRoundTrip_of_written {k : ActionKind} {name : String} {fields : List (String × Shape × Bool)}
    {fs : List (String × Json)} (hw : Write.params k = Write.obj fs)
    (hk : ∀ key x, (key, x) ∈ fs →
      ∃ e c, fields.find? (·.1 == key) = some e ∧ ChecksFrom (x.depth + 2) e.2.1 x c)
    (hreq : ∀ e ∈ fields, e.2.2 = true → ∃ x, (e.1, x) ∈ fs)
    (hread : ∀ out : List (String × Json),
      (∀ key, Json.lookup key out = storedField fields (Json.merge [] fs) key) → ∀ id m, (Json.obj out).depth ≤ m →
        Read.action (m + 1) (.obj [("id", .str id), ("params", .obj out), ("type", .str k.typeName)]) = .mk id k) :
    k.ParamsRoundTrip (.record name fields) := by
  obtain ⟨out, hc, hout⟩ : ∃ out, ChecksFrom _ (.record name fields) _ (.obj out) ∧ _ :=
    checksFrom_written hk hreq
  refine ⟨.obj out, ?_, hread out hout⟩
  rw [hw, Write.obj_eq]
  exact hc

/-- Actions read from a list field whose checked actions read back. -/
theorem readActions_of_stored {out : List (String × Json)} {key : String} {cs : List Json} {as : List Action}
    {m : Nat} (h : Json.lookup key out = some (.arr cs)) (hm : (Json.obj out).depth ≤ m)
    (hread : ∀ m, (Json.arr cs).depth ≤ m + 1 → cs.map (Read.action m) = as) :
    ((Read.field out key).items?.getD []).map (Read.action m) = as := by
  refine Read.actions_of_lookup m h (hread m ?_)
  have := Json.depth_lt_of_lookup h
  omega

theorem paramsRoundTrip_condition {c : String} {t f : List Action} (ht : ∀ a ∈ t, a.RoundTrips)
    (hf : ∀ a ∈ f, a.RoundTrips) :
    (ActionKind.condition c t f).ParamsRoundTrip
      (.record "ConditionParams" [req "condition" .string, opt "ifTrue" (.list .action),
        opt "ifFalse" (.list .action)]) := by
  obtain ⟨ct, hct, hrt⟩ := Action.checksFrom_actions ht
  obtain ⟨cf, hcf, hrf⟩ := Action.checksFrom_actions hf
  refine paramsRoundTrip_of_written (Write.params_condition c t f) (fun key x h => ?_) (by simp [req_eq, opt_eq])
    fun out hout id m hm => Read.action_condition id m ?_ (readActions_of_stored ?_ hm hrt)
      (readActions_of_stored ?_ hm hrf)
  · simp only [List.mem_cons, List.not_mem_nil, or_false, Prod.mk.injEq] at h
    rcases h with ⟨rfl, rfl⟩ | ⟨rfl, rfl⟩ | ⟨rfl, rfl⟩
    · exact ⟨_, _, rfl, (keepsFrom_string c).checksFrom (by omega)⟩
    · exact ⟨_, _, rfl, hct⟩
    · exact ⟨_, _, rfl, hcf⟩
  · rw [hout]
    exact storedField_of_keepsFrom (by simp [Json.lookup]) rfl (keepsFrom_string c) (by omega)
  · rw [hout]
    exact storedField_of_checksFrom (by simp [Json.lookup]) rfl hct
  · rw [hout]
    exact storedField_of_checksFrom (by simp [Json.lookup]) rfl hcf

theorem paramsRoundTrip_batch {as : List Action} {atomic : Bool} (h : ∀ a ∈ as, a.RoundTrips) :
    (ActionKind.batch as atomic).ParamsRoundTrip
      (.record "BatchParams" [opt "actions" (.list .action), opt "atomic" .boolean]) := by
  obtain ⟨cs, hcs, hr⟩ := Action.checksFrom_actions h
  refine paramsRoundTrip_of_written (Write.params_batch as atomic) (fun key x h => ?_) (by simp [opt_eq])
    fun out hout id m hm => Read.action_batch id m (readActions_of_stored ?_ hm hr) ?_
  · simp only [List.mem_cons, List.not_mem_nil, or_false, Prod.mk.injEq] at h
    rcases h with ⟨rfl, rfl⟩ | ⟨rfl, rfl⟩
    · exact ⟨_, _, rfl, hcs⟩
    · exact ⟨_, _, rfl, (keepsFrom_boolean atomic).checksFrom (by omega)⟩
  · rw [hout]
    exact storedField_of_checksFrom (by simp [Json.lookup]) rfl hcs
  · rw [hout]
    exact storedField_of_keepsFrom (by simp [Json.lookup]) rfl (keepsFrom_boolean atomic) (by omega)

theorem storedField_of_opt {fields : List (String × Shape × Bool)} {G : List (String × Json)} {k : String}
    {o : Option Json} {e : String × Shape × Bool} {n : Nat} (hv : Json.lookup k G = o)
    (he : fields.find? (·.1 == k) = some e) (hk : ∀ v ∈ o, KeepsFrom n e.2.1 v) (hn : n ≤ 3) :
    storedField fields G k = o := by
  rcases o with _ | v
  · exact storedField_of_lookup_none hv
  · exact storedField_of_keepsFrom hv he (hk v rfl) (by have := Json.one_le_depth v; omega)

theorem paramsRoundTrip_apiCall {r : Request} {s e : List Action} (hh : (r.headers.map Prod.fst).Pairwise (· < ·))
    (hb : r.body ≠ some .null) (hs : ∀ a ∈ s, a.RoundTrips) (he : ∀ a ∈ e, a.RoundTrips) :
    (ActionKind.apiCall r s e).ParamsRoundTrip
      (.record "ApiCallParams"
        [opt "method" .string, req "url" .string, opt "headers" (.dict .string),
         opt "body" (.option .any), opt "allowedDomains" (.option (.list .string)),
         opt "onSuccess" (.list .action), opt "onError" (.list .action),
         opt "mapResponse" (.option .string)]) := by
  obtain ⟨cs, hcs, hrs⟩ := Action.checksFrom_actions hs
  obtain ⟨ce, hce, hre⟩ := Action.checksFrom_actions he
  -- headers are written as an object already in key order, which the check keeps
  have hsorted : Json.Sorted (r.headers.map fun kv => (kv.1, Json.str kv.2)) := by
    rw [Json.sorted_iff_keys, List.map_map]
    exact hh
  have hkeep : KeepsFrom 2 (.dict .string) (.obj (r.headers.map fun kv => (kv.1, Json.str kv.2))) :=
    keepsFrom_dict fun kv hkv => by
      obtain ⟨p, -, rfl⟩ := List.mem_map.1 hkv
      exact keepsFrom_string _
  have hdomains : ∀ v ∈ r.allowedDomains.map Write.texts, KeepsFrom 3 (.option (.list .string)) v := by
    intro v hv
    obtain ⟨xs, -, rfl⟩ := Option.mem_map.1 hv
    exact keepsFrom_option (keepsFrom_list fun x hx => by
      obtain ⟨t, -, rfl⟩ := List.mem_map.1 hx
      exact keepsFrom_string t)
  refine paramsRoundTrip_of_written (Write.params_apiCall r s e) (fun key x h => ?_) (by simp [req_eq, opt_eq])
    fun out hout id m hm => Read.action_apiCall id m ?_ ?_ ?_ ?_ hb ?_ ?_ ?_ ?_
  · simp only [List.mem_append, List.mem_cons, List.not_mem_nil, or_false, Write.mem_opt, Prod.mk.injEq,
      or_assoc] at h
    rcases h with ⟨rfl, rfl⟩ | ⟨rfl, rfl⟩ | ⟨rfl, hx⟩ | ⟨rfl, hx⟩ | ⟨rfl, hx⟩ | ⟨rfl, hx⟩ | ⟨rfl, hx⟩ | ⟨rfl, hx⟩
    · exact ⟨_, _, rfl, (keepsFrom_string _).checksFrom (by omega)⟩
    · exact ⟨_, _, rfl, (keepsFrom_string _).checksFrom (by omega)⟩
    · split at hx
      · cases hx
      · cases hx
        rw [Write.obj_eq, Json.merge_nil_of_sorted hsorted]
        exact ⟨_, _, rfl, hkeep.checksFrom (by omega)⟩
    · exact ⟨_, _, rfl, (keepsFrom_two_option_any x).checksFrom (by omega)⟩
    · exact ⟨_, _, rfl, (hdomains x hx).checksFrom (by have := Json.one_le_depth x; omega)⟩
    · split at hx
      · cases hx
      · cases hx
        exact ⟨_, _, rfl, hcs⟩
    · split at hx
      · cases hx
      · cases hx
        exact ⟨_, _, rfl, hce⟩
    · obtain ⟨t, -, rfl⟩ := Option.map_eq_some_iff.1 hx
      exact ⟨_, _, rfl, (keepsFrom_two_option_string t).checksFrom (by omega)⟩
  · rw [hout]
    exact storedField_of_keepsFrom (by simp [Json.lookup_append, Json.lookup]) rfl (keepsFrom_string _) (by omega)
  · rw [hout]
    exact storedField_of_keepsFrom (by simp [Json.lookup_append, Json.lookup]) rfl (keepsFrom_string _) (by omega)
  · by_cases hnil : r.headers = []
    · have hnone : Json.lookup "headers" out = none := by
        rw [hout]
        exact storedField_of_lookup_none (by simp [Json.lookup_append, Json.lookup, hnil])
      simp [Read.field, hnone, Json.fields?, hnil]
    · have hsome : Json.lookup "headers" out = some (.obj (r.headers.map fun kv => (kv.1, Json.str kv.2))) := by
        rw [hout]
        refine storedField_of_keepsFrom ?_ rfl hkeep (by omega)
        simp [Json.lookup_append, Json.lookup, hnil, Json.merge_nil_of_sorted hsorted]
      simp [Read.field, hsome, Json.fields?, List.filterMap_map, Json.str?]
  · rw [hout]
    exact storedField_of_opt (by simp [Json.lookup_append, Json.lookup]) rfl
      (fun v _ => keepsFrom_two_option_any v) (by omega)
  · rw [hout]
    exact storedField_of_opt (by simp [Json.lookup_append, Json.lookup]) rfl hdomains le_rfl
  · by_cases hnil : s = []
    · subst hnil
      refine Read.actions_of_lookup_none m ?_
      rw [hout]
      exact storedField_of_lookup_none (by simp [Json.lookup_append, Json.lookup])
    · refine readActions_of_stored ?_ hm hrs
      rw [hout]
      exact storedField_of_checksFrom (by simp [Json.lookup_append, Json.lookup, hnil]) rfl hcs
  · by_cases hnil : e = []
    · subst hnil
      refine Read.actions_of_lookup_none m ?_
      rw [hout]
      exact storedField_of_lookup_none (by simp [Json.lookup_append, Json.lookup])
    · refine readActions_of_stored ?_ hm hre
      rw [hout]
      exact storedField_of_checksFrom (by simp [Json.lookup_append, Json.lookup, hnil]) rfl hce
  · rw [hout]
    refine storedField_of_opt (by simp [Json.lookup_append, Json.lookup]) rfl (fun v hv => ?_) (le_refl 3)
    obtain ⟨t, -, rfl⟩ := Option.mem_map.1 hv
    exact (keepsFrom_two_option_string t).mono (by omega)

end Shape

namespace Write

theorem obj_ne_null (fs : List (String × Json)) : obj fs ≠ .null := by
  simp

/-- An action without params is written as its id and its type. -/
theorem action_eq_of_null {id : String} {k : ActionKind} (h : params k = .null) :
    action (.mk id k) = .obj [("id", .str id), ("type", .str k.typeName)] := by
  have hlt := Shape.id_lt_type
  rw [action, h]
  simp [Json.merge, Json.setField, ne_of_gt hlt, not_lt_of_gt hlt]

end Write

theorem Action.roundTrips_stop (id : String) : (Action.mk id .stopPropagation).RoundTrips := by
  rw [Action.RoundTrips, Write.action_eq_of_null rfl]
  -- both objects are two levels deep
  refine ⟨_, (Shape.checksFrom_action_stop id).mono (show 3 ≤ 2 + 2 by omega), fun m hm => ?_⟩
  change 2 ≤ m at hm
  obtain ⟨m', rfl⟩ : ∃ m', m = m' + 1 := ⟨m - 1, by omega⟩
  exact Read.action_stop id m'

theorem Action.roundTrips_unsupported {t : String} (P : Json) (h1 : Shape.params t = none)
    (h2 : t ≠ "stop_propagation") (id : String) : (Action.mk id (.unsupported t P)).RoundTrips := by
  -- the check puts back, as `null`, params the writer left out
  have hc : ∃ c, Shape.ChecksFrom 3 .action (Write.action (.mk id (.unsupported t P))) c ∧
      c = .obj [("id", .str id), ("params", P), ("type", .str t)] := by
    by_cases hP : P = .null
    · subst hP
      rw [Write.action_eq_of_null rfl]
      exact ⟨_, Shape.checksFrom_action_unknown_bare h1 h2, rfl⟩
    · rw [Write.action_eq_of_ne_null (show Write.params (.unsupported t P) ≠ .null from hP)]
      exact ⟨_, Shape.checksFrom_action_unknown P h1 h2, rfl⟩
  obtain ⟨c, hc, rfl⟩ := hc
  refine ⟨_, hc.mono (by have := Json.one_le_depth (Write.action (.mk id (.unsupported t P))); omega),
    fun m hm => ?_⟩
  rw [depth_action_obj] at hm
  obtain ⟨m', rfl⟩ : ∃ m', m = m' + 1 := ⟨m - 1, by have := Json.one_le_depth P; omega⟩
  exact Read.action_unknown P m' h1 h2

mutual
/-- Every normal action round trips. -/
theorem Action.roundTrips_of_normal : ∀ a : Action, a.Normal → a.RoundTrips
  | .mk id k, h => ActionKind.roundTrips_of_normal k h id
/-- Every action of a normal kind round trips, whatever its id. -/
theorem ActionKind.roundTrips_of_normal : ∀ k : ActionKind, k.Normal → ∀ id, (Action.mk id k).RoundTrips
  | .navigation how target ps, h, id =>
    ActionKind.roundTrips_of_params (k := .navigation how target ps) rfl (Write.obj_ne_null _) (Shape.paramsRoundTrip_navigation h) id
  | .stateUpdate p, h, id =>
    ActionKind.roundTrips_of_params (k := .stateUpdate p) rfl (Write.obj_ne_null _) (Shape.paramsRoundTrip_stateUpdate h.1 h.2) id
  | .recalculate target formula, _, id =>
    ActionKind.roundTrips_of_params (k := .recalculate target formula) rfl (Write.obj_ne_null _) (Shape.paramsRoundTrip_recalculate target formula) id
  | .apiCall r s e, h, id =>
    ActionKind.roundTrips_of_params (k := .apiCall r s e) rfl (Write.obj_ne_null _)
      (Shape.paramsRoundTrip_apiCall h.1 h.2.1 (Action.allRoundTrip s h.2.2.1) (Action.allRoundTrip e h.2.2.2)) id
  | .emitEvent name payload, h, id =>
    ActionKind.roundTrips_of_params (k := .emitEvent name payload) rfl (Write.obj_ne_null _) (Shape.paramsRoundTrip_emitEvent h) id
  | .condition c t f, h, id =>
    ActionKind.roundTrips_of_params (k := .condition c t f) rfl (Write.obj_ne_null _)
      (Shape.paramsRoundTrip_condition (Action.allRoundTrip t h.1) (Action.allRoundTrip f h.2)) id
  | .toast m v d, h, id => ActionKind.roundTrips_of_params (k := .toast m v d) rfl (Write.obj_ne_null _) (Shape.paramsRoundTrip_toast h) id
  | .openWidget w, _, id => ActionKind.roundTrips_of_params (k := .openWidget w) rfl (Write.obj_ne_null _) (Shape.paramsRoundTrip_openWidget w) id
  | .closeWidget w, _, id => ActionKind.roundTrips_of_params (k := .closeWidget w) rfl (Write.obj_ne_null _) (Shape.paramsRoundTrip_closeWidget w) id
  | .stopPropagation, _, id => Action.roundTrips_stop id
  | .batch as atomic, h, id =>
    ActionKind.roundTrips_of_params (k := .batch as atomic) rfl (Write.obj_ne_null _) (Shape.paramsRoundTrip_batch (Action.allRoundTrip as h)) id
  | .unsupported _ P, h, id => Action.roundTrips_unsupported P h.1 h.2 id
/-- Every action of a normal list round trips. -/
theorem Action.allRoundTrip : ∀ as : List Action, Action.AllNormal as → ∀ a ∈ as, a.RoundTrips
  | [], _, _, h => absurd h List.not_mem_nil
  | b :: bs, h, a, ha => by
    rcases List.mem_cons.1 ha with hab | ha
    · exact hab ▸ Action.roundTrips_of_normal b h.1
    · exact Action.allRoundTrip bs h.2 a ha
end

@[simp] theorem Action.normal_mk (id : String) (k : ActionKind) : (Action.mk id k).Normal ↔ k.Normal := Iff.rfl

theorem Action.allNormal_iff : ∀ {as : List Action}, Action.AllNormal as ↔ ∀ a ∈ as, a.Normal
  | [] => by simp [Action.AllNormal]
  | a :: as => by simp [Action.AllNormal, Action.allNormal_iff]

namespace Json

theorem WellFormed.fields {v : Json} (h : v.WellFormed) :
    Sorted (v.fields?.getD []) ∧ ∀ kv ∈ v.fields?.getD [], kv.2.WellFormed := by
  cases h with
  | obj hs hfs => exact ⟨hs, hfs⟩
  | _ => exact ⟨.nil, by simp [fields?]⟩

theorem WellFormed.items {v : Json} (h : v.WellFormed) : ∀ x ∈ v.items?.getD [], x.WellFormed := by
  cases h with
  | arr hxs => exact hxs
  -- any other value has no items
  | _ => exact fun _ hx => absurd hx List.not_mem_nil

end Json

namespace Read

theorem value?_ne_null (fs : List (String × Json)) (k : String) : value? fs k ≠ some .null := by
  unfold value?
  split <;> simp_all

theorem lenientNumber_isFinite {o : Option Json} : ∀ f ∈ lenientNumber o, f.isFinite = true := by
  intro f hf
  simp only [lenientNumber, Option.mem_def, Option.bind_eq_some_iff] at hf
  obtain ⟨v, -, hv⟩ := hf
  split at hv
  · cases hv
    assumption
  · cases hv

theorem lenientDuration_rounded {o : Option Json} :
    ∀ n ∈ lenientDuration o, ∃ f, n = Binary64.roundToUInt64Clamped f := by
  intro n hn
  simp only [lenientDuration, Option.mem_def, Option.bind_eq_some_iff] at hn
  obtain ⟨f, -, hf⟩ := hn
  split at hf
  · cases hf
    exact ⟨f, rfl⟩
  · cases hf

/-- Headers read from a sorted object are sorted by name. -/
theorem headers_sorted {fs : List (String × Json)} (h : Json.Sorted fs) :
    ((fs.filterMap fun kx => kx.2.str?.map (kx.1, ·)).map Prod.fst).Pairwise (· < ·) := by
  rw [List.pairwise_map]
  refine List.Pairwise.filterMap _ (fun a b hab x hx y hy => ?_) h
  obtain ⟨s, -, rfl⟩ := Option.map_eq_some_iff.1 hx
  obtain ⟨t, -, rfl⟩ := Option.map_eq_some_iff.1 hy
  exact hab

end Read

theorem Shape.params_eq_none_iff {t : String} :
    Shape.params t = none ↔ t ∉ ["navigation", "state_update", "recalculate", "api_call", "emit_event",
      "condition", "toast", "open_widget", "close_widget", "batch"] := by
  unfold Shape.params
  split <;> simp_all

namespace Read

/-- Every action the reader gives from a well-formed value is normal, at any fuel. -/
theorem action_normal : ∀ (fuel : Nat) (v : Json), v.WellFormed → (action fuel v).Normal
  | 0, _, _ => trivial
  | fuel + 1, v, hv => by
    -- the parts of the value the reader visits are well formed
    have hfs := hv.fields
    have hps := ((Json.WellFormed.obj hfs.1 hfs.2).field "params").fields
    have hsub := fun k => (Json.WellFormed.obj hps.1 hps.2).field k
    have hacts := fun k => Action.allNormal_iff.2 fun a ha => by
      obtain ⟨x, hx, rfl⟩ := List.mem_map.1 ha
      exact action_normal fuel x ((hsub k).items x hx)
    have hheaders := headers_sorted (hsub "headers").fields.1
    rw [action, Action.normal_mk]
    -- one case per type name the reader knows, in its order, then an unknown type
    split
    next => exact value?_ne_null _ _
    next => exact ⟨value?_ne_null _ _, lenientNumber_isFinite⟩
    next => trivial
    next => exact ⟨hheaders, value?_ne_null _ _, hacts _, hacts _⟩
    next => exact value?_ne_null _ _
    next => exact ⟨hacts _, hacts _⟩
    next => exact lenientDuration_rounded
    next => trivial
    next => trivial
    next => trivial
    next => exact hacts _
    next _ h1 h2 h3 h4 h5 h6 h7 h8 h9 hstop h11 =>
      refine ⟨Shape.params_eq_none_iff.2 ?_, hstop⟩
      simp only [List.mem_cons, List.not_mem_nil, or_false, not_or]
      exact ⟨h1, h2, h3, h4, h5, h6, h7, h8, h9, h11⟩

end Read

/-- Decoding the written form of an action that round trips gives it back. -/
theorem Action.decode_of_roundTrips {a : Action} (h : a.RoundTrips) : Action.decode (Write.action a) = .ok a := by
  obtain ⟨c, hc, hr⟩ := h
  show (Shape.check ((Write.action a).depth + 2) .action (Write.action a)).map _ = _
  rw [hc _ le_rfl]
  exact congrArg Except.ok (hr _ (Nat.le_succ _))

/-- Decoding the written form of an action decoded from a well-formed value gives it back. -/
theorem Action.decode_write_decoded {j : Json} {a : Action} (hj : j.WellFormed) (h : Action.decode j = .ok a) :
    Action.decode (Write.action a) = .ok a := by
  unfold Action.decode at h
  cases hc : Shape.checkValue .action j with
  | error e => rw [hc] at h; cases h
  | ok c =>
    rw [hc] at h
    cases h
    have hwf := Shape.check_wellFormed _ _ _ _ hc hj
    exact Action.decode_of_roundTrips (Action.roundTrips_of_normal _ (Read.action_normal _ c hwf))

/-- A widget in the form decoding gives: its position and size finite, its actions normal. -/
structure Widget.Normal (w : Widget) : Prop where
  /-- Both coordinates are finite. -/
  position : w.position.x.isFinite = true ∧ w.position.y.isFinite = true
  /-- Both extents are finite. -/
  size : w.size.width.isFinite = true ∧ w.size.height.isFinite = true
  /-- Every attached action is normal. -/
  actions : Action.AllNormal w.actions

namespace Json

/-- A well-formed number is a finite double. -/
theorem WellFormed.asFloat_isFinite {v : Json} (h : v.WellFormed) : ∀ f ∈ v.asFloat?, f.isFinite = true := by
  intro f hf
  cases h with
  | int hlo hhi =>
    cases hf
    exact Binary64.isFinite_ofInt (by omega)
  | float hfin => cases hf; exact hfin
  | _ => cases hf

end Json

namespace Read

theorem float_isFinite {fs : List (String × Json)} (h : (Json.obj fs).WellFormed) (k : String) :
    (float fs k).isFinite = true := by
  unfold float
  cases hf : (field fs k).asFloat? with
  | none => rfl
  | some f => exact (h.field k).asFloat_isFinite f hf

theorem actions_normal {v : Json} (h : v.WellFormed) : Action.AllNormal (actions v) :=
  Action.allNormal_iff.2 fun a ha => by
    obtain ⟨x, hx, rfl⟩ := List.mem_map.1 ha
    exact action_normal _ x (h.items x hx)

/-- Every widget the reader gives from a well-formed value is normal. -/
theorem widget_normal {v : Json} (hv : v.WellFormed) : (widget v).Normal := by
  have hfs := hv.fields
  have hobj := Json.WellFormed.obj hfs.1 hfs.2
  have hpos := (hobj.field "position").fields
  have hsize := (hobj.field "size").fields
  exact ⟨⟨float_isFinite (.obj hpos.1 hpos.2) "x", float_isFinite (.obj hpos.1 hpos.2) "y"⟩,
    ⟨float_isFinite (.obj hsize.1 hsize.2) "width", float_isFinite (.obj hsize.1 hsize.2) "height"⟩,
    actions_normal (hobj.field "actions")⟩

end Read

namespace Write

theorem float_of_isFinite {f : Float} (h : f.isFinite = true) : float f = .float f := if_pos h

theorem widget_eq (w : Widget) :
    widget w = obj ([("id", .str w.id), ("type", .str w.widgetType)] ++ opt "parentId" (w.parentId.map .str)
      ++ [("position", obj [("x", float w.position.x), ("y", float w.position.y)]),
          ("size", obj [("width", float w.size.width), ("height", float w.size.height)]),
          ("props", .obj w.props)]
      ++ opt "actions" (if w.actions.isEmpty then none else some (.arr (actions w.actions)))) := by
  show obj _ = _
  simp only [ite_nil_eq_opt]

end Write

namespace Shape

/-- A value written as an object of declared fields that all check, with the required ones
there, checks from its depth on to the object of what `storedField` says. -/
theorem checksFrom_of_written {s : Shape} {name : String} {fields : List (String × Shape × Bool)}
    (hs : s = .record name fields) {W : Json} {fs : List (String × Json)} (hw : W = Write.obj fs)
    (hk : ∀ key x, (key, x) ∈ fs →
      ∃ e c, fields.find? (·.1 == key) = some e ∧ ChecksFrom (x.depth + 2) e.2.1 x c)
    (hreq : ∀ e ∈ fields, e.2.2 = true → ∃ x, (e.1, x) ∈ fs) :
    ∃ out, ChecksFrom (W.depth + 2) s W (.obj out) ∧
      ∀ key, Json.lookup key out = storedField fields (Json.merge [] fs) key := by
  subst hs hw
  exact checksFrom_written hk hreq

/-- A position of finite doubles, written, checks to itself. -/
theorem checksFrom_position {x y : Float} (hx : x.isFinite = true) (hy : y.isFinite = true) :
    ChecksFrom ((Write.obj [("x", Write.float x), ("y", Write.float y)]).depth + 2) position
      (Write.obj [("x", Write.float x), ("y", Write.float y)]) (Write.obj [("x", .float x), ("y", .float y)]) := by
  rw [Write.float_of_isFinite hx, Write.float_of_isFinite hy, Write.obj_eq]
  refine checksFrom_kept (fun key v h => ?_) (by simp [req_eq])
  simp only [List.mem_cons, List.not_mem_nil, or_false, Prod.mk.injEq] at h
  rcases h with ⟨rfl, rfl⟩ | ⟨rfl, rfl⟩
  · exact ⟨_, rfl, (keepsFrom_float x).mono (by omega)⟩
  · exact ⟨_, rfl, (keepsFrom_float y).mono (by omega)⟩

/-- A size of finite doubles, written, checks to itself. -/
theorem checksFrom_size {w h : Float} (hw : w.isFinite = true) (hh : h.isFinite = true) :
    ChecksFrom ((Write.obj [("width", Write.float w), ("height", Write.float h)]).depth + 2) size
      (Write.obj [("width", Write.float w), ("height", Write.float h)])
      (Write.obj [("width", .float w), ("height", .float h)]) := by
  rw [Write.float_of_isFinite hw, Write.float_of_isFinite hh, Write.obj_eq]
  refine checksFrom_kept (fun key v hm => ?_) (by simp [req_eq])
  simp only [List.mem_cons, List.not_mem_nil, or_false, Prod.mk.injEq] at hm
  rcases hm with ⟨rfl, rfl⟩ | ⟨rfl, rfl⟩
  · exact ⟨_, rfl, (keepsFrom_float w).mono (by omega)⟩
  · exact ⟨_, rfl, (keepsFrom_float h).mono (by omega)⟩

end Shape

/-- Decoding the written form of a normal widget gives it back. -/
theorem Widget.decode_of_normal {w : Widget} (hw : w.Normal) : Widget.decode (Write.widget w) = .ok w := by
  obtain ⟨cs, hcs, hread⟩ := Action.checksFrom_actions (Action.allRoundTrip w.actions hw.actions)
  have hpos := Shape.checksFrom_position hw.position.1 hw.position.2
  have hsize := Shape.checksFrom_size hw.size.1 hw.size.2
  have hprops : Shape.KeepsFrom 2 (.dict .any) (.obj w.props) := Shape.keepsFrom_dict fun kv _ => Shape.keepsFrom_any _
  obtain ⟨out, hc, hout⟩ := Shape.checksFrom_of_written (s := Shape.widget) rfl (Write.widget_eq w)
    (fun key x h => by
      simp only [List.mem_append, List.mem_cons, List.not_mem_nil, or_false, Write.mem_opt, Prod.mk.injEq,
        or_assoc] at h
      rcases h with ⟨rfl, rfl⟩ | ⟨rfl, rfl⟩ | ⟨rfl, hx⟩ | ⟨rfl, rfl⟩ | ⟨rfl, rfl⟩ | ⟨rfl, rfl⟩ | ⟨rfl, hx⟩
      · exact ⟨_, _, rfl, (Shape.keepsFrom_string _).checksFrom (by omega)⟩
      · exact ⟨_, _, rfl, (Shape.keepsFrom_string _).checksFrom (by omega)⟩
      · obtain ⟨t, -, rfl⟩ := Option.map_eq_some_iff.1 hx
        exact ⟨_, _, rfl, (Shape.keepsFrom_two_option_string t).checksFrom (by omega)⟩
      · exact ⟨_, _, rfl, hpos⟩
      · exact ⟨_, _, rfl, hsize⟩
      · exact ⟨_, _, rfl, hprops.checksFrom (by have := Json.one_le_depth (.obj w.props); omega)⟩
      · split at hx
        · cases hx
        · cases hx
          exact ⟨_, _, rfl, hcs⟩)
    (by simp [Shape.req_eq, Shape.opt_eq])
  show (Shape.check ((Write.widget w).depth + 2) Shape.widget (Write.widget w)).map Read.widget = _
  rw [hc _ le_rfl]
  refine congrArg Except.ok ?_
  -- what the check stored under each key
  have h1 : Json.lookup "id" out = some (.str w.id) := by
    rw [hout]
    exact Shape.storedField_of_keepsFrom (by simp [Json.lookup_append, Json.lookup]) rfl
      (Shape.keepsFrom_string _) (by omega)
  have h2 : Json.lookup "type" out = some (.str w.widgetType) := by
    rw [hout]
    exact Shape.storedField_of_keepsFrom (by simp [Json.lookup_append, Json.lookup]) rfl
      (Shape.keepsFrom_string _) (by omega)
  have h3 : Json.lookup "parentId" out = w.parentId.map .str := by
    rw [hout]
    refine Shape.storedField_of_opt (by simp [Json.lookup_append, Json.lookup]) rfl (fun v hv => ?_) (le_refl 3)
    obtain ⟨t, -, rfl⟩ := Option.mem_map.1 hv
    exact (Shape.keepsFrom_two_option_string t).mono (by omega)
  have h4 : Json.lookup "position" out = some (Write.obj [("x", .float w.position.x), ("y", .float w.position.y)]) := by
    rw [hout]
    exact Shape.storedField_of_checksFrom (by simp [Json.lookup_append, Json.lookup]) rfl hpos
  have h5 : Json.lookup "size" out =
      some (Write.obj [("width", .float w.size.width), ("height", .float w.size.height)]) := by
    rw [hout]
    exact Shape.storedField_of_checksFrom (by simp [Json.lookup_append, Json.lookup]) rfl hsize
  have h6 : Json.lookup "props" out = some (.obj w.props) := by
    rw [hout]
    exact Shape.storedField_of_keepsFrom (by simp [Json.lookup_append, Json.lookup]) rfl hprops
      (by have := Json.one_le_depth (.obj w.props); omega)
  have h7 : Read.actions (Read.field out "actions") = w.actions := by
    by_cases hnil : w.actions = []
    · have hnone : Json.lookup "actions" out = none := by
        rw [hout]
        exact Shape.storedField_of_lookup_none (by simp [Json.lookup_append, Json.lookup, hnil])
      rw [Read.field_of_lookup_none hnone, hnil]
      rfl
    · have hsome : Json.lookup "actions" out = some (.arr cs) := by
        rw [hout]
        exact Shape.storedField_of_checksFrom (by simp [Json.lookup, hnil]) rfl hcs
      rw [Read.actions, Read.field_of_lookup hsome]
      exact hread _ (by omega)
  unfold Read.widget
  simp only [Json.fields?, Option.getD_some, Read.text_of_lookup h1, Read.text_of_lookup h2, Read.text?_of_lookup h3,
    Read.field_of_lookup h4, Read.field_of_lookup h5, Read.field_of_lookup h6, h7, Write.obj_eq]
  simp [Read.float, Read.field, Json.lookup, Json.asFloat?]

/-- Decoding the written form of a widget decoded from a well-formed value gives it back. -/
theorem Widget.decode_write_decoded {j : Json} {w : Widget} (hj : j.WellFormed) (h : Widget.decode j = .ok w) :
    Widget.decode (Write.widget w) = .ok w := by
  unfold Widget.decode at h
  cases hc : Shape.checkValue .widget j with
  | error e => rw [hc] at h; cases h
  | ok c =>
    rw [hc] at h
    cases h
    exact Widget.decode_of_normal (Read.widget_normal (Shape.check_wellFormed _ _ _ _ hc hj))

end Storyboard

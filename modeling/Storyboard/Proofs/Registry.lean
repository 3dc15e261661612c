import Mathlib.Data.List.Nodup
import Storyboard.Preview.Run

/-!
# Registering events

`Hub.register` puts an event in the registry: in place of the first event of its id, or last
(`Hub.enroll`). Started from a registry whose ids are distinct, a sequence of registrations keeps
them distinct, and the registry it leaves is determined by the events alone: the ids in the
order they first appeared, the registry's own first and then each new id when it was first
registered, each holding the latest event of its id. The listeners of a name are then, in
registry order, the events with a custom trigger of that name or of that id.

The run is carried by one invariant (`Registered`) of the registry and of the events put in so
far: the ids are those of the events in the order they first appeared, and each event of the
registry is the latest of its id. The registry one starts from has it (`registered_self`), and
registering one more event keeps it (`Registered.enroll`).

Main statement: `registrations_keep_latest_in_first_order`.
-/

namespace Storyboard

namespace Hub

@[simp] theorem register_registry (hub : Hub) (e : EventDef) :
    (hub.register e).registry = enroll e hub.registry := rfl

theorem enroll_nil (e : EventDef) : enroll e [] = [e] := rfl

theorem enroll_cons (e x : EventDef) (rest : List EventDef) :
    enroll e (x :: rest) = if x.id = e.id then e :: rest else x :: enroll e rest := rfl

/-- Registering keeps the ids in place, and adds the new one last when it is new. -/
theorem map_id_enroll (e : EventDef) (r : List EventDef) :
    (enroll e r).map EventDef.id =
      r.map EventDef.id ++ if e.id ∈ r.map EventDef.id then [] else [e.id] := by
  induction r with
  | nil => simp [enroll_nil]
  | cons x rest ih =>
    by_cases hx : x.id = e.id
    · simp [enroll_cons, hx]
    · rw [enroll_cons, if_neg hx, List.map_cons, ih]
      simp [Ne.symm hx]

/-- With distinct ids, the events after registering are the new one and the others of other ids. -/
theorem mem_enroll {e z : EventDef} {r : List EventDef} (hd : (r.map EventDef.id).Nodup) :
    z ∈ enroll e r ↔ z = e ∨ (z ∈ r ∧ z.id ≠ e.id) := by
  induction r with
  | nil => simp [enroll_nil]
  | cons x rest ih =>
    rw [List.map_cons, List.nodup_cons] at hd
    by_cases hx : x.id = e.id
    · -- the replaced event was the only one of its id
      have hrest : ∀ y ∈ rest, y.id ≠ e.id := fun y hy hye =>
        hd.1 (hx ▸ hye ▸ List.mem_map_of_mem hy)
      rw [enroll_cons, if_pos hx, List.mem_cons]
      constructor
      · rintro (rfl | hz)
        · exact .inl rfl
        · exact .inr ⟨List.mem_cons_of_mem x hz, hrest z hz⟩
      · rintro (rfl | ⟨hz, hze⟩)
        · exact .inl rfl
        · rcases List.mem_cons.1 hz with rfl | hz
          · exact absurd hx hze
          · exact .inr hz
    · rw [enroll_cons, if_neg hx, List.mem_cons, ih hd.2, List.mem_cons]
      constructor
      · rintro (rfl | rfl | ⟨hz, hze⟩)
        · exact .inr ⟨.inl rfl, hx⟩
        · exact .inl rfl
        · exact .inr ⟨.inr hz, hze⟩
      · rintro (rfl | ⟨rfl | hz, hze⟩)
        · exact .inr (.inl rfl)
        · exact .inl rfl
        · exact .inr (.inr ⟨hz, hze⟩)

/-! ## Ids in the order they first appeared -/

/-- A list without repeats keeps all of itself. -/
theorem eraseDups_of_nodup {l : List String} (h : l.Nodup) : l.eraseDups = l := by
  induction l with
  | nil => rfl
  | cons a l ih =>
    rw [List.nodup_cons] at h
    have hkeep : l.filter (fun b => !b == a) = l := List.filter_eq_self.2 fun b hb => by
      have hba : b ≠ a := fun hba => h.1 (hba ▸ hb)
      simp [hba]
    rw [List.eraseDups_cons, hkeep, ih h.2]

/-- One more element is kept, last, when it is new. -/
theorem eraseDups_concat (l : List String) (a : String) :
    (l ++ [a]).eraseDups = l.eraseDups ++ if a ∈ l then [] else [a] := by
  rw [List.eraseDups_append]
  by_cases ha : a ∈ l
  · simp [List.removeAll, ha]
  · simp [List.removeAll, ha, List.eraseDups_cons]

/-- With distinct ids, searching a registry for the id of one of its events finds that event. -/
theorem find?_id_of_nodup {l : List EventDef} (hd : (l.map EventDef.id).Nodup) {x : EventDef}
    (hx : x ∈ l) : l.find? (·.id == x.id) = some x := by
  obtain ⟨y, hy⟩ : ∃ y, l.find? (·.id == x.id) = some y :=
    Option.isSome_iff_exists.1 (List.find?_isSome.2 ⟨x, hx, by simp⟩)
  have hyid : y.id = x.id := by simpa using List.find?_some hy
  rw [hy, List.inj_on_of_nodup_map hd (List.mem_of_find?_eq_some hy) hx hyid]

/-- The registry `r` holds the events `l` put in: their ids in the order they first appeared,
each id once, each with the latest event of its id. -/
structure Registered (r l : List EventDef) : Prop where
  /-- No id twice. -/
  nodup : (r.map EventDef.id).Nodup
  /-- The ids in the order they first appeared. -/
  ids : r.map EventDef.id = (l.map EventDef.id).eraseDups
  /-- Each event is the latest of its id. -/
  latest : ∀ x ∈ r, l.reverse.find? (·.id == x.id) = some x

/-- A registry with distinct ids holds its own events. -/
theorem registered_self {r : List EventDef} (hd : (r.map EventDef.id).Nodup) : Registered r r where
  nodup := hd
  ids := (eraseDups_of_nodup hd).symm
  latest := fun _ hx =>
    find?_id_of_nodup (by rw [List.map_reverse]; exact List.nodup_reverse.2 hd) (List.mem_reverse.2 hx)

/-- Registering an event keeps the registry holding the events put in, this one last. -/
theorem Registered.enroll {r l : List EventDef} (h : Registered r l) (e : EventDef) :
    Registered (Hub.enroll e r) (l ++ [e]) where
  nodup := by
    rw [map_id_enroll]
    split
    · simpa using h.nodup
    · next hnew => exact List.nodup_append.2 ⟨h.nodup, by simp, by simpa using hnew⟩
  ids := by
    -- the id is new to the registry exactly when it is new to the events put in
    have hmem : e.id ∈ r.map EventDef.id ↔ e.id ∈ l.map EventDef.id := by
      rw [h.ids, List.mem_eraseDups]
    rw [map_id_enroll, List.map_append, List.map_singleton, eraseDups_concat, ← h.ids]
    simp only [hmem]
  latest := by
    intro x hx
    rw [List.reverse_append, List.reverse_singleton, List.singleton_append]
    rcases (mem_enroll h.nodup).1 hx with rfl | ⟨hx, hxe⟩
    · exact List.find?_cons_of_pos (by simp)
    · rw [List.find?_cons_of_neg (by simpa using Ne.symm hxe)]
      exact h.latest x hx

/-- Registrations one after another, from a registry that holds the events `l`. -/
theorem registered_foldl (es : List EventDef) :
    ∀ (hub : Hub) (l : List EventDef), Registered hub.registry l →
      Registered (es.foldl register hub).registry (l ++ es) := by
  induction es with
  | nil =>
    intro hub l h
    rw [List.foldl_nil, List.append_nil]
    exact h
  | cons e es ih =>
    intro hub l h
    rw [List.foldl_cons, ← List.singleton_append, ← List.append_assoc]
    exact ih (hub.register e) (l ++ [e]) (h.enroll e)

/-- The listeners of a name are the events, in registry order, with a custom trigger whose
name is that name or whose id is that name. -/
theorem listeners_eq_filter (hub : Hub) (name : String) :
    hub.listeners name = hub.registry.filter fun e =>
      e.trigger.kind = .custom ∧ (e.trigger.name = some name ∨ e.id = name) := by
  unfold listeners
  congr 1
  funext e
  simp only [EventDef.listensTo, Bool.beq_eq_decide_eq, Bool.decide_and, Bool.decide_or]

end Hub

/-- Registering events one after another, starting from a registry whose ids are distinct, keeps
the ids distinct; each id is where it first appeared, the registry's own first and then the new
ones in the order they were registered, and holds the latest event registered under it. The
listeners of a name are, in registry order, the events with a custom trigger whose name is that
name or whose id is that name. -/
theorem registrations_keep_latest_in_first_order (hub : Hub) (es : List EventDef)
    (hd : (hub.registry.map EventDef.id).Nodup) :
    ((es.foldl Hub.register hub).registry.map EventDef.id).Nodup ∧
      (es.foldl Hub.register hub).registry.map EventDef.id =
        ((hub.registry ++ es).map EventDef.id).eraseDups ∧
      (∀ x ∈ (es.foldl Hub.register hub).registry,
        (hub.registry ++ es).reverse.find? (·.id == x.id) = some x) ∧
      ∀ name, (es.foldl Hub.register hub).listeners name =
        (es.foldl Hub.register hub).registry.filter fun e =>
          e.trigger.kind = .custom ∧ (e.trigger.name = some name ∨ e.id = name) := by
  have h := Hub.registered_foldl es hub hub.registry (Hub.registered_self hd)
  exact ⟨h.nodup, h.ids, h.latest, Hub.listeners_eq_filter _⟩

/-- An event of a custom trigger, listening to `name`. -/
def listensAs (id name : String) : EventDef :=
  { id := id, trigger := { kind := .custom, name := some name } }

/-- Re-registering `a` moves it from `x` to `y`, in place: `x` has no listener left and `y` two. -/
example :
    let hub := [listensAs "a" "y", listensAs "b" "y"].foldl Hub.register
      { registry := [listensAs "a" "x"] }
    hub.registry.map EventDef.id = ["a", "b"] ∧ hub.listeners "x" = [] ∧
      (hub.listeners "y").map EventDef.id = ["a", "b"] := by
  decide

/-- Over a registry holding `a` listening to `x`, registering `a` again to listen to `y`, then
`b` listening to `y`. -/
theorem registrations_of_a_and_b :
    ([listensAs "a" "x"].map EventDef.id).Nodup ∧
      let hub : Hub := { registry := [listensAs "a" "x"] }
      let es := [listensAs "a" "y", listensAs "b" "y"]
      ((es.foldl Hub.register hub).registry.map EventDef.id).Nodup ∧
        (es.foldl Hub.register hub).registry.map EventDef.id =
          ((hub.registry ++ es).map EventDef.id).eraseDups ∧
        (∀ x ∈ (es.foldl Hub.register hub).registry,
          (hub.registry ++ es).reverse.find? (·.id == x.id) = some x) ∧
        ∀ name, (es.foldl Hub.register hub).listeners name =
          (es.foldl Hub.register hub).registry.filter fun e =>
            e.trigger.kind = .custom ∧ (e.trigger.name = some name ∨ e.id = name) :=
  ⟨by decide, registrations_keep_latest_in_first_order _ _ (by decide)⟩

end Storyboard

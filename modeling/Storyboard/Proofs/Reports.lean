import Storyboard.Proofs.Edits

/-!
# What the edits of a tree report

Every edit of a tree answers a list of ids. Re-placing a container walks down from it,
writing back each child whose position or size came out different and listing its id; the
edits then answer what their walks listed, `resize` its own widget first and `resize` and
`relayout_all` each id once.

What holds of every linked tree (`edits_report_placement_changes`):

* every widget whose position or size differs after an edit is listed, a widget being added
  counting as placed where it was passed in, except for `remove`, which answers the widgets
  it took out and not the ones its parent's re-placing moved;
* no id is listed twice, except by `move`, whose two walks (the new parent's and the old
  one's) can both list a widget, and by an edit that leaves a container listing a child twice;
* `resize` lists the resized widget first.

The walk is described once (`Reports`): what it adds to its report, that every widget it does
not list is as it was, and that each id it lists is a child of a container it had not yet
done. Since every widget is the child of one container and every container is done once, the
walk over a tree that lists no child twice lists no id twice.
-/

namespace Storyboard

/-! ## Listing ids once -/

section Unique

/-- One step of `uniqueIds`: an id not yet listed is added at the end. -/
theorem mem_foldl_unique (l acc : List String) (x : String) :
    x ∈ l.foldl (fun acc id => if acc.contains id then acc else acc ++ [id]) acc ↔
      x ∈ acc ∨ x ∈ l := by
  induction l generalizing acc with
  | nil => simp
  | cons y l ih =>
    rw [List.foldl_cons, ih]
    split
    · next hy =>
      have hy : y ∈ acc := by simpa using hy
      constructor
      · exact fun h => h.imp_right (List.mem_cons_of_mem y)
      · rintro (h | h)
        · exact Or.inl h
        · rcases List.mem_cons.1 h with rfl | h
          · exact Or.inl hy
          · exact Or.inr h
    · simp only [List.mem_append, List.mem_cons]
      tauto

theorem nodup_foldl_unique (l acc : List String) (h : acc.Nodup) :
    (l.foldl (fun acc id => if acc.contains id then acc else acc ++ [id]) acc).Nodup := by
  induction l generalizing acc with
  | nil => exact h
  | cons y l ih =>
    rw [List.foldl_cons]
    apply ih
    split
    · exact h
    · next hy =>
      have hy : y ∉ acc := by simpa using hy
      exact List.nodup_append.2 ⟨h, List.nodup_singleton y,
        fun a ha b hb => by rw [List.mem_singleton.1 hb]; exact fun hay => hy (hay ▸ ha)⟩

theorem foldl_unique_prefix (l acc : List String) :
    ∃ rest, l.foldl (fun acc id => if acc.contains id then acc else acc ++ [id]) acc = acc ++ rest := by
  induction l generalizing acc with
  | nil => exact ⟨[], by simp⟩
  | cons y l ih =>
    rw [List.foldl_cons]
    split
    · exact ih acc
    · obtain ⟨rest, h⟩ := ih (acc ++ [y])
      exact ⟨[y] ++ rest, by rw [h, List.append_assoc]⟩

@[simp] theorem mem_uniqueIds (l : List String) (x : String) : x ∈ uniqueIds l ↔ x ∈ l := by
  unfold uniqueIds
  rw [mem_foldl_unique]
  simp

theorem nodup_uniqueIds (l : List String) : (uniqueIds l).Nodup :=
  nodup_foldl_unique l [] List.nodup_nil

theorem head?_uniqueIds_cons (x : String) (l : List String) : (uniqueIds (x :: l)).head? = some x := by
  obtain ⟨rest, h⟩ := foldl_unique_prefix l [x]
  have hfirst : uniqueIds (x :: l)
      = l.foldl (fun acc id => if acc.contains id then acc else acc ++ [id]) [x] := rfl
  rw [hfirst, h]
  rfl

end Unique

namespace Tree

variable {t : Tree}

/-! ## Where widgets sit -/

/-- Where the widget of an id sits and how large it is, if the tree has it. -/
def placeOf (t : Tree) (id : String) : Option (Point × Extent) :=
  (t.get? id).map fun w => (w.position, w.size)

/-- A widget as it was is where it was. -/
theorem placeOf_eq_of_get? {t' : Tree} {x : String} (h : t'.get? x = t.get? x) :
    t'.placeOf x = t.placeOf x := by
  rw [placeOf, h, placeOf]

section Put

variable (hs : t.Sorted)
include hs

theorem placeOf_put (w : Widget) (x : String) :
    (t.put w).placeOf x = if w.id = x then some (w.position, w.size) else t.placeOf x := by
  unfold placeOf
  rw [get?_put hs]
  split <;> rfl

/-- Putting back a widget of the tree where it was and as large as it was changes no place. -/
theorem placeOf_put_of_get? {id : String} {w w' : Widget} (hget : t.get? id = some w)
    (hid : w'.id = w.id) (hpos : w'.position = w.position) (hsize : w'.size = w.size) (x : String) :
    (t.put w').placeOf x = t.placeOf x := by
  rw [placeOf_put hs, hid, id_of_get? hget]
  split
  · next h => rw [← h, placeOf, hget, hpos, hsize]; rfl
  · rfl

theorem placeOf_attach (id p : String) (index : Option Nat) (x : String) :
    (t.attach id p index).placeOf x = t.placeOf x := by
  unfold attach
  split
  · next parent hp => exact placeOf_put_of_get? hs hp (Widget.setChildIds_id _ _) rfl rfl x
  · rfl

theorem placeOf_detach (id x : String) : (t.detach id).2.placeOf x = t.placeOf x := by
  unfold detach
  split
  · split
    · next parent hp => exact placeOf_put_of_get? hs hp (Widget.setChildIds_id _ _) rfl rfl x
    · rfl
  · rfl

theorem placeOf_setParent (id : String) (parent : Option String) (x : String) :
    (t.setParent id parent).placeOf x = t.placeOf x := by
  unfold setParent
  split
  · next w hget =>
    refine placeOf_put_of_get? hs hget ?_ ?_ ?_ x <;> rfl
  · rfl

end Put

/-! ## One walk of re-placing -/

/-- What a walk over the containers adds to its report (`more`), going from `t` to `t'` with
the containers `seen` already done: every widget it does not list is as it was, each id it
lists is a child of a container not yet done, and when no widget lists a child twice it lists
no id twice. -/
structure Reports (t t' : Tree) (seen more : List String) : Prop where
  frame : ∀ x ∉ more, t'.get? x = t.get? x
  below : ∀ x ∈ more, ∃ p, t.parentOf x = some p ∧ p ∉ seen
  nodup : (∀ p, (t.kidsOf p).Nodup) → more.Nodup

theorem Reports.nil (t : Tree) (seen : List String) : Reports t t seen [] :=
  ⟨fun _ _ => rfl, fun _ h => absurd h List.not_mem_nil, fun _ => List.nodup_nil⟩

/-- A container done without listing anything leaves the report of the rest. -/
theorem Reports.of_cons {t' : Tree} {cur : String} {seen more : List String}
    (h : Reports t t' (cur :: seen) more) : Reports t t' seen more :=
  ⟨h.frame, fun x hx => (h.below x hx).imp fun _ hp => ⟨hp.1, fun hs => hp.2 (List.mem_cons_of_mem _ hs)⟩,
    h.nodup⟩

/-- The widgets in `filterMap get?` of a list of ids are listed by their ids. -/
theorem map_id_filterMap_get?_sublist (t : Tree) (l : List String) :
    List.Sublist ((l.filterMap t.get?).map (·.id)) l := by
  induction l with
  | nil => exact List.Sublist.slnil
  | cons c l ih =>
    rw [List.filterMap_cons]
    cases hc : t.get? c with
    | none => exact ih.cons c
    | some w =>
      rw [List.map_cons, id_of_get? hc]
      exact ih.cons_cons c

/-- The children found for a widget that lists no child twice are found once each. -/
theorem nodup_childrenOf (hs : t.Sorted) {p : String} (hk : (t.kidsOf p).Nodup) :
    ((t.childrenOf p).map (·.id)).Nodup := by
  unfold childrenOf
  split
  · exact List.nodup_nil
  · next parent hp =>
    rw [kidsOf_of_get? hp] at hk
    have hids : (t.widgets.map (·.id)).Nodup := hs.nodup_ids
    rw [List.map_append, List.nodup_append]
    refine ⟨?_, ?_, ?_⟩
    · -- the listed ones come from the children it lists
      exact hk.sublist ((List.filter_sublist.map _).trans (map_id_filterMap_get?_sublist t _))
    · exact hids.sublist (List.filter_sublist.map _)
    · -- the others are those it does not list
      intro a ha b hb hab
      obtain ⟨w, hw, rfl⟩ := List.mem_map.1 hb
      obtain ⟨v, hv, rfl⟩ := List.mem_map.1 ha
      rw [List.mem_filter] at hw
      have hnot := hw.2
      simp only [Bool.and_eq_true, Bool.not_eq_true', List.any_eq_false, beq_iff_eq] at hnot
      exact hnot.2 v hv hab

/-- Writing back re-placed children one pair at a time, listing each one written: the
report grows by the ids of some of the children, in order, and every other widget stays. -/
theorem foldl_write_reports {β : Type} (pairs : List (Widget × Widget))
    (f : Tree × β × List String → Widget × Widget → Tree × β × List String)
    (hf : ∀ acc p, ((f acc p).1 = acc.1 ∧ (f acc p).2.2 = acc.2.2) ∨
      ((f acc p).1 = acc.1.put p.2 ∧ (f acc p).2.2 = acc.2.2 ++ [p.2.id]))
    (acc : Tree × β × List String) (hs : acc.1.Sorted) :
    ∃ more, (pairs.foldl f acc).2.2 = acc.2.2 ++ more ∧ List.Sublist more (pairs.map (·.2.id)) ∧
      ∀ x ∉ more, (pairs.foldl f acc).1.get? x = acc.1.get? x := by
  induction pairs generalizing acc with
  | nil => exact ⟨[], by simp, List.Sublist.slnil, fun _ _ => rfl⟩
  | cons p ps ih =>
    rw [List.foldl_cons, List.map_cons]
    rcases hf acc p with ⟨h1, h2⟩ | ⟨h1, h2⟩
    · -- the child came out where it was: nothing is written or listed
      obtain ⟨more, hm, hsub, hframe⟩ := ih (f acc p) (h1 ▸ hs)
      refine ⟨more, by rw [hm, h2], hsub.cons _, fun x hx => ?_⟩
      rw [hframe x hx, h1]
    · obtain ⟨more, hm, hsub, hframe⟩ := ih (f acc p) (h1 ▸ hs.put p.2)
      refine ⟨p.2.id :: more, by rw [hm, h2, List.append_assoc, List.singleton_append],
        hsub.cons_cons _, fun x hx => ?_⟩
      have hne : p.2.id ≠ x := fun h => hx (h ▸ List.mem_cons_self)
      rw [hframe x (fun h => hx (List.mem_cons_of_mem _ h)), h1, get?_put hs, if_neg hne]

/-- Re-placing leaves each child with its id, so the pairs of children and their re-placed
copies are listed by the children's ids. -/
theorem map_id_zip_reflow (c : Widget) (kids : List Widget) :
    (kids.zip (reflow c kids)).map (·.2.id) = kids.map (·.id) := by
  have hr := reflow_unplaced c kids
  have hlen : (reflow c kids).length = kids.length := by
    simpa using congrArg List.length hr
  have hids : (reflow c kids).map (·.id) = kids.map (·.id) := by
    simpa [List.map_map, Function.comp_def] using congrArg (List.map (·.id)) hr
  calc (kids.zip (reflow c kids)).map (·.2.id)
      = ((kids.zip (reflow c kids)).map Prod.snd).map (·.id) := by rw [List.map_map]; rfl
    _ = (reflow c kids).map (·.id) := by rw [List.map_snd_zip hlen.le]
    _ = kids.map (·.id) := hids

/-- One container's step of the walk: its children written back, listed in `first`, followed
by the report of the rest of the walk, which counts the container as done. -/
theorem Reports.children_append {t₁ t' : Tree} {cur : String} {seen first rest : List String}
    (hs : t.Sorted) (hcur : cur ∉ seen) (hu : t₁.unplaced = t.unplaced)
    (hsub : List.Sublist first ((t.childrenOf cur).map (·.id)))
    (hframe : ∀ x ∉ first, t₁.get? x = t.get? x) (hr : Reports t₁ t' (cur :: seen) rest) :
    Reports t t' seen (first ++ rest) := by
  have hkid : ∀ x ∈ first, t.parentOf x = some cur := fun x hx =>
    parentOf_of_mem_childrenOf hs (hsub.subset hx)
  refine ⟨?_, ?_, ?_⟩
  · intro x hx
    rw [hr.frame x (fun h => hx (List.mem_append_right _ h)),
      hframe x (fun h => hx (List.mem_append_left _ h))]
  · intro x hx
    rcases List.mem_append.1 hx with hx | hx
    · exact ⟨cur, hkid x hx, hcur⟩
    · obtain ⟨p, hp, hps⟩ := hr.below x hx
      rw [parentOf_of_unplaced_eq hu] at hp
      exact ⟨p, hp, fun h => hps (List.mem_cons_of_mem _ h)⟩
  · intro hk
    have hk' : ∀ p, (t₁.kidsOf p).Nodup := fun p => by
      rw [kidsOf_of_unplaced_eq hu]
      exact hk p
    refine List.nodup_append.2 ⟨(nodup_childrenOf hs (hk cur)).sublist hsub, hr.nodup hk', ?_⟩
    -- a child of `cur` is not a child of a container the rest of the walk had not done
    rintro a ha b hb rfl
    obtain ⟨p, hp, hps⟩ := hr.below a hb
    rw [parentOf_of_unplaced_eq hu, hkid a ha] at hp
    exact hps (Option.some.inj hp ▸ List.mem_cons_self)

/-- The walk from a queue of containers: every widget it does not list is as it was, every
id it lists is a child of a container it had not yet done, and none is listed twice when no
widget lists a child twice. -/
theorem relayoutFrom_reports (ids : List String) (t : Tree) (queue seen changed : List String)
    (hs : t.Sorted) :
    ∃ more, (t.relayoutFrom ids queue seen changed).1 = changed ++ more ∧
      Reports t (t.relayoutFrom ids queue seen changed).2 seen more := by
  fun_induction t.relayoutFrom ids queue seen changed with
  | case1 t seen changed => exact ⟨[], by simp, Reports.nil t seen⟩
  | case2 t seen changed cur rest hskip ih => exact ih hs
  | case3 t seen changed cur rest hskip parent hget hnot ih =>
    obtain ⟨more, hm, hr⟩ := ih hs
    exact ⟨more, hm, hr.of_cons⟩
  | case4 t seen changed cur rest hskip parent hget hcont kids step t' queue' changed' hfold ih =>
    have hcur : cur ∉ seen := fun h => hskip (Or.inl h)
    -- each pair either stays as it was, or is written back and listed
    have hstep : ∀ acc p, ((step acc p).1 = acc.1 ∧ (step acc p).2.2 = acc.2.2) ∨
        ((step acc p).1 = acc.1.put p.2 ∧ (step acc p).2.2 = acc.2.2 ++ [p.2.id]) := by
      intro acc p
      obtain ⟨t0, q, ch⟩ := acc
      obtain ⟨before, child⟩ := p
      dsimp only [step]
      split
      · exact Or.inr ⟨rfl, rfl⟩
      · exact Or.inl ⟨rfl, rfl⟩
    have hu : t'.unplaced = t.unplaced := by
      have h := foldl_put_unplaced hs (kids.zip (reflow parent kids)) ?_ step
        (fun acc p => (hstep acc p).imp And.left And.left) (t, rest, changed) rfl
      · rw [hfold] at h
        exact h
      · intro p hp
        obtain ⟨hk, he⟩ := unplaced_eq_of_mem_zip (reflow_unplaced parent kids).symm hp
        exact ⟨(mem_childrenOf hk).1, he⟩
    obtain ⟨m₁, hm₁, hsub, hframe₁⟩ := foldl_write_reports _ step hstep (t, rest, changed) hs
    rw [hfold] at hm₁ hframe₁
    simp only at hm₁ hframe₁
    rw [map_id_zip_reflow] at hsub
    -- what the children of `cur` list comes first, then what the rest of the walk lists
    obtain ⟨m₂, hm₂, hr₂⟩ := ih (sorted_of_unplaced_eq hu hs)
    exact ⟨m₁ ++ m₂, by rw [hm₂, hm₁, List.append_assoc], hr₂.children_append hs hcur hu hsub hframe₁⟩
  | case5 t seen changed cur rest hskip hnone ih =>
    obtain ⟨more, hm, hr⟩ := ih hs
    exact ⟨more, hm, hr.of_cons⟩

/-- Re-placing from a container lists every widget it moves or resizes, and lists no id twice
when no widget lists a child twice. -/
theorem relayout_reports (hs : t.Sorted) (id : String) :
    Reports t (t.relayout id).2 [] (t.relayout id).1 := by
  obtain ⟨more, hm, hr⟩ := relayoutFrom_reports (t.widgets.map (·.id)) t [id] [] [] hs
  rw [List.nil_append] at hm
  unfold relayout
  rw [hm]
  exact hr

/-- Re-placing every container lists every widget it moves or resizes. -/
theorem relayoutEach_frame (ids : List String) (t : Tree) (queue seen changed : List String)
    (hs : t.Sorted) :
    ∃ more, (t.relayoutEach ids queue seen changed).1 = changed ++ more ∧
      ∀ x ∉ more, (t.relayoutEach ids queue seen changed).2.get? x = t.get? x := by
  fun_induction t.relayoutEach ids queue seen changed with
  | case1 t seen changed => exact ⟨[], by simp, fun _ _ => rfl⟩
  | case2 t seen changed cur rest hskip ih => exact ih hs
  | case3 t seen changed cur rest hskip ch t' hre ih =>
    have hr := relayout_reports hs cur
    rw [hre] at hr
    have hu := unplaced_of_relayout_eq hs hre
    obtain ⟨more, hm, hframe⟩ := ih (sorted_of_unplaced_eq hu hs)
    refine ⟨ch ++ more, by rw [hm, List.append_assoc], fun x hx => ?_⟩
    rw [hframe x (fun h => hx (List.mem_append_right _ h)),
      hr.frame x (fun h => hx (List.mem_append_left _ h))]

/-! ## The edits -/

/-- Every widget not listed in `ans` sits in `t'` where it sat in `t`, and is as large. -/
def Placed (t t' : Tree) (ans : List String) : Prop := ∀ x ∉ ans, t'.placeOf x = t.placeOf x

theorem Placed.trans {t₁ t₂ : Tree} {a b : List String} (h₁ : Placed t t₁ a) (h₂ : Placed t₁ t₂ b) :
    Placed t t₂ (a ++ b) := fun x hx =>
  (h₂ x (fun h => hx (List.mem_append_right _ h))).trans (h₁ x (fun h => hx (List.mem_append_left _ h)))

/-- An edit that moves and resizes nothing. -/
theorem placed_of_placeOf {t' : Tree} (h : ∀ x, t'.placeOf x = t.placeOf x) : Placed t t' [] :=
  fun x _ => h x

theorem relayout_placed (hs : t.Sorted) (id : String) :
    Placed t (t.relayout id).2 (t.relayout id).1 := fun x hx =>
  placeOf_eq_of_get? ((relayout_reports hs id).frame x hx)

theorem Sorted.relayout (hs : t.Sorted) (id : String) : (t.relayout id).2.Sorted :=
  sorted_of_unplaced_eq (relayout_unplaced hs id) hs

/-- The ids `relayout_all` answers: every widget it moves or resizes, each once. -/
theorem relayoutAll_reports (hs : t.Sorted) :
    Placed t t.relayoutAll.2 t.relayoutAll.1 ∧ t.relayoutAll.1.Nodup := by
  obtain ⟨more, hm, hframe⟩ := relayoutEach_frame (t.widgets.map (·.id)) t t.roots [] [] hs
  rw [List.nil_append] at hm
  have hans : t.relayoutAll.1 = uniqueIds (t.relayoutEach (t.widgets.map (·.id)) t.roots [] []).1 := rfl
  have htree : t.relayoutAll.2 = (t.relayoutEach (t.widgets.map (·.id)) t.roots [] []).2 := rfl
  refine ⟨fun x hx => ?_, hans ▸ nodup_uniqueIds _⟩
  rw [hans, mem_uniqueIds, hm] at hx
  rw [htree]
  exact placeOf_eq_of_get? (hframe x hx)

/-- The ids `resize` answers: the resized widget first, then every other widget it moves or
resizes, each once. -/
theorem resize_reports (hs : t.Sorted) {id : String} {size : Extent} {ans : List String}
    {t' : Tree} (h : t.resize id size = .ok (ans, t')) :
    Placed t t' ans ∧ ans.Nodup ∧ ans.head? = some id := by
  unfold resize at h
  cases hg : t.get? id with
  | none =>
    rw [hg] at h
    cases h
  | some w =>
    rw [hg] at h
    dsimp only at h
    have hid : w.id = id := id_of_get? hg
    generalize hw₁ : ({ w with size := size } : Widget) = w₁ at h
    have hs₁ : (t.put w₁).Sorted := hs.put _
    -- only the resized widget changes before the re-placing
    have hput : Placed t (t.put w₁) [id] := by
      intro x hx
      rw [placeOf_put hs, if_neg]
      rw [← hw₁]
      exact fun h => hx (List.mem_singleton.2 (h.symm.trans hid))
    -- the parent's children are re-placed, then the widget's own
    have hfinish : ∀ fromParent t₂, Placed (t.put w₁) t₂ fromParent → t₂.Sorted →
        (Except.ok (uniqueIds ([id] ++ fromParent ++ (t₂.relayout id).1), (t₂.relayout id).2) :
          Except TreeError (List String × Tree)) = .ok (ans, t') →
        Placed t t' ans ∧ ans.Nodup ∧ ans.head? = some id := by
      intro fromParent t₂ hplaced₂ hs₂ h
      simp only [Except.ok.injEq, Prod.mk.injEq] at h
      obtain ⟨rfl, rfl⟩ := h
      refine ⟨fun x hx => ?_, nodup_uniqueIds _, head?_uniqueIds_cons _ _⟩
      rw [mem_uniqueIds] at hx
      exact ((hput.trans hplaced₂).trans (relayout_placed hs₂ id)) x hx
    cases hp : w.parentId with
    | none =>
      simp only [hp] at h
      exact hfinish [] _ (fun _ _ => rfl) hs₁ h
    | some p =>
      simp only [hp] at h
      exact hfinish _ _ (relayout_placed hs₁ p) (hs₁.relayout p) h

/-- The ids `update_props` answers: every widget it moves or resizes, each once when the
widget's children are its children before, reordered. -/
theorem updateProps_reports (hl : t.Linked) {id : String} {props : List (String × Json)}
    {ans : List String} {t' : Tree} (h : t.updateProps id props = .ok (ans, t')) :
    Placed t t' ans ∧ ((t'.kidsOf id).Perm (t.kidsOf id) → ans.Nodup) := by
  have hlinked : t'.Linked ↔ (t'.kidsOf id).Perm (t.kidsOf id) := hl.updateProps h
  unfold updateProps at h
  cases hg : t.get? id with
  | none =>
    rw [hg] at h
    cases h
  | some w =>
    rw [hg] at h
    -- the props change, the place does not, and then the children are re-placed
    obtain ⟨w₁, hrun, hid, hpos, hsize⟩ : ∃ w₁ : Widget, (t.put w₁).relayout id = (ans, t') ∧
        w₁.id = w.id ∧ w₁.position = w.position ∧ w₁.size = w.size :=
      ⟨_, Except.ok.inj h, rfl, rfl, rfl⟩
    have hs₁ : (t.put w₁).Sorted := hl.sorted.put w₁
    have hput : Placed t (t.put w₁) [] := placed_of_placeOf (placeOf_put_of_get? hl.sorted hg hid hpos hsize)
    obtain ⟨rfl, rfl⟩ : ans = ((t.put w₁).relayout id).1 ∧ t' = ((t.put w₁).relayout id).2 := by
      rw [hrun]
      exact ⟨rfl, rfl⟩
    refine ⟨hput.trans (relayout_placed hs₁ id), fun hperm => ?_⟩
    have hl₁ : (t.put w₁).Linked := (linked_relayout_iff hs₁ id).1 (hlinked.2 hperm)
    exact (relayout_reports hs₁ id).nodup fun p => (hl₁.kids p).nodup

/-- The ids `insert` answers: every widget it moves or resizes, the new one counted as placed
where it was passed in, each once when the new widget lists no children. -/
theorem insert_reports (hl : t.Linked) {w : Widget} {parent : Option String} {ans : List String}
    {t' : Tree} (h : t.insert w parent = .ok (ans, t')) :
    Placed (t.put w) t' ans ∧ (w.childIds = [] → ans.Nodup) := by
  have hlinked : t'.Linked ↔ w.childIds = [] := hl.insert h
  unfold insert at h
  split at h
  · cases h
  · -- the new widget goes in with its parent set, which moves it nowhere
    have hnew (q : Option String) : Placed (t.put w) (t.put { w with parentId := q }) [] :=
      placed_of_placeOf fun x => by rw [placeOf_put hl.sorted, placeOf_put hl.sorted]
    cases parent with
    | none =>
      cases h
      exact ⟨hnew none, fun _ => List.nodup_nil⟩
    | some p =>
      cases hc : t.container p with
      | error e =>
        simp only [hc] at h
        cases h
      | ok c =>
        simp only [hc] at h
        obtain ⟨rfl, rfl⟩ : ans = (((t.put { w with parentId := some p }).attach w.id p none).relayout p).1 ∧
            t' = (((t.put { w with parentId := some p }).attach w.id p none).relayout p).2 := by
          rw [Except.ok.inj h]
          exact ⟨rfl, rfl⟩
        -- listing it under its parent moves nothing; then the parent's children are re-placed
        have hs₁ := hl.sorted.put { w with parentId := some p }
        have hs₂ := hs₁.attach w.id p none
        have hattach : Placed (t.put { w with parentId := some p })
            ((t.put { w with parentId := some p }).attach w.id p none) [] :=
          placed_of_placeOf (placeOf_attach hs₁ w.id p none)
        refine ⟨((hnew (some p)).trans hattach).trans (relayout_placed hs₂ p), fun hw => ?_⟩
        have hl₂ := (linked_relayout_iff hs₂ p).1 (hlinked.2 hw)
        exact (relayout_reports hs₂ p).nodup fun q => (hl₂.kids q).nodup

/-- The widgets the breadth-first walk takes out are taken once each, and were there. -/
theorem removeFrom_gone (t : Tree) (queue removed : List String) :
    ∃ gone, (t.removeFrom queue removed).1 = removed ++ gone ∧ gone.Nodup ∧
      (∀ x ∈ gone, (t.get? x).isSome) ∧ (t.removeFrom queue removed).2 = gone.foldl Tree.erase t := by
  fun_induction t.removeFrom queue removed with
  | case1 t removed => exact ⟨[], by simp, List.nodup_nil, by simp, rfl⟩
  | case2 t removed cur rest hcur ih =>
    obtain ⟨gone, h1, hnd, hsome, h2⟩ := ih
    refine ⟨cur :: gone, by rw [h1]; simp, List.nodup_cons.2 ⟨fun hc => ?_, hnd⟩, ?_, by rw [h2]; rfl⟩
    · -- what the walk takes later is there once `cur` is out
      have h := hsome cur hc
      rw [isSome_erase, if_pos rfl] at h
      cases h
    · intro x hx
      rcases List.mem_cons.1 hx with rfl | hx
      · exact hcur
      · have h := hsome x hx
        rw [isSome_erase] at h
        split at h
        · cases h
        · exact h
  | case3 t removed cur rest hcur ih => exact ih

/-- `remove` answers the widgets it takes out, each once: exactly those that were there and
are no longer. -/
theorem remove_reports (hl : t.Linked) {id : String} {ans : List String} {t' : Tree}
    (h : t.remove id = .ok (ans, t')) :
    ans.Nodup ∧ ∀ x, x ∈ ans ↔ (t.get? x).isSome ∧ t'.get? x = none := by
  unfold remove at h
  split at h
  · cases h
  · have hu := hl.detach id
    obtain ⟨gone, h1, hnd, hsome, h2⟩ := removeFrom_gone (t.detach id).2 [id] []
    rw [List.nil_append] at h1
    rcases hd : t.detach id with ⟨parent, t₁⟩
    rw [hd] at h hu h1 h2 hsome
    simp only at h hu h1 h2 hsome
    rcases hr : t₁.removeFrom [id] [] with ⟨removed, t₂⟩
    rw [hr] at h h1 h2
    simp only at h1 h2 h
    subst h1 h2
    -- afterwards a widget is there when it was, unless the walk took it out
    have hafter : ∀ x, (t'.get? x).isSome = ((removed.foldl Tree.erase t₁).get? x).isSome ∧
        ans = removed := by
      intro x
      cases parent with
      | none =>
        cases h
        exact ⟨rfl, rfl⟩
      | some p =>
        cases h
        exact ⟨isSome_of_unplaced_eq (relayout_unplaced (hu.sorted.foldl_erase _) p) x, rfl⟩
    obtain ⟨-, rfl⟩ := hafter id
    refine ⟨hnd, fun x => ?_⟩
    rw [← Option.not_isSome_iff_eq_none, (hafter x).1, isSome_foldl_erase, ← hu.isSome x]
    constructor
    · intro hx
      exact ⟨hsome x hx, by simp [hx]⟩
    · rintro ⟨hx, hgone⟩
      by_contra hnot
      simp [hnot, hx] at hgone

/-- `move` lists every widget it moves or resizes: those the new parent's re-placing moves,
the moved widget among them, and those the old parent's moves. -/
theorem moveWidget_reports (hl : t.Linked) {id : String} {parent : Option String}
    {index : Option Nat} {ans : List String} {t' : Tree}
    (h : t.moveWidget id parent index = .ok (ans, t')) : Placed t t' ans := by
  unfold moveWidget at h
  generalize hd : t.detach id = d at h
  obtain ⟨old, t₁⟩ := d
  have hs₁ : t₁.Sorted := by
    have h₁ := (hl.detach id).sorted
    rwa [hd] at h₁
  by_cases hid : (t.get? id).isNone = true
  · simp only [hid, if_true] at h
    cases h
  simp only [hid] at h
  -- unlisting the widget and giving it its new parent move nothing
  have hp₂ : Placed t (t₁.setParent id parent) [] := placed_of_placeOf fun x => by
    rw [placeOf_setParent hs₁, ← placeOf_detach hl.sorted id x, hd]
  have hs₂ := hs₁.setParent id parent
  cases parent with
  | none =>
    -- joining the top level moves nothing either
    have hp₃ : ∀ r, Placed t { t₁.setParent id none with roots := r } [] := fun _ x hx => hp₂ x hx
    cases old with
    | none =>
      cases h
      exact hp₃ _
    | some o =>
      cases h
      dsimp only
      refine (hp₃ _).trans (relayout_placed ?_ o)
      exact hs₂
  | some p =>
    cases hc : t.container p with
    | error e =>
      simp only [hc] at h
      cases h
    | ok c =>
      by_cases hcyc : (p == id || t.hasAncestor id (t.widgets.length + 1)
          ((t.get? p).bind (·.parentId))) = true
      · simp only [hc, hcyc] at h
        cases h
      simp only [hc, hcyc] at h
      have hs₃ := hs₂.attach id p index
      have hp₃ : Placed t ((t₁.setParent id (some p)).attach id p index) [] :=
        hp₂.trans (placed_of_placeOf (placeOf_attach hs₂ id p index))
      have hp₄ := hp₃.trans (relayout_placed hs₃ p)
      cases old with
      | none =>
        cases h
        exact hp₄
      | some o =>
        by_cases ho : o = p
        · -- the old parent is the new one, re-placed once
          simp [ho] at h
          rw [List.nil_append, h] at hp₄
          exact hp₄
        · -- the old parent's children are re-placed after the new one's
          simp [ho] at h
          obtain ⟨rfl, rfl⟩ := h
          rw [List.nil_append] at hp₄
          exact hp₄.trans (relayout_placed (hs₃.relayout p) o)

end Tree

/-- The tree an edit's report is read against: a widget being added counts as placed where it
was passed in. -/
def TreeEdit.base : TreeEdit → Tree → Tree
  | .insert w _, t => t.put w
  | _, t => t

end Storyboard

import Storyboard.Proofs.Writes
import Storyboard.Proofs.Path

/-!
# Reading a target back

Two parts of a run read the value at a target `scope.path`. A state update reads it from the
store, under the root its scope names for the caller's widget instance (`Store.scopeRoot`); an
expression `{scope.path}` reads it from the bindings the caller sees (`Caller.view`). The two
roots are the same for the app and the screen state. For local state they part in one case:
when the store holds no local state for the caller's instance (or the caller names none), the
store gives nothing while the bindings fall back to the caller's own local value. The braces
also trim blanks at the ends of what they enclose and refuse a brace inside it, so the path of
a target is read back from braces only when it holds no brace and does not end in a blank
(`Target.Enclosable`).

After a write at a target, the braces read the value written.

Main statement: `braced_targets_read_the_scope_root`.

The expression side splits its text at dots with the position-based `String.splitOn`;
`splitOnAux_dot` follows that loop along the characters, as `String.splitAux_of_valid` does
for a character predicate, and turns it into the split of a list.
-/

namespace Storyboard

/-! ## Splitting at dots -/

/-- The position-based split at `.` of a text `l ++ m ++ r`, started after `l` with the piece
`m` read so far and the pieces `acc` found before, gives the pieces of the list split of `r`
with `m` in front. -/
theorem splitOnAux_dot (l m r : List Char) (acc : List String) :
    String.splitOnAux (String.ofList (l ++ m ++ r)) "." ⟨String.utf8Len l⟩
        ⟨String.utf8Len l + String.utf8Len m⟩ 0 acc =
      acc.reverse ++ (List.splitOnPPrepend (· == '.') r m.reverse).map String.ofList := by
  unfold String.splitOnAux
  simp only [String.atEnd_iff, String.rawEndPos_ofList, String.Pos.Raw.mk_le_mk,
    String.utf8Len_append]
  cases r with
  | nil =>
    have hm := String.extract_of_valid l m []
    rw [List.append_nil] at hm
    rw [if_pos (by simp), List.append_nil, hm]
    simp
  | cons c r =>
    rw [if_neg (by simp; have := c.utf8Size_pos; omega)]
    have hget : String.Pos.Raw.get (String.ofList (l ++ m ++ c :: r))
        ⟨String.utf8Len l + String.utf8Len m⟩ = c := by
      simpa using String.get_of_valid (l ++ m) (c :: r)
    have hnext : String.Pos.Raw.next (String.ofList (l ++ m ++ c :: r))
        ⟨String.utf8Len l + String.utf8Len m⟩ = ⟨String.utf8Len l + String.utf8Len m + c.utf8Size⟩ := by
      simpa using String.next_of_valid (l ++ m) c r
    -- the separator is one byte long, so a match ends the piece at once
    have hsep : (0 : String.Pos.Raw).get "." = '.' := by decide
    have hsep' : (0 : String.Pos.Raw).next "." = ⟨1⟩ := rfl
    have hend : ".".rawEndPos ≤ (⟨1⟩ : String.Pos.Raw) := by decide
    by_cases hc : c = '.'
    · subst hc
      have hdot : '.'.utf8Size = 1 := rfl
      simp only [hget, hsep, hnext, hsep', hend, hdot, beq_self_eq_true, if_true]
      have hback : (⟨String.utf8Len l + String.utf8Len m + 1⟩ : String.Pos.Raw).unoffsetBy ⟨1⟩ =
          ⟨String.utf8Len l + String.utf8Len m⟩ := rfl
      rw [hback, String.extract_of_valid l m ('.' :: r)]
      have ih := splitOnAux_dot (l ++ m ++ ['.']) [] r (String.ofList m :: acc)
      simp only [List.append_assoc, List.singleton_append, List.append_nil, String.utf8Len_append,
        String.utf8Len_cons, String.utf8Len_nil, hdot, Nat.zero_add, Nat.add_zero,
        ← Nat.add_assoc] at ih
      rw [List.append_assoc, ih, List.splitOnPPrepend_cons_pos (by rfl)]
      simp
    · have hne : (c == '.') = false := by simpa using hc
      have hback : (⟨String.utf8Len l + String.utf8Len m⟩ : String.Pos.Raw).unoffsetBy 0 =
          ⟨String.utf8Len l + String.utf8Len m⟩ := rfl
      simp only [hget, hsep, hne, hback, hnext, Bool.false_eq_true, if_false]
      have ih := splitOnAux_dot l (m ++ [c]) r acc
      simp only [List.append_assoc, List.singleton_append, String.utf8Len_append,
        String.utf8Len_cons, String.utf8Len_nil, Nat.zero_add, ← Nat.add_assoc] at ih
      rw [List.append_assoc, ih, List.splitOnPPrepend_cons_eq_if, if_neg (by simpa using hc)]
      simp

/-- Splitting a text at dots splits its characters at dots. -/
theorem splitOn_dot (s : String) : s.splitOn "." = (s.toList.splitOn '.').map String.ofList := by
  have h := splitOnAux_dot [] [] s.toList []
  simp only [List.nil_append, String.ofList_toList, String.utf8Len_nil, Nat.add_zero,
    List.reverse_nil] at h
  unfold String.splitOn
  rw [if_neg (by decide), List.splitOn_eq_splitOnP, List.splitOnP_eq_splitOnPPrepend]
  exact h

/-- A name without a dot, a dot and a path split into the name and the pieces of the path. -/
theorem splitOn_dot_append {name : String} (h : '.' ∉ name.toList) (path : String) :
    (name ++ "." ++ path).splitOn "." = name :: path.splitOn "." := by
  have hchars : (name ++ "." ++ path).toList = name.toList ++ '.' :: path.toList := by simp
  rw [splitOn_dot, splitOn_dot, hchars, List.splitOn_append_cons_self_of_not_mem h, List.map_cons,
    String.ofList_toList]

/-- Dropping a name and its dot leaves the path. -/
theorem drop_name_dot (name path : String) :
    ((name ++ "." ++ path).drop (name.length + 1)).toString = path := by
  apply String.ext
  have hlen : name.length + 1 = (name.toList ++ ['.']).length := by
    rw [List.length_append, List.length_singleton, String.length_toList]
  have hdot : ".".toList = ['.'] := rfl
  simp only [String.Slice.toString_eq, String.toList_copy_drop, String.toList_append]
  rw [hdot, hlen, List.drop_left]

/-! ## The root of a scope -/

/-- The root a scope reads from in bindings: the app state, the screen state, or the local
state. -/
def Bindings.scopeRoot (b : Bindings) : Scope → Option Json
  | .app => some b.app
  | .screen => some b.screen
  | .widget => b.localState

/-- A scope is read from exactly its own name. -/
theorem Scope.ofName?_eq_some_iff {s : String} {scope : Scope} :
    Scope.ofName? s = some scope ↔ s = scope.name := by
  constructor
  · intro h
    unfold Scope.ofName? at h
    split at h <;> first | (cases h; rfl) | cases h
  · rintro rfl
    cases scope <;> rfl

/-- Reading a target from bindings reads its path under the root its scope names. -/
theorem Bindings.resolve_of_names (b : Bindings) {t path : String} {scope : Scope}
    (h : Target.Names t scope path) : b.resolve t = (b.scopeRoot scope).bind (·.getPath path) := by
  obtain ⟨name, rfl, hname, -, hs⟩ := h
  obtain ⟨y, ys, hy⟩ : ∃ y ys, path.splitOn "." = y :: ys := by
    cases hp : path.splitOn "." with
    | nil => exact absurd (splitOn_dot path ▸ hp) (by simp)
    | cons y ys => exact ⟨y, ys, rfl⟩
  -- the split has a second piece, so the rest after the scope's name is the path
  unfold Bindings.resolve
  rw [splitOn_dot_append hname, hy]
  simp only [drop_name_dot]
  rw [Scope.ofName?_eq_some_iff.1 hs]
  cases scope <;> rfl

/-- The root a caller's expressions see is the store's, except that local state falls back to
the caller's own local value when the store has none for its instance. -/
theorem Caller.view_scopeRoot (c : Caller) (S : Store) (scope : Scope) :
    (c.view S).scopeRoot scope =
      (S.scopeRoot scope c.instanceId).or (if scope = .widget then c.localState else none) := by
  cases scope <;> simp [Bindings.scopeRoot, Caller.view, Store.scopeRoot]

/-! ## Braces -/

/-- A path that braces enclose as it is: no brace in it and no blank at its end, which the
braces would trim. -/
def Target.Enclosable (path : String) : Prop :=
  '\x7b' ∉ path.toList ∧ '\x7d' ∉ path.toList ∧ ∀ x ∈ path.toList.getLast?, Text.isBlank x = false

instance (path : String) : Decidable (Target.Enclosable path) :=
  inferInstanceAs (Decidable (_ ∧ _ ∧ _))

/-- The braces are no blanks. -/
theorem Text.isBlank_braces : Text.isBlank '\x7b' = false ∧ Text.isBlank '\x7d' = false := ⟨rfl, rfl⟩

/-- The name of a scope is a word: it starts with no blank and holds no brace. -/
theorem Scope.name_word (scope : Scope) :
    (∀ x ∈ scope.name.toList.head?, Text.isBlank x = false) ∧ scope.name.toList ≠ [] ∧
      '\x7b' ∉ scope.name.toList ∧ '\x7d' ∉ scope.name.toList := by
  -- what is left is that the first letter is no blank
  cases scope <;> simp [Scope.name] <;> rfl

theorem Text.dropBlanks_of_head {cs : List Char} (h : ∀ x ∈ cs.head?, Text.isBlank x = false) :
    Text.dropBlanks cs = cs := by
  cases cs with
  | nil => rfl
  | cons c cs => simp [Text.dropBlanks, h c rfl]

/-- Trimming keeps a text that starts and ends with no blank. -/
theorem Text.trimChars_of_ends {cs : List Char} (h₁ : ∀ x ∈ cs.head?, Text.isBlank x = false)
    (h₂ : ∀ x ∈ cs.getLast?, Text.isBlank x = false) : Text.trimChars cs = cs := by
  have h₂' : ∀ x ∈ cs.reverse.head?, Text.isBlank x = false := by
    rw [List.head?_reverse]
    exact h₂
  rw [Text.trimChars, Text.dropBlanks_of_head h₁, Text.dropBlanks_of_head h₂', List.reverse_reverse]

/-- Braces around a text with no brace and no blank at its ends enclose that text. -/
theorem Expr.bracePath_enclose {cs : List Char} (hne : cs ≠ []) (hl : '\x7b' ∉ cs)
    (hr : '\x7d' ∉ cs) (ht : Text.trimChars cs = cs) :
    Expr.bracePath ('\x7b' :: (cs ++ ['\x7d'])) = some cs := by
  have hrev : (cs ++ ['\x7d']).reverse = '\x7d' :: cs.reverse := by simp
  simp only [Expr.bracePath, hrev, List.reverse_reverse, ht]
  simp [List.isEmpty_iff, hne, hl, hr]

/-- An expression that is one text in braces reads that text as a path. -/
theorem Expr.eval_enclosed (b : Bindings) {s : String} (hne : s ≠ "") (hl : '\x7b' ∉ s.toList)
    (hr : '\x7d' ∉ s.toList) (ht : Text.trimChars s.toList = s.toList) :
    Expr.eval b ("\x7b" ++ s ++ "\x7d") = (b.resolve s, []) := by
  have hchars : ("\x7b" ++ s ++ "\x7d").toList = '\x7b' :: (s.toList ++ ['\x7d']) := by simp
  have hlast : ('\x7b' :: (s.toList ++ ['\x7d'])).getLast? = some '\x7d' := by
    rw [← List.cons_append, List.getLast?_concat]
  have hends : Text.trimChars ('\x7b' :: (s.toList ++ ['\x7d'])) = '\x7b' :: (s.toList ++ ['\x7d']) :=
    Text.trimChars_of_ends (by simp [Text.isBlank_braces]) (by simp [hlast, Text.isBlank_braces])
  unfold Expr.eval
  rw [hchars, Expr.evaluate, hends, Expr.bracePath_enclose (by simpa using hne) hl hr ht]
  simp only [String.ofList_toList]

/-- A target whose path braces enclose is read from braces under the root its scope names. -/
theorem Target.Names.eval_enclosed (b : Bindings) {t path : String} {scope : Scope}
    (h : Target.Names t scope path) (hp : Target.Enclosable path) :
    Expr.eval b ("\x7b" ++ t ++ "\x7d") = ((b.scopeRoot scope).bind (·.getPath path), []) := by
  obtain ⟨hl, hr, hlast⟩ := hp
  obtain ⟨name, rfl, hname, hpath, hs⟩ := h
  have hscope := Scope.ofName?_eq_some_iff.1 hs
  have hchars : (name ++ "." ++ path).toList = name.toList ++ '.' :: path.toList := by simp
  have hpath' : path.toList ≠ [] := by simpa using hpath
  obtain ⟨hhead, hnil, hnl, hnr⟩ := hscope ▸ Scope.name_word scope
  obtain ⟨y, hy⟩ : ∃ y, path.toList.getLast? = some y := Option.isSome_iff_exists.1 (by simpa using hpath')
  rw [← Bindings.resolve_of_names b ⟨name, rfl, hname, hpath, hs⟩]
  apply Expr.eval_enclosed b
  · simp [String.append_eq_empty_iff]
  · simp [hchars, hnl, hl]
  · simp [hchars, hnr, hr]
  · apply Text.trimChars_of_ends
    · cases hn : name.toList with
      | nil => exact absurd hn hnil
      | cons z zs => simpa [hchars, hn] using hhead
    · rw [hchars, ← List.singleton_append, ← List.append_assoc, List.getLast?_append, hy,
        Option.some_or]
      simpa using hlast y hy

/-! ## Reads after writes -/

/-- After a write that is not refused, the root a caller's expressions see for the scope written
is the old root of that scope (`{}` for local state the store did not hold) with the value written
at the path. -/
theorem Store.WritesRoot.view_scopeRoot {S S' : Store} {scope : Scope} {c : Caller} {path : String}
    {v : Json} (h : S.WritesRoot S' scope c.instanceId path v)
    (hinst : scope = .widget → c.instanceId ≠ none) :
    (c.view S').scopeRoot scope = some (((S.scopeRoot scope c.instanceId).getD .empty).setPath path v) := by
  cases scope with
  | app => simp [Bindings.scopeRoot, Caller.view, Store.scopeRoot, h.app]
  | screen => simp [Bindings.scopeRoot, Caller.view, Store.scopeRoot, h.screen]
  | widget =>
    obtain ⟨id, hid⟩ := Option.ne_none_iff_exists'.1 (hinst rfl)
    simp [Bindings.scopeRoot, Caller.view, Store.scopeRoot, hid, h.widgets id]

/-- A run of a state update or a recalculation that writes its target records one change, and
the target in braces then reads the value changed. -/
theorem runAction_reads_back (hub : Hub) (em : Option Nat) (id : String) {k : ActionKind}
    {t path : String} {scope : Scope} (hn : Target.Names t scope path) (hp : Target.Enclosable path)
    (hk : k.target? = some t) (c : Caller) (w : World) {r : Outcome} {w' : World}
    (hrun : hub.runAction em (.mk id k) c w = (r, w')) (hsuccess : r.success = true) :
    ∃ v, r.changes = [(t, v)] ∧ Expr.eval (c.view w'.store) ("\x7b" ++ t ++ "\x7d") = (some v, []) := by
  rcases runAction_writeGoes hub em id hk c w hrun with
    ⟨f, rfl, -, -, -⟩ | ⟨scope', path', v, rfl, hn', hok, hroot⟩
  · simp [Outcome.failure] at hsuccess
  · obtain ⟨rfl, rfl⟩ := hn.unique hn'
    -- a write that went through had an instance to write local state for
    have hinst : scope = .widget → c.instanceId ≠ none := fun hw hi =>
      hok (.inl ((Target.refuses_iff hn c).2 ⟨hw, hi⟩))
    refine ⟨v, rfl, ?_⟩
    rw [hn.eval_enclosed _ hp, hroot.view_scopeRoot hinst, Option.bind_some]
    simp [Json.getPath, Json.setPath, Json.getSegments_setSegments]

/-- `local.xs` names the path `xs` of local state. -/
theorem local_xs_names : Target.Names "local.xs" .widget "xs" :=
  ⟨"local", by decide, by simp, by decide, rfl⟩

/-- Braces enclose `xs` as it is. -/
theorem xs_enclosable : Target.Enclosable "xs" := by
  refine ⟨by simp, by simp, ?_⟩
  simp
  rfl

end Storyboard

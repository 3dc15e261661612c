import Storyboard.Format.Text
import Storyboard.Proofs.JsonText

/-!
# What decoding gives is well formed

The readers of JSON text build values that are well formed (`Json.WellFormed`) but for one
thing the logic cannot see: whether a double they compute is finite. This module proves the
rest, as `Json.FormedWith fun _ => True`: objects sorted by key with each key once, integers
within the 64-bit ranges. `Shape.scanText_wellFormed` then gives a well-formed value from any
decoded text whose doubles are finite.

* Number literals fit their kind (`Cursor.readsFitting_number`): the digits of an integer are
  gathered only while they stay below `2^64`, and every other path builds a double.
* The reader of values and the scanner of shapes build objects with `Json.setField`, which keeps
  keys sorted (`Cursor.value_formed`, `Shape.scan_formed`); an action is the check of a scanned
  record, and the check keeps what it is given formed (`Shape.check_formedWith`).
-/

namespace Storyboard

namespace NumberLit

/-- A number literal within the range of its kind. -/
def Fits : NumberLit → Prop
  | .unsigned n => n < 2 ^ 64
  | .signed n => -2 ^ 63 ≤ n ∧ n < 0
  | .double _ => True

end NumberLit

namespace Json

/-- A value formed whatever its doubles, whose doubles all satisfy `p`, is formed with `p`. -/
theorem FormedWith.of_everyDouble {p : Float → Prop} {v : Json} (h : v.FormedWith fun _ => True)
    (hd : v.EveryDouble p) : v.FormedWith p := by
  induction h with
  | null => exact .null
  | bool b => exact .bool b
  | int hlo hhi => exact .int hlo hhi
  | float _ => cases hd with | float hf => exact .float hf
  | str t => exact .str t
  | arr _ ih => cases hd with | arr hd => exact .arr fun x hx => ih x hx (hd x hx)
  | obj hs _ ih => cases hd with | obj hd => exact .obj hs fun kv hkv => ih kv hkv (hd kv hkv)

end Json

namespace Cursor

/-- A read of a number that, when it succeeds, gives a literal within its range. -/
def ReadsFitting (x : Except Fault (NumberLit × Cursor)) : Prop :=
  ∀ lit c', x = .ok (lit, c') → lit.Fits

variable {c : Cursor} {neg : Bool} {m : Nat}

@[simp] theorem readsFitting_fail (msg : String) : ReadsFitting (c.fail msg) := by
  intro lit c' h
  cases h

@[simp] theorem readsFitting_failAhead (msg : String) : ReadsFitting (c.failAhead msg) := by
  intro lit c' h
  cases h

@[simp] theorem readsFitting_double (f : Float) : ReadsFitting (.ok (.double f, c)) := by
  intro lit c' h
  cases h
  trivial

@[simp] theorem readsFitting_fromParts (e : Int) : ReadsFitting (c.fromParts neg m e) := by
  unfold fromParts
  split
  · simp
  · intro lit c' h
    cases h

@[simp] theorem readsFitting_exponentPart (e : Int) : ReadsFitting (c.exponentPart neg m e) := by
  unfold exponentPart
  dsimp only
  repeat' split
  all_goals simp

@[simp] theorem readsFitting_decimalOverflow (e : Int) : ReadsFitting (c.decimalOverflow neg m e) := by
  unfold decimalOverflow
  dsimp only
  split <;> simp

theorem readsFitting_decimalPart_loop (before : Int) :
    ∀ (fuel : Nat) (c : Cursor) (m k : Nat), ReadsFitting (decimalPart.loop neg before fuel c m k)
  | 0, c, m, k => by simp [decimalPart.loop]
  | fuel + 1, c, m, k => by
    unfold decimalPart.loop
    repeat' split
    all_goals simp [readsFitting_decimalPart_loop before fuel]

@[simp] theorem readsFitting_decimalPart (before : Int) : ReadsFitting (c.decimalPart neg m before) :=
  readsFitting_decimalPart_loop before _ _ _ _

theorem readsFitting_longInteger_loop :
    ∀ (fuel : Nat) (c : Cursor) (e : Int), ReadsFitting (longInteger.loop neg m fuel c e)
  | 0, c, e => by simp [longInteger.loop]
  | fuel + 1, c, e => by
    unfold longInteger.loop
    repeat' split
    all_goals simp [readsFitting_longInteger_loop fuel]

@[simp] theorem readsFitting_longInteger : ReadsFitting (c.longInteger neg m) :=
  readsFitting_longInteger_loop _ _ _

@[simp] theorem readsFitting_ok {lit : NumberLit} : ReadsFitting (.ok (lit, c)) ↔ lit.Fits := by
  constructor
  · intro h
    exact h lit c rfl
  · intro h lit' c' heq
    cases heq
    exact h

/-- The digits of a whole number read in full: a literal of its sign, or a double past the
ranges of both. -/
theorem readsFitting_numberTail (hm : m < 2 ^ 64) : ReadsFitting (c.numberTail neg m) := by
  unfold numberTail
  repeat' split
  all_goals simp only [readsFitting_decimalPart, readsFitting_exponentPart, readsFitting_ok, NumberLit.Fits]
  · exact hm
  · rename_i hm0 hle
    simp only [Nat.pow_eq] at hle
    omega

theorem digitAhead_lt {d : Nat} (h : c.digitAhead = some d) : d < 10 := by
  unfold digitAhead at h
  split at h
  · split at h
    · rename_i ch _ hd
      cases h
      have := digit_iff_toNat.1 hd
      omega
    · cases h
  · cases h

theorem le_of_overflows_eq_false {v d L : Nat} (hd : d < 10) (h : overflows v d L = false) : v * 10 + d ≤ L := by
  unfold overflows at h
  simp only [Bool.and_eq_false_iff, decide_eq_false_iff_not, Bool.or_eq_false_iff] at h
  omega

/-- Integer digits are gathered while they stay below `2^64`. -/
theorem readsFitting_integerDigits : ∀ (fuel : Nat) (c : Cursor) (m : Nat), m < 2 ^ 64 →
    ReadsFitting (integerDigits neg fuel c m)
  | 0, c, m, hm => by
    rw [integerDigits]
    exact readsFitting_numberTail hm
  | fuel + 1, c, m, hm => by
    rw [integerDigits]
    split
    · rename_i d hd
      split
      · exact readsFitting_longInteger
      · rename_i hover
        have := le_of_overflows_eq_false (digitAhead_lt hd) (Bool.of_not_eq_true hover)
        exact readsFitting_integerDigits fuel _ _ (by simp only [Nat.pow_eq] at this; omega)
    · exact readsFitting_numberTail hm

/-- Every number the reader reads is a literal within its range. -/
theorem readsFitting_number : ReadsFitting (c.number neg) := by
  unfold number
  split
  · simp
  · dsimp only
    split
    · simp
    · exact readsFitting_numberTail (by omega)
  · split
    · rename_i ch _ hd
      exact readsFitting_integerDigits _ _ _ (by have := digit_iff_toNat.1 ⟨le_trans (by decide) hd.1, hd.2⟩; omega)
    · simp

end Cursor

theorem NumberLit.Fits.formed {lit : NumberLit} (h : lit.Fits) : lit.toJson.FormedWith fun _ => True := by
  cases lit with
  | unsigned n =>
    have hn : n < 2 ^ 64 := h
    exact .int (by omega) (by omega)
  | signed n =>
    have hn : -2 ^ 63 ≤ n ∧ n < 0 := h
    exact .int hn.1 (by omega)
  | double f => exact .float trivial

namespace Cursor

mutual
/-- The reader gives values well formed but for what their doubles are. -/
theorem value_formed : ∀ (fuel : Nat) (c : Cursor) (v : Json) (c' : Cursor),
    value fuel c = .ok (v, c') → v.FormedWith fun _ => True
  | 0, c, v, c', h => by cases h
  | fuel + 1, c, v, c', h => by
    rw [value] at h
    split at h
    · cases h
    · obtain ⟨_, -, h⟩ := except_bind_eq_ok.1 h
      cases h
      exact .null
    · obtain ⟨_, -, h⟩ := except_bind_eq_ok.1 h
      cases h
      exact .bool true
    · obtain ⟨_, -, h⟩ := except_bind_eq_ok.1 h
      cases h
      exact .bool false
    · obtain ⟨⟨n, _⟩, hn, h⟩ := except_bind_eq_ok.1 h
      cases h
      exact (readsFitting_number n _ hn).formed
    · obtain ⟨⟨t, _⟩, -, h⟩ := except_bind_eq_ok.1 h
      cases h
      exact .str t
    · split at h
      · cases h
      · dsimp only at h
        split at h
        · rename_i xs _ hi
          cases h
          exact .arr (items_formed fuel _ true [] xs _ hi (by simp))
        · cases h
    · split at h
      · cases h
      · dsimp only at h
        split at h
        · rename_i fs _ hf
          cases h
          obtain ⟨hs, hfs⟩ := fields_formed fuel _ true [] fs _ hf .nil (by simp)
          exact .obj hs hfs
        · cases h
    · split at h
      · obtain ⟨⟨n, _⟩, hn, h⟩ := except_bind_eq_ok.1 h
        cases h
        exact (readsFitting_number n _ hn).formed
      · cases h
/-- The items the reader gathers are well formed but for their doubles. -/
theorem items_formed : ∀ (fuel : Nat) (c : Cursor) (first : Bool) (acc xs : List Json) (c' : Cursor),
    items fuel c first acc = .ok (xs, c') → (∀ x ∈ acc, x.FormedWith fun _ => True) →
      ∀ x ∈ xs, x.FormedWith fun _ => True
  | 0, c, first, acc, xs, c', h, _ => by cases h
  | fuel + 1, c, first, acc, xs, c', h, hacc => by
    rw [items] at h
    -- each item is read by `value` and gathered ahead of those before it
    have step : ∀ (c1 : Cursor), (match value fuel c1 with
        | .ok (v, c) => items fuel c false (v :: acc)
        | .error f => .error f) = .ok (xs, c') → ∀ x ∈ xs, x.FormedWith fun _ => True := by
      intro c1 h
      split at h
      · rename_i v c2 hv
        exact items_formed fuel c2 false (v :: acc) xs c' h fun x hx => by
          rcases List.mem_cons.1 hx with rfl | hx
          · exact value_formed fuel c1 x c2 hv
          · exact hacc x hx
      · cases h
    split at h
    · cases h
    · cases h
      intro x hx
      exact hacc x (List.mem_reverse.1 hx)
    · split at h
      · exact step _ h
      · dsimp only at h
        split at h
        · cases h
        · cases h
        · exact step _ h
    · split at h
      · exact step _ h
      · cases h
/-- The fields the reader gathers are sorted, and well formed but for their doubles. -/
theorem fields_formed : ∀ (fuel : Nat) (c : Cursor) (first : Bool) (acc fs : List (String × Json))
    (c' : Cursor), fields fuel c first acc = .ok (fs, c') → Json.Sorted acc →
      (∀ kv ∈ acc, kv.2.FormedWith fun _ => True) →
      Json.Sorted fs ∧ ∀ kv ∈ fs, kv.2.FormedWith fun _ => True
  | 0, c, first, acc, fs, c', h, _, _ => by cases h
  | fuel + 1, c, first, acc, fs, c', h, hs, hacc => by
    rw [fields] at h
    dsimp only at h
    split at h
    · cases h
    · cases h
      exact ⟨hs, hacc⟩
    · -- past the key's opening quote: the key, its colon and its value
      split at h
      · cases h
      · split at h
        · cases h
        · rename_i k _ _
          split at h
          · split at h
            · rename_i v c2 hv
              cases Json.formedWith_setField (k := k) hs hacc (value_formed fuel _ v c2 hv) with
              | obj hs' hacc' => exact fields_formed fuel c2 false _ fs c' h hs' hacc'
            · cases h
          · cases h
          · cases h
end

variable {c : Cursor}

theorem lift_eq_ok {α : Type} {x : Except Fault α} {a : α} (h : lift x = .ok a) : x = .ok a := by
  unfold lift at h
  split at h
  · cases h; rfl
  · cases h

theorem placeInList_eq_ok {α : Type} {x : Except ScanFault α} {a : α} (h : placeInList x = .ok a) :
    x = .ok a := by
  unfold placeInList at h
  split at h
  · cases h
  · exact h

theorem placeInObject_eq_ok {α : Type} {x : Except ScanFault α} {a : α} (h : placeInObject x = .ok a) :
    x = .ok a := by
  unfold placeInObject at h
  split at h
  · cases h
  · exact h

/-- A value of the wrong kind is always a fault. -/
theorem wrongKind_ne_ok {α : Type} (c : Cursor) (e : String) (a : α) : c.wrongKind e ≠ .ok a := by
  unfold wrongKind
  dsimp only
  repeat' split
  all_goals nofun

theorem numberValue_fits {e : String} {n : NumberLit} {c' : Cursor} (h : c.numberValue e = .ok (n, c')) :
    n.Fits := by
  unfold numberValue at h
  split at h
  · exact readsFitting_number n c' (lift_eq_ok h)
  · split at h
    · exact readsFitting_number n c' (lift_eq_ok h)
    · exact absurd h (wrongKind_ne_ok _ _ _)
  · cases h

/-- A named choice written as an object scans to its name. -/
theorem choiceObject_str {sp : List (String × String)} {v : Json} {c' : Cursor}
    (h : choiceObject c sp = .ok (v, c')) : ∃ t, v = .str t := by
  unfold choiceObject at h
  simp only [bind, Except.bind] at h
  -- every branch fails but the one that closes the object after its `null`
  repeat' split at h
  all_goals cases h
  all_goals exact ⟨_, rfl⟩

end Cursor

namespace Shape

open Cursor

theorem wholeNumber_formed {c c' : Cursor} {e : String} {v : Json} (h : wholeNumber c e = .ok (v, c')) :
    v.FormedWith fun _ => True := by
  unfold wholeNumber at h
  obtain ⟨⟨n, c1⟩, hn, h⟩ := except_bind_eq_ok.1 h
  have hfits := numberValue_fits hn
  dsimp only at h
  split at h
  · cases h
    exact hfits.formed
  · cases h
  · cases h

mutual
/-- The scanner gives values well formed but for what their doubles are. -/
theorem scan_formed : ∀ (fuel : Nat) (s : Shape) (c : Cursor) (v : Json) (c' : Cursor),
    scan fuel s c = .ok (v, c') → v.FormedWith fun _ => True
  | 0, s, c, v, c', h => by cases h
  | fuel + 1, s, c, v, c', h => by
    unfold scan at h
    dsimp only at h
    split at h
    · exact value_formed _ _ _ _ (lift_eq_ok h)
    · split at h
      · obtain ⟨_, -, h⟩ := except_bind_eq_ok.1 h
        cases h
        exact .null
      · exact scan_formed fuel _ _ _ _ h
    · -- an action: the record, turned into the action by the check of actions
      obtain ⟨⟨raw, c1⟩, hraw, h⟩ := except_bind_eq_ok.1 h
      dsimp only at h
      split at h
      · rename_i a ha
        cases h
        exact check_formedWith _ _ _ _ ha (scan_formed fuel _ _ _ _ hraw)
      · cases h
    · split at h
      · cases h
      -- one case per arm of the scanner on the shape and the next character, in its order
      · split at h
        · obtain ⟨⟨t, _⟩, -, h⟩ := except_bind_eq_ok.1 h
          cases h
          exact .str t
        · obtain ⟨_, -, h⟩ := except_bind_eq_ok.1 h
          cases h
          exact .bool true
        · obtain ⟨_, -, h⟩ := except_bind_eq_ok.1 h
          cases h
          exact .bool false
        · obtain ⟨⟨n, _⟩, hn, h⟩ := except_bind_eq_ok.1 h
          cases h
          exact (numberValue_fits hn).formed
        · exact wholeNumber_formed h
        · exact wholeNumber_formed h
        · obtain ⟨_, -, h⟩ := except_bind_eq_ok.1 h
          split at h
          · rename_i hr
            cases h
            obtain ⟨⟨xs, _⟩, hxs, hr⟩ := except_bind_eq_ok.1 (placeInList_eq_ok hr)
            obtain ⟨_, -, hr⟩ := except_bind_eq_ok.1 hr
            cases hr
            exact .arr (scanItems_formed fuel _ _ true [] xs _ hxs (by simp))
          · cases h
        · obtain ⟨_, -, h⟩ := except_bind_eq_ok.1 h
          split at h
          · rename_i hr
            cases h
            obtain ⟨⟨fs, _⟩, hfs, hr⟩ := except_bind_eq_ok.1 (placeInObject_eq_ok hr)
            cases hr
            obtain ⟨hs, hvs⟩ := scanDict_formed fuel _ _ true [] fs _ hfs .nil (by simp)
            exact .obj hs hvs
          · cases h
        · obtain ⟨_, -, h⟩ := except_bind_eq_ok.1 h
          split at h
          · cases h
            exact .str _
          · cases h
        · obtain ⟨_, -, h⟩ := except_bind_eq_ok.1 h
          obtain ⟨⟨w, _⟩, hw, h⟩ := except_bind_eq_ok.1 h
          cases h
          obtain ⟨t, rfl⟩ := choiceObject_str hw
          exact .str t
        · cases h
        · obtain ⟨_, -, h⟩ := except_bind_eq_ok.1 h
          split at h
          · rename_i hr
            cases h
            obtain ⟨⟨fs, _⟩, hfs, hr⟩ := except_bind_eq_ok.1 (placeInObject_eq_ok hr)
            split at hr
            · cases hr
            · cases hr
              obtain ⟨hs, hvs⟩ := scanFields_formed fuel _ _ true [] fs _ hfs .nil (by simp)
              exact .obj hs hvs
          · cases h
        · obtain ⟨_, -, h⟩ := except_bind_eq_ok.1 h
          split at h
          · rename_i hr
            cases h
            obtain ⟨⟨fs, _⟩, hfs, hr⟩ := except_bind_eq_ok.1 (placeInList_eq_ok hr)
            obtain ⟨_, -, hr⟩ := except_bind_eq_ok.1 hr
            cases hr
            obtain ⟨hs, hvs⟩ := scanPositional_formed fuel _ _ _ 0 _ [] fs _ hfs .nil (by simp)
            exact .obj hs hvs
          · cases h
        · exact absurd h (wrongKind_ne_ok _ _ _)
/-- The items the scanner gathers are well formed but for their doubles. -/
theorem scanItems_formed : ∀ (fuel : Nat) (s : Shape) (c : Cursor) (first : Bool) (acc xs : List Json)
    (c' : Cursor), scanItems fuel s c first acc = .ok (xs, c') → (∀ x ∈ acc, x.FormedWith fun _ => True) →
      ∀ x ∈ xs, x.FormedWith fun _ => True
  | 0, s, c, first, acc, xs, c', h, _ => by cases h
  | fuel + 1, s, c, first, acc, xs, c', h, hacc => by
    rw [scanItems] at h
    obtain ⟨o, -, h⟩ := except_bind_eq_ok.1 h
    split at h
    · cases h
      intro x hx
      exact hacc x (List.mem_reverse.1 hx)
    · obtain ⟨⟨v, c2⟩, hv, h⟩ := except_bind_eq_ok.1 h
      exact scanItems_formed fuel s c2 false (v :: acc) xs c' h fun x hx => by
        rcases List.mem_cons.1 hx with rfl | hx
        · exact scan_formed fuel s _ x c2 hv
        · exact hacc x hx
/-- The fields the scanner gathers into a map are sorted, and well formed but for their doubles. -/
theorem scanDict_formed : ∀ (fuel : Nat) (s : Shape) (c : Cursor) (first : Bool) (acc fs : List (String × Json))
    (c' : Cursor), scanDict fuel s c first acc = .ok (fs, c') → Json.Sorted acc →
      (∀ kv ∈ acc, kv.2.FormedWith fun _ => True) → Json.Sorted fs ∧ ∀ kv ∈ fs, kv.2.FormedWith fun _ => True
  | 0, s, c, first, acc, fs, c', h, _, _ => by cases h
  | fuel + 1, s, c, first, acc, fs, c', h, hs, hacc => by
    rw [scanDict] at h
    obtain ⟨o, -, h⟩ := except_bind_eq_ok.1 h
    split at h
    · cases h
      exact ⟨hs, hacc⟩
    · rename_i k _
      obtain ⟨_, -, h⟩ := except_bind_eq_ok.1 h
      obtain ⟨⟨v, c2⟩, hv, h⟩ := except_bind_eq_ok.1 h
      cases Json.formedWith_setField (k := k) hs hacc (scan_formed fuel s _ v c2 hv) with
      | obj hs' hacc' => exact scanDict_formed fuel s c2 false _ fs c' h hs' hacc'
/-- The fields the scanner gathers into a record are sorted, and well formed but for their
doubles. -/
theorem scanFields_formed : ∀ (fuel : Nat) (fields : List (String × Shape × Bool)) (c : Cursor) (first : Bool)
    (acc fs : List (String × Json)) (c' : Cursor), scanFields fuel fields c first acc = .ok (fs, c') →
      Json.Sorted acc → (∀ kv ∈ acc, kv.2.FormedWith fun _ => True) →
      Json.Sorted fs ∧ ∀ kv ∈ fs, kv.2.FormedWith fun _ => True
  | 0, fields, c, first, acc, fs, c', h, _, _ => by cases h
  | fuel + 1, fields, c, first, acc, fs, c', h, hs, hacc => by
    rw [scanFields] at h
    obtain ⟨o, -, h⟩ := except_bind_eq_ok.1 h
    split at h
    · cases h
      exact ⟨hs, hacc⟩
    · rename_i k _
      split at h
      · split at h
        · cases h
        · obtain ⟨_, -, h⟩ := except_bind_eq_ok.1 h
          obtain ⟨⟨v, c2⟩, hv, h⟩ := except_bind_eq_ok.1 h
          cases Json.formedWith_setField (k := k) hs hacc (scan_formed fuel _ _ v c2 hv) with
          | obj hs' hacc' => exact scanFields_formed fuel fields c2 false _ fs c' h hs' hacc'
      · -- an undeclared key: its value is skipped
        obtain ⟨_, -, h⟩ := except_bind_eq_ok.1 h
        obtain ⟨c2, -, h⟩ := except_bind_eq_ok.1 h
        exact scanFields_formed fuel fields c2 false acc fs c' h hs hacc
/-- The fields the scanner gathers from a record written as a list are sorted, and well formed
but for their doubles. -/
theorem scanPositional_formed : ∀ (fuel : Nat) (name : String) (fields : List (String × Shape × Bool))
    (count i : Nat) (c : Cursor) (acc fs : List (String × Json)) (c' : Cursor),
    scanPositional fuel name fields count i c acc = .ok (fs, c') →
      Json.Sorted acc → (∀ kv ∈ acc, kv.2.FormedWith fun _ => True) →
      Json.Sorted fs ∧ ∀ kv ∈ fs, kv.2.FormedWith fun _ => True
  | 0, name, fields, count, i, c, acc, fs, c', h, _, _ => by cases h
  | fuel + 1, name, [], count, i, c, acc, fs, c', h, hs, hacc => by
    rw [scanPositional] at h
    · cases h
      exact ⟨hs, hacc⟩
    · exact Nat.succ_ne_zero fuel
  | fuel + 1, name, (k, s, required) :: rest, count, i, c, acc, fs, c', h, hs, hacc => by
    rw [scanPositional] at h
    obtain ⟨o, -, h⟩ := except_bind_eq_ok.1 h
    split at h
    · split at h
      · cases h
      · exact scanPositional_formed fuel name rest count (i + 1) _ acc fs c' h hs hacc
    · obtain ⟨⟨v, c2⟩, hv, h⟩ := except_bind_eq_ok.1 h
      cases Json.formedWith_setField (k := k) hs hacc (scan_formed fuel s _ v c2 hv) with
      | obj hs' hacc' => exact scanPositional_formed fuel name rest count (i + 1) c2 _ fs c' h hs' hacc'
end

/-- What a whole text decodes to is well formed, when its doubles are finite. -/
theorem scanText_wellFormed {s : Shape} {t : String} {v : Json} (h : s.scanText t = .ok v)
    (hd : v.EveryDouble (·.isFinite = true)) : v.WellFormed := by
  unfold scanText at h
  dsimp only at h
  split at h
  · rename_i v' c' hs
    split at h
    · cases h
      exact Json.wellFormed_iff_formedWith.2 ((scan_formed _ _ _ _ _ hs).of_everyDouble hd)
    · cases h
  · cases h
  · cases h

end Shape

end Storyboard

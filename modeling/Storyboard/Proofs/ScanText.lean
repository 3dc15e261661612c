import Storyboard.Format.Text
import Storyboard.Proofs.JsonText

/-!
# Scanning compact text against a shape

The compact text of a value scans against a shape to what the value's check gives, for the
values the writers of `Project.Write` give: choices written as names, records as objects whose
keys they declare. `Shape.ScansAs w s v c` says that the text of `v`, before anything that may
follow a value, scans against `s` as `c` and stops right after it. It is built shape by shape:
the literals and numbers from the readers of `Proofs.JsonText`, containers item by item and
field by field (`Shape.scanItems_chars`, `Shape.scanDict_chars`, `Shape.scanFields_chars`), and
the whole text by `Shape.scanText_render`.

Fuel: scanning spends one unit per character it consumes, and one more for each option or
action it looks through before a character; `w` bounds the latter along any path, so the fuel
the scanner gives a text, twice its length and four, is enough when `w ≤ 4`.
-/

namespace Storyboard

namespace Cursor

variable {c : Cursor} {ch : Char} {r rest : List Char}

/-- A number is read where one is expected as the reader of values reads it. -/
theorem numberValue_readsTo {lit : NumberLit} (hn : c.ReadsTo c.signedNumber lit r) (e : String) :
    c.ReadsTo (c.numberValue e) lit r := by
  obtain ⟨ch, rest, h, hch⟩ := head_of_signedNumber hn.choose_spec.1
  obtain ⟨c', hn, hr, hroom⟩ := hn
  refine ⟨c', ?_, hr, hroom⟩
  rcases hch with rfl | hd
  · rw [signedNumber, peek_of_rest h] at hn
    have hn' : c.advance.number true = .ok (lit, c') := hn
    simp only [numberValue, peek_of_rest h, lift, hn']
  · have hminus : ch ≠ '-' := by rintro rfl; revert hd; decide
    rw [signedNumber_of_digit h hminus] at hn
    unfold numberValue
    rw [peek_of_rest h]
    split
    next heq => exact absurd (Option.some.inj heq) hminus
    next heq =>
      cases heq
      simp only [if_pos hd, lift, hn]
    next heq => cases heq

theorem openContainer_of_room (hroom : 1 < c.room) :
    c.openContainer = .ok { c.advance with room := c.room - 1 } := by
  simp [openContainer, show ¬ c.room ≤ 1 by omega]

/-- The closing bracket of a list ends its items. -/
theorem nextItem_close (h : c.rest = ']' :: r) (first : Bool) : c.nextItem first = .ok none := by
  simp [nextItem, skipBlank_of_not_blank (by simp [h, isBlank_iff] : ∀ ch ∈ c.rest.head?, ¬IsBlank ch),
    peek_of_rest h]

/-- The first item of a list starts where the list does. -/
theorem nextItem_first (h : c.rest = ch :: rest) (hch : StartsValue ch) :
    c.nextItem true = .ok (some c) := by
  obtain ⟨hb, hcomma, hclose, -⟩ := hch
  unfold nextItem
  dsimp only
  rw [skipBlank_of_not_blank (by simpa [h] using hb), peek_of_rest h]
  split
  next heq => cases heq
  next heq => exact absurd (Option.some.inj heq) hclose
  next heq => exact absurd (Option.some.inj heq) hcomma
  next => rfl

/-- A later item starts after its comma. -/
theorem nextItem_comma (h : c.rest = ',' :: ch :: rest) (hch : StartsValue ch) :
    c.nextItem false = .ok (some c.advance) := by
  obtain ⟨hb, -, hclose, -⟩ := hch
  have h2 := rest_advance h
  unfold nextItem
  dsimp only
  rw [skipBlank_of_not_blank (by simp [h, isBlank_iff]), peek_of_rest h]
  simp only [Bool.false_eq_true, if_false, skipBlank_of_not_blank (c := c.advance) (by simpa [h2] using hb),
    peek_of_rest h2]

theorem closeList_close (h : c.rest = ']' :: r) : c.closeList = .ok c.advance := by
  simp [closeList, skipBlank_of_not_blank (by simp [h, isBlank_iff] : ∀ ch ∈ c.rest.head?, ¬IsBlank ch),
    peek_of_rest h]

theorem colon_of_rest (h : c.rest = ':' :: r) : c.colon = .ok c.advance := by
  simp [colon, skipBlank_of_not_blank (by simp [h, isBlank_iff] : ∀ ch ∈ c.rest.head?, ¬IsBlank ch),
    peek_of_rest h]

/-- The closing brace of an object ends its keys. -/
theorem nextKey_close (h : c.rest = '\x7d' :: r) (first : Bool) : c.nextKey first = .ok none := by
  unfold nextKey
  dsimp only
  rw [skipBlank_of_not_blank (by simp [h, isBlank_iff]), peek_of_rest h]
  rfl

/-- The first key of an object is read where the object's fields start. -/
theorem nextKey_first {k : String} (h : c.rest = '"' :: (k.toList.flatMap Json.escapeChar ++ '"' :: r)) :
    ∃ c', c.nextKey true = .ok (some (k, c')) ∧ c'.rest = r ∧ c'.room = c.room := by
  obtain ⟨c', hs, hr, hroom⟩ := string_quote k (rest_advance h)
  refine ⟨c', ?_, hr, by rw [hroom, room_advance]⟩
  unfold nextKey
  dsimp only
  rw [skipBlank_of_not_blank (by simp [h, isBlank_iff]), peek_of_rest h]
  simp [hs]

/-- A later key is read after its comma. -/
theorem nextKey_comma {k : String} (h : c.rest = ',' :: '"' :: (k.toList.flatMap Json.escapeChar ++ '"' :: r)) :
    ∃ c', c.nextKey false = .ok (some (k, c')) ∧ c'.rest = r ∧ c'.room = c.room := by
  have h2 := rest_advance h
  obtain ⟨c', hs, hr, hroom⟩ := string_quote k (rest_advance h2)
  refine ⟨c', ?_, hr, by rw [hroom, room_advance, room_advance]⟩
  unfold nextKey
  dsimp only
  rw [skipBlank_of_not_blank (by simp [h, isBlank_iff]), peek_of_rest h]
  simp [skipBlank_of_not_blank (c := c.advance) (by simp [h2, isBlank_iff]), peek_of_rest h2, hs]

end Cursor

namespace Shape

open Cursor

/-- The compact text of `v`, before what may follow a value, scans against `s` as `c` and stops
right after it: at any fuel past its length and `w` more, and any nesting room past its depth.
The doubles of `v` read back, so that its text starts as a value does. -/
def ScansAs (w : Nat) (s : Shape) (v c : Json) : Prop :=
  v.EveryDouble Json.ReadsBack ∧
    ∀ (fuel : Nat) (cur : Cursor) (r : List Char), v.chars.length + w < fuel → cur.rest = v.chars ++ r →
      AfterValue r → v.depth < cur.room → cur.ReadsTo (scan fuel s cur) c r

variable {w : Nat} {s : Shape} {v c : Json}

theorem ScansAs.mono {w' : Nat} (h : ScansAs w s v c) (hw : w ≤ w') : ScansAs w' s v c :=
  ⟨h.1, fun fuel cur r hlen => h.2 fuel cur r (by omega)⟩

/-- Any value's text scans as the value, when it is well formed and its doubles read back. -/
theorem scansAs_any (hw : v.WellFormed) (hd : v.EveryDouble Json.ReadsBack) : ScansAs 0 .any v v := by
  refine ⟨hd, fun fuel cur r hlen h hr hdepth => ?_⟩
  obtain ⟨f, rfl⟩ : ∃ f, fuel = f + 1 := ⟨fuel - 1, by omega⟩
  obtain ⟨ch, rest, hc, hch⟩ := chars_head hd
  obtain ⟨c', hv, hr', hroom⟩ := value_chars v hw hd (f + 1) cur r (by omega) h hr hdepth
  refine ⟨c', ?_, hr', hroom⟩
  conv_lhs => whnf
  rw [skipBlank_of_not_blank (by simpa [h, hc] using hch.1)]
  simp only [hv]

theorem scansAs_string (t : String) : ScansAs 0 .string (.str t) (.str t) := by
  refine ⟨.str t, fun fuel cur r hlen h hr hdepth => ?_⟩
  obtain ⟨f, rfl⟩ : ∃ f, fuel = f + 1 := ⟨fuel - 1, by omega⟩
  have h1 : cur.rest = '"' :: (t.toList.flatMap Json.escapeChar ++ '"' :: r) := by
    simp [h, Json.chars, Json.quote]
  obtain ⟨c', hs, hr', hroom⟩ := string_quote t (rest_advance h1)
  refine ⟨c', ?_, hr', by rw [hroom, room_advance]⟩
  conv_lhs => whnf
  rw [skipBlank_of_not_blank (by simp [h1, isBlank_iff]), peek_of_rest h1, hs]
  rfl

theorem scansAs_boolean (b : Bool) : ScansAs 0 .boolean (.bool b) (.bool b) := by
  refine ⟨.bool b, fun fuel cur r hlen h hr hdepth => ?_⟩
  obtain ⟨f, rfl⟩ : ∃ f, fuel = f + 1 := ⟨fuel - 1, by omega⟩
  cases b with
  | true =>
    have h1 : cur.rest = 't' :: ("rue".toList ++ r) := h
    obtain ⟨c', he, hr', hroom⟩ := expectWord_append "rue".toList cur.advance (rest_advance h1)
    refine ⟨c', ?_, hr', by rw [hroom, room_advance]⟩
    conv_lhs => whnf
    rw [skipBlank_of_not_blank (by simp [h1, isBlank_iff]), peek_of_rest h1, he]
    rfl
  | false =>
    have h1 : cur.rest = 'f' :: ("alse".toList ++ r) := h
    obtain ⟨c', he, hr', hroom⟩ := expectWord_append "alse".toList cur.advance (rest_advance h1)
    refine ⟨c', ?_, hr', by rw [hroom, room_advance]⟩
    conv_lhs => whnf
    rw [skipBlank_of_not_blank (by simp [h1, isBlank_iff]), peek_of_rest h1, he]
    rfl

/-- A double whose text reads back scans as itself. -/
theorem scansAs_float {x : Float} (hx : Json.ReadsBack x) : ScansAs 0 .float (.float x) (.float x) := by
  refine ⟨.float hx, fun fuel cur r hlen h hr hdepth => ?_⟩
  obtain ⟨f, rfl⟩ : ∃ f, fuel = f + 1 := ⟨fuel - 1, by omega⟩
  obtain ⟨ch, rest, hc, hch⟩ := head_of_readsBack hx
  have h' : cur.rest = (Json.floatText x).toList ++ r := by simpa [Json.chars] using h
  obtain ⟨c', hn, hr', hroom⟩ := numberValue_readsTo (hx cur r h' hr) "f64"
  refine ⟨c', ?_, hr', hroom⟩
  have hb := (startsValue_of_number hch).1
  conv_lhs => whnf
  rw [skipBlank_of_not_blank (by simpa [h', hc] using hb),
    peek_of_rest (by rw [h', hc, List.cons_append]), hn]
  rfl

/-- A natural below `2^64` scans as itself where a whole number is expected. -/
theorem wholeNumber_nat {m : Nat} (hm : m < 2 ^ 64) {cur : Cursor} {r : List Char} (hr : AfterValue r)
    (h : cur.rest = (Json.int m).chars ++ r) (e : String) :
    cur.ReadsTo (wholeNumber cur e) (.int m) r := by
  have h' : cur.rest = Nat.toDigits 10 m ++ r := by
    rw [h, show ((m : Int)) = Int.ofNat m from rfl, Json.chars_int_ofNat]
  obtain ⟨c', hn, hr', hroom⟩ := numberValue_readsTo (signedNumber_nat hm hr h') e
  refine ⟨c', ?_, hr', hroom⟩
  simp only [wholeNumber, hn]
  rfl

/-- A natural below `2^64` scans as itself against either shape of naturals. -/
theorem scansAs_nat {m : Nat} (hm : m < 2 ^ 64) (hs : s = .u64 ∨ s = .usize) :
    ScansAs 0 s (.int m) (.int m) := by
  refine ⟨.int m, fun fuel cur r hlen h hr hdepth => ?_⟩
  obtain ⟨f, rfl⟩ : ∃ f, fuel = f + 1 := ⟨fuel - 1, by omega⟩
  obtain ⟨ch, rest, hc, hch⟩ := chars_head (Json.EveryDouble.int (p := Json.ReadsBack) (m : Int))
  obtain ⟨c', hn, hr', hroom⟩ := wholeNumber_nat hm hr h s.expecting
  refine ⟨c', ?_, hr', hroom⟩
  rcases hs with rfl | rfl
  all_goals
    conv_lhs => whnf
    rw [skipBlank_of_not_blank (by simpa [h, hc] using hch.1), peek_of_rest (by rw [h, hc, List.cons_append])]
    exact hn

theorem scansAs_option_null (s : Shape) : ScansAs 0 (.option s) .null .null := by
  refine ⟨.null, fun fuel cur r hlen h hr hdepth => ?_⟩
  obtain ⟨f, rfl⟩ : ∃ f, fuel = f + 1 := ⟨fuel - 1, by omega⟩
  have h1 : cur.rest = 'n' :: ("ull".toList ++ r) := h
  obtain ⟨c', he, hr', hroom⟩ := expectWord_append "ull".toList cur.advance (rest_advance h1)
  refine ⟨c', ?_, hr', by rw [hroom, room_advance]⟩
  conv_lhs => whnf
  rw [skipBlank_of_not_blank (by simp [h1, isBlank_iff]), peek_of_rest h1, he]
  rfl

/-- The text of a value other than `null` does not start as `null` does. -/
theorem chars_head_ne_n (hd : v.EveryDouble Json.ReadsBack) (hv : v ≠ .null) :
    ∃ ch rest, v.chars = ch :: rest ∧ StartsValue ch ∧ ch ≠ 'n' := by
  obtain ⟨ch, rest, hc, hs⟩ := chars_head hd
  refine ⟨ch, rest, hc, hs, ?_⟩
  rintro rfl
  cases v with
  | null => exact hv rfl
  | bool b => cases b <;> simp [Json.chars] at hc
  | int n =>
    cases n with
    | ofNat m =>
      rw [Json.chars_int_ofNat] at hc
      have := isDigit_of_toDigits 'n' (by rw [hc]; exact List.mem_cons_self)
      revert this
      decide
    | negSucc m => simp [Json.chars_int_negSucc] at hc
  | float f =>
    cases hd with
    | float hf =>
      obtain ⟨ch, rest', h, hch⟩ := head_of_readsBack hf
      simp only [Json.chars, h, List.cons.injEq] at hc
      rcases hc.1 ▸ hch with h | h
      · exact absurd h (by decide)
      · revert h; decide
  | str t => simp [Json.chars, Json.quote] at hc
  | arr xs => simp [Json.chars] at hc
  | obj fs => simp [Json.chars] at hc

/-- A value other than `null` scans against an option as against the inner shape, with one
more unit of fuel. -/
theorem scansAs_option (hv : v ≠ .null) (h : ScansAs w s v c) : ScansAs (w + 1) (.option s) v c := by
  refine ⟨h.1, fun fuel cur r hlen hc hr hdepth => ?_⟩
  obtain ⟨f, rfl⟩ : ∃ f, fuel = f + 1 := ⟨fuel - 1, by omega⟩
  obtain ⟨ch, rest, hch, hs, hn⟩ := chars_head_ne_n h.1 hv
  have h1 : cur.rest = ch :: (rest ++ r) := by rw [hc, hch, List.cons_append]
  conv in scan _ _ _ => whnf
  rw [skipBlank_of_not_blank (by simpa [h1] using hs.1)]
  simp only [peek_of_rest h1]
  split
  next heq => exact absurd (Option.some.inj heq) hn
  next => exact h.2 f cur r (by omega) hc hr hdepth

/-- A name of a choice scans as the name it stands for. -/
theorem scansAs_choice {sp : List (String × String)} {n n' canon : String}
    (h : sp.find? (·.1 == n) = some (n', canon)) : ScansAs 0 (.choice sp) (.str n) (.str canon) := by
  refine ⟨.str n, fun fuel cur r hlen hc hr hdepth => ?_⟩
  obtain ⟨f, rfl⟩ : ∃ f, fuel = f + 1 := ⟨fuel - 1, by omega⟩
  have h1 : cur.rest = '"' :: (n.toList.flatMap Json.escapeChar ++ '"' :: r) := by
    simp [hc, Json.chars, Json.quote]
  obtain ⟨c', hs, hr', hroom⟩ := string_quote n (rest_advance h1)
  refine ⟨c', ?_, hr', by rw [hroom, room_advance]⟩
  conv_lhs => whnf
  rw [skipBlank_of_not_blank (by simp [h1, isBlank_iff]), peek_of_rest h1, hs]
  -- the name read is looked up among the spellings
  conv_lhs => whnf
  rw [h]
  rfl

/-- The items of a list, written after its opening bracket, scan item by item up to its
closing bracket, which is left for the list to consume. -/
theorem scanItems_chars {xs cs : List Json} (hxc : List.Forall₂ (ScansAs w s) xs cs) :
    ∀ (first : Bool) (fuel : Nat) (cur : Cursor) (acc : List Json) (r : List Char),
      (Json.charsItems first xs).length + w + 1 < fuel → cur.rest = Json.charsItems first xs ++ ']' :: r →
      Json.depthItems xs < cur.room → cur.ReadsTo (scanItems fuel s cur first acc) (acc.reverse ++ cs) (']' :: r) := by
  induction hxc with
  | nil =>
    intro first fuel cur acc r hlen h _
    obtain ⟨f, rfl⟩ : ∃ f, fuel = f + 1 := ⟨fuel - 1, by omega⟩
    have h1 : cur.rest = ']' :: r := by simpa [Json.charsItems] using h
    refine ⟨cur, ?_, h1, rfl⟩
    rw [scanItems, nextItem_close h1, skipBlank_of_not_blank (by simp [h1, isBlank_iff]), List.append_nil]
    rfl
  | @cons x cx xs cs hx hxs ih =>
    intro first fuel cur acc r hlen h hdepth
    obtain ⟨f, rfl⟩ : ∃ f, fuel = f + 1 := ⟨fuel - 1, by omega⟩
    obtain ⟨ch, rest, hch, hs⟩ := chars_head hx.1
    have hlenx := length_chars_pos hx.1
    simp only [Json.depthItems] at hdepth
    -- the item starts after the comma that separates it from the one before
    have hnext : cur.nextItem first = .ok (some (if first then cur else cur.advance)) := by
      cases first
      · exact nextItem_comma (by simpa [Json.charsItems, hch] using h) hs
      · exact nextItem_first (by simpa [Json.charsItems, hch] using h) hs
    have hc0 : (if first then cur else cur.advance).rest = x.chars ++ (Json.charsItems false xs ++ ']' :: r) := by
      cases first
      · exact rest_advance (by simpa [Json.charsItems] using h)
      · simpa [Json.charsItems] using h
    obtain ⟨c1, hv, hr1, hroom1⟩ := hx.2 f _ _ (by cases first <;> simp [Json.charsItems] at hlen <;> omega)
      hc0 (afterValue_charsItems xs r) (by cases first <;> simp <;> omega)
    obtain ⟨c2, hi, hr2, hroom2⟩ := ih false f c1 (cx :: acc) r
      (by cases first <;> simp [Json.charsItems] at hlen <;> omega) hr1
      (by rw [hroom1]; cases first <;> simp <;> omega)
    refine ⟨c2, ?_, hr2, by rw [hroom2, hroom1]; cases first <;> simp⟩
    rw [scanItems, hnext]
    simp only [bind, Except.bind, hv]
    simpa using hi

/-- A list scans item by item. -/
theorem scansAs_list {xs cs : List Json} (h : List.Forall₂ (ScansAs w s) xs cs) :
    ScansAs w (.list s) (.arr xs) (.arr cs) := by
  refine ⟨.arr ((List.forall₂_and_left _ _).1 (h.imp fun _ _ hxc => ⟨hxc.1, hxc⟩)).1,
    fun fuel cur r hlen hc hr hdepth => ?_⟩
  obtain ⟨f, rfl⟩ : ∃ f, fuel = f + 1 := ⟨fuel - 1, by omega⟩
  have h1 : cur.rest = '[' :: (Json.charsItems true xs ++ ']' :: r) := by simp [hc, Json.chars]
  simp only [Json.depth] at hdepth
  obtain ⟨c1, hi, hr1, hroom1⟩ := scanItems_chars h true f { cur.advance with room := cur.room - 1 } [] r
    (by simp [Json.chars] at hlen; omega) (rest_advance h1) (by simp; omega)
  refine ⟨{ c1.advance with room := cur.room }, ?_, rest_advance hr1, rfl⟩
  conv_lhs => whnf
  rw [skipBlank_of_not_blank (by simp [h1, isBlank_iff]), peek_of_rest h1,
    openContainer_of_room (show 1 < cur.room by omega)]
  -- the items are scanned inside the bracket just opened
  conv_lhs => whnf
  rw [hi]
  dsimp only [bind, Except.bind]
  rw [closeList_close hr1]
  rfl

/-- An action scans as its record, whose value the check of actions then turns into the action,
with one more unit of fuel. -/
theorem scansAs_action {raw a : Json} (h : ScansAs w rawAction v raw) (hc : checkValue .action raw = .ok a) :
    ScansAs (w + 1) .action v a := by
  refine ⟨h.1, fun fuel cur r hlen h0 hr hdepth => ?_⟩
  obtain ⟨f, rfl⟩ : ∃ f, fuel = f + 1 := ⟨fuel - 1, by omega⟩
  obtain ⟨ch, rest, hch, hs⟩ := chars_head h.1
  obtain ⟨c1, hraw, hr1, hroom1⟩ := h.2 f cur r (by omega) h0 hr hdepth
  refine ⟨c1, ?_, hr1, hroom1⟩
  conv_lhs => whnf
  rw [skipBlank_of_not_blank (by simpa [h0, hch] using hs.1)]
  simp only [hraw, hc]
  rfl

/-! ### Fields of objects -/

section Fields

variable {fs cs : List (String × Json)} {k : String} {x : Json} {first : Bool} {cur : Cursor} {r : List Char}

/-- A field's key and colon, after the comma that separates it from the one before. -/
theorem fieldHead (h : cur.rest = Json.charsFields first ((k, x) :: fs) ++ '\x7d' :: r) :
    ∃ c1, cur.nextKey first = .ok (some (k, c1)) ∧ c1.colon = .ok c1.advance ∧
      c1.advance.rest = x.chars ++ (Json.charsFields false fs ++ '\x7d' :: r) ∧ c1.room = cur.room := by
  cases first
  · obtain ⟨c1, hk, hr, hroom⟩ := nextKey_comma (by simpa [Json.charsFields, Json.quote] using h)
    exact ⟨c1, hk, colon_of_rest hr, rest_advance hr, hroom⟩
  · obtain ⟨c1, hk, hr, hroom⟩ := nextKey_first (by simpa [Json.charsFields, Json.quote] using h)
    exact ⟨c1, hk, colon_of_rest hr, rest_advance hr, hroom⟩

theorem length_charsFields_cons :
    x.chars.length + (Json.charsFields false fs).length + 3 ≤ (Json.charsFields first ((k, x) :: fs)).length := by
  cases first <;> simp [Json.charsFields, Json.quote]
  omega

theorem depth_lt_charsFields_cons (h : Json.depthFields ((k, x) :: fs) < cur.room) :
    x.depth < cur.room ∧ Json.depthFields fs < cur.room := by
  simp only [Json.depthFields] at h
  omega

/-- Fields related one to one have the same keys in the same order. -/
theorem keys_eq_of_forall₂ {R : String × Json → String × Json → Prop}
    (h : List.Forall₂ (fun a b => a.1 = b.1 ∧ R a b) fs cs) : cs.map Prod.fst = fs.map Prod.fst := by
  induction h with
  | nil => rfl
  | cons hab _ ih => simp [hab.1, ih]

theorem hasField_of_mem_keys : ∀ {fs : List (String × Json)}, k ∈ fs.map Prod.fst → Json.hasField k fs = true
  | (k', v) :: fs, h => by
    by_cases hk : k' = k
    · simp [Json.hasField, Json.lookup, hk]
    · have : k ∈ fs.map Prod.fst := by simpa [Ne.symm hk] using h
      simpa [Json.hasField, Json.lookup, hk] using hasField_of_mem_keys this

end Fields

/-- The fields of a map, written after its opening brace, scan field by field up to its
closing brace, which is left for the map to consume; each is stored into what was read before. -/
theorem scanDict_chars {fs cs : List (String × Json)}
    (hfc : List.Forall₂ (fun kx kc => kx.1 = kc.1 ∧ ScansAs w s kx.2 kc.2) fs cs) :
    ∀ (first : Bool) (fuel : Nat) (cur : Cursor) (acc : List (String × Json)) (r : List Char),
      (Json.charsFields first fs).length + w + 1 < fuel → cur.rest = Json.charsFields first fs ++ '\x7d' :: r →
      Json.depthFields fs < cur.room →
      cur.ReadsTo (scanDict fuel s cur first acc) (Json.merge acc cs) ('\x7d' :: r) := by
  induction hfc with
  | nil =>
    intro first fuel cur acc r hlen h _
    obtain ⟨f, rfl⟩ : ∃ f, fuel = f + 1 := ⟨fuel - 1, by omega⟩
    have h1 : cur.rest = '\x7d' :: r := by simpa [Json.charsFields] using h
    exact ⟨cur, by rw [scanDict, nextKey_close h1]; rfl, h1, rfl⟩
  | @cons kx kc fs cs hkx hxs ih =>
    intro first fuel cur acc r hlen h hdepth
    obtain ⟨k, x⟩ := kx
    obtain ⟨k', cx⟩ := kc
    obtain ⟨hk, hx⟩ := hkx
    obtain ⟨f, rfl⟩ : ∃ f, fuel = f + 1 := ⟨fuel - 1, by omega⟩
    obtain rfl : k = k' := hk
    dsimp only at hx
    have hl : x.chars.length + (Json.charsFields false fs).length + 3 ≤
        (Json.charsFields first ((k, x) :: fs)).length := length_charsFields_cons
    have hd := depth_lt_charsFields_cons hdepth
    obtain ⟨c1, hkey, hcolon, hr1, hroom1⟩ := fieldHead h
    obtain ⟨c2, hv, hr2, hroom2⟩ := hx.2 f c1.advance _ (by omega) hr1 (afterValue_charsFields fs r)
      (by rw [room_advance, hroom1]; exact hd.1)
    obtain ⟨c3, hi, hr3, hroom3⟩ := ih false f c2 (Json.setField k cx acc) r (by omega) hr2
      (by rw [hroom2, room_advance, hroom1]; exact hd.2)
    refine ⟨c3, ?_, hr3, by rw [hroom3, hroom2, room_advance, hroom1]⟩
    rw [scanDict, hkey]
    simp only [bind, Except.bind, hcolon, hv]
    rw [Json.merge_cons]
    exact hi

/-- A map scans field by field, when its keys are sorted. -/
theorem scansAs_dict {fs cs : List (String × Json)} (hs : Json.Sorted fs)
    (h : List.Forall₂ (fun kx kc => kx.1 = kc.1 ∧ ScansAs w s kx.2 kc.2) fs cs) :
    ScansAs w (.dict s) (.obj fs) (.obj cs) := by
  refine ⟨.obj ((List.forall₂_and_left _ _).1 (h.imp fun _ _ hkc => ⟨hkc.2.1, hkc⟩)).1,
    fun fuel cur r hlen hc hr hdepth => ?_⟩
  obtain ⟨f, rfl⟩ : ∃ f, fuel = f + 1 := ⟨fuel - 1, by omega⟩
  have h1 : cur.rest = '\x7b' :: (Json.charsFields true fs ++ '\x7d' :: r) := by simp [hc, Json.chars]
  simp only [Json.depth] at hdepth
  obtain ⟨c1, hi, hr1, hroom1⟩ := scanDict_chars h true f { cur.advance with room := cur.room - 1 } [] r
    (by simp [Json.chars] at hlen; omega) (rest_advance h1) (by simp; omega)
  refine ⟨{ c1.advance with room := cur.room }, ?_, rest_advance hr1, rfl⟩
  rw [Json.merge_nil_of_sorted (Json.sorted_of_keys_eq (keys_eq_of_forall₂ h) hs)] at hi
  conv_lhs => whnf
  rw [skipBlank_of_not_blank (by simp [h1, isBlank_iff]), peek_of_rest h1,
    openContainer_of_room (show 1 < cur.room by omega)]
  -- the fields are scanned inside the brace just opened
  conv_lhs => whnf
  rw [hi]
  dsimp only [bind, Except.bind]
  rw [skipBlank_of_not_blank (c := c1) (by simp [hr1, isBlank_iff])]
  rfl

/-- The fields of a record, written after its opening brace, scan field by field up to its
closing brace: each key is declared, and comes once. -/
theorem scanFields_chars {fields : List (String × Shape × Bool)} {fs cs : List (String × Json)}
    (hfc : List.Forall₂ (fun kx kc => kx.1 = kc.1 ∧
      ∃ e, fields.find? (·.1 == kx.1) = some e ∧ ScansAs w e.2.1 kx.2 kc.2) fs cs) :
    Json.Sorted fs →
    ∀ (first : Bool) (fuel : Nat) (cur : Cursor) (acc : List (String × Json)) (r : List Char),
      (∀ kv ∈ fs, Json.hasField kv.1 acc = false) →
      (Json.charsFields first fs).length + w + 1 < fuel → cur.rest = Json.charsFields first fs ++ '\x7d' :: r →
      Json.depthFields fs < cur.room →
      cur.ReadsTo (scanFields fuel fields cur first acc) (Json.merge acc cs) ('\x7d' :: r) := by
  induction hfc with
  | nil =>
    intro _ first fuel cur acc r _ hlen h _
    obtain ⟨f, rfl⟩ : ∃ f, fuel = f + 1 := ⟨fuel - 1, by omega⟩
    have h1 : cur.rest = '\x7d' :: r := by simpa [Json.charsFields] using h
    exact ⟨cur, by rw [scanFields, nextKey_close h1]; rfl, h1, rfl⟩
  | @cons kx kc fs cs hkx hxs ih =>
    intro hs first fuel cur acc r hnew hlen h hdepth
    obtain ⟨k, x⟩ := kx
    obtain ⟨k', cx⟩ := kc
    obtain ⟨hk, ⟨k0, s0, b0⟩, hfind, hx⟩ := hkx
    obtain ⟨f, rfl⟩ : ∃ f, fuel = f + 1 := ⟨fuel - 1, by omega⟩
    obtain rfl : k = k' := hk
    dsimp only at hx hfind
    have hl : x.chars.length + (Json.charsFields false fs).length + 3 ≤
        (Json.charsFields first ((k, x) :: fs)).length := length_charsFields_cons
    have hd := depth_lt_charsFields_cons hdepth
    obtain ⟨hlt, hs'⟩ := List.pairwise_cons.1 hs
    -- the later keys are greater, so none of them is stored yet
    have hnew' : ∀ kv ∈ fs, Json.hasField kv.1 (Json.setField k cx acc) = false := fun kv hkv => by
      rw [Json.hasField, Json.lookup_setField_ne _ _ (ne_of_gt (hlt kv hkv))]
      exact hnew kv (List.mem_cons_of_mem _ hkv)
    obtain ⟨c1, hkey, hcolon, hr1, hroom1⟩ := fieldHead h
    obtain ⟨c2, hv, hr2, hroom2⟩ := hx.2 f c1.advance _ (by omega) hr1 (afterValue_charsFields fs r)
      (by rw [room_advance, hroom1]; exact hd.1)
    obtain ⟨c3, hi, hr3, hroom3⟩ := ih hs' false f c2 (Json.setField k cx acc) r hnew'
      (by omega) hr2 (by rw [hroom2, room_advance, hroom1]; exact hd.2)
    refine ⟨c3, ?_, hr3, by rw [hroom3, hroom2, room_advance, hroom1]⟩
    rw [scanFields, hkey]
    simp only [bind, Except.bind, hfind, hnew (k, x) List.mem_cons_self, Bool.false_eq_true, if_false,
      hcolon, hv]
    rw [Json.merge_cons]
    exact hi

/-- A record given as a sorted object of declared fields, with every required field there,
scans field by field. -/
theorem scansAs_record {name : String} {fields : List (String × Shape × Bool)} {fs cs : List (String × Json)}
    (hs : Json.Sorted fs)
    (h : List.Forall₂ (fun kx kc => kx.1 = kc.1 ∧
      ∃ e, fields.find? (·.1 == kx.1) = some e ∧ ScansAs w e.2.1 kx.2 kc.2) fs cs)
    (hreq : ∀ e ∈ fields, e.2.2 = true → e.1 ∈ fs.map Prod.fst) :
    ScansAs w (.record name fields) (.obj fs) (.obj cs) := by
  refine ⟨.obj ((List.forall₂_and_left _ _).1 (h.imp fun _ _ hkc => ⟨by obtain ⟨-, e, -, hx⟩ := hkc; exact hx.1, hkc⟩)).1,
    fun fuel cur r hlen hc hr hdepth => ?_⟩
  obtain ⟨f, rfl⟩ : ∃ f, fuel = f + 1 := ⟨fuel - 1, by omega⟩
  have hkeys := keys_eq_of_forall₂ h
  have h1 : cur.rest = '\x7b' :: (Json.charsFields true fs ++ '\x7d' :: r) := by simp [hc, Json.chars]
  simp only [Json.depth] at hdepth
  obtain ⟨c1, hi, hr1, hroom1⟩ := scanFields_chars h hs true f { cur.advance with room := cur.room - 1 } [] r
    (by simp [Json.hasField, Json.lookup]) (by simp [Json.chars] at hlen; omega) (rest_advance h1)
    (by simp; omega)
  rw [Json.merge_nil_of_sorted (Json.sorted_of_keys_eq hkeys hs)] at hi
  refine ⟨{ c1.advance with room := cur.room }, ?_, rest_advance hr1, rfl⟩
  conv_lhs => whnf
  rw [skipBlank_of_not_blank (by simp [h1, isBlank_iff]), peek_of_rest h1,
    openContainer_of_room (show 1 < cur.room by omega)]
  -- the fields are scanned inside the brace just opened
  conv_lhs => whnf
  rw [hi]
  dsimp only [bind, Except.bind]
  -- every required field was read
  rw [List.find?_eq_none.2]
  · rw [skipBlank_of_not_blank (c := c1) (by simp [hr1, isBlank_iff])]
    rfl
  · rintro ⟨k, sh, required⟩ he
    cases required
    · simp
    · simp [hasField_of_mem_keys (hkeys ▸ hreq _ he rfl)]

/-- The compact text of a value that scans as `c`, with at most four units of fuel to spare and
nesting less deeply than the scanner allows, decodes as `c`. -/
theorem scanText_render (h : ScansAs w s v c) (hw : w ≤ 4) (hdepth : v.depth < 128) :
    s.scanText v.render = .ok c := by
  have hlen := length_chars_pos h.1
  obtain ⟨c', hs, hr, -⟩ := h.2 (Cursor.start v.render).fuelFor (Cursor.start v.render) []
    (by simp [Cursor.fuelFor, Cursor.start]; omega) (by simp [Cursor.start]) (by simp [AfterValue])
    (by simpa [Cursor.start] using hdepth)
  have hfinish : c'.finish = .ok () := by
    rw [Cursor.finish, skipBlank_of_not_blank (by simp [hr])]
    simp [Cursor.peek, hr]
  simp only [scanText, hs, hfinish]

end Shape

end Storyboard

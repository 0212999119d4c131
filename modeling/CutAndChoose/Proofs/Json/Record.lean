import Mathlib
import CutAndChoose.Json.Record
import CutAndChoose.Proofs.Except
import CutAndChoose.Proofs.Files.Script
import CutAndChoose.Proofs.Json.Input

/-!
# CutAndChoose.Proofs.Json.Record

Written records and lists are read back.

* `Fills`: how the written fields of an object fill the slots of a shape, one after the other, up
  to the first that is refused.
* `gives_record`, `gives_no_record`: an object whose fields fill all slots is the record of these
  slots; with a refused field there is none.
* `gives_list`: a list gives its elements if every one of them is given.
-/

namespace CutAndChoose.Json

/-! ## Names -/

/-- Whether all characters stand for themselves in a string. -/
def isPlain (text : List Char) : Bool :=
  text.all fun c => 0x20 ≤ c.toNat && c.toNat < 128 && c != '"' && c != '\\'

theorem isPlain_cons {c : Char} {text : List Char} (h : isPlain (c :: text) = true) :
    0x20 ≤ c.toNat ∧ c.toNat < 128 ∧ c ≠ '"' ∧ c ≠ '\\' ∧ isPlain text = true := by
  simpa [isPlain, and_assoc] using h

theorem readStringFrom_plain {text : List Char} (h : isPlain text = true) (acc : List UInt8)
    (s : Input) :
    readStringFrom unit .plain acc (bytes text ++ byte '"' :: s) =
      .ok (acc.reverse ++ bytes text, s) := by
  induction text generalizing acc with
  | nil => simp [readStringFrom, step]
  | cons c text ih =>
    obtain ⟨hlow, hascii, hquote, hback, htext⟩ := isPlain_cons h
    have hstep : step unit .plain (byte c) = .ok (.on .plain [byte c]) := by
      have hctl : ¬byte c < 0x20 := by
        rw [UInt8.lt_iff_toNat_lt, toNat_byte hascii]
        exact Nat.not_lt.2 hlow
      rw [step, if_neg (byte_ne hascii (by decide) hquote),
        if_neg (byte_ne hascii (by decide) hback), if_neg hctl]
    rw [bytes_cons hascii, List.cons_append, readStringFrom, hstep]
    dsimp only
    rw [ih htext]
    simp

theorem fromUTF8?_bytes (name : String) :
    String.fromUTF8? ⟨(bytes name.toList).toArray⟩ = some name := by
  have hbytes : (⟨(bytes name.toList).toArray⟩ : ByteArray) = name.toUTF8 := by
    rw [← toUTF8_ofList, String.ofList_toList, Array.toArray_toList]
  rw [hbytes, fromUTF8?_toUTF8]

theorem readString_plain {name : String} (h : isPlain name.toList = true) (s : Input) :
    readString (bytes name.toList ++ byte '"' :: s) = .ok (name, s) := by
  have hread := readStringFrom_plain h [] s
  rw [readString, hread, ok_bind]
  dsimp only [List.reverse_nil, List.nil_append]
  rw [fromUTF8?_bytes]
  rfl

/-! ## Items on lines -/

/-- The items behind the first, each after a comma and on its own line. -/
def moreItems (depth : ℕ) (items : List (List Char)) : List Char :=
  items.flatMap fun item => ',' :: (newLine (depth + 1) ++ item)

theorem intercalate_cons (sep item : List Char) (items : List (List Char)) :
    sep.intercalate (item :: items) = item ++ items.flatMap (sep ++ ·) := by
  induction items generalizing item with
  | nil => simp
  | cons next items ih =>
    rw [List.intercalate_cons_cons, ih, List.flatMap_cons, List.append_assoc, List.append_assoc]

theorem itemLines_cons (depth : ℕ) (item : List Char) (items : List (List Char)) :
    itemLines depth (item :: items) =
      newLine (depth + 1) ++ (item ++ (moreItems depth items ++ newLine depth)) := by
  rw [itemLines, intercalate_cons]
  simp [moreItems]

theorem bytes_moreItems_cons (depth : ℕ) (item : List Char) (items : List (List Char)) :
    bytes (moreItems depth (item :: items)) =
      byte ',' :: (bytes (newLine (depth + 1)) ++
        (bytes item ++ bytes (moreItems depth items))) := by
  rw [moreItems, List.flatMap_cons, List.cons_append, bytes_cons (by decide)]
  simp [moreItems]

/-- Whatever comes behind an item ends it. -/
theorem ends_moreItems (depth : ℕ) (items : List (List Char)) (rest : Input) :
    Ends (bytes (moreItems depth items) ++ (bytes (newLine depth) ++ rest)) := by
  cases items with
  | nil =>
    rw [moreItems, List.flatMap_nil, bytes_nil, List.nil_append, bytes_newLine, List.cons_append]
    exact Ends.cons (.inr rfl) _
  | cons item items =>
    rw [bytes_moreItems_cons, List.cons_append]
    exact Ends.cons (.inl rfl) _

/-- Each item adds a line break at least. -/
theorem length_le_itemLines (depth : ℕ) (items : List (List Char)) :
    items.length ≤ (bytes (itemLines depth items)).length := by
  have hmore : ∀ items, items.length ≤ (bytes (moreItems depth items)).length := by
    intro items
    induction items with
    | nil => exact Nat.zero_le _
    | cons item items ih =>
      rw [bytes_moreItems_cons, List.length_cons, List.length_cons, List.length_append,
        List.length_append]
      omega
  cases items with
  | nil => exact Nat.zero_le _
  | cons item items =>
    have := hmore items
    rw [itemLines_cons, bytes_append, bytes_append, bytes_append, bytes_newLine]
    simp only [List.length_cons, List.length_append]
    omega

/-! ## Objects -/

section Object

variable {σ α : Type} {shape : Shape σ α} {slots : σ} {name : String} {text : List Char}
  {fields : List (String × List Char)} {out : Option σ} {before : Input}

theorem nextKey_first (hbefore : ∀ b ∈ before, isBlankByte b = true) (s : Input) :
    nextKey true (before ++ byte '"' :: s) = .ok (true, s) := by
  rw [nextKey, skipBlanks_append hbefore (by rintro _ ⟨⟩; rfl)]
  rfl

theorem nextKey_comma (hbefore : ∀ b ∈ before, isBlankByte b = true) (s : Input) :
    nextKey false (byte ',' :: (before ++ byte '"' :: s)) = .ok (true, s) := by
  rw [nextKey, skipBlanks_cons rfl]
  dsimp only
  rw [skipBlanks_append hbefore (by rintro _ ⟨⟩; rfl)]
  rfl

theorem nextKey_end (first : Bool) (hbefore : ∀ b ∈ before, isBlankByte b = true) (s : Input) :
    nextKey first (before ++ byte '\x7d' :: s) = .ok (false, byte '\x7d' :: s) := by
  rw [nextKey, skipBlanks_append hbefore (by rintro _ ⟨⟩; rfl)]
  rfl

/-- A field behind its opening quote. -/
def fieldInside (field : String × List Char) : List Char :=
  field.1.toList ++ '"' :: ':' :: ' ' :: field.2

theorem bytes_fieldLayout (field : String × List Char) :
    bytes (fieldLayout field) = byte '"' :: bytes (fieldInside field) := by
  rw [fieldLayout, bytes_cons (by decide), fieldInside]

/-- What the search for the next key finds in front of these fields: the inside of the first, or
the brace. -/
def keyAt (depth : ℕ) (rest : Input) : List (String × List Char) → Bool × Input
  | [] => (false, byte '\x7d' :: rest)
  | field :: fields => (true, bytes (fieldInside field) ++
      (bytes (moreItems depth (fields.map fieldLayout)) ++
        (bytes (newLine depth) ++ byte '\x7d' :: rest)))

theorem nextKey_moreItems (depth : ℕ) (fields : List (String × List Char)) (rest : Input) :
    nextKey false (bytes (moreItems depth (fields.map fieldLayout)) ++
      (bytes (newLine depth) ++ byte '\x7d' :: rest)) = .ok (keyAt depth rest fields) := by
  cases fields with
  | nil => exact nextKey_end false isBlankByte_of_mem_newLine rest
  | cons field fields =>
    have hnext := @nextKey_comma _ (@isBlankByte_of_mem_newLine (depth + 1))
      (keyAt depth rest (field :: fields)).2
    rw [List.map_cons, bytes_moreItems_cons, bytes_fieldLayout]
    simpa only [List.append_assoc, List.cons_append, keyAt] using hnext

theorem nextKey_itemLines (depth : ℕ) (fields : List (String × List Char)) (rest : Input) :
    nextKey true (bytes (itemLines depth (fields.map fieldLayout)) ++ byte '\x7d' :: rest) =
      .ok (keyAt depth rest fields) := by
  cases fields with
  | nil =>
    refine nextKey_end true ?_ rest
    intro b hb
    rw [itemLines, List.map_nil, List.intercalate_nil, List.append_nil, bytes_append] at hb
    rcases List.mem_append.1 hb with hb | hb
    · exact isBlankByte_of_mem_newLine b hb
    · exact isBlankByte_of_mem_newLine b hb
  | cons field fields =>
    have hnext := @nextKey_first _ (@isBlankByte_of_mem_newLine (depth + 1))
      (keyAt depth rest (field :: fields)).2
    rw [List.map_cons, itemLines_cons, bytes_append, bytes_append, bytes_fieldLayout]
    simpa only [bytes_append, List.append_assoc, List.cons_append, keyAt] using hnext

/-- Reading the fields in the order in which they are written fills the slots, unless one of them
is refused. -/
inductive Fills (shape : Shape σ α) : σ → List (String × List Char) → Option σ → Prop where
  | done (slots : σ) : Fills shape slots [] (some slots)
  | next {slots slots' : σ} {f : Field σ} {name text fields out} :
      isPlain name.toList = true → shape.fields.find? (·.name == name) = some f →
      f.filled slots = false → Gives (f.read slots) text (some slots') →
      Fills shape slots' fields out → Fills shape slots ((name, text) :: fields) out
  | refused {slots : σ} {f : Field σ} {name text fields} :
      isPlain name.toList = true → shape.fields.find? (·.name == name) = some f →
      f.filled slots = false → Gives (f.read slots) text none →
      Fills shape slots ((name, text) :: fields) none

/-- A field is read by the reader of its name, from the blank behind the colon on. -/
theorem readField_plain {f : Field σ} (hplain : isPlain name.toList = true)
    (hfind : shape.fields.find? (·.name == name) = some f) (hfilled : f.filled slots = false)
    (s : Input) :
    readField shape slots (bytes (fieldInside (name, text)) ++ s) =
      f.read slots ([byte ' '] ++ (bytes text ++ s)) := by
  have hcolon : readColon (byte ':' :: byte ' ' :: (bytes text ++ s)) =
      .ok (byte ' ' :: (bytes text ++ s)) := rfl
  rw [fieldInside, bytes_append, bytes_cons (by decide), bytes_cons (by decide),
    bytes_cons (by decide), List.append_assoc, List.cons_append, List.cons_append,
    List.cons_append, readField, readString_plain hplain, ok_bind]
  dsimp only
  rw [hfind]
  dsimp only
  rw [if_neg (by rw [hfilled]; decide), hcolon]
  rfl

theorem readByName_fills (h : Fills shape slots fields out) {depth : ℕ} {rest : Input} :
    ∀ fuel, fields.length < fuel → ∀ first s, nextKey first s = .ok (keyAt depth rest fields) →
      ∀ p, readByName shape fuel first slots s = .ok p ↔
        ∃ slots' ∈ out, p = (slots', byte '\x7d' :: rest) := by
  have hblank : ∀ b ∈ [byte ' '], isBlankByte b = true := by
    intro b hb
    rw [List.mem_singleton.1 hb]
    rfl
  -- Between two fields the input is known only as what `nextKey` makes of it, because the first
  -- key comes without a comma and the others behind one.
  induction h with
  | done slots =>
    intro fuel hfuel first s hnext p
    obtain ⟨fuel, rfl⟩ := Nat.exists_eq_add_one_of_ne_zero (Nat.ne_of_gt hfuel)
    rw [readByName, hnext]
    show (Except.ok (slots, byte '\x7d' :: rest) : Except Fault (σ × Input)) = .ok p ↔ _
    rw [Except.ok.injEq]
    constructor
    · rintro rfl
      exact ⟨slots, rfl, rfl⟩
    · rintro ⟨_, ⟨⟩, rfl⟩
      rfl
  | @next slots slots' f name text fields out hplain hfind hfilled hvalue hfields ih =>
    intro fuel hfuel first s hnext p
    obtain ⟨fuel, rfl⟩ := Nat.exists_eq_add_one_of_ne_zero (Nat.ne_zero_of_lt hfuel)
    have hrest := ends_moreItems depth (fields.map fieldLayout) (byte '\x7d' :: rest)
    rw [readByName, hnext]
    show (readField shape slots _ >>= _) = _ ↔ _
    rw [readField_plain hplain hfind hfilled, hvalue.eq_ok hblank hrest, ok_bind]
    exact ih fuel (Nat.lt_of_succ_lt_succ hfuel) false _ (nextKey_moreItems depth fields rest) p
  | @refused slots f name text fields hplain hfind hfilled hvalue =>
    intro fuel hfuel first s hnext p
    obtain ⟨fuel, rfl⟩ := Nat.exists_eq_add_one_of_ne_zero (Nat.ne_zero_of_lt hfuel)
    have hrest := ends_moreItems depth (fields.map fieldLayout) (byte '\x7d' :: rest)
    rw [readByName, hnext]
    show (readField shape slots _ >>= _) = _ ↔ _
    rw [readField_plain hplain hfind hfilled, bind_eq_ok_iff]
    constructor
    · rintro ⟨q, hq, -⟩
      exact absurd hq (hvalue.ne_ok hblank hrest q)
    · rintro ⟨_, h, -⟩
      cases h

theorem readRecord_skipBlanks (s : Input) :
    readRecord shape s = readRecord shape (skipBlanks s) := by
  rw [readRecord, readRecord, skipBlanks_skipBlanks]

/-- An object is what its fields make of the slots. -/
theorem gives_object (h : Fills shape shape.empty fields out) (depth : ℕ) {result : Option α}
    (hresult : ∀ a, a ∈ result ↔ ∃ slots ∈ out, shape.result slots = .ok a) :
    Gives (readRecord shape) (objectLayout depth fields) result := by
  refine Gives.intro readRecord_skipBlanks (by decide) rfl ?_
  intro rest _ p
  have hlength := length_le_itemLines depth (fields.map fieldLayout)
  rw [List.length_map] at hlength
  have hfields := @readByName_fills _ _ _ _ _ _ h depth rest
    ((bytes (itemLines depth (fields.map fieldLayout)) ++ byte '\x7d' :: rest).length + 1)
    (by rw [List.length_append]; omega) true _ (nextKey_itemLines depth fields rest)
  have hclose : closeObject (byte '\x7d' :: rest) = .ok rest := rfl
  rw [bytes_append, bytes_cons (by decide), bytes_nil, List.append_assoc, List.singleton_append,
    readRecord, skipBlanks_cons rfl]
  dsimp only
  rw [if_neg (by decide), if_pos rfl, bind_eq_ok_iff]
  constructor
  · rintro ⟨⟨slots, s⟩, hread, hend⟩
    obtain ⟨slots', hslots, heq⟩ := (hfields (slots, s)).1 hread
    cases heq
    simp only [hclose, bind_eq_ok_iff, pure_eq_ok_iff, Except.ok.injEq] at hend
    obtain ⟨a, ha, _, rfl, rfl⟩ := hend
    exact ⟨a, (hresult a).2 ⟨slots, hslots, ha⟩, rfl⟩
  · rintro ⟨a, ha, rfl⟩
    obtain ⟨slots, hslots, hok⟩ := (hresult a).1 ha
    refine ⟨(slots, byte '\x7d' :: rest), (hfields _).2 ⟨slots, hslots, rfl⟩, ?_⟩
    simp only [hclose, bind_eq_ok_iff, pure_eq_ok_iff, Except.ok.injEq]
    exact ⟨a, hok, rest, rfl, rfl⟩

theorem gives_record {a : α} (h : Fills shape shape.empty fields (some slots)) (depth : ℕ)
    (ha : shape.result slots = .ok a) :
    Gives (readRecord shape) (objectLayout depth fields) (some a) := by
  refine gives_object h depth ?_
  intro b
  constructor
  · rintro ⟨⟩
    exact ⟨slots, rfl, ha⟩
  · rintro ⟨_, ⟨⟩, hb⟩
    rw [ha] at hb
    cases hb
    rfl

theorem gives_no_record (h : Fills shape shape.empty fields none) (depth : ℕ) :
    Gives (readRecord shape) (objectLayout depth fields) none := by
  refine gives_object h depth ?_
  intro b
  constructor
  · rintro ⟨⟩
  · rintro ⟨_, ⟨⟩, _⟩

section Slot

variable {β : Type} {get : σ → Option β} {set : σ → β → σ} {value : Reader β} {b : β}

theorem gives_slot {o : Option β} (h : Gives value text o) :
    Gives ((Field.slot name get set value).read slots) text (o.map (set slots)) := by
  intro before rest hbefore hrest p
  have hvalue := h before rest hbefore hrest
  show (value _ >>= _) = _ ↔ _
  rw [bind_eq_ok_iff]
  constructor
  · rintro ⟨q, hq, hp⟩
    obtain ⟨c, hc, rfl⟩ := (hvalue q).1 hq
    cases hp
    exact ⟨set slots c, Option.mem_map_of_mem _ hc, rfl⟩
  · rintro ⟨_, hmem, rfl⟩
    obtain ⟨c, hc, rfl⟩ := Option.mem_map.1 hmem
    exact ⟨(c, rest), (hvalue _).2 ⟨c, hc, rfl⟩, rfl⟩

theorem Fills.slot (hplain : isPlain name.toList = true)
    (hfind : shape.fields.find? (·.name == name) = some (.slot name get set value))
    (hempty : get slots = none) (hvalue : Gives value text (some b))
    (hfields : Fills shape (set slots b) fields out) :
    Fills shape slots ((name, text) :: fields) out := by
  refine .next hplain hfind ?_ (gives_slot hvalue) hfields
  show (get slots).isSome = false
  rw [hempty]
  rfl

theorem Fills.slot_refused (hplain : isPlain name.toList = true)
    (hfind : shape.fields.find? (·.name == name) = some (.slot name get set value))
    (hempty : get slots = none) (hvalue : Gives value text none) :
    Fills shape slots ((name, text) :: fields) none := by
  refine .refused hplain hfind ?_ (gives_slot hvalue)
  show (get slots).isSome = false
  rw [hempty]
  rfl

end Slot

end Object

/-! ## Lists -/

section List

variable {α β : Type} {item : Reader α} {layout : β → List Char} {value : β → Option α}
  {before : Input}

/-- What the search for the next element finds in front of these elements: the first, or the
bracket. -/
def elementAt (depth : ℕ) (rest : Input) : List (List Char) → Bool × Input
  | [] => (false, byte ']' :: rest)
  | text :: texts => (true, bytes text ++
      (bytes (moreItems depth texts) ++ (bytes (newLine depth) ++ byte ']' :: rest)))

/-- Elements that are objects, so that none is taken for the end of the list. -/
def Objects (texts : List (List Char)) : Prop := ∀ text ∈ texts, text.head? = some '\x7b'

theorem bytes_object {text : List Char} (h : text.head? = some '\x7b') :
    ∃ inside, bytes text = byte '\x7b' :: inside := by
  cases text with
  | nil => cases h
  | cons c text =>
    cases h
    exact ⟨bytes text, bytes_cons (by decide) text⟩

theorem nextElement_first (hbefore : ∀ b ∈ before, isBlankByte b = true) (s : Input) :
    nextElement true (before ++ byte '\x7b' :: s) = .ok (true, byte '\x7b' :: s) := by
  rw [nextElement, skipBlanks_append hbefore (by rintro _ ⟨⟩; rfl)]
  rfl

theorem nextElement_comma (hbefore : ∀ b ∈ before, isBlankByte b = true) (s : Input) :
    nextElement false (byte ',' :: (before ++ byte '\x7b' :: s)) =
      .ok (true, byte '\x7b' :: s) := by
  rw [nextElement, skipBlanks_cons rfl]
  dsimp only
  rw [skipBlanks_append hbefore (by rintro _ ⟨⟩; rfl)]
  rfl

theorem nextElement_end (first : Bool) (hbefore : ∀ b ∈ before, isBlankByte b = true) (s : Input) :
    nextElement first (before ++ byte ']' :: s) = .ok (false, byte ']' :: s) := by
  rw [nextElement, skipBlanks_append hbefore (by rintro _ ⟨⟩; rfl)]
  rfl

theorem nextElement_moreItems (depth : ℕ) {texts : List (List Char)} (hobject : Objects texts)
    (rest : Input) :
    nextElement false (bytes (moreItems depth texts) ++
      (bytes (newLine depth) ++ byte ']' :: rest)) = .ok (elementAt depth rest texts) := by
  cases texts with
  | nil => exact nextElement_end false isBlankByte_of_mem_newLine rest
  | cons text texts =>
    obtain ⟨inside, htext⟩ := bytes_object (hobject text List.mem_cons_self)
    have hnext := @nextElement_comma _ (@isBlankByte_of_mem_newLine (depth + 1))
      (inside ++ (bytes (moreItems depth texts) ++ (bytes (newLine depth) ++ byte ']' :: rest)))
    rw [bytes_moreItems_cons, elementAt, htext]
    simpa only [List.append_assoc, List.cons_append] using hnext

theorem nextElement_itemLines (depth : ℕ) {text : List Char} {texts : List (List Char)}
    (hobject : Objects (text :: texts)) (rest : Input) :
    nextElement true (bytes (itemLines depth (text :: texts)) ++ byte ']' :: rest) =
      .ok (elementAt depth rest (text :: texts)) := by
  obtain ⟨inside, htext⟩ := bytes_object (hobject text List.mem_cons_self)
  have hnext := @nextElement_first _ (@isBlankByte_of_mem_newLine (depth + 1))
    (inside ++ (bytes (moreItems depth texts) ++ (bytes (newLine depth) ++ byte ']' :: rest)))
  rw [itemLines_cons, elementAt, bytes_append, bytes_append, bytes_append, htext]
  simpa only [List.append_assoc, List.cons_append] using hnext

theorem readElements_gives {xs : List β} (hitem : ∀ x ∈ xs, Gives item (layout x) (value x))
    (hobject : Objects (xs.map layout)) {depth : ℕ} {rest : Input} :
    ∀ fuel, xs.length < fuel → ∀ acc s,
      nextElement acc.isEmpty s = .ok (elementAt depth rest (xs.map layout)) →
      ∀ p, readElements item fuel acc s = .ok p ↔
        ∃ as ∈ xs.mapM value, p = (acc.reverse ++ as, byte ']' :: rest) := by
  -- As with the fields; here it is the empty `acc` that marks the first element.
  induction xs with
  | nil =>
    intro fuel hfuel acc s hnext p
    obtain ⟨fuel, rfl⟩ := Nat.exists_eq_add_one_of_ne_zero (Nat.ne_of_gt hfuel)
    rw [readElements, hnext]
    show (Except.ok (acc.reverse, byte ']' :: rest) : Except Fault (List α × Input)) = .ok p ↔ _
    rw [Except.ok.injEq, List.mapM_nil]
    constructor
    · rintro rfl
      exact ⟨[], rfl, by rw [List.append_nil]⟩
    · rintro ⟨_, ⟨⟩, rfl⟩
      rw [List.append_nil]
  | cons x xs ih =>
    intro fuel hfuel acc s hnext p
    obtain ⟨fuel, rfl⟩ := Nat.exists_eq_add_one_of_ne_zero (Nat.ne_zero_of_lt hfuel)
    obtain ⟨hx, hxs⟩ := List.forall_mem_cons.1 hitem
    have htexts : Objects (xs.map layout) := fun text h => hobject text (List.mem_cons_of_mem _ h)
    have hends := ends_moreItems depth (xs.map layout) (byte ']' :: rest)
    rw [readElements, hnext]
    show (item (bytes (layout x) ++ _) >>= _) = _ ↔ _
    rw [List.mapM_cons]
    cases hvalue : value x with
    | none =>
      rw [hvalue] at hx
      rw [bind_eq_ok_iff]
      constructor
      · rintro ⟨q, hq, -⟩
        exact absurd hq (@Gives.ne_ok _ _ _ [] _ hx (by simp) hends q)
      · rintro ⟨_, ⟨⟩, -⟩
    | some a =>
      rw [hvalue] at hx
      have hread := @Gives.eq_ok _ _ _ _ [] _ hx (by simp) hends
      have hrest := ih hxs htexts fuel (Nat.lt_of_succ_lt_succ hfuel) (a :: acc) _
        (nextElement_moreItems depth htexts rest) p
      rw [List.nil_append] at hread
      rw [hread]
      show readElements item fuel (a :: acc) _ = _ ↔ _
      rw [hrest]
      constructor
      · rintro ⟨as, has, rfl⟩
        refine ⟨a :: as, ?_, by simp⟩
        rw [Option.mem_def.1 has]
        rfl
      · rintro ⟨_, hmem, rfl⟩
        change (xs.mapM value).bind (fun as => some (a :: as)) = some _ at hmem
        obtain ⟨as, has, heq⟩ := Option.bind_eq_some_iff.1 hmem
        cases heq
        exact ⟨as, has, by simp⟩

theorem readList_skipBlanks (s : Input) : readList item s = readList item (skipBlanks s) := by
  rw [readList, readList, skipBlanks_skipBlanks]

theorem readList_inside {xs : List β} (hitem : ∀ x ∈ xs, Gives item (layout x) (value x))
    (hobject : Objects (xs.map layout)) {depth : ℕ} {s rest : Input}
    (hlength : xs.length ≤ s.length)
    (hnext : nextElement true s = .ok (elementAt depth rest (xs.map layout))) (p : List α × Input) :
    readList item (byte '[' :: s) = .ok p ↔ ∃ as ∈ xs.mapM value, p = (as, rest) := by
  have helements := readElements_gives hitem hobject (s.length + 1) (by omega) [] s hnext
  have hclose : closeList (byte ']' :: rest) = .ok rest := rfl
  rw [readList, skipBlanks_cons rfl]
  dsimp only
  rw [if_pos rfl, bind_eq_ok_iff]
  constructor
  · rintro ⟨q, hread, hend⟩
    obtain ⟨as, has, rfl⟩ := (helements q).1 hread
    simp only [hclose, bind_eq_ok_iff, pure_eq_ok_iff, Except.ok.injEq] at hend
    obtain ⟨_, rfl, rfl⟩ := hend
    exact ⟨as, has, by simp⟩
  · rintro ⟨as, has, rfl⟩
    refine ⟨(as, byte ']' :: rest), (helements _).2 ⟨as, has, by simp⟩, ?_⟩
    simp only [hclose, bind_eq_ok_iff, pure_eq_ok_iff, Except.ok.injEq]
    exact ⟨rest, rfl, rfl⟩

/-- A list of objects comes back if each of its elements does. -/
theorem gives_list {xs : List β} (hitem : ∀ x ∈ xs, Gives item (layout x) (value x))
    (hobject : Objects (xs.map layout)) (depth : ℕ) :
    Gives (readList item) (listLayout depth (xs.map layout)) (xs.mapM value) := by
  cases xs with
  | nil =>
    refine Gives.intro readList_skipBlanks (by decide) rfl ?_
    intro rest _ p
    rw [bytes_cons (by decide), bytes_nil, List.singleton_append]
    exact @readList_inside _ _ _ _ _ [] hitem hobject depth _ rest (Nat.zero_le _) rfl p
  | cons x xs =>
    refine Gives.intro readList_skipBlanks (by decide) rfl ?_
    intro rest _ p
    have hlength := length_le_itemLines depth ((x :: xs).map layout)
    rw [List.length_map] at hlength
    have hnext := nextElement_itemLines depth hobject rest
    rw [bytes_append, bytes_cons (by decide), bytes_nil, List.append_assoc, List.singleton_append]
    refine readList_inside hitem hobject ?_ hnext p
    rw [List.length_append]
    exact hlength.trans (Nat.le_add_right _ _)

end List

end CutAndChoose.Json

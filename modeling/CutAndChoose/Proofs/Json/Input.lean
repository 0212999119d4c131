import Mathlib
import CutAndChoose.Json.Layout
import CutAndChoose.Json.Value
import CutAndChoose.Proofs.Text.Run

/-!
# CutAndChoose.Proofs.Json.Input

Written texts as input of readers.

* `bytes`: the bytes of a text.
* `Ends`: what may follow a value in a written file.
* `Gives`: what a reader makes of a written value, on any input that goes on behind it. The readers
  of records and lists are composed of this relation, so it speaks of success and refusal alike.
-/

namespace CutAndChoose.Json

/-- The bytes of a text, as a file holds them. -/
def bytes (text : List Char) : Input := text.flatMap String.utf8EncodeChar

@[simp] theorem bytes_nil : bytes [] = [] := rfl

@[simp] theorem bytes_append (s t : List Char) : bytes (s ++ t) = bytes s ++ bytes t :=
  List.flatMap_append

theorem bytes_cons {c : Char} (hc : c.toNat < 128) (text : List Char) :
    bytes (c :: text) = byte c :: bytes text := by
  have hencode : String.utf8EncodeChar c = [byte c] := by
    rw [String.utf8EncodeChar.eq_1]
    exact if_pos (Nat.le_of_lt_succ hc)
  rw [bytes, List.flatMap_cons, hencode]
  rfl

theorem bytes_eq_map {text : List Char} (h : ∀ c ∈ text, c.toNat < 128) :
    bytes text = text.map byte := by
  induction text with
  | nil => rfl
  | cons c text ih =>
    obtain ⟨hc, htext⟩ := List.forall_mem_cons.1 h
    rw [bytes_cons hc, ih htext, List.map_cons]

theorem toUTF8_ofList (text : List Char) :
    (String.ofList text).toUTF8.data.toList = bytes text := by
  simp [bytes, String.toUTF8, List.utf8Encode]

theorem toNat_byte {c : Char} (h : c.toNat < 128) : (byte c).toNat = c.toNat :=
  UInt8.toNat_ofNat_of_lt' (h.trans (by decide))

theorem charOf_byte {c : Char} (h : c.toNat < 128) : charOf (byte c) = c := by
  rw [charOf, toNat_byte h, Char.ofNat_toNat]

theorem byte_ne {c c' : Char} (hc : c.toNat < 128) (hc' : c'.toNat < 128) (h : c ≠ c') :
    byte c ≠ byte c' := by
  intro hbyte
  have hback := congrArg charOf hbyte
  rw [charOf_byte hc, charOf_byte hc'] at hback
  exact h hback

/-! ## Blanks -/

theorem skipBlanks_append {before s : Input} (hbefore : ∀ b ∈ before, isBlankByte b = true)
    (hs : ∀ b ∈ s.head?, isBlankByte b = false) : skipBlanks (before ++ s) = s :=
  dropWhile_run hbefore hs

theorem skipBlanks_cons {b : UInt8} (hb : isBlankByte b = false) (s : Input) :
    skipBlanks (b :: s) = b :: s :=
  List.dropWhile_cons_of_neg (by rw [hb]; decide)

theorem skipBlanks_skipBlanks (s : Input) : skipBlanks (skipBlanks s) = skipBlanks s :=
  List.dropWhile_idempotent _ s

theorem bytes_newLine (depth : ℕ) :
    bytes (newLine depth) = byte '\n' :: List.replicate (2 * depth) (byte ' ') := by
  have hascii : ∀ c ∈ newLine depth, c.toNat < 128 := by
    intro c hc
    rcases List.mem_cons.1 hc with rfl | hc
    · decide
    · rw [List.eq_of_mem_replicate hc]
      decide
  rw [bytes_eq_map hascii, newLine, List.map_cons, List.map_replicate]

theorem isBlankByte_of_mem_newLine {depth : ℕ} :
    ∀ b ∈ bytes (newLine depth), isBlankByte b = true := by
  intro b hb
  rw [bytes_newLine] at hb
  rcases List.mem_cons.1 hb with rfl | hb
  · decide
  · rw [List.eq_of_mem_replicate hb]
    decide

/-! ## Words -/

theorem readWord_bytes {word : List Char} (h : ∀ c ∈ word, c.toNat < 128) (rest : Input) :
    readWord word (bytes word ++ rest) = .ok rest := by
  rw [bytes_eq_map h]
  clear h
  induction word with
  | nil => rfl
  | cons c word ih =>
    rw [List.map_cons, List.cons_append, readWord, if_pos rfl]
    exact ih

/-! ## Reading written values -/

/-- Nothing that follows a value in a written file could belong to it. -/
def Ends (rest : Input) : Prop := ∀ b ∈ rest.head?, b = byte ',' ∨ b = byte '\n'

theorem Ends.nil : Ends [] := by
  intro b hb
  cases hb

theorem Ends.cons {b : UInt8} (h : b = byte ',' ∨ b = byte '\n') (rest : Input) :
    Ends (b :: rest) := by
  intro c hc
  cases hc
  exact h

/-- Behind blanks the reader gets from the text what is in `out`, and leaves what follows the
text; with nothing in `out` it refuses the text. -/
def Gives {α : Type} (read : Reader α) (text : List Char) (out : Option α) : Prop :=
  ∀ before rest, (∀ b ∈ before, isBlankByte b = true) → Ends rest →
    ∀ p, read (before ++ (bytes text ++ rest)) = .ok p ↔ ∃ a ∈ out, p = (a, rest)

section Gives

variable {α : Type} {read : Reader α} {text : List Char} {out : Option α} {a : α} {c : Char}
  {before rest : Input}

theorem Gives.eq_ok (h : Gives read text (some a)) (hbefore : ∀ b ∈ before, isBlankByte b = true)
    (hrest : Ends rest) : read (before ++ (bytes text ++ rest)) = .ok (a, rest) :=
  (h before rest hbefore hrest _).2 ⟨a, rfl, rfl⟩

theorem Gives.ne_ok (h : Gives read text none) (hbefore : ∀ b ∈ before, isBlankByte b = true)
    (hrest : Ends rest) (p : α × Input) : read (before ++ (bytes text ++ rest)) ≠ .ok p := by
  intro hp
  obtain ⟨a, ha, -⟩ := (h before rest hbefore hrest p).1 hp
  cases ha

/-- A reader that skips blanks is known by what it does on the text itself. -/
theorem Gives.intro (hskip : ∀ s, read s = read (skipBlanks s)) (hc : c.toNat < 128)
    (hblank : isBlankByte (byte c) = false)
    (h : ∀ rest, Ends rest → ∀ p,
      read (byte c :: (bytes text ++ rest)) = .ok p ↔ ∃ a ∈ out, p = (a, rest)) :
    Gives read (c :: text) out := by
  intro before rest hbefore hrest p
  have hhead : ∀ b ∈ (byte c :: (bytes text ++ rest)).head?, isBlankByte b = false := by
    intro b hb
    cases hb
    exact hblank
  rw [bytes_cons hc, List.cons_append, hskip, skipBlanks_append hbefore hhead]
  exact h rest hrest p

theorem Gives.intro_ok (hskip : ∀ s, read s = read (skipBlanks s)) (hc : c.toNat < 128)
    (hblank : isBlankByte (byte c) = false)
    (h : ∀ rest, Ends rest → read (byte c :: (bytes text ++ rest)) = .ok (a, rest)) :
    Gives read (c :: text) (some a) := by
  refine Gives.intro hskip hc hblank ?_
  intro rest hrest p
  rw [h rest hrest, Except.ok.injEq]
  constructor
  · rintro rfl
    exact ⟨a, rfl, rfl⟩
  · rintro ⟨b, hb, rfl⟩
    cases hb
    rfl

theorem Gives.intro_refused (hskip : ∀ s, read s = read (skipBlanks s)) (hc : c.toNat < 128)
    (hblank : isBlankByte (byte c) = false)
    (h : ∀ rest p, read (byte c :: (bytes text ++ rest)) ≠ .ok p) :
    Gives read (c :: text) none := by
  refine Gives.intro hskip hc hblank ?_
  intro rest _ p
  constructor
  · intro hp
    exact absurd hp (h rest p)
  · rintro ⟨b, hb, -⟩
    cases hb

end Gives

theorem readBool_skipBlanks (s : Input) : readBool s = readBool (skipBlanks s) := by
  rw [readBool, readBool, skipBlanks_skipBlanks]

theorem gives_bool (b : Bool) : Gives readBool (boolLayout b) (some b) := by
  cases b with
  | false =>
    refine Gives.intro_ok readBool_skipBlanks (by decide) rfl ?_
    intro rest _
    have hword := @readWord_bytes ['a', 'l', 's', 'e'] (by simp) rest
    rw [readBool, skipBlanks_cons (by decide)]
    dsimp only
    rw [if_neg (by decide), if_pos rfl, hword]
    rfl
  | true =>
    refine Gives.intro_ok readBool_skipBlanks (by decide) rfl ?_
    intro rest _
    have hword := @readWord_bytes ['r', 'u', 'e'] (by simp) rest
    rw [readBool, skipBlanks_cons (by decide)]
    dsimp only
    rw [if_pos rfl, hword]
    rfl

end CutAndChoose.Json

import Mathlib
import CutAndChoose.Files.Directory

/-!
# CutAndChoose.Proofs.Files.Directory

What is written at a path is read at it (`Directory.read_write`). A file is put only where no
directory stands, so every directory on the way to a place is still there afterwards, and the path
leads to the same place.
-/

namespace CutAndChoose.Directory

variable {d d' : Directory} {p q : Place} {e : Entry}

/-- A place where a file may be put. -/
def Writable (d : Directory) (p : Place) : Prop := (d.entry? p).any (·.isDirectory) = false

theorem Writable.not_above (h : d.Writable p) : ¬(p = root ∨ isAbove p = true) := by
  intro hp
  unfold Writable entry? at h
  rw [if_pos hp] at h
  cases h

theorem lookup_filter {entries : List (Place × Entry)} (h : q ≠ p) :
    (entries.filter (·.1 != p)).lookup q = entries.lookup q := by
  induction entries with
  | nil => rfl
  | cons entry entries ih =>
    obtain ⟨r, f⟩ := entry
    by_cases hr : r = p
    · have hq : (q == r) = false := by simpa [hr] using h
      rw [List.filter_cons_of_neg (by simp [hr]), ih, List.lookup_cons, hq]
    · rw [List.filter_cons_of_pos (by simpa using hr), List.lookup_cons, List.lookup_cons, ih]

theorem entry?_put_self (h : d.Writable p) : Directory.entry? (d.put p e) p = some e := by
  unfold entry?
  rw [if_neg h.not_above, put, List.lookup_cons, beq_self_eq_true]

theorem entry?_put_of_ne (h : q ≠ p) : Directory.entry? (d.put p e) q = d.entry? q := by
  have hq : (q == p) = false := beq_false_of_ne h
  unfold entry?
  rw [put, List.lookup_cons, hq, lookup_filter h]

theorem ne_of_directory (h : d.Writable p) (hq : d.entry? q = some .directory) : q ≠ p := by
  rintro rfl
  rw [Writable, hq] at h
  cases h

/-- A path that leads to a place leads to it also after a file is put somewhere. -/
theorem follow_put (h : d.Writable p) {start : Place} {names : List String}
    (hfollow : d.follow start names = .ok q) : (d.put p e).follow start names = .ok q := by
  -- Only the places that are left are looked up. They are directories, so none of them is `p`.
  induction names generalizing start with
  | nil => exact hfollow
  | cons name names ih =>
    rw [follow] at hfollow ⊢
    cases hentry : d.entry? start with
    | none =>
      rw [hentry] at hfollow
      cases hfollow
    | some entry =>
      cases entry with
      | file bytes =>
        rw [hentry] at hfollow
        cases hfollow
      | directory =>
        rw [entry?_put_of_ne (ne_of_directory h hentry), hentry]
        rw [hentry] at hfollow
        dsimp only at hfollow ⊢
        split at hfollow
        · cases hfollow
        · rename_i hname
          rw [if_neg hname]
          exact ih hfollow

theorem place_put (h : d.Writable p) {path : String} (hplace : d.place path = .ok q) :
    (d.put p e).place path = .ok q := by
  unfold place placeOf at hplace ⊢
  split at hplace
  · cases hplace
  · rename_i hnul
    split at hplace
    · cases hplace
    · rename_i hempty
      split at hplace
      · cases hplace
      · rename_i hlong
        rw [if_neg hnul, if_neg hempty, if_neg hlong]
        exact follow_put h hplace

theorem target_eq_ok {path : String} (h : d.target path = .ok p) :
    d.place path = .ok p ∧ d.Writable p := by
  unfold target at h
  split at h
  · cases h
  · split at h
    · cases h
    · rename_i q hplace
      split at h
      · cases h
      · rename_i hdirectory
        cases h
        exact ⟨hplace, eq_false_of_ne_true hdirectory⟩

/-- What is written at a path is read at it. -/
theorem read_write {path : String} {bytes : ByteArray} (h : d.write path bytes = .ok d') :
    d'.read path = .ok bytes := by
  unfold write at h
  split at h
  · cases h
  · rename_i p htarget
    cases h
    obtain ⟨hplace, hwritable⟩ := target_eq_ok htarget
    rw [read, place_put hwritable hplace]
    dsimp only
    rw [entry?_put_self hwritable]

end CutAndChoose.Directory

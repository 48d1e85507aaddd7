import Mathlib.Data.List.Infix
import Mathlib.Logic.Function.Basic

/-!
# Numbered files and an open handle

A log and its rotations are files that carry a number each.  They are read from
the highest number to the lowest; one of them may be open for appending, and the
handle stays with its file when that is renamed.
-/

namespace DlpSystem.Lib

universe u v

variable {α : Type u} {β : Type v}

/-- The numbered files, and the number of the open one as long as it has a name. -/
structure Disk (β : Type v) where
  files : Nat → Option β
  handle : Option Nat

/-- What a reader finds in the files below a number, highest first. -/
def collect (read : β → List α) (files : Nat → Option β) : Nat → List α
  | 0 => []
  | count + 1 => (files count).elim [] read ++ collect read files count

section Collect

variable {read : β → List α} {files : Nat → Option β}

@[simp]
theorem collect_zero : collect read files 0 = [] :=
  rfl

@[simp]
theorem collect_succ (count : Nat) :
    collect read files (count + 1) = (files count).elim [] read ++ collect read files count :=
  rfl

theorem collect_congr {other : Nat → Option β} {count : Nat}
    (same : ∀ slot < count, files slot = other slot) :
    collect read files count = collect read other count := by
  induction count with
  | zero => rfl
  | succ count ih =>
      rw [collect_succ, collect_succ, same count (Nat.lt_succ_self count),
        ih (fun slot below => same slot (Nat.lt_succ_of_lt below))]

theorem collect_eq_nil {count : Nat} (nothing : ∀ slot < count, (files slot).elim [] read = []) :
    collect read files count = [] := by
  induction count with
  | zero => rfl
  | succ count ih =>
      rw [collect_succ, nothing count (Nat.lt_succ_self count),
        ih (fun slot below => nothing slot (Nat.lt_succ_of_lt below))]
      rfl

/-- The lowest file is read last. -/
theorem suffix_collect {count : Nat} (below : 0 < count) :
    (files 0).elim [] read <:+ collect read files count := by
  induction count with
  | zero => exact absurd below (Nat.lt_irrefl 0)
  | succ count ih =>
      rw [collect_succ]
      cases count with
      | zero =>
          rw [collect_zero, List.append_nil]
      | succ count => exact (ih (Nat.succ_pos count)).trans (List.suffix_append _ _)

theorem collect_update_of_le {slot count : Nat} (above : count ≤ slot) (file : Option β) :
    collect read (Function.update files slot file) count = collect read files count := by
  apply collect_congr
  intro other below
  exact Function.update_of_ne (by omega) _ _

/-- What is appended to the lowest file is read last. -/
theorem collect_update_lowest {slot count : Nat} {content : β} {added : List α}
    (below : slot < count) (lowest : ∀ lower < slot, files lower = none)
    (appended : read content = (files slot).elim [] read ++ added) :
    collect read (Function.update files slot (some content)) count =
      collect read files count ++ added := by
  induction count with
  | zero => exact absurd below (Nat.not_lt_zero slot)
  | succ count ih =>
      rcases Nat.lt_succ_iff_lt_or_eq.mp below with lower | rfl
      · rw [collect_succ, collect_succ, ih lower, Function.update_of_ne (by omega),
          List.append_assoc]
      · have nothing : ∀ lower < slot, (files lower).elim [] read = [] := by
          intro lower isLower
          rw [lowest lower isLower]
          rfl
        rw [collect_succ, collect_succ, collect_update_of_le (Nat.le_refl _), collect_eq_nil nothing,
          Function.update_self, Option.elim_some, appended]
        simp

/-- A file may move to a free number next to its own. -/
theorem collect_move {slot count : Nat} (below : slot + 1 < count)
    (free : files (slot + 1) = none) :
    collect read (Function.update (Function.update files (slot + 1) (files slot)) slot none) count =
      collect read files count := by
  induction count with
  | zero => exact absurd below (Nat.not_lt_zero _)
  | succ count ih =>
      rcases Nat.lt_succ_iff_lt_or_eq.mp below with lower | rfl
      · rw [collect_succ, collect_succ, ih lower, Function.update_of_ne (by omega),
          Function.update_of_ne (by omega)]
      · rw [collect_succ, collect_succ, collect_succ, collect_succ,
          collect_update_of_le (Nat.le_refl _), collect_update_of_le (Nat.le_succ _), free,
          Function.update_of_ne (Nat.succ_ne_self slot), Function.update_self, Function.update_self]
        simp

end Collect

namespace Disk

/-- Deletes a file. -/
def remove (disk : Disk β) (slot : Nat) : Disk β where
  files := Function.update disk.files slot none
  handle := if disk.handle = some slot then none else disk.handle

/-- Moves a file, if there is one, to another number and replaces the file there. -/
def rename (disk : Disk β) (source target : Nat) : Disk β :=
  match disk.files source with
  | none => disk
  | some content =>
      { files := Function.update (Function.update disk.files target (some content)) source none
        handle :=
          if disk.handle = some source then some target
          else if disk.handle = some target then none
          else disk.handle }

@[simp]
theorem remove_files_self (disk : Disk β) (slot : Nat) : (disk.remove slot).files slot = none :=
  Function.update_self ..

theorem remove_files_of_ne {disk : Disk β} {slot other : Nat} (distinct : other ≠ slot) :
    (disk.remove slot).files other = disk.files other :=
  Function.update_of_ne distinct ..

theorem rename_of_none {disk : Disk β} {source target : Nat} (missing : disk.files source = none) :
    disk.rename source target = disk := by
  simp only [rename, missing]

theorem rename_of_some {disk : Disk β} {source target : Nat} {content : β}
    (present : disk.files source = some content) :
    disk.rename source target =
      { files := Function.update (Function.update disk.files target (some content)) source none
        handle :=
          if disk.handle = some source then some target
          else if disk.handle = some target then none
          else disk.handle } := by
  simp only [rename, present]

theorem rename_files_of_ne {disk : Disk β} {source target slot : Nat} (notSource : slot ≠ source)
    (notTarget : slot ≠ target) : (disk.rename source target).files slot = disk.files slot := by
  unfold rename
  split
  · rfl
  · simp only [Function.update_of_ne notSource, Function.update_of_ne notTarget]

theorem rename_files_source (disk : Disk β) (source target : Nat) :
    (disk.rename source target).files source = none := by
  unfold rename
  split
  · assumption
  · exact Function.update_self ..

/-- To replace a file is to delete it first. -/
theorem rename_eq_remove_rename {disk : Disk β} {source target : Nat} {content : β}
    (present : disk.files source = some content) (distinct : source ≠ target) :
    disk.rename source target = (disk.remove target).rename source target := by
  have kept : (disk.remove target).files source = some content :=
    (remove_files_of_ne distinct).trans present
  rw [rename_of_some present, rename_of_some kept]
  simp only [remove, Function.update_idem]
  by_cases isSource : disk.handle = some source
  · simp [isSource, distinct]
  · by_cases isTarget : disk.handle = some target
    · simp [isTarget, distinct.symm]
    · simp [isSource, isTarget]

/-- The open file is the last one to be read, and there is none without it. -/
structure AtTail (disk : Disk β) (count : Nat) : Prop where
  lowest : ∀ slot < count, disk.files slot ≠ none →
    ∃ opened, disk.handle = some opened ∧ opened ≤ slot
  present : ∀ slot, disk.handle = some slot → slot < count ∧ disk.files slot ≠ none

/-- The second disk has lost only files that are read first. -/
structure Keeps (read : β → List α) (count : Nat) (before after : Disk β) : Prop where
  suffix : collect read after.files count <:+ collect read before.files count
  origin : ∀ slot content, after.files slot = some content →
    ∃ source, before.files source = some content
  atTail : before.AtTail count → after.AtTail count

section Keeps

variable {read : β → List α} {count : Nat} {disk : Disk β}

theorem Keeps.refl (disk : Disk β) : Keeps read count disk disk :=
  ⟨List.suffix_rfl, fun slot _ found => ⟨slot, found⟩, id⟩

theorem Keeps.trans {first second third : Disk β} (left : Keeps read count first second)
    (right : Keeps read count second third) : Keeps read count first third := by
  refine ⟨right.suffix.trans left.suffix, ?_, fun start => right.atTail (left.atTail start)⟩
  intro slot content found
  rcases right.origin slot content found with ⟨middle, inMiddle⟩
  exact left.origin middle content inMiddle

/-- The highest file may be deleted. -/
theorem keeps_remove_top : Keeps read (count + 1) disk (disk.remove count) := by
  refine ⟨?_, ?_, ?_⟩
  · rw [collect_succ, collect_succ, remove_files_self, remove,
      collect_update_of_le (Nat.le_refl _)]
    exact List.suffix_append _ _
  · intro slot content found
    by_cases same : slot = count
    · rw [same, remove_files_self] at found
      exact absurd found (by simp)
    · rw [remove_files_of_ne same] at found
      exact ⟨slot, found⟩
  · rintro ⟨lowest, present⟩
    constructor
    · intro slot below occupied
      have notTop : slot ≠ count := by
        rintro rfl
        exact occupied (remove_files_self disk slot)
      rw [remove_files_of_ne notTop] at occupied
      rcases lowest slot below occupied with ⟨opened, isOpen, atMost⟩
      refine ⟨opened, ?_, atMost⟩
      have other : opened ≠ count := by omega
      simp [remove, isOpen, other]
    · intro slot isOpen
      by_cases atTop : disk.handle = some count
      · simp [remove, atTop] at isOpen
      · have unmoved : disk.handle = some slot := by simpa [remove, atTop] using isOpen
        have notTop : slot ≠ count := by
          rintro rfl
          exact atTop unmoved
        rw [remove_files_of_ne notTop]
        exact present slot unmoved

/-- The handle follows the file that is moved, and stays with any file below it. -/
theorem AtTail.rename {slot : Nat} {content : β} (atTail : disk.AtTail count)
    (below : slot + 1 < count) (moved : disk.files slot = some content) :
    (disk.rename slot (slot + 1)).AtTail count := by
  rcases atTail.lowest slot (by omega) (by simp [moved]) with ⟨opened, isOpen, atMost⟩
  have notTarget : opened ≠ slot + 1 := by omega
  have handleAfter : (disk.rename slot (slot + 1)).handle =
      some (if opened = slot then slot + 1 else opened) := by
    by_cases same : opened = slot
    · simp [rename_of_some moved, isOpen, same]
    · simp [rename_of_some moved, isOpen, same, notTarget]
  constructor
  · intro other otherBelow occupied
    refine ⟨_, handleAfter, ?_⟩
    have notSource : other ≠ slot := by
      rintro rfl
      exact occupied (rename_files_source ..)
    by_cases isTarget : other = slot + 1
    · split <;> omega
    · rw [rename_files_of_ne notSource isTarget] at occupied
      rcases atTail.lowest other otherBelow occupied with ⟨same, isSame, atMostOther⟩
      cases isOpen.symm.trans isSame
      split <;> omega
  · intro other isOther
    rw [handleAfter] at isOther
    cases Option.some.inj isOther
    split
    · refine ⟨below, ?_⟩
      simp [rename_of_some moved]
    · rw [rename_files_of_ne (by assumption) notTarget]
      exact atTail.present opened isOpen

/-- A file may be moved to the free number above its own. -/
theorem keeps_rename {slot : Nat} (below : slot + 1 < count) (free : disk.files (slot + 1) = none) :
    Keeps read count disk (disk.rename slot (slot + 1)) := by
  cases moved : disk.files slot with
  | none =>
      rw [rename_of_none moved]
      exact Keeps.refl disk
  | some content =>
      have distinct : slot + 1 ≠ slot := Nat.succ_ne_self slot
      refine ⟨?_, ?_, fun atTail => atTail.rename below moved⟩
      · rw [rename_of_some moved, ← moved, collect_move below free]
      · intro other inside found
        by_cases isSource : other = slot
        · rw [isSource, rename_files_source] at found
          exact absurd found (by simp)
        · by_cases isTarget : other = slot + 1
          · subst isTarget
            simp only [rename_of_some moved, Function.update_of_ne distinct,
              Function.update_self] at found
            exact ⟨slot, moved.trans found⟩
          · rw [rename_files_of_ne isSource isTarget] at found
            exact ⟨other, found⟩

/-- The highest file may be replaced by the one below it. -/
theorem keeps_rename_top {slot : Nat} :
    Keeps read (slot + 2) disk (disk.rename slot (slot + 1)) := by
  cases moved : disk.files slot with
  | none =>
      rw [rename_of_none moved]
      exact Keeps.refl disk
  | some content =>
      rw [rename_eq_remove_rename moved (Nat.succ_ne_self slot).symm]
      refine keeps_remove_top.trans (keeps_rename (Nat.lt_succ_self _) ?_)
      exact Function.update_self ..

end Keeps

/-! ## Appending -/

/-- Writes at the end of the open file. -/
def append (disk : Disk (List β)) (added : List β) : Disk (List β) where
  files :=
    match disk.handle with
    | none => disk.files
    | some slot => Function.update disk.files slot (some ((disk.files slot).getD [] ++ added))
  handle := disk.handle

section Append

variable {read : List β → List α} {count : Nat} {disk : Disk (List β)} {added : List β}

theorem append_of_none (unnamed : disk.handle = none) : disk.append added = disk := by
  cases disk
  simp_all [append]

theorem append_files_of_some {slot : Nat} (isOpen : disk.handle = some slot) :
    (disk.append added).files =
      Function.update disk.files slot (some ((disk.files slot).getD [] ++ added)) := by
  simp only [append, isOpen]

theorem append_nil (atTail : disk.AtTail count) : disk.append [] = disk := by
  cases isOpen : disk.handle with
  | none => exact append_of_none isOpen
  | some slot =>
      rcases Option.ne_none_iff_exists'.mp (atTail.present slot isOpen).2 with ⟨content, present⟩
      have unchanged : (disk.append []).files = disk.files := by
        rw [append_files_of_some isOpen, present, Option.getD_some, List.append_nil, ← present,
          Function.update_eq_self]
      cases disk
      exact congrArg₂ Disk.mk unchanged rfl

theorem AtTail.append (atTail : disk.AtTail count) : (disk.append added).AtTail count := by
  cases isOpen : disk.handle with
  | none =>
      rw [append_of_none isOpen]
      exact atTail
  | some opened =>
      constructor
      · intro slot below occupied
        by_cases same : slot = opened
        · exact ⟨opened, isOpen, same.ge⟩
        · rw [append_files_of_some isOpen, Function.update_of_ne same] at occupied
          exact atTail.lowest slot below occupied
      · intro slot isSlot
        cases isOpen.symm.trans isSlot
        refine ⟨(atTail.present opened isOpen).1, ?_⟩
        rw [append_files_of_some isOpen, Function.update_self]
        exact Option.some_ne_none _

/-- Without a named open file there is nothing to read. -/
theorem AtTail.collect_eq_nil (atTail : disk.AtTail count) (unnamed : disk.handle = none) :
    collect read disk.files count = [] := by
  apply Lib.collect_eq_nil
  intro slot below
  cases found : disk.files slot with
  | none => rfl
  | some content =>
      obtain ⟨opened, isOpen, _⟩ := atTail.lowest slot below (by simp [found])
      exact absurd (unnamed.symm.trans isOpen) (by simp)

/-- What is written to the open file is read last. -/
theorem AtTail.collect_append (atTail : disk.AtTail count) {slot : Nat} {content : List β}
    (isOpen : disk.handle = some slot) (present : disk.files slot = some content)
    {found : List α} (appended : read (content ++ added) = read content ++ found) :
    collect read (disk.append added).files count = collect read disk.files count ++ found := by
  rw [append_files_of_some isOpen, present, Option.getD_some]
  apply collect_update_lowest (atTail.present slot isOpen).1
  · intro lower below
    by_contra occupied
    have inRange := (atTail.present slot isOpen).1
    obtain ⟨opened, isOpened, atMost⟩ := atTail.lowest lower (by omega) occupied
    cases isOpen.symm.trans isOpened
    omega
  · rw [present, appended]
    rfl

end Append

end Disk

end DlpSystem.Lib

import DlpSystem.Label.Inheritance
import DlpSystem.Lib.Fallible
import DlpSystem.Server.LabelApi

/-!
# When a created label takes effect

`create_label` appends a row under the normalised path.  A lookup returns the first row of
a path, and its walk cuts a path at separators, so an older label can stand before the new
one, and a root that was stored with its separator is never met on the way up.
-/

namespace DlpSystem.Labels

open Abac Lib Server

/-! ## The folders above a path -/

theorem isPathSeparator_iff (char : Char) :
    isPathSeparator char = true ↔ char = '\\' ∨ char = '/' := by
  simp [isPathSeparator]

/-- A separator is the first character or comes later. -/
theorem exists_cut_cons_iff (char : Char) (rest folder : List Char) :
    (∃ tail separator, char :: rest = tail ++ separator :: folder ∧
        isPathSeparator separator = true) ↔
      (rest = folder ∧ isPathSeparator char = true) ∨
        ∃ tail separator, rest = tail ++ separator :: folder ∧
          isPathSeparator separator = true := by
  constructor
  · rintro ⟨tail, separator, split, isSeparator⟩
    cases tail with
    | nil =>
        cases split
        exact .inl ⟨rfl, isSeparator⟩
    | cons first tail =>
        cases split
        exact .inr ⟨tail, separator, rfl, isSeparator⟩
  · rintro (⟨rfl, isSeparator⟩ | ⟨tail, separator, rfl, isSeparator⟩)
    · exact ⟨[], char, rfl, isSeparator⟩
    · exact ⟨char :: tail, separator, rfl, isSeparator⟩

/-- A folder above a path is what stands before one of its separators. -/
theorem mem_foldersAbove_iff (folder reversed : List Char) :
    folder ∈ foldersAbove reversed ↔
      folder ≠ [] ∧ ∃ tail separator, reversed = tail ++ separator :: folder ∧
        isPathSeparator separator = true := by
  induction reversed with
  | nil => simp [foldersAbove]
  | cons char rest ih =>
      rw [exists_cut_cons_iff, isPathSeparator_iff, foldersAbove]
      split
      · rename_i isSeparator
        split
        · rename_i empty
          subst empty
          constructor
          · intro member
            cases member
          · rintro ⟨nonempty, ⟨rfl, -⟩ | ⟨tail, separator, split, -⟩⟩
            · exact absurd rfl nonempty
            · cases tail <;> cases split
        · rename_i nonempty
          rw [List.mem_cons, ih]
          constructor
          · rintro (rfl | ⟨nonempty', above⟩)
            · exact ⟨nonempty, .inl ⟨rfl, isSeparator⟩⟩
            · exact ⟨nonempty', .inr above⟩
          · rintro ⟨nonempty', ⟨rfl, -⟩ | above⟩
            · exact .inl rfl
            · exact .inr ⟨nonempty', above⟩
      · rename_i notSeparator
        rw [ih]
        constructor
        · rintro ⟨nonempty, above⟩
          exact ⟨nonempty, .inr above⟩
        · rintro ⟨nonempty, ⟨-, isSeparator⟩ | above⟩
          · exact absurd isSeparator notSeparator
          · exact ⟨nonempty, above⟩

theorem length_lt_of_mem_foldersAbove {folder reversed : List Char}
    (member : folder ∈ foldersAbove reversed) : folder.length < reversed.length := by
  obtain ⟨-, tail, separator, rfl, -⟩ := (mem_foldersAbove_iff folder reversed).mp member
  simp only [List.length_append, List.length_cons]
  omega

/-- The nearest folder comes first. -/
theorem pairwise_foldersAbove (reversed : List Char) :
    (foldersAbove reversed).Pairwise fun near far => far.length < near.length := by
  induction reversed with
  | nil => exact List.Pairwise.nil
  | cons char rest ih =>
      rw [foldersAbove]
      split
      · split
        · exact List.Pairwise.nil
        · rw [List.pairwise_cons]
          exact ⟨fun folder member => length_lt_of_mem_foldersAbove member, ih⟩
      · exact ih

/-- Two folders above a path with the same length are the same. -/
theorem foldersAbove_eq_of_length {first second reversed : List Char}
    (firstMem : first ∈ foldersAbove reversed) (secondMem : second ∈ foldersAbove reversed)
    (sameLength : first.length = second.length) : first = second := by
  obtain ⟨-, tail, separator, split, -⟩ := (mem_foldersAbove_iff first reversed).mp firstMem
  obtain ⟨-, tail', separator', split', -⟩ := (mem_foldersAbove_iff second reversed).mp secondMem
  have same : tail ++ [separator] ++ first = tail' ++ [separator'] ++ second := by
    rw [List.append_assoc, List.append_assoc]
    exact split.symm.trans split'
  exact (List.append_inj' same sameLength).2

/-! ## A walk that meets one more row -/

section Walk

variable {α β : Type} (size : α → Nat)

/-- A search that would take one more value at a target: it takes it if nothing was found
before or at the target. -/
theorem findSome?_or_of_pairwise [DecidableEq α] (search : α → Option β) (target : α) (value : β)
    {items : List α} (sorted : items.Pairwise fun near far => size far < size near) :
    (items.findSome? fun item => (search item).or (if item = target then some value else none)) =
      if target ∈ items ∧ ∀ item ∈ items, size target ≤ size item → search item = none then
        some value
      else items.findSome? search := by
  induction items with
  | nil => simp
  | cons first rest ih =>
      obtain ⟨smaller, sortedRest⟩ := List.pairwise_cons.mp sorted
      rw [List.findSome?_cons, List.findSome?_cons]
      cases found : search first with
      | some result =>
          have taken : ¬ (target ∈ first :: rest ∧
              ∀ item ∈ first :: rest, size target ≤ size item → search item = none) := by
            rintro ⟨member, unfound⟩
            have before : size target ≤ size first := by
              rcases List.mem_cons.mp member with rfl | later
              · exact Nat.le_refl _
              · exact Nat.le_of_lt (smaller target later)
            rw [unfound first List.mem_cons_self before] at found
            cases found
          rw [if_neg taken]
          rfl
      | none =>
          by_cases here : first = target
          · subst here
            have free : first ∈ first :: rest ∧
                ∀ item ∈ first :: rest, size first ≤ size item → search item = none := by
              constructor
              · exact List.mem_cons_self
              · intro item member before
                rcases List.mem_cons.mp member with rfl | later
                · exact found
                · exact absurd before (Nat.not_le.mpr (smaller item later))
            rw [if_pos free]
            simp
          · have sameCondition : (target ∈ first :: rest ∧
                ∀ item ∈ first :: rest, size target ≤ size item → search item = none) ↔
                  (target ∈ rest ∧
                    ∀ item ∈ rest, size target ≤ size item → search item = none) := by
              constructor
              · rintro ⟨member, unfound⟩
                rcases List.mem_cons.mp member with rfl | later
                · exact absurd rfl here
                · exact ⟨later, fun item itemMem => unfound item (List.mem_cons_of_mem _ itemMem)⟩
              · rintro ⟨later, unfound⟩
                refine ⟨List.mem_cons_of_mem _ later, ?_⟩
                intro item member before
                rcases List.mem_cons.mp member with rfl | itemMem
                · exact found
                · exact unfound item itemMem before
            simp only [here, if_false, sameCondition]
            exact ih sortedRest

/-- A search finds what is at a target if nothing is found before it. -/
theorem findSome?_eq_of_pairwise {search : α → Option β} {target : α} {value : β}
    {items : List α} (sorted : items.Pairwise fun near far => size far < size near)
    (member : target ∈ items) (atTarget : search target = some value)
    (unfound : ∀ item ∈ items, size target < size item → search item = none) :
    items.findSome? search = some value := by
  induction items with
  | nil => cases member
  | cons first rest ih =>
      obtain ⟨smaller, sortedRest⟩ := List.pairwise_cons.mp sorted
      rw [List.findSome?_cons]
      rcases List.mem_cons.mp member with rfl | later
      · rw [atTarget]
      · rw [unfound first List.mem_cons_self (smaller target later)]
        exact ih sortedRest later fun item itemMem =>
          unfound item (List.mem_cons_of_mem _ itemMem)

end Walk

/-! ## One more row -/

section Append

variable {rows : List LabelRow} {new : LabelRow}

/-- The path of a row, from its end. -/
def reversedPath (row : LabelRow) : List Char :=
  row.path.toList.reverse

theorem path_eq_ofList_iff (row : LabelRow) (reversed : List Char) :
    row.path = String.ofList reversed.reverse ↔ reversed = reversedPath row := by
  rw [reversedPath, ← String.toList_inj, String.toList_ofList]
  constructor
  · intro same
    rw [same, List.reverse_reverse]
  · rintro rfl
    rw [List.reverse_reverse]

theorem exactRow_append (path : String) :
    exactRow (rows ++ [new]) path =
      (exactRow rows path).or (if new.path = path then some new else none) := by
  rw [exactRow, exactRow, List.find?_append, List.find?_singleton]
  simp

theorem folderRow_append (reversed : List Char) :
    folderRow (rows ++ [new]) reversed =
      (folderRow rows reversed).or
        (if reversed = reversedPath new ∧ new.objectType = .folder then some new else none) := by
  rw [folderRow, folderRow, List.find?_append, List.find?_singleton]
  simp [path_eq_ofList_iff]

theorem folderRow_append_eq_none {reversed : List Char}
    (unlabelled : folderRow (rows ++ [new]) reversed = none) : folderRow rows reversed = none := by
  rw [folderRow_append, Option.or_eq_none_iff] at unlabelled
  exact unlabelled.1

/-- The walk from a path meets the new row before any older one. -/
def MeetsNew (rows : List LabelRow) (new : LabelRow) (path : String) : Prop :=
  new.objectType = .folder ∧ reversedPath new ∈ foldersAbove path.toList.reverse ∧
    ∀ folder ∈ foldersAbove path.toList.reverse,
      (reversedPath new).length ≤ folder.length → folderRow rows folder = none

instance (rows : List LabelRow) (new : LabelRow) (path : String) :
    Decidable (MeetsNew rows new path) :=
  inferInstanceAs (Decidable (_ ∧ _ ∧ _))

theorem parentRow_append (path : String) :
    parentRow (rows ++ [new]) path =
      if MeetsNew rows new path then some new else parentRow rows path := by
  by_cases isFolder : new.objectType = .folder
  · have sameSearch : folderRow (rows ++ [new]) = fun reversed =>
        (folderRow rows reversed).or (if reversed = reversedPath new then some new else none) := by
      funext reversed
      rw [folderRow_append]
      simp [isFolder]
    rw [parentRow, sameSearch, findSome?_or_of_pairwise List.length (folderRow rows)
      (reversedPath new) new (pairwise_foldersAbove _)]
    by_cases meets : MeetsNew rows new path
    · rw [if_pos meets]
      exact if_pos meets.2
    · rw [if_neg meets]
      exact if_neg fun free => meets ⟨isFolder, free⟩
  · have sameSearch : folderRow (rows ++ [new]) = folderRow rows := by
      funext reversed
      rw [folderRow_append]
      simp [isFolder]
    have unmet : ¬ MeetsNew rows new path := fun meets => isFolder meets.1
    rw [if_neg unmet, parentRow, sameSearch, parentRow]

/-- A lookup of a path returns the new row, for the path itself or for a folder above. -/
def FindsNew (rows : List LabelRow) (new : LabelRow) (path : String) : Prop :=
  (new.path = path ∧ exactRow rows path = none) ∨ MeetsNew rows new path

instance (rows : List LabelRow) (new : LabelRow) (path : String) :
    Decidable (FindsNew rows new path) :=
  inferInstanceAs (Decidable (_ ∨ _))

/-- What was read of a path before is at least as strict as a tier: one of its labels, or
the lack of any. -/
def WasAsStrict (rows : List LabelRow) (rank : Nat) (path : String) : Prop :=
  (exactRow rows path = none ∧ parentRow rows path = none) ∨
    AsStrict rank (exactRow rows path) (parentRow rows path)

/-- A path becomes at least as strict as a new label if and only if its lookup finds the
new label or older labels were as strict. -/
theorem le_resolutionIn_append_iff (path : String) :
    new.tier.strictnessRank ≤ (resolutionIn (rows ++ [new]) path).tier.strictnessRank ↔
      FindsNew rows new path ∨ WasAsStrict rows new.tier.strictnessRank path := by
  rw [resolutionIn, le_combineLabels_iff (strictnessRank_le new.tier), exactRow_append,
    parentRow_append]
  by_cases meets : MeetsNew rows new path
  · rw [if_pos meets]
    constructor
    · intro _
      exact .inl (.inr meets)
    · intro _
      exact .inr (.inr ⟨new, rfl, Nat.le_refl _⟩)
  · rw [if_neg meets]
    by_cases own : new.path = path ∧ exactRow rows path = none
    · rw [own.2, if_pos own.1, Option.none_or]
      constructor
      · intro _
        exact .inl (.inl own)
      · intro _
        exact .inr (.inl ⟨new, rfl, Nat.le_refl _⟩)
    · have sameExact : (exactRow rows path).or (if new.path = path then some new else none) =
          exactRow rows path := by
        cases found : exactRow rows path with
        | some row => rfl
        | none =>
            rw [if_neg fun samePath => own ⟨samePath, found⟩]
            rfl
      rw [sameExact]
      constructor
      · intro strict
        exact .inr strict
      · rintro ((own' | meets') | strict)
        · exact absurd own' own
        · exact absurd meets' meets
        · exact strict

end Append

/-! ## Stored paths and the paths below them -/

/-- The last character is a separator. -/
def endsInSeparator (path : String) : Bool :=
  path.toList.reverse.head?.any isPathSeparator

/-- A path below a folder: a separator, unless the path of the folder ends in one, and a
relative path. -/
def childPath (folder : String) (separator : Char) (relative : String) : String :=
  if endsInSeparator folder then String.ofList (folder.toList ++ relative.toList)
  else String.ofList (folder.toList ++ separator :: relative.toList)

/-- The walk from a path below can meet a stored path: it is cut off before a separator. -/
def isMetBelow (stored : String) : Bool :=
  !stored.toList.isEmpty && !endsInSeparator stored

/-- Normalisation removes separators at the end, if anything. -/
theorem toList_eq_normalizePath_append (path : String) :
    ∃ tail, path.toList = (normalizePath path).toList ++ tail ∧
      ∀ char ∈ tail, isPathSeparator char = true := by
  unfold normalizePath
  split
  · exact ⟨[], (List.append_nil _).symm, fun char member => by cases member⟩
  · refine ⟨(path.toList.reverse.takeWhile isPathSeparator).reverse, ?_, ?_⟩
    · rw [String.toList_ofList, ← List.reverse_append, List.takeWhile_append_dropWhile,
        List.reverse_reverse]
    · intro char member
      exact List.all_eq_true.mp List.all_takeWhile char (List.mem_reverse.mp member)

section Paths

variable {requested stored : String} {tail : List Char} {separator : Char} {relative : String}

theorem endsInSeparator_of_tail (split : requested.toList = stored.toList ++ tail)
    (separators : ∀ char ∈ tail, isPathSeparator char = true) (nonempty : tail ≠ []) :
    endsInSeparator requested = true := by
  obtain ⟨front, last, rfl⟩ := (List.eq_nil_or_concat' tail).resolve_left nonempty
  rw [endsInSeparator, split]
  simp only [List.reverse_append, List.reverse_cons, List.reverse_nil, List.nil_append,
    List.cons_append, List.head?_cons, Option.any_some]
  exact separators last (List.mem_append_right _ List.mem_cons_self)

/-- A path below goes on with a separator after the stored path. -/
theorem childPath_split (split : requested.toList = stored.toList ++ tail)
    (separators : ∀ char ∈ tail, isPathSeparator char = true) (met : isMetBelow stored = true)
    (isSeparator : isPathSeparator separator = true) :
    ∃ first rest, isPathSeparator first = true ∧
      (childPath requested separator relative).toList = stored.toList ++ first :: rest := by
  cases tail with
  | nil =>
      have same : requested = stored := by
        rw [← String.toList_inj, split, List.append_nil]
      have plain : endsInSeparator stored = false := by
        simp only [isMetBelow, Bool.and_eq_true, Bool.not_eq_true'] at met
        exact met.2
      refine ⟨separator, relative.toList, isSeparator, ?_⟩
      rw [childPath, same, plain]
      simp
  | cons first rest =>
      have ends := endsInSeparator_of_tail split separators (List.cons_ne_nil _ _)
      refine ⟨first, rest ++ relative.toList, separators first List.mem_cons_self, ?_⟩
      rw [childPath, if_pos ends, String.toList_ofList, split]
      simp

/-- The walk from a path below meets the stored path. -/
theorem stored_mem_foldersAbove (split : requested.toList = stored.toList ++ tail)
    (separators : ∀ char ∈ tail, isPathSeparator char = true) (met : isMetBelow stored = true)
    (isSeparator : isPathSeparator separator = true) :
    stored.toList.reverse ∈
      foldersAbove (childPath requested separator relative).toList.reverse := by
  obtain ⟨first, rest, firstSeparator, below⟩ :=
    @childPath_split requested stored tail separator relative split separators met isSeparator
  rw [mem_foldersAbove_iff, below]
  constructor
  · intro empty
    simp only [isMetBelow, Bool.and_eq_true, Bool.not_eq_true', List.isEmpty_eq_false_iff] at met
    exact met.1 (List.reverse_eq_nil_iff.mp empty)
  · exact ⟨rest.reverse, first, by simp, firstSeparator⟩

/-- A folder above the requested path is above the paths below it. -/
theorem foldersAbove_childPath {folder : List Char}
    (above : folder ∈ foldersAbove requested.toList.reverse) :
    folder ∈ foldersAbove (childPath requested separator relative).toList.reverse := by
  obtain ⟨nonempty, before, cut, split, isSeparator⟩ := (mem_foldersAbove_iff _ _).mp above
  rw [mem_foldersAbove_iff]
  refine ⟨nonempty, ?_⟩
  unfold childPath
  split
  · refine ⟨relative.toList.reverse ++ before, cut, ?_, isSeparator⟩
    simp [split]
  · refine ⟨relative.toList.reverse ++ separator :: before, cut, ?_, isSeparator⟩
    simp [split]

theorem foldersAbove_append {front : List Char}
    (plain : ∀ char ∈ front, isPathSeparator char = false) (rest : List Char) :
    foldersAbove (front ++ rest) = foldersAbove rest := by
  induction front with
  | nil => rfl
  | cons char front ih =>
      have notSeparator : ¬ (char = '\\' ∨ char = '/') := by
        rw [← isPathSeparator_iff, plain char List.mem_cons_self]
        exact Bool.false_ne_true
      rw [List.cons_append, foldersAbove, if_neg notSeparator]
      exact ih fun other member => plain other (List.mem_cons_of_mem _ member)

/-- Between a stored path and a name in its folder there are only folders above the
requested path. -/
theorem foldersAbove_of_name (split : requested.toList = stored.toList ++ tail)
    (separators : ∀ char ∈ tail, isPathSeparator char = true)
    (isSeparator : isPathSeparator separator = true)
    (plain : ∀ char ∈ relative.toList, isPathSeparator char = false) {folder : List Char}
    (above : folder ∈ foldersAbove (childPath requested separator relative).toList.reverse)
    (longer : stored.toList.length < folder.length) :
    folder ∈ foldersAbove requested.toList.reverse := by
  have plainReversed : ∀ char ∈ relative.toList.reverse, isPathSeparator char = false := by
    intro char member
    exact plain char (List.mem_reverse.mp member)
  unfold childPath at above
  split at above
  · rw [String.toList_ofList, List.reverse_append, foldersAbove_append plainReversed] at above
    exact above
  · rename_i noSeparator
    have noTail : tail = [] := by
      by_contra nonempty
      exact noSeparator (endsInSeparator_of_tail split separators nonempty)
    rw [String.toList_ofList, List.reverse_append, List.reverse_cons, List.append_assoc,
      foldersAbove_append plainReversed, List.singleton_append, foldersAbove,
      if_pos ((isPathSeparator_iff separator).mp isSeparator)] at above
    split at above
    · cases above
    · rcases List.mem_cons.mp above with rfl | further
      · rw [split, noTail] at longer
        simp at longer
      · exact further

end Paths

/-! ## Taking effect -/

/-- No folder label lies on a path between a stored path and a path below it. -/
def NoFolderBetween (rows : List LabelRow) (stored path : String) : Prop :=
  ∀ folder ∈ foldersAbove path.toList.reverse, stored.toList.length < folder.length →
    folderRow rows folder = none

/-- A label is in effect: its requested path is at least as strict, and so are the paths
below it if it is a folder. -/
structure TakesEffect (rows : List LabelRow) (time : Nat) (requested : String)
    (label : LabelRow) : Prop where
  own : label.tier.strictnessRank ≤ (coldTier rows time requested).strictnessRank
  below : label.objectType = .folder → ∀ separator relative, isPathSeparator separator = true →
    relative ≠ "" → NoFolderBetween rows label.path (childPath requested separator relative) →
      label.tier.strictnessRank ≤
        (coldTier rows time (childPath requested separator relative)).strictnessRank

/-- No older label in the table gets in the way of a new one. -/
structure Unhidden (rows : List LabelRow) (requested : String) (label : LabelRow) : Prop where
  /-- The lookup of the requested path finds the label, or what it read before was as
  strict. -/
  own : FindsNew rows label requested ∨ WasAsStrict rows label.tier.strictnessRank requested
  /-- An older label of the same folder is as strict, unless folders are labelled on the
  way to the requested path itself. -/
  below : label.objectType = .folder → isMetBelow label.path = true →
    (∀ older, folderRow rows (reversedPath label) = some older →
        label.tier.strictnessRank ≤ older.tier.strictnessRank) ∨
      ∃ folder ∈ foldersAbove requested.toList.reverse,
        label.path.toList.length < folder.length ∧ (folderRow rows folder).isSome
  /-- Below a root that walks do not meet, what was read before was as strict. -/
  belowRoot : label.objectType = .folder → isMetBelow label.path = false →
    ∀ separator relative, isPathSeparator separator = true → relative ≠ "" →
      NoFolderBetween rows label.path (childPath requested separator relative) →
        FindsNew rows label (childPath requested separator relative) ∨
          WasAsStrict rows label.tier.strictnessRank (childPath requested separator relative)

section Effect

variable {rows : List LabelRow} {label : LabelRow} {time : Nat} {requested : String}
  {tail : List Char} {separator : Char} {relative : String}

theorem le_coldTier_append_iff (path : String) :
    label.tier.strictnessRank ≤ (coldTier (rows ++ [label]) time path).strictnessRank ↔
      FindsNew rows label path ∨ WasAsStrict rows label.tier.strictnessRank path := by
  rw [coldTier_eq, le_resolutionIn_append_iff]

/-- The new label itself lies between no two paths. -/
theorem noFolderBetween_append_iff (path : String) :
    NoFolderBetween (rows ++ [label]) label.path path ↔ NoFolderBetween rows label.path path := by
  constructor
  · intro free folder above longer
    exact folderRow_append_eq_none (free folder above longer)
  · intro free folder above longer
    have other : ¬ (folder = reversedPath label ∧ label.objectType = .folder) := by
      rintro ⟨rfl, -⟩
      simp [reversedPath] at longer
    rw [folderRow_append, free folder above longer, if_neg other]
    rfl

theorem exists_longer (rows : List LabelRow) :
    ∃ bound, ∀ row ∈ rows, row.path.toList.length < bound := by
  induction rows with
  | nil => exact ⟨0, fun row member => by cases member⟩
  | cons first rest ih =>
      obtain ⟨bound, longer⟩ := ih
      refine ⟨max bound (first.path.toList.length + 1), ?_⟩
      intro row member
      rcases List.mem_cons.mp member with rfl | later
      · exact Nat.lt_of_lt_of_le (Nat.lt_succ_self _) (Nat.le_max_right _ _)
      · exact Nat.lt_of_lt_of_le (longer row later) (Nat.le_max_left _ _)

/-- Some name in a folder has no label, and no separator in it. -/
theorem exists_unlabelled_name (rows : List LabelRow) (requested : String) (separator : Char) :
    ∃ relative : String, relative ≠ "" ∧ (∀ char ∈ relative.toList, isPathSeparator char = false) ∧
      exactRow rows (childPath requested separator relative) = none := by
  obtain ⟨bound, longer⟩ := exists_longer rows
  refine ⟨String.ofList (List.replicate (bound + 1) 'a'), ?_, ?_, ?_⟩
  · rw [Ne, ← String.toList_inj, String.toList_ofList]
    simp
  · intro char member
    rw [String.toList_ofList] at member
    rw [List.eq_of_mem_replicate member]
    rfl
  · rw [exactRow, List.find?_eq_none]
    intro row member samePath
    have short := longer row member
    rw [of_decide_eq_true samePath] at short
    unfold childPath at short
    split at short <;> simp at short <;> omega

/-- Below a folder whose path is met, with nothing labelled in between, the walk finds what
is stored for the folder. -/
theorem parentRow_childPath (split : requested.toList = label.path.toList ++ tail)
    (separators : ∀ char ∈ tail, isPathSeparator char = true)
    (met : isMetBelow label.path = true) (isSeparator : isPathSeparator separator = true)
    (free : NoFolderBetween rows label.path (childPath requested separator relative))
    {older : LabelRow} (found : folderRow rows (reversedPath label) = some older) :
    parentRow rows (childPath requested separator relative) = some older := by
  have onTheWay := @stored_mem_foldersAbove requested label.path tail separator relative split
    separators met isSeparator
  apply findSome?_eq_of_pairwise List.length (pairwise_foldersAbove _) onTheWay found
  intro folder above longer
  rw [List.length_reverse] at longer
  exact free folder above longer

/-- If nothing is labelled between, the lookup below a folder that is met finds the new
label or the older one of the same folder. -/
theorem findsNew_or_older (split : requested.toList = label.path.toList ++ tail)
    (separators : ∀ char ∈ tail, isPathSeparator char = true)
    (isFolder : label.objectType = .folder) (met : isMetBelow label.path = true)
    (isSeparator : isPathSeparator separator = true)
    (free : NoFolderBetween rows label.path (childPath requested separator relative))
    (strict : ∀ older, folderRow rows (reversedPath label) = some older →
      label.tier.strictnessRank ≤ older.tier.strictnessRank) :
    FindsNew rows label (childPath requested separator relative) ∨
      WasAsStrict rows label.tier.strictnessRank (childPath requested separator relative) := by
  have onTheWay := @stored_mem_foldersAbove requested label.path tail separator relative split
    separators met isSeparator
  cases found : folderRow rows (reversedPath label) with
  | some older =>
      have parent := parentRow_childPath split separators met isSeparator free found
      exact .inr (.inr (.inr ⟨older, parent, strict older found⟩))
  | none =>
      left
      right
      refine ⟨isFolder, onTheWay, ?_⟩
      intro folder above notShorter
      rcases Nat.lt_or_eq_of_le notShorter with longer | sameLength
      · apply free folder above
        simpa [reversedPath] using longer
      · rw [← foldersAbove_eq_of_length onTheWay above sameLength]
        exact found

/-- If the paths below a folder become as strict as its new label, so was an older label
of the folder, unless there are labelled folders on the way to the requested path. -/
theorem older_as_strict (split : requested.toList = label.path.toList ++ tail)
    (separators : ∀ char ∈ tail, isPathSeparator char = true)
    (met : isMetBelow label.path = true)
    (effect : ∀ separator relative, isPathSeparator separator = true → relative ≠ "" →
      NoFolderBetween rows label.path (childPath requested separator relative) →
        FindsNew rows label (childPath requested separator relative) ∨
          WasAsStrict rows label.tier.strictnessRank (childPath requested separator relative))
    (noneOnTheWay : ¬ ∃ folder ∈ foldersAbove requested.toList.reverse,
      label.path.toList.length < folder.length ∧ (folderRow rows folder).isSome)
    {older : LabelRow} (found : folderRow rows (reversedPath label) = some older) :
    label.tier.strictnessRank ≤ older.tier.strictnessRank := by
  obtain ⟨name, nonempty, plain, unlabelled⟩ :=
    exists_unlabelled_name (rows ++ [label]) requested '\\'
  have isSeparator : isPathSeparator '\\' = true := rfl
  rw [exactRow_append, Option.or_eq_none_iff] at unlabelled
  have free : NoFolderBetween rows label.path (childPath requested '\\' name) := by
    intro folder above longer
    have aboveRequested :=
      foldersAbove_of_name split separators isSeparator plain above longer
    by_contra labelled
    exact noneOnTheWay ⟨folder, aboveRequested, longer, Option.isSome_iff_ne_none.mpr labelled⟩
  have onTheWay := @stored_mem_foldersAbove requested label.path tail '\\' name split
    separators met isSeparator
  have parent := parentRow_childPath split separators met isSeparator free found
  rcases effect '\\' name isSeparator nonempty free with (own | meets) | none | own | other
  · have unequal := unlabelled.2
    rw [if_pos own.1] at unequal
    cases unequal
  · rw [meets.2.2 (reversedPath label) onTheWay (Nat.le_refl _)] at found
    cases found
  · rw [parent] at none
    cases none.2
  · obtain ⟨row, ownFound, -⟩ := own
    rw [unlabelled.1] at ownFound
    cases ownFound
  · obtain ⟨row, otherFound, strict⟩ := other
    rw [parent] at otherFound
    cases otherFound
    exact strict

/-- A row that is appended under the normalised path takes effect if and only if no older
label gets in its way. -/
theorem takesEffect_append_iff (stored : label.path = normalizePath requested) :
    TakesEffect (rows ++ [label]) time requested label ↔ Unhidden rows requested label := by
  obtain ⟨tail, split, separators⟩ := toList_eq_normalizePath_append requested
  rw [← stored] at split
  constructor
  · rintro ⟨own, below⟩
    simp only [le_coldTier_append_iff, noFolderBetween_append_iff] at own below
    constructor
    · exact own
    · intro isFolder met
      by_cases labelled : ∃ folder ∈ foldersAbove requested.toList.reverse,
          label.path.toList.length < folder.length ∧ (folderRow rows folder).isSome
      · exact .inr labelled
      · left
        intro older found
        exact older_as_strict split separators met (below isFolder) labelled found
    · intro isFolder _
      exact below isFolder
  · intro unhidden
    constructor
    · rw [le_coldTier_append_iff]
      exact unhidden.own
    · intro isFolder separator relative isSeparator nonempty free
      rw [noFolderBetween_append_iff] at free
      rw [le_coldTier_append_iff]
      cases met : isMetBelow label.path with
      | false =>
          exact unhidden.belowRoot isFolder met separator relative isSeparator nonempty free
      | true =>
          rcases unhidden.below isFolder met with strict | ⟨folder, above, longer, labelled⟩
          · exact findsNew_or_older split separators isFolder met isSeparator free strict
          · rw [free folder (foldersAbove_childPath above) longer] at labelled
            cases labelled

end Effect

/-! ## Created labels -/

/-- What `create_label` appends when it succeeds. -/
theorem createLabel_eq_ok {id now : String} {records written : List LabelRecord}
    {request : LabelRequest} {response : LabelRecord}
    (created : createLabel id now records request = .ok (written, response)) :
    ∃ row : LabelRecord, written = records ++ [row] ∧ row.toLabelRow = response.toLabelRow ∧
      response.path = normalizePath request.path := by
  obtain ⟨canonical, -, afterCheck⟩ := bind_eq_ok_iff.mp created
  split at afterCheck
  · cases afterCheck
  · cases afterCheck
    exact ⟨_, rfl, rfl, rfl⟩

/-- A label that was created takes effect if and only if no older label gets in its way. -/
theorem created_label_takes_effect_iff (id now : String) (records written : List LabelRecord)
    (request : LabelRequest) (response : LabelRecord) (time : Nat)
    (created : createLabel id now records request = .ok (written, response)) :
    TakesEffect (written.map LabelRecord.toLabelRow) time request.path response.toLabelRow ↔
      Unhidden (records.map LabelRecord.toLabelRow) request.path response.toLabelRow := by
  obtain ⟨row, rfl, sameRow, stored⟩ := createLabel_eq_ok created
  rw [List.map_append, List.map_singleton, sameRow]
  exact takesEffect_append_iff stored

/-- A request for a folder label. -/
def folderRequest (path tier : String) : LabelRequest :=
  ⟨path, "folder", tier, "confirmed", none, none, none, none, none⟩

/-- The row of such a label. -/
def folderRecord (id path : String) (tier : Tier) : LabelRecord :=
  ⟨⟨id, path, .folder, tier⟩, .confirmed, none, none, none, none, none, "t0", "t0"⟩

theorem createLabel_first :
    createLabel "l1" "t0" [] (folderRequest "C:\\Data" "T4") =
      .ok ([folderRecord "l1" "C:\\Data" .T4], folderRecord "l1" "C:\\Data" .T4) := by
  rfl

/-- The first label of a table takes effect. -/
theorem first_label_takes_effect :
    TakesEffect [(folderRecord "l1" "C:\\Data" .T4).toLabelRow] 0 "C:\\Data"
      (folderRecord "l1" "C:\\Data" .T4).toLabelRow := by
  apply (created_label_takes_effect_iff "l1" "t0" [] [folderRecord "l1" "C:\\Data" .T4]
    (folderRequest "C:\\Data" "T4") (folderRecord "l1" "C:\\Data" .T4) 0
    createLabel_first).mpr
  constructor
  · exact .inl (.inl ⟨rfl, rfl⟩)
  · intro _ _
    left
    intro older found
    cases found
  · intro _ met
    cases met

/-- A second label for a path is created with T4, and the path stays T1. -/
theorem second_label_without_effect :
    createLabel "l2" "t0" [folderRecord "l1" "C:\\Data" .T1] (folderRequest "C:\\Data" "T4") =
        .ok ([folderRecord "l1" "C:\\Data" .T1, folderRecord "l2" "C:\\Data" .T4],
          folderRecord "l2" "C:\\Data" .T4) ∧
      ¬ TakesEffect [(folderRecord "l1" "C:\\Data" .T1).toLabelRow,
        (folderRecord "l2" "C:\\Data" .T4).toLabelRow] 0 "C:\\Data"
          (folderRecord "l2" "C:\\Data" .T4).toLabelRow := by
  constructor
  · rfl
  · intro effect
    exact absurd effect.own (by decide)

-- A drive root is stored with its separator, and the walk from a file in it does not meet it.
example :
    coldTier [⟨"l1", "C:\\plan.txt", .file, .T1⟩, ⟨"l2", normalizePath "C:\\", .folder, .T4⟩] 0
      "C:\\plan.txt" = .T1 := by
  decide

end DlpSystem.Labels

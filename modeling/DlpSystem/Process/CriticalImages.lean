import DlpSystem.Agent.ProcessAllowlist
import DlpSystem.Lib.LexicalPath

/-!
# Images that the matcher takes for system processes

The matcher looks for the names of the Windows directories anywhere in the parent of an
image.  A directory that only contains such a name, deeper below the drive or as the start of
a longer name, passes for the real one; components that climb lead out of the real one, and
out of the directory of a prefix entry.
-/

namespace DlpSystem.Agent

open Lib

/-! ## Where a path leads -/

/-- What a component says. -/
def pathStep (component : Text) : PathStep Text :=
  if component = [] ∨ component = ".".toList then .stay
  else if component = "..".toList then .up
  else .down component

/-- The components of a text. -/
def pathSteps (text : Text) : List (PathStep Text) :=
  (text.splitOnP isPathSeparator).map pathStep

/-- Where a path leads below its drive, by its components alone. -/
def pathPlace (path : Text) : Place Text :=
  Place.walk true .start (pathSteps (path.drop 2))

/-- The drive of a path from the root of a drive, or of a drive by its letter alone. -/
def driveOf : Text → Option Char
  | letter :: ':' :: rest =>
      if letter.isAlpha && rest.head?.all isPathSeparator then some letter else none
  | _ => none

/-- The resolved path is the directory, or lies below it. -/
def LiesBelow (directory path : Text) : Prop :=
  (∃ letter, driveOf directory = some letter ∧ driveOf path = some letter) ∧
    (pathPlace directory).Covers (pathPlace path)

/-- The places that hold system processes: the Windows directory itself, and some directories
below it with all that they contain. -/
def TrustedPlace (directory : Place Text) : Prop :=
  directory = ⟨0, ["windows".toList]⟩ ∨
    ∃ name ∈ ["system32".toList, "syswow64".toList, "winsxs".toList],
      Place.Covers ⟨0, ["windows".toList, name]⟩ directory

/-- The directory of an image holds system processes. -/
def InTrustedDirectory (path : Text) : Prop :=
  ∃ directory name, pathPlace path = Place.next true directory (.down name) ∧
    TrustedPlace directory

/-- An image path from the root of a drive. -/
structure DriveImage where
  letter : Char
  isLetter : letter.isAlpha = true
  rest : Text

/-- The path as text. -/
def DriveImage.text (image : DriveImage) : Text :=
  image.letter :: ':' :: '\\' :: image.rest

/-- The matcher takes an image for a system process only in a trusted directory, and a prefix
entry matches nothing outside its directory. -/
def NotSpoofed (env : AllowlistEnv) (matcher : AllowlistMatcher) (pid : UInt32)
    (image : DriveImage) (creationTime : UInt64) (state : SignerState) : Prop :=
  let path := canonicalizePath env.casing image.text
  ((matcher.check env pid path creationTime state).1 = some .systemCritical →
      InTrustedDirectory path) ∧
    ∀ entry ∈ matcher.entries, entry.matchType = .pathPrefix →
      prefixMatchDirectoryBoundary env.casing entry.value.toList path = true →
      LiesBelow (prefixNorm env.casing entry.value.toList) path

/-! ## Components -/

section Components

variable {rooted : Bool} {place : Place Text}

theorem pathSteps_separator {separator : Char} (separates : isPathSeparator separator = true)
    (front tail : Text) :
    pathSteps (front ++ separator :: tail) = pathSteps front ++ pathSteps tail := by
  rw [pathSteps, List.splitOnP_append_cons _ _ separates, List.map_append]
  rfl

/-- A separator at the end leads nowhere. -/
theorem walk_concat_separator {separator : Char} (separates : isPathSeparator separator = true)
    (front : Text) :
    Place.walk rooted place (pathSteps (front ++ [separator])) =
      Place.walk rooted place (pathSteps front) := by
  rw [pathSteps_separator separates, Place.walk_append]
  rfl

/-- A dot at the end leads nowhere. -/
theorem walk_concat_dot {separator : Char} (separates : isPathSeparator separator = true)
    (front : Text) :
    Place.walk rooted place (pathSteps (front ++ [separator, '.'])) =
      Place.walk rooted place (pathSteps front) := by
  rw [pathSteps_separator separates, Place.walk_append]
  rfl

/-- Trimming leads to the same place. -/
theorem walk_trimRight (reversed : Text) :
    Place.walk rooted place (pathSteps (trimRight reversed).reverse) =
      Place.walk rooted place (pathSteps reversed.reverse) := by
  induction reversed using trimRight.induct with
  | case1 => rfl
  | case2 first void =>
      rw [trimRight, if_pos void]
      rcases Bool.or_eq_true_iff.mp void with separates | dot
      · exact (walk_concat_separator separates []).symm
      · rw [of_decide_eq_true dot]
        rfl
  | case3 first name => rw [trimRight, if_neg name]
  | case4 first second rest separates ih =>
      rw [trimRight, if_pos separates, ih, List.reverse_cons (a := first),
        walk_concat_separator separates]
  | case5 first second rest noSeparator dotted ih =>
      obtain ⟨dot, separates⟩ := Bool.and_eq_true_iff.mp dotted
      rw [trimRight, if_neg noSeparator, if_pos dotted, ih, of_decide_eq_true dot]
      simpa using (walk_concat_dot separates rest.reverse).symm
  | case6 first second rest noSeparator noDot =>
      rw [trimRight, if_neg noSeparator, if_neg noDot]

/-- What trimming leaves ends with a name: neither a separator nor a dot on its own. -/
theorem trimRight_spec (reversed : Text) :
    trimRight reversed = [] ∨
      ∃ first rest, trimRight reversed = first :: rest ∧ isPathSeparator first = false ∧
        ¬ (first = '.' ∧ rest.head?.all isPathSeparator = true) := by
  induction reversed using trimRight.induct with
  | case1 => exact Or.inl rfl
  | case2 first void =>
      left
      rw [trimRight, if_pos void]
  | case3 first name =>
      right
      rw [Bool.not_eq_true, Bool.or_eq_false_iff] at name
      rw [trimRight, if_neg (by simp [name])]
      exact ⟨first, [], rfl, name.1, fun dot => of_decide_eq_false name.2 dot.1⟩
  | case4 first second rest separates ih => rwa [trimRight, if_pos separates]
  | case5 first second rest noSeparator dotted ih =>
      rwa [trimRight, if_neg noSeparator, if_pos dotted]
  | case6 first second rest noSeparator noDot =>
      right
      rw [trimRight, if_neg noSeparator, if_neg noDot]
      exact ⟨first, second :: rest, rfl, by simpa using noSeparator, by simpa using noDot⟩

/-- What trimming leaves is the front of the text. -/
theorem trimRight_suffix (reversed : Text) : trimRight reversed <:+ reversed := by
  induction reversed using trimRight.induct with
  | case1 => exact List.suffix_rfl
  | case2 first void =>
      rw [trimRight, if_pos void]
      exact List.nil_suffix
  | case3 first name => rw [trimRight, if_neg name]
  | case4 first second rest separates ih =>
      rw [trimRight, if_pos separates]
      exact ih.trans (List.suffix_cons _ _)
  | case5 first second rest noSeparator dotted ih =>
      rw [trimRight, if_neg noSeparator, if_pos dotted]
      exact (ih.trans (List.suffix_cons _ _)).trans (List.suffix_cons _ _)
  | case6 first second rest noSeparator noDot =>
      rw [trimRight, if_neg noSeparator, if_neg noDot]

end Components

/-- A text without separators is one component. -/
theorem pathSteps_name {name : Text} (whole : ∀ char ∈ name, isPathSeparator char = false) :
    pathSteps name = [pathStep name] := by
  rw [pathSteps, List.splitOnP_eq_singleton whole]
  rfl

/-- The last component leads on from what is before it. -/
theorem walk_lastName (body : Text) {place : Place Text} :
    Place.walk true place (pathSteps body.reverse) =
      Place.next true
        (Place.walk true place
          (pathSteps ((body.dropWhile fun char => !isPathSeparator char).drop 1).reverse))
        (pathStep (body.takeWhile fun char => !isPathSeparator char).reverse) := by
  have whole : ∀ char ∈ (body.takeWhile fun char => !isPathSeparator char).reverse,
      isPathSeparator char = false := by
    intro char member
    simpa using List.mem_takeWhile_imp (List.mem_reverse.mp member)
  have parts : body.reverse = (body.dropWhile fun char => !isPathSeparator char).reverse ++
      (body.takeWhile fun char => !isPathSeparator char).reverse := by
    rw [← List.reverse_append, List.takeWhile_append_dropWhile]
  rw [parts]
  rcases left : body.dropWhile fun char => !isPathSeparator char with _ | ⟨separator, front⟩
  · rw [List.reverse_nil, List.nil_append, pathSteps_name whole]
    rfl
  · have separates : isPathSeparator separator = true := by
      have first := List.head?_dropWhile_not (fun char => !isPathSeparator char) body
      rw [left] at first
      simpa using first
    rw [List.reverse_cons, List.append_assoc, List.singleton_append,
      pathSteps_separator separates, pathSteps_name whole, Place.walk_append]
    rfl

/-- What trimming leaves has a last component. -/
theorem pathStep_lastName (reversed : Text) (some : trimRight reversed ≠ []) :
    pathStep ((trimRight reversed).takeWhile fun char => !isPathSeparator char).reverse ≠
      .stay := by
  rcases trimRight_spec reversed with empty | ⟨first, rest, spelled, noSeparator, noDot⟩
  · exact absurd empty some
  · rw [spelled, List.takeWhile_cons_of_pos (by simp [noSeparator]), List.reverse_cons, pathStep,
      if_neg]
    · split <;> simp
    · rintro (empty | dot)
      · simp at empty
      · have dotted : _ ++ [first] = [] ++ ['.'] := dot
        obtain ⟨before, single⟩ := List.append_inj' dotted rfl
        rcases rest with _ | ⟨second, rest⟩
        · exact noDot ⟨by simpa using single, rfl⟩
        · have separates : isPathSeparator second = true := by
            by_contra name
            rw [List.takeWhile_cons_of_pos (by simpa using name)] at before
            simp at before
          exact noDot ⟨by simpa using single, separates⟩

/-! ## Images on a drive -/

/-- A path from the root of a drive. -/
def OnDrive (path : Text) : Prop :=
  ∃ letter body, letter.isAlpha = true ∧ path = letter :: ':' :: '\\' :: body

theorem toNat_lt_of_isAlpha {letter : Char} (isLetter : letter.isAlpha = true) :
    letter.toNat < 128 := by
  have bounds : letter.toNat ≤ 90 ∨ letter.toNat ≤ 122 := by
    unfold Char.isAlpha Char.isUpper Char.isLower at isLetter
    simp only [Bool.or_eq_true, Bool.and_eq_true, decide_eq_true_eq] at isLetter
    exact isLetter.imp And.right And.right
  omega

/-- The canonical path of an image is on its drive, and in lower case. -/
theorem onDrive_canonicalizePath (casing : Casing) (image : DriveImage) :
    OnDrive (canonicalizePath casing image.text) := by
  have ascii := toNat_lt_of_isAlpha image.isLetter
  have noSlash : image.letter ≠ '/' := by
    intro slash
    have isLetter := image.isLetter
    rw [slash] at isLetter
    cases isLetter
  have spelled : (image.text.map fun char => if char = '/' then '\\' else char) =
      image.letter :: ':' :: '\\' ::
        image.rest.map fun char => if char = '/' then '\\' else char := by
    simp [DriveImage.text, noSlash]
  rw [canonicalizePath, spelled, Casing.toLowercase, Casing.lowerFrom, Casing.lowerFrom,
    Casing.lowerFrom, Casing.lowerAt_ascii _ _ ascii,
    Casing.lowerAt_ascii _ _ (by decide : ':'.toNat < 128),
    Casing.lowerAt_ascii _ _ (by decide : '\\'.toNat < 128)]
  have staysLetter : image.letter.toLower.isAlpha = true := by
    rw [isAlpha_toLower]
    exact image.isLetter
  exact ⟨_, _, staysLetter, rfl⟩

theorem rootLength_onDrive {letter : Char} (isLetter : letter.isAlpha = true) (body : Text) :
    rootLength (letter :: ':' :: '\\' :: body) = 3 := by
  rw [rootLength]
  simp [isLetter, isPathSeparator]

/-- The last component of a path on a drive is a step from its parent. -/
theorem nextBack_spec {path component before : Text} (onDrive : OnDrive path)
    (found : nextBack path = some (component, before)) :
    pathPlace path = Place.next true (pathPlace before) (pathStep component) ∧
      pathStep component ≠ .stay ∧ component ⊆ path ∧ before ⊆ path := by
  obtain ⟨letter, body, isLetter, rfl⟩ := onDrive
  rw [nextBack, rootLength_onDrive isLetter] at found
  dsimp only [List.drop_succ_cons, List.drop_zero, List.take_succ_cons, List.take_zero] at found
  split at found
  · cases found
  · rename_i named
    injection found with both
    injection both with isLast isBefore
    rw [← isLast, ← isBefore]
    have kept : trimRight body.reverse ⊆ body.reverse := (trimRight_suffix _).subset
    have inside {part : Text} (subset : part.reverse ⊆ trimRight body.reverse) :
        part ⊆ letter :: ':' :: '\\' :: body := by
      intro char member
      have inBody := List.mem_reverse.mp (kept (subset (List.mem_reverse.mpr member)))
      simp [inBody]
    have root (front : Text) : pathSteps (List.drop 2 (letter :: ':' :: '\\' :: front)) =
        .stay :: pathSteps front :=
      pathSteps_separator (by decide) [] front
    constructor
    · have last : Place.walk true .start (pathSteps (trimRight body.reverse).reverse) = _ :=
        walk_lastName (trimRight body.reverse)
      rw [walk_trimRight, List.reverse_reverse] at last
      rw [pathPlace, pathPlace, List.cons_append, List.cons_append, List.singleton_append,
        root, root]
      change Place.walk true .start (pathSteps body) = Place.next true
        (Place.walk true .start (pathSteps _)) _
      rw [walk_trimRight]
      exact last
    · constructor
      · exact pathStep_lastName _ named
      · constructor
        · apply inside
          rw [List.reverse_reverse]
          exact (List.takeWhile_prefix _).subset
        · intro char member
          rw [List.cons_append, List.cons_append, List.singleton_append] at member
          rcases List.mem_cons.mp member with rfl | member
          · exact List.mem_cons_self
          · rcases List.mem_cons.mp member with rfl | member
            · simp
            · rcases List.mem_cons.mp member with rfl | member
              · simp
              · apply inside _ member
                rw [List.reverse_reverse]
                intro char member
                have inDropped := List.drop_subset _ _ ((trimRight_suffix _).subset member)
                exact (List.dropWhile_suffix _).subset inDropped

/-! ## Look-alikes -/

/-- A text that begins a new component, if it is not empty, and never climbs above the place
that it begins at. -/
def StaysInside (rest : Text) : Prop :=
  rest.head?.all (· = '\\') = true ∧ Place.StaysBelow (pathSteps rest)

instance (rest : Text) : Decidable (StaysInside rest) :=
  inferInstanceAs (Decidable (_ ∧ _))

/-- What stands behind a text leads on from it, and stays below it. -/
theorem covers_of_staysInside {rest : Text} (stays : StaysInside rest) (front : Text) :
    (Place.walk true .start (pathSteps front)).Covers
      (Place.walk true .start (pathSteps (front ++ rest))) := by
  obtain ⟨boundary, below⟩ := stays
  have onward : Place.walk true .start (pathSteps (front ++ rest)) =
      Place.walk true (Place.walk true .start (pathSteps front)) (pathSteps rest) := by
    rcases rest with _ | ⟨first, tail⟩
    · rw [List.append_nil]
      rfl
    · have slash : first = '\\' := by simpa using boundary
      have separates : isPathSeparator first = true := by
        rw [slash]
        rfl
      have behind : pathSteps (first :: tail) = .stay :: pathSteps tail :=
        pathSteps_separator separates [] tail
      rw [pathSteps_separator separates, Place.walk_append, behind]
      rfl
  rw [onward]
  exact Place.covers_walk_of_staysBelow below

/-- A mark stands right behind the drive, ends with its component, and nothing behind it
climbs out of the directory that it names. -/
def OpensWith (mark directory : Text) : Prop :=
  mark <+: directory.drop 2 ∧ StaysInside ((directory.drop 2).drop mark.length)

instance (mark directory : Text) : Decidable (OpensWith mark directory) :=
  inferInstanceAs (Decidable (_ ∧ _))

/-- A directory in which a mark occurs opens with one; a directory that ends with the name of
the Windows directory does so too, or is that name behind its drive. -/
structure MarksAnchored (directory : Text) : Prop where
  within : ∀ mark ∈ trustedMarks, mark <:+: directory →
    ∃ first ∈ trustedMarks, OpensWith first directory
  atEnd : "\\windows".toList <:+ directory →
    directory.drop 2 = "\\windows".toList ∨ ∃ first ∈ trustedMarks, OpensWith first directory

theorem trustedPlace_of_opensWith {mark directory : Text} (listed : mark ∈ trustedMarks)
    (opens : OpensWith mark directory) : TrustedPlace (pathPlace directory) := by
  obtain ⟨⟨rest, spelled⟩, stays⟩ := opens
  rw [← spelled, List.drop_left] at stays
  have covers := covers_of_staysInside stays mark
  have places : ∀ mark ∈ trustedMarks,
      ∃ name ∈ ["system32".toList, "syswow64".toList, "winsxs".toList],
        Place.walk true .start (pathSteps mark) = ⟨0, ["windows".toList, name]⟩ := by
    decide
  obtain ⟨name, isName, place⟩ := places mark listed
  rw [place, spelled] at covers
  exact Or.inr ⟨name, isName, covers⟩

theorem trustedPlace_of_windows {directory : Text}
    (windows : directory.drop 2 = "\\windows".toList) : TrustedPlace (pathPlace directory) := by
  left
  rw [pathPlace, windows]
  decide

/-- A directory that passes for a trusted one is one, if its marks are anchored. -/
theorem MarksAnchored.trustedPlace {directory : Text} (anchored : MarksAnchored directory)
    (trusted : isTrustedDir directory = true) : TrustedPlace (pathPlace directory) := by
  rcases Bool.or_eq_true_iff.mp trusted with marked | ended
  · obtain ⟨mark, listed, occurs⟩ := List.any_eq_true.mp marked
    obtain ⟨first, isMark, opens⟩ :=
      anchored.within mark listed (of_decide_eq_true occurs)
    exact trustedPlace_of_opensWith isMark opens
  · rcases anchored.atEnd (of_decide_eq_true ended) with windows | ⟨first, isMark, opens⟩
    · exact trustedPlace_of_windows windows
    · exact trustedPlace_of_opensWith isMark opens

/-- Nothing that the matcher looks at only looks like a trusted directory. -/
structure NoLookAlike (env : AllowlistEnv) (matcher : AllowlistMatcher) (pid : UInt32)
    (path : Text) : Prop where
  /-- The marks in the parent of an image with the name of a system process. -/
  critical : isSelf matcher pid path = false →
    ∀ basename ∈ fileName path, basename ∈ criticalNames →
      ∀ directory ∈ parent path, MarksAnchored directory
  /-- An entry that itself has the category of system processes is about other paths. -/
  entries : isSelf matcher pid path = false →
    ∀ entry ∈ matcher.entries, entry.category = .systemCritical →
      entry.matchType ≠ .certSubject ∧ entry.matchType ≠ .certThumbprint ∧
        matchesPath env path entry = false
  /-- What stands behind the value of a prefix entry in the path. -/
  leads : ∀ entry ∈ matcher.entries, entry.matchType = .pathPrefix →
    ∀ rest, path = prefixNorm env.casing entry.value.toList ++ rest →
      rest.head?.all (· = '\\') = true → Place.StaysBelow (pathSteps rest)

/-- A signer matches by an entry about signers. -/
theorem matchSigner_category {env : AllowlistEnv} {path : Text} {category : AllowlistCategory}
    {entries : List AllowlistEntry} {state : SignerState}
    (found : (matchSigner env path entries state).1 = some category) :
    ∃ entry ∈ entries, entry.category = category ∧
      (entry.matchType = .certSubject ∨ entry.matchType = .certThumbprint) := by
  induction entries generalizing state with
  | nil => cases found
  | cons entry rest ih =>
      have later : ∀ state, (matchSigner env path rest state).1 = some category →
          ∃ other ∈ entry :: rest, other.category = category ∧
            (other.matchType = .certSubject ∨ other.matchType = .certThumbprint) := by
        intro state found
        obtain ⟨other, member, isFound⟩ := ih found
        exact ⟨other, List.mem_cons_of_mem _ member, isFound⟩
      rw [matchSigner] at found
      split at found
      · rename_i subject
        dsimp only at found
        split at found
        · exact ⟨entry, List.mem_cons_self, Option.some.inj found, Or.inl subject⟩
        · exact later _ found
      · rename_i thumbprint
        dsimp only at found
        split at found
        · exact ⟨entry, List.mem_cons_self, Option.some.inj found, Or.inr thumbprint⟩
        · exact later _ found
      · exact later _ found

/-- Without an entry of the category that matches, the entries do not give it. -/
theorem checkEntries_ne_systemCritical {env : AllowlistEnv} {matcher : AllowlistMatcher}
    {path : Text} {state : SignerState}
    (others : ∀ entry ∈ matcher.entries, entry.category = .systemCritical →
      entry.matchType ≠ .certSubject ∧ entry.matchType ≠ .certThumbprint ∧
        matchesPath env path entry = false) :
    (checkEntries env matcher path state).1 ≠ some .systemCritical := by
  intro found
  rw [checkEntries] at found
  split at found
  · rename_i entry first
    have critical := others entry (List.mem_of_find?_eq_some first) (Option.some.inj found)
    exact absurd (List.find?_some first) (by simp [critical.2.2])
  · obtain ⟨entry, member, category, subject | thumbprint⟩ := matchSigner_category found
    · exact (others entry member category).1 subject
    · exact (others entry member category).2.1 thumbprint

section Canonical

variable {casing : Casing} {path : Text}

theorem fileName_eq_some_iff {basename : Text} :
    fileName path = some basename ↔
      ∃ before, nextBack path = some (basename, before) ∧ basename ≠ "..".toList := by
  rw [fileName]
  rcases nextBack path with _ | ⟨component, before⟩
  · simp
  · dsimp only
    split
    · rename_i climbs
      constructor
      · intro impossible
        cases impossible
      · rintro ⟨_, same, noClimb⟩
        injection same with both
        injection both with same
        rw [← same] at noClimb
        exact absurd climbs noClimb
    · rename_i named
      constructor
      · intro same
        injection same with same
        rw [← same]
        exact ⟨before, rfl, named⟩
      · rintro ⟨_, same, -⟩
        injection same with both
        injection both with same
        rw [same]

/-- An image with a name lies in its parent directory. -/
theorem inTrustedDirectory_iff (onDrive : OnDrive path) {basename directory : Text}
    (named : fileName path = some basename) (inside : parent path = some directory) :
    InTrustedDirectory path ↔ TrustedPlace (pathPlace directory) := by
  obtain ⟨before, found, noClimb⟩ := fileName_eq_some_iff.mp named
  have isParent : before = directory := by
    rw [parent, found] at inside
    injection inside
  obtain ⟨leads, goesOn, -, -⟩ := nextBack_spec onDrive found
  have step : pathStep basename = .down basename := by
    rw [pathStep] at goesOn ⊢
    split at goesOn
    · exact absurd rfl goesOn
    · rw [if_neg ‹_›, if_neg noClimb]
  rw [InTrustedDirectory, leads, step, isParent]
  constructor
  · rintro ⟨⟨otherUps, otherNames⟩, name, same, trusted⟩
    injection same with sameUps sameNames
    obtain ⟨sameFront, -⟩ := List.append_inj' sameNames rfl
    have isOther : pathPlace directory = ⟨(pathPlace directory).ups, (pathPlace directory).names⟩ :=
      rfl
    rwa [isOther, sameUps, sameFront]
  · intro trusted
    exact ⟨_, _, rfl, trusted⟩

/-- A system process is told by its name and by its parent. -/
theorem checkSystemCritical_eq_some_iff (onDrive : OnDrive path)
    (small : ∀ part, part ⊆ path → casing.toLowercase part = part)
    {category : AllowlistCategory} :
    checkSystemCritical casing path = some category ↔
      category = .systemCritical ∧ ∃ basename directory, fileName path = some basename ∧
        parent path = some directory ∧ basename ∈ criticalNames ∧
        isTrustedDir directory = true := by
  rw [checkSystemCritical]
  rcases named : fileName path with _ | basename
  · simp
  · obtain ⟨before, found, noClimb⟩ := fileName_eq_some_iff.mp named
    obtain ⟨-, -, nameInside, parentInside⟩ := nextBack_spec onDrive found
    have inside : parent path = some before := by
      rw [parent, found]
      rfl
    rw [inside]
    dsimp only
    rw [small basename nameInside, small before parentInside]
    constructor
    · intro critical
      split at critical
      · cases critical
      · rename_i trusted
        split at critical
        · rename_i listed
          injection critical with same
          exact ⟨same.symm, basename, before, rfl, rfl, List.contains_iff_mem.mp listed,
            by simpa using trusted⟩
        · cases critical
    · rintro ⟨rfl, _, _, sameName, sameParent, listed, trusted⟩
      injection sameName with sameName
      injection sameParent with sameParent
      rw [sameName, sameParent, if_neg (by simp [trusted]),
        if_pos (List.contains_iff_mem.mpr listed)]

theorem prefixMatch_iff (small : casing.toLowercase path = path) (lead : Text) :
    prefixMatchDirectoryBoundary casing lead path = true ↔
      ∃ rest, path = prefixNorm casing lead ++ rest ∧ rest.head?.all (· = '\\') = true := by
  rw [prefixMatchDirectoryBoundary]
  dsimp only
  rw [small]
  constructor
  · intro led
    split at led
    · rename_i starts
      obtain ⟨rest, spelled⟩ := List.isPrefixOf_iff_prefix.mp starts
      have behind : path.drop (prefixNorm casing lead).length = rest := by
        rw [← spelled, List.drop_left]
      rw [behind] at led
      constructor
      constructor
      · exact spelled.symm
      · rcases rest with _ | ⟨first, rest⟩
        · rfl
        · simpa using led
    · cases led
  · rintro ⟨rest, spelled, boundary⟩
    have starts : (prefixNorm casing lead).isPrefixOf path = true :=
      List.isPrefixOf_iff_prefix.mpr ⟨rest, spelled.symm⟩
    have behind : path.drop (prefixNorm casing lead).length = rest := by
      conv_lhs => rw [spelled]
      exact List.drop_left
    rw [if_pos starts, behind]
    rcases rest with _ | ⟨first, rest⟩
    · rfl
    · simpa using boundary

/-- What leads a path from a root names a directory on the same drive. -/
theorem driveOf_lead {lead rest : Text} (onDrive : OnDrive (lead ++ rest))
    (boundary : rest.head?.all (· = '\\') = true) :
    ∃ letter, driveOf lead = some letter ∧ driveOf (lead ++ rest) = some letter := by
  obtain ⟨letter, body, isLetter, spelled⟩ := onDrive
  have drivePath : driveOf (lead ++ rest) = some letter := by
    rw [spelled, driveOf]
    simp [isLetter, isPathSeparator]
  rcases lead with _ | ⟨first, _ | ⟨second, more⟩⟩
  · rw [List.nil_append] at spelled
    rw [spelled] at boundary
    have slash : letter = '\\' := by simpa using boundary
    rw [slash] at isLetter
    cases isLetter
  · rw [List.singleton_append] at spelled
    injection spelled with _ behind
    rw [behind] at boundary
    simp at boundary
  · injection spelled with isFirst behind
    injection behind with isSecond behind
    have separated : more.head?.all isPathSeparator = true := by
      rcases more with _ | ⟨third, more⟩
      · rfl
      · injection behind with isThird _
        rw [isThird]
        rfl
    have driveLead : driveOf (first :: second :: more) = some letter := by
      rw [isFirst, isSecond, driveOf, isLetter, separated]
      rfl
    exact ⟨letter, driveLead, drivePath⟩

theorem two_le_of_driveOf {lead : Text} {letter : Char} (hasDrive : driveOf lead = some letter) :
    2 ≤ lead.length := by
  rcases lead with _ | ⟨first, _ | ⟨second, more⟩⟩
  · cases hasDrive
  · cases hasDrive
  · simp

end Canonical

/-- No entries, no signers, and a clock that stands still. -/
def bareEnv : AllowlistEnv where
  casing := Casing.excerpt
  globMatch := fun _ _ => false
  certSubject := fun _ => none
  certThumbprint := fun _ => none
  clock := fun _ => 0

/-- A system process, by a path with a step up that stays in its directory. -/
def systemImage : DriveImage where
  letter := 'C'
  isLetter := by decide
  rest := "Windows/System32/drivers/../csrss.exe".toList

/-- The matcher with a prefix entry for `C:\Windows\System32`. -/
def driversMatcher : AllowlistMatcher :=
  ⟨[⟨.pathPrefix, "C:\\Windows\\System32\\", "", .avedr⟩], "c:\\dlp\\dlp-agent.exe".toList, 9999⟩

/-- An image with the name of a system process, in a copy of the names of its directory. -/
def lookAlikeImage : DriveImage where
  letter := 'C'
  isLetter := by decide
  rest := "Temp\\Windows\\System32\\csrss.exe".toList

end DlpSystem.Agent

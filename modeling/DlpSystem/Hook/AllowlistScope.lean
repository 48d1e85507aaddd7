import DlpSystem.Common.NormalForm
import DlpSystem.Hook.FastPath
import DlpSystem.Lib.LexicalPath

/-!
# What the allowlist covers

The allowlist compares prefixes with the text of a path.  A directory that a prefix names
covers the paths whose text leads into it and stays there; `..` components lead out of it
again, and an entry that is not UTF-8 is compared as the empty prefix.
-/

namespace DlpSystem.Hook

open Common Lib

/-! ## Directories -/

/-- What the components of a path start at. -/
inductive PathRoot
  | network
  | top
  | drive (letter : UInt8)
  | onDrive (letter : UInt8)
  | current
  deriving DecidableEq

/-- The root of a path: two separators, one, a drive with a separator or nothing behind it, a
drive with something else, or none of these. -/
def pathRoot : Str → PathRoot
  | [] => .current
  | [only] => if isSeparator only then .top else .current
  | first :: second :: rest =>
      if isSeparator first then if isSeparator second then .network else .top
      else if second = Str.colon then
        if rest.head?.all isSeparator then .drive first else .onDrive first
      else .current

/-- A step up from the root stays there. -/
def PathRoot.hasTop : PathRoot → Bool
  | .network => true
  | .top => true
  | .drive _ => true
  | .onDrive _ => false
  | .current => false

/-- The bytes that the root takes from a path; separators stay. -/
def PathRoot.length : PathRoot → Nat
  | .drive _ => 2
  | .onDrive _ => 2
  | _ => 0

/-- What a component says. -/
def pathStep (component : Str) : PathStep Str :=
  if component = [] ∨ component = ascii "." then .stay
  else if component = ascii ".." then .up
  else .down component

/-- The components of a text. -/
def pathSteps (text : Str) : List (PathStep Str) :=
  (text.splitOnP isSeparator).map pathStep

/-- The components behind the root. -/
def stepsFromRoot (path : Str) : List (PathStep Str) :=
  pathSteps (path.drop (pathRoot path).length)

/-- Where a path leads, by its components alone. -/
def pathPlace (path : Str) : Place Str :=
  Place.walk (pathRoot path).hasTop .start (stepsFromRoot path)

/-- The resolved path is the directory, or lies below it. -/
def LiesBelow (directory path : Str) : Prop :=
  pathRoot directory = pathRoot path ∧ (pathPlace directory).Covers (pathPlace path)

instance (directory path : Str) : Decidable (LiesBelow directory path) :=
  inferInstanceAs
    (Decidable (pathRoot directory = pathRoot path ∧
      (pathPlace directory).Covers (pathPlace path)))

/-! ## Prefixes -/

/-- The bytes of an entry that its length counts. -/
def countedBytes (entry : AllowlistEntry) : Str :=
  entry.prefixBytes.toList.take entry.prefixLen.toNat

/-- The bytes are UTF-8. -/
def isUtf8 (text : Str) : Bool :=
  (ByteArray.mk text.toArray).validateUTF8

/-- The text of an entry; bytes that are not UTF-8 count as the empty text. -/
def comparedText (entry : AllowlistEntry) : Str :=
  if isUtf8 (countedBytes entry) then countedBytes entry else []

/-- The search reads an entry, and does not skip it for its length. -/
def ReadsEntry (target : Target) (cache : Option Mapping) (entry : AllowlistEntry) : Prop :=
  ∃ mapping ∈ cache,
    (mapping.header.allowlistOffset ≠ 0 ∧ mapping.header.allowlistCount ≠ 0) ∧
    saturateU64 (mapping.header.allowlistOffset.toNat +
        saturateU64 (mapping.header.allowlistCount.toNat * allowlistEntrySize)) ≤
      mapping.header.totalSize.toNat ∧
    (∃ index < mapping.header.allowlistCount.toNat,
      entry = mapping.allowlistAt (target.asUsize mapping.header.allowlistOffset.toNat +
        target.asUsize index * allowlistEntrySize)) ∧
    entry.prefixLen.toNat ≠ 0 ∧ entry.prefixLen.toNat ≤ 260

/-- The prefixes that are compared with the upper-cased path, other than for build tools. -/
inductive ComparedPrefix (target : Target) (cache : Option Mapping) : Str → Prop
  | system {lead : Str} (listed : lead ∈ systemPrefixes) : ComparedPrefix target cache lead
  | operator {entry : AllowlistEntry} (reads : ReadsEntry target cache entry) :
      ComparedPrefix target cache
        (Str.toAsciiUppercase (comparedText entry))

/-- The directories that prefixes name, in upper case. -/
inductive NamedPrefix (target : Target) (cache : Option Mapping) : Str → Prop
  | system {lead : Str} (listed : lead ∈ systemPrefixes) : NamedPrefix target cache lead
  | buildTool {lead : Str} (listed : lead ∈ buildToolParentDirs) : NamedPrefix target cache lead
  | operator {entry : AllowlistEntry} (reads : ReadsEntry target cache entry)
      (valid : isUtf8 (countedBytes entry) = true) :
      NamedPrefix target cache (Str.toAsciiUppercase (countedBytes entry))

/-- The allowlist covers no path outside the directories that prefixes name. -/
def AllowlistScoped (target : Target) (path : Str) (cache : Option Mapping) : Prop :=
  isAllowlisted target path cache = true →
    ∃ directory, NamedPrefix target cache directory ∧
      LiesBelow directory (Str.toAsciiUppercase path)

/-! ## Where the search ends -/

theorem operatorEntryMatches_iff (entry : AllowlistEntry) (upper : Str) :
    operatorEntryMatches entry upper = true ↔
      (entry.prefixLen.toNat ≠ 0 ∧ entry.prefixLen.toNat ≤ 260) ∧
        prefixMatchDirectoryBoundary
          (Str.toAsciiUppercase (comparedText entry)) upper =
            true := by
  rw [operatorEntryMatches]
  by_cases skipped : entry.prefixLen.toNat = 0 ∨ entry.prefixLen.toNat > 260
  · rw [if_pos skipped]
    constructor
    · intro impossible
      cases impossible
    · rintro ⟨⟨nonempty, short⟩, -⟩
      rcases skipped with empty | long
      · exact absurd empty nonempty
      · exact absurd short (Nat.not_le.mpr long)
  · rw [if_neg skipped]
    push Not at skipped
    exact ⟨fun led => ⟨skipped, led⟩, fun led => led.2⟩

theorem isOperatorAllowlisted_iff (target : Target) (path : Str) (cache : Option Mapping) :
    (∃ mapping ∈ cache, isOperatorAllowlisted target path mapping = true) ↔
      ∃ entry, ReadsEntry target cache entry ∧
        prefixMatchDirectoryBoundary (Str.toAsciiUppercase (comparedText entry))
          (Str.toAsciiUppercase path) = true := by
  constructor
  · rintro ⟨mapping, isCache, allowed⟩
    rw [isOperatorAllowlisted] at allowed
    split at allowed
    · cases allowed
    · rename_i present
      dsimp only at allowed
      split at allowed
      · cases allowed
      · rename_i fits
        obtain ⟨index, inRange, led⟩ := List.any_eq_true.mp allowed
        rw [operatorEntryMatches_iff] at led
        push Not at present
        exact ⟨_, ⟨mapping, isCache, present, Nat.not_lt.mp fits,
          ⟨index, List.mem_range.mp inRange, rfl⟩, led.1⟩, led.2⟩
  · rintro ⟨entry, ⟨mapping, isCache, present, fits, ⟨index, inRange, rfl⟩, counted⟩, led⟩
    have allowed : isOperatorAllowlisted target path mapping = true := by
      rw [isOperatorAllowlisted, if_neg (by push Not; exact present)]
      dsimp only
      rw [if_neg (Nat.not_lt.mpr fits)]
      apply List.any_eq_true.mpr
      exact ⟨index, List.mem_range.mpr inRange,
        (operatorEntryMatches_iff _ _).mpr ⟨counted, led⟩⟩
    exact ⟨mapping, isCache, allowed⟩

/-- A path is on the allowlist exactly if a compared prefix leads its text. -/
theorem isAllowlisted_iff (target : Target) (path : Str) (cache : Option Mapping) :
    isAllowlisted target path cache = true ↔
      ∃ lead, ComparedPrefix target cache lead ∧
        prefixMatchDirectoryBoundary lead (Str.toAsciiUppercase path) = true := by
  have noBuildTool : isBuildToolAllowlisted path = false := by
    simp only [isBuildToolAllowlisted, verifyCodeSigner, ite_self]
  have lists : isAllowlisted target path cache = true ↔
      isSystemAllowlisted path = true ∨
        ∃ mapping ∈ cache, isOperatorAllowlisted target path mapping = true := by
    unfold isAllowlisted
    cases cache <;> simp [noBuildTool]
  rw [lists, isOperatorAllowlisted_iff, isSystemAllowlisted, List.any_eq_true]
  constructor
  · rintro (⟨lead, listed, led⟩ | ⟨entry, reads, led⟩)
    · exact ⟨lead, .system listed, led⟩
    · exact ⟨_, .operator reads, led⟩
  · rintro ⟨_, compared, led⟩
    cases compared with
    | system listed => exact Or.inl ⟨_, listed, led⟩
    | operator reads => exact Or.inr ⟨_, reads, led⟩

/-! ## Paths that a prefix leads -/

/-- The text behind a prefix that leads a path. -/
def behind (lead path : Str) : Str :=
  path.drop (lead.rdropWhile (· == Str.backslash)).length

/-- A text that is empty or begins with a separator, as behind a directory. -/
def AtBoundary (rest : Str) : Prop :=
  rest = [] ∨ ∃ separator tail, isSeparator separator = true ∧ rest = separator :: tail

theorem prefixMatch_spec {lead path : Str}
    (led : prefixMatchDirectoryBoundary lead path = true) :
    path = lead.rdropWhile (· == Str.backslash) ++ behind lead path ∧
      AtBoundary (behind lead path) := by
  rw [prefixMatchDirectoryBoundary] at led
  dsimp only at led
  split at led
  · rename_i starts
    obtain ⟨rest, rfl⟩ := List.isPrefixOf_iff_prefix.mp starts
    rw [behind]
    rw [List.drop_left'] at led ⊢
    · constructor
      · rfl
      · rcases rest with _ | ⟨first, tail⟩
        · exact Or.inl rfl
        · right
          have separator : first = Str.backslash := by simpa using led
          exact ⟨first, tail, by rw [separator]; rfl, rfl⟩
    · rfl
    · rfl
  · cases led

section Steps

variable {rooted : Bool} {place : Place Str} {rest : Str}

theorem pathSteps_separator {separator : UInt8} (separates : isSeparator separator = true)
    (front tail : Str) : pathSteps (front ++ separator :: tail) =
      pathSteps front ++ pathSteps tail := by
  rw [pathSteps, List.splitOnP_append_cons _ _ separates, List.map_append]
  rfl

/-- The steps of a text behind a directory are walked from it. -/
theorem walk_pathSteps_append (front : Str) (boundary : AtBoundary rest) :
    Place.walk rooted place (pathSteps (front ++ rest)) =
      Place.walk rooted (Place.walk rooted place (pathSteps front)) (pathSteps rest) := by
  rcases boundary with rfl | ⟨separator, tail, separates, rfl⟩
  · rw [List.append_nil]
    rfl
  · rw [pathSteps_separator separates, Place.walk_append]
    have behind : pathSteps (separator :: tail) = .stay :: pathSteps tail :=
      pathSteps_separator separates [] tail
    rw [behind]
    rfl

/-- Separators lead nowhere. -/
theorem walk_separators (separators : ∀ byte ∈ rest, isSeparator byte = true) :
    Place.walk rooted place (pathSteps rest) = place := by
  induction rest with
  | nil => rfl
  | cons separator rest ih =>
      have behind : pathSteps (separator :: rest) = .stay :: pathSteps rest :=
        pathSteps_separator (separators separator List.mem_cons_self) [] rest
      rw [behind]
      exact ih fun byte member => separators byte (List.mem_cons_of_mem _ member)

end Steps

/-- A root takes no bytes, or those of a drive. -/
theorem pathRoot_length (path : Str) :
    (pathRoot path).length = 0 ∨
      (pathRoot path).length = 2 ∧ ∃ letter rest, path = letter :: Str.colon :: rest := by
  rcases path with _ | ⟨first, _ | ⟨second, rest⟩⟩
  · exact Or.inl rfl
  · left
    rw [pathRoot]
    split <;> rfl
  · rw [pathRoot]
    split
    · left
      split <;> rfl
    · split
      · rename_i colon
        right
        constructor
        · split <;> rfl
        · exact ⟨first, rest, by rw [colon]⟩
      · exact Or.inl rfl

/-- The bytes that trimming takes off a prefix do not reach into its root. -/
theorem pathRoot_length_le (lead : Str) :
    (pathRoot lead).length ≤ (lead.rdropWhile (· == Str.backslash)).length := by
  rcases pathRoot_length lead with none | ⟨two, letter, rest, spelled⟩
  · rw [none]
    exact Nat.zero_le _
  · have parts : lead.rdropWhile (· == Str.backslash) ++ lead.rtakeWhile (· == Str.backslash) =
        letter :: Str.colon :: rest := by
      rw [List.rdropWhile_append_rtakeWhile, spelled]
    have kept : Str.colon ∉ lead.rtakeWhile (· == Str.backslash) := by
      intro trimmed
      cases List.mem_rtakeWhile_imp trimmed
    rw [two]
    rcases trimmed : lead.rdropWhile (· == Str.backslash) with _ | ⟨first, _ | ⟨second, front⟩⟩
    · rw [trimmed, List.nil_append] at parts
      rw [parts] at kept
      simp at kept
    · rw [trimmed, List.singleton_append] at parts
      injection parts with _ behindFirst
      rw [behindFirst] at kept
      simp at kept
    · simp

/-- Behind the root, a prefix and a path that it leads begin alike. -/
theorem drop_root {lead path : Str} (led : prefixMatchDirectoryBoundary lead path = true)
    (sameRoot : pathRoot lead = pathRoot path) :
    ∃ front separators, (∀ byte ∈ separators, isSeparator byte = true) ∧
      lead.drop (pathRoot lead).length = front ++ separators ∧
      path.drop (pathRoot path).length = front ++ behind lead path := by
  have inside := pathRoot_length_le lead
  obtain ⟨spelled, -⟩ := prefixMatch_spec led
  have parts : lead = lead.rdropWhile (· == Str.backslash) ++
      lead.rtakeWhile (· == Str.backslash) :=
    List.rdropWhile_append_rtakeWhile.symm
  have separates : ∀ byte ∈ lead.rtakeWhile (· == Str.backslash), isSeparator byte = true := by
    intro byte member
    have backslash : byte = Str.backslash := by simpa using List.mem_rtakeWhile_imp member
    rw [backslash]
    rfl
  have leadBytes : lead.drop (pathRoot lead).length =
      (lead.rdropWhile (· == Str.backslash)).drop (pathRoot lead).length ++
        lead.rtakeWhile (· == Str.backslash) := by
    rw [← List.drop_append_of_le_length inside, ← parts]
  have pathBytes : path.drop (pathRoot path).length =
      (lead.rdropWhile (· == Str.backslash)).drop (pathRoot lead).length ++ behind lead path := by
    rw [← List.drop_append_of_le_length inside, ← spelled, sameRoot]
  exact ⟨_, _, separates, leadBytes, pathBytes⟩

/-- Nothing behind the prefix climbs out of its directory again. -/
def StaysInside (lead path : Str) : Prop :=
  pathRoot lead = pathRoot path ∧ Place.StaysBelow (pathSteps (behind lead path))

instance (lead path : Str) : Decidable (StaysInside lead path) :=
  inferInstanceAs (Decidable (_ ∧ _))

theorem liesBelow_of_staysInside {lead path : Str}
    (led : prefixMatchDirectoryBoundary lead path = true) (stays : StaysInside lead path) :
    LiesBelow lead path := by
  obtain ⟨sameRoot, below⟩ := stays
  obtain ⟨-, boundary⟩ := prefixMatch_spec led
  obtain ⟨front, separators, separates, leadSteps, pathBytes⟩ := drop_root led sameRoot
  have leadBoundary : AtBoundary separators := by
    rcases separators with _ | ⟨separator, tail⟩
    · exact Or.inl rfl
    · exact Or.inr ⟨separator, tail, separates separator List.mem_cons_self, rfl⟩
  constructor
  · exact sameRoot
  · rw [pathPlace, pathPlace, stepsFromRoot, stepsFromRoot, leadSteps, pathBytes,
      walk_pathSteps_append front leadBoundary, walk_separators separates,
      walk_pathSteps_append front boundary, sameRoot]
    exact Place.covers_walk_of_staysBelow below

/-- A table with one operator entry, `D:\Tools\`. -/
def toolsMapping : Mapping :=
  let lead := ascii "D:\\Tools\\"
  { Mapping.zero with
    header := { Mapping.zero.header with
      allowlistOffset := 256
      allowlistCount := 1
      totalSize := 1024 }
    allowlistAt := fun _ => ⟨9, Vector.ofFn fun index => lead.getD index 0, 0⟩ }

end DlpSystem.Hook

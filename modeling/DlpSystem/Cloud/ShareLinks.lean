import DlpSystem.Agent.CloudEnforcer
import DlpSystem.Lib.ByteSlices

/-!
# Exact detection of share links

An offset of the lower-cased copy is only an offset of the text as long as lowering keeps the
length in bytes; the last `http` in front of a match may belong to another word; and the links
come in the order of the providers, not of the text.
-/

namespace DlpSystem.Agent

open Lib

/-! ## The promises -/

/-- A provider has one of its patterns in a text. -/
def HasPattern (provider : CloudProvider) (text : Text) : Prop :=
  ∃ row ∈ providerPatterns, row.provider = provider ∧
    ∃ pattern ∈ row.patterns, pattern <:+: text

/-- One of the patterns of a provider starts at a position of a text. -/
def MatchesAt (provider : CloudProvider) (text : Text) (position : Nat) : Prop :=
  ∃ row ∈ providerPatterns, row.provider = provider ∧
    ∃ pattern ∈ row.patterns, pattern <+: text.drop position

/-- The first match of a provider in a text comes no later than that of another. -/
def MatchesFirst (text : Text) (provider other : CloudProvider) : Prop :=
  ∀ position, MatchesAt other text position → ∃ earlier ≤ position, MatchesAt provider text earlier

/-- The characters up to the next whitespace. -/
def firstWord (text : Text) : Text :=
  text.takeWhile fun char => !isAsciiWhitespaceChar char

/-- What is promised of the links in a text. -/
structure Exact (casing : Casing) (text : Text) (links : List DetectedShareLink) : Prop where
  onePerProvider : (links.map DetectedShareLink.provider).Nodup
  found : ∀ provider, (∃ link ∈ links, link.provider = provider) ↔
    HasPattern provider (casing.toLowercase text)
  part : ∀ link ∈ links, link.url <:+: text ∧ ∀ char ∈ link.url, isAsciiWhitespaceChar char = false
  shared : ∀ link ∈ links, HasPattern link.provider (casing.toLowercase link.url)
  ordered : (links.map DetectedShareLink.provider).Pairwise
    (MatchesFirst (casing.toLowercase text))

/-- The detection does not panic and finds what is promised. -/
def DetectsExactly (casing : Casing) (text : Text) : Prop :=
  ∃ links, detectShareLinks casing text = some links ∧ Exact casing text links

/-- If a provider has a match, the text can be cut at the byte offset that its link has in the
lower-cased copy, and behind what lowering makes of the part in front, a pattern of the provider
comes before the next whitespace. -/
def LinkInPlace (casing : Casing) (text : Text) (row : ProviderPatterns) : Prop :=
  ∀ front, matchFront (casing.toLowercase text) row.patterns = some front →
    ∃ before rest, text = before ++ rest ∧ byteLength before = byteLength (linkFront front) ∧
      HasPattern row.provider
        (firstWord ((casing.toLowercase text).drop (casing.toLowercase before).length))

/-- The providers that have a match, in the order of the table. -/
def matchedProviders (lower : Text) : List CloudProvider :=
  (providerPatterns.filter fun row => (matchFront lower row.patterns).isSome).map
    ProviderPatterns.provider

/-! ## Words in lower case -/

variable {casing : Casing}

/-- Lowering makes no whitespace and takes none away. -/
theorem isAsciiWhitespaceChar_of_mem_lower {char part : Char} (member : part ∈ casing.lower char) :
    isAsciiWhitespaceChar part = isAsciiWhitespaceChar char := by
  by_cases ascii : char.toNat < 128
  · rw [casing.lower_ascii char ascii, List.mem_singleton] at member
    rw [member]
    simp (disch := decide) only [isAsciiWhitespaceChar, List.mem_cons, List.not_mem_nil, or_false,
      Casing.toLower_eq_mark_iff]
  · have foreign := Nat.not_lt.mp ascii
    have marks : ∀ mark ∈ [' ', '\t', '\n', '\x0c', '\r'], mark.toNat < 128 ∧ ¬mark.isLower :=
      forall_mem_of_all (by decide)
    have noSpace : isAsciiWhitespaceChar char = false := by
      rw [isAsciiWhitespaceChar, decide_eq_false_iff_not]
      intro space
      exact ascii (marks char space).1
    rw [noSpace, isAsciiWhitespaceChar, decide_eq_false_iff_not]
    intro space
    obtain ⟨asciiPart, noLetter⟩ := marks part space
    exact noLetter (casing.lower_foreign char foreign part member asciiPart)

theorem isAsciiWhitespaceChar_foldSigma (char : Char) :
    isAsciiWhitespaceChar (Casing.foldSigma char) = isAsciiWhitespaceChar char := by
  rw [Casing.foldSigma]
  split
  · rename_i final
    rw [final]
    decide
  · rfl

theorem firstWord_map_foldSigma (text : Text) :
    firstWord (text.map Casing.foldSigma) = (firstWord text).map Casing.foldSigma := by
  rw [firstWord, firstWord, List.takeWhile_map]
  congr 2
  funext char
  exact congrArg (!·) (isAsciiWhitespaceChar_foldSigma char)

/-- Up to the final sigma, the first word is lowered on its own. -/
theorem map_foldSigma_firstWord (text : Text) :
    (firstWord (casing.toLowercase text)).map Casing.foldSigma =
      (casing.toLowercase (firstWord text)).map Casing.foldSigma := by
  rw [← firstWord_map_foldSigma, Casing.toLowercase, Casing.toLowercase,
    Casing.map_foldSigma_lowerFrom, Casing.map_foldSigma_lowerFrom]
  apply takeWhile_flatMap
  · intro char part member
    obtain ⟨lowered, inLower, rfl⟩ := List.mem_map.mp member
    rw [isAsciiWhitespaceChar_foldSigma, isAsciiWhitespaceChar_of_mem_lower inLower]
  · intro char nothing
    exact casing.lower_ne_nil char (List.map_eq_nil_iff.mp nothing)

/-- The patterns have no sigma. -/
theorem hasPattern_congr {provider : CloudProvider} {left right : Text}
    (same : left.map Casing.foldSigma = right.map Casing.foldSigma) :
    HasPattern provider left ↔ HasPattern provider right := by
  have all : ∀ row ∈ providerPatterns, ∀ pattern ∈ row.patterns,
      pattern.all fun char => char.toNat < 128 := by
    decide
  have ascii : ∀ row ∈ providerPatterns, ∀ pattern ∈ row.patterns, ∀ char ∈ pattern,
      char.toNat < 128 := fun row isRow pattern isPattern =>
    forall_mem_of_all (all row isRow pattern isPattern)
  have found : ∀ row ∈ providerPatterns, ∀ pattern ∈ row.patterns,
      (pattern <:+: left ↔ pattern <:+: right) := by
    intro row isRow pattern isPattern
    rw [← Casing.infix_map_foldSigma_iff (ascii row isRow pattern isPattern), same,
      Casing.infix_map_foldSigma_iff (ascii row isRow pattern isPattern)]
  constructor
  · rintro ⟨row, isRow, isProvider, pattern, isPattern, inside⟩
    exact ⟨row, isRow, isProvider, pattern, isPattern,
      (found row isRow pattern isPattern).mp inside⟩
  · rintro ⟨row, isRow, isProvider, pattern, isPattern, inside⟩
    exact ⟨row, isRow, isProvider, pattern, isPattern,
      (found row isRow pattern isPattern).mpr inside⟩

/-- The link that starts behind a part of the text, in the lower-cased copy. -/
theorem hasPattern_firstWord_iff (provider : CloudProvider) (before rest : Text) :
    HasPattern provider (firstWord ((casing.toLowercase (before ++ rest)).drop
        (casing.toLowercase before).length)) ↔
      HasPattern provider (casing.toLowercase (firstWord rest)) := by
  apply hasPattern_congr
  have lowered : (casing.toLowercase before).length =
      ((casing.toLowercase before).map Casing.foldSigma).length := (List.length_map _).symm
  rw [← map_foldSigma_firstWord, ← firstWord_map_foldSigma, ← firstWord_map_foldSigma,
    List.map_drop, Casing.map_foldSigma_append, lowered, List.drop_left]

/-! ## The loop -/

/-- The link of a provider, if it has a match at a place where the text can be cut. -/
def linkOf (casing : Casing) (text : Text) (row : ProviderPatterns) : Option DetectedShareLink :=
  (matchFront (casing.toLowercase text) row.patterns).bind fun front =>
    (dropBytes (byteLength (linkFront front)) text).map fun slice =>
      ⟨row.provider, firstWord slice⟩

/-- The text can be cut where the link of a provider starts. -/
def Cuttable (casing : Casing) (text : Text) (row : ProviderPatterns) : Prop :=
  ∀ front, matchFront (casing.toLowercase text) row.patterns = some front →
    (dropBytes (byteLength (linkFront front)) text).isSome

/-- What one provider adds. -/
theorem detectProvider_eq_some_iff {text : Text} {row : ProviderPatterns}
    {results links : List DetectedShareLink} :
    detectProvider casing text results row = some links ↔
      Cuttable casing text row ∧ links = results ++ (linkOf casing text row).toList := by
  unfold detectProvider linkOf Cuttable
  cases matched : matchFront (casing.toLowercase text) row.patterns with
  | none =>
      have cuttable : ∀ front, (none : Option Text) = some front →
          (dropBytes (byteLength (linkFront front)) text).isSome :=
        fun _ isFront => nomatch isFront
      rw [and_iff_right cuttable, Option.bind_none, Option.toList_none, List.append_nil]
      exact Option.some_inj.trans eq_comm
  | some front =>
      dsimp only
      rw [Option.bind_some]
      cases cut : dropBytes (byteLength (linkFront front)) text with
      | none =>
          constructor
          · intro impossible
            cases impossible
          · rintro ⟨cuttable, _⟩
            have isCut := cuttable front rfl
            rw [cut] at isCut
            cases isCut
      | some slice =>
          have cuttable : ∀ other, some front = some other →
              (dropBytes (byteLength (linkFront other)) text).isSome := by
            rintro _ ⟨⟩
            rw [cut]
            rfl
          rw [and_iff_right cuttable]
          exact Option.some_inj.trans eq_comm

/-- The loop in closed form. -/
theorem foldlM_detectProvider {text : Text} {rows : List ProviderPatterns}
    {results links : List DetectedShareLink} :
    rows.foldlM (detectProvider casing text) results = some links ↔
      (∀ row ∈ rows, Cuttable casing text row) ∧
        links = results ++ rows.filterMap (linkOf casing text) := by
  induction rows generalizing results with
  | nil => simp [eq_comm]
  | cons row rows ih =>
      have spread : (row :: rows).filterMap (linkOf casing text) =
          (linkOf casing text row).toList ++ rows.filterMap (linkOf casing text) := by
        cases linked : linkOf casing text row with
        | none => rw [List.filterMap_cons_none linked, Option.toList_none, List.nil_append]
        | some link =>
            rw [List.filterMap_cons_some linked, Option.toList_some, List.singleton_append]
      rw [List.foldlM_cons, List.forall_mem_cons, spread, ← List.append_assoc]
      constructor
      · intro found
        obtain ⟨next, step, rest⟩ := Option.bind_eq_some_iff.mp found
        obtain ⟨cuttable, rfl⟩ := detectProvider_eq_some_iff.mp step
        obtain ⟨others, whole⟩ := ih.mp rest
        exact ⟨⟨cuttable, others⟩, whole⟩
      · rintro ⟨⟨cuttable, others⟩, whole⟩
        have step : detectProvider casing text results row =
            some (results ++ (linkOf casing text row).toList) :=
          detectProvider_eq_some_iff.mpr ⟨cuttable, rfl⟩
        exact Option.bind_eq_some_iff.mpr ⟨_, step, ih.mpr ⟨others, whole⟩⟩

/-! ## What the loop finds -/

theorem matchFront_isSome_iff (lower : Text) (patterns : List Text) :
    (matchFront lower patterns).isSome ↔ ∃ pattern ∈ patterns, pattern <:+: lower := by
  simp only [matchFront, List.isSome_findSome?, List.any_eq_true, Option.isSome_map,
    isSome_dropInfix?_iff]

/-- Each provider has one row. -/
theorem nodup_providerPatterns : (providerPatterns.map ProviderPatterns.provider).Nodup := by
  decide

theorem hasPattern_row_iff {row : ProviderPatterns} (isRow : row ∈ providerPatterns) (text : Text) :
    HasPattern row.provider text ↔ ∃ pattern ∈ row.patterns, pattern <:+: text := by
  constructor
  · rintro ⟨other, isOther, same, found⟩
    rw [List.inj_on_of_nodup_map nodup_providerPatterns isOther isRow same] at found
    exact found
  · intro found
    exact ⟨row, isRow, rfl, found⟩

theorem linkOf_eq_some_iff {text : Text} {row : ProviderPatterns} {link : DetectedShareLink} :
    linkOf casing text row = some link ↔
      ∃ front before rest, matchFront (casing.toLowercase text) row.patterns = some front ∧
        text = before ++ rest ∧ byteLength before = byteLength (linkFront front) ∧
        link = ⟨row.provider, firstWord rest⟩ := by
  rw [linkOf, Option.bind_eq_some_iff]
  constructor
  · rintro ⟨front, isFront, found⟩
    obtain ⟨rest, cut, rfl⟩ := Option.map_eq_some_iff.mp found
    obtain ⟨before, split, length⟩ := dropBytes_eq_some_iff.mp cut
    exact ⟨front, before, rest, isFront, split, length, rfl⟩
  · rintro ⟨front, before, rest, isFront, split, length, rfl⟩
    have cut := dropBytes_eq_some_iff.mpr ⟨before, split, length⟩
    exact ⟨front, isFront, by rw [cut]; rfl⟩

/-- The providers of the links, if nothing panics. -/
theorem map_provider_links {text : Text} {rows : List ProviderPatterns}
    (cuttable : ∀ row ∈ rows, Cuttable casing text row) :
    (rows.filterMap (linkOf casing text)).map DetectedShareLink.provider =
      (rows.filter fun row =>
        (matchFront (casing.toLowercase text) row.patterns).isSome).map
          ProviderPatterns.provider := by
  induction rows with
  | nil => rfl
  | cons row rows ih =>
      obtain ⟨here, later⟩ := List.forall_mem_cons.mp cuttable
      cases matched : matchFront (casing.toLowercase text) row.patterns with
      | none =>
          have noLink : linkOf casing text row = none := by
            rw [linkOf, matched]
            rfl
          rw [List.filterMap_cons_none noLink, List.filter_cons_of_neg (by simp [matched]),
            ih later]
      | some front =>
          obtain ⟨slice, cut⟩ := Option.isSome_iff_exists.mp (here front matched)
          have link : linkOf casing text row = some ⟨row.provider, firstWord slice⟩ := by
            simp only [linkOf, matched, cut, Option.bind_some, Option.map_some]
          rw [List.filterMap_cons_some link, List.filter_cons_of_pos (by simp [matched]),
            List.map_cons, List.map_cons, ih later]

/-- Each row with a match gives a link. -/
theorem exists_link {text : Text} {row : ProviderPatterns} (cuttable : Cuttable casing text row)
    (matched : ∃ pattern ∈ row.patterns, pattern <:+: casing.toLowercase text) :
    ∃ link, linkOf casing text row = some link := by
  obtain ⟨front, isFront⟩ :=
    Option.isSome_iff_exists.mp ((matchFront_isSome_iff _ row.patterns).mpr matched)
  obtain ⟨slice, cut⟩ := Option.isSome_iff_exists.mp (cuttable front isFront)
  exact ⟨⟨row.provider, firstWord slice⟩, by simp [linkOf, isFront, cut]⟩

theorem LinkInPlace.cuttable {text : Text} {row : ProviderPatterns}
    (inPlace : LinkInPlace casing text row) : Cuttable casing text row := by
  intro front isFront
  obtain ⟨before, rest, split, length, _⟩ := inPlace front isFront
  rw [dropBytes_eq_some_iff.mpr ⟨before, split, length⟩]
  rfl

/-- The link of a row that is in place has a pattern of the provider. -/
theorem linkInPlace_iff {text : Text} {row : ProviderPatterns}
    (cuttable : Cuttable casing text row) :
    LinkInPlace casing text row ↔
      ∀ link, linkOf casing text row = some link →
        HasPattern row.provider (casing.toLowercase link.url) := by
  constructor
  · intro inPlace link isLink
    obtain ⟨front, before, rest, isFront, split, length, rfl⟩ := linkOf_eq_some_iff.mp isLink
    obtain ⟨before', rest', split', length', shared⟩ := inPlace front isFront
    have same : some (before', rest') = some (before, rest) :=
      (splitBytes_eq_some_iff.mpr ⟨split', length'⟩).symm.trans
        (splitBytes_eq_some_iff.mpr ⟨split, length⟩)
    injection same with same
    injection same with sameBefore sameRest
    subst sameBefore sameRest
    rw [split, hasPattern_firstWord_iff] at shared
    exact shared
  · intro shared front isFront
    obtain ⟨rest, cut⟩ := Option.isSome_iff_exists.mp (cuttable front isFront)
    obtain ⟨before, split, length⟩ := dropBytes_eq_some_iff.mp cut
    have inUrl := shared _
      (linkOf_eq_some_iff.mpr ⟨front, before, rest, isFront, split, length, rfl⟩)
    rw [← hasPattern_firstWord_iff, ← split] at inUrl
    exact ⟨before, rest, split, length, inUrl⟩

/-! ## Texts of ASCII -/

theorem isPrefix_matchFront {lower front : Text} {patterns : List Text}
    (isFront : matchFront lower patterns = some front) : front <+: lower := by
  obtain ⟨pattern, _, found⟩ := List.exists_of_findSome?_eq_some isFront
  obtain ⟨⟨_, back⟩, occurs, rfl⟩ := Option.map_eq_some_iff.mp found
  exact isPrefix_of_dropInfix? occurs

theorem isPrefix_linkFront (front : Text) : linkFront front <+: front := by
  rw [linkFront]
  split
  · rename_i behind before found
    obtain ⟨⟨part, split, _⟩, _⟩ := List.dropInfix?_eq_some_iff.mp found
    rw [← List.reverse_suffix, List.reverse_reverse, split]
    exact List.suffix_append ..
  · exact List.prefix_refl front

/-- In a text of ASCII only the whitespace behind the last `http` matters. -/
theorem linkInPlace_ascii_iff {text : Text} (ascii : ∀ char ∈ text, char.toNat < 128)
    (row : ProviderPatterns) :
    LinkInPlace casing text row ↔
      ∀ front, matchFront (casing.toLowercase text) row.patterns = some front →
        HasPattern row.provider
          (firstWord ((casing.toLowercase text).drop (linkFront front).length)) := by
  apply forall_congr'
  intro front
  apply imp_congr_right
  intro isFront
  have inLower := (isPrefix_linkFront front).trans (isPrefix_matchFront isFront)
  have bytes : byteLength (linkFront front) = (linkFront front).length := by
    apply byteLength_ascii
    intro char member
    have lowered := inLower.subset member
    rw [Casing.toLowercase_ascii ascii] at lowered
    obtain ⟨source, inText, rfl⟩ := List.mem_map.mp lowered
    exact Casing.toNat_toLower_lt (ascii source inText)
  have length : ∀ before, before <+: text → byteLength before = before.length ∧
      (casing.toLowercase before).length = before.length := by
    intro before isPrefix
    have small : ∀ char ∈ before, char.toNat < 128 := fun char member =>
      ascii char (isPrefix.subset member)
    rw [Casing.toLowercase_ascii small, List.length_map]
    exact ⟨byteLength_ascii small, rfl⟩
  constructor
  · rintro ⟨before, rest, split, same, shared⟩
    obtain ⟨inBytes, inLowerCase⟩ := length before ⟨rest, split.symm⟩
    rwa [inLowerCase, ← inBytes, same, bytes] at shared
  · intro shared
    have fits : (linkFront front).length ≤ text.length := by
      rw [← (length text (List.prefix_refl text)).2]
      exact inLower.length_le
    obtain ⟨inBytes, inLowerCase⟩ := length _ (List.take_prefix (linkFront front).length text)
    rw [List.length_take_of_le fits] at inBytes inLowerCase
    rw [← inLowerCase] at shared
    exact ⟨_, _, (List.take_append_drop (linkFront front).length text).symm,
      inBytes.trans bytes.symm, shared⟩

/-! ## The links -/

section Links

variable {text : Text} (cuttable : ∀ row ∈ providerPatterns, Cuttable casing text row)

include cuttable

theorem map_provider_filterMap :
    (providerPatterns.filterMap (linkOf casing text)).map DetectedShareLink.provider =
      matchedProviders (casing.toLowercase text) :=
  map_provider_links cuttable

/-- A provider has a link if it has a pattern. -/
theorem found_links (provider : CloudProvider) :
    (∃ link ∈ providerPatterns.filterMap (linkOf casing text), link.provider = provider) ↔
      HasPattern provider (casing.toLowercase text) := by
  constructor
  · rintro ⟨link, isLink, rfl⟩
    obtain ⟨row, isRow, found⟩ := List.mem_filterMap.mp isLink
    obtain ⟨front, _, _, isFront, _, _, rfl⟩ := linkOf_eq_some_iff.mp found
    rw [hasPattern_row_iff isRow, ← matchFront_isSome_iff, isFront]
    rfl
  · rintro ⟨row, isRow, rfl, matched⟩
    obtain ⟨link, found⟩ := exists_link (cuttable row isRow) matched
    obtain ⟨_, _, _, _, _, _, rfl⟩ := linkOf_eq_some_iff.mp found
    exact ⟨_, List.mem_filterMap.mpr ⟨row, isRow, found⟩, rfl⟩

/-- The links are what is promised if they are in place and in order. -/
theorem exact_links_iff :
    Exact casing text (providerPatterns.filterMap (linkOf casing text)) ↔
      (∀ row ∈ providerPatterns, LinkInPlace casing text row) ∧
        (matchedProviders (casing.toLowercase text)).Pairwise
          (MatchesFirst (casing.toLowercase text)) := by
  have providers := map_provider_filterMap cuttable
  constructor
  · intro exact
    constructor
    · intro row isRow
      rw [linkInPlace_iff (cuttable row isRow)]
      intro link found
      have shared := exact.shared link (List.mem_filterMap.mpr ⟨row, isRow, found⟩)
      obtain ⟨_, _, _, _, _, _, rfl⟩ := linkOf_eq_some_iff.mp found
      exact shared
    · rw [← providers]
      exact exact.ordered
  · rintro ⟨inPlace, ordered⟩
    constructor
    case onePerProvider =>
      rw [providers]
      exact nodup_providerPatterns.sublist (List.filter_sublist.map _)
    case found => exact found_links cuttable
    case part =>
      intro link isLink
      obtain ⟨row, _, found⟩ := List.mem_filterMap.mp isLink
      obtain ⟨front, before, rest, _, rfl, _, rfl⟩ := linkOf_eq_some_iff.mp found
      constructor
      · exact (List.takeWhile_prefix _).isInfix.trans (List.suffix_append before rest).isInfix
      · intro char member
        simpa using List.mem_takeWhile_imp member
    case shared =>
      intro link isLink
      obtain ⟨row, isRow, found⟩ := List.mem_filterMap.mp isLink
      have shared := (linkInPlace_iff (cuttable row isRow)).mp (inPlace row isRow) link found
      obtain ⟨_, _, _, _, _, _, rfl⟩ := linkOf_eq_some_iff.mp found
      exact shared
    case ordered =>
      rw [providers]
      exact ordered

end Links

/-- The detection is total and exact if and only if the link of each provider is in place, and
the providers are matched in the order of the table. -/
theorem detectsExactly_iff (casing : Casing) (text : Text) :
    DetectsExactly casing text ↔
      (∀ row ∈ providerPatterns, LinkInPlace casing text row) ∧
        (matchedProviders (casing.toLowercase text)).Pairwise
          (MatchesFirst (casing.toLowercase text)) := by
  constructor
  · rintro ⟨links, detected, exact⟩
    obtain ⟨cuttable, rfl⟩ := foldlM_detectProvider.mp detected
    exact (exact_links_iff cuttable).mp exact
  · intro condition
    have cuttable : ∀ row ∈ providerPatterns, Cuttable casing text row := fun row isRow =>
      (condition.1 row isRow).cuttable
    exact ⟨_, foldlM_detectProvider.mpr ⟨cuttable, rfl⟩, (exact_links_iff cuttable).mpr condition⟩

/-- The sign of the unit kelvin is two bytes shorter in lower case. -/
theorem not_detectsExactly_kelvin :
    ¬ ∀ (casing : Casing) (text : Text), DetectsExactly casing text := by
  intro claim
  obtain ⟨links, detected, _⟩ :=
    claim Casing.excerpt (Char.ofNat 0x212A :: "dropbox.com/s/x".toList)
  have panics : detectShareLinks Casing.excerpt
      (Char.ofNat 0x212A :: "dropbox.com/s/x".toList) = none := by decide
  rw [panics] at detected
  cases detected

end DlpSystem.Agent

import DlpSystem.Agent.ChromeHandler
import DlpSystem.Lib.ByteSlices

/-!
# Origins of URLs

The origin of a URL is its scheme and its host in lower case.  The handler finds it unless the
host is an IPv6 address, there is a user in front of the host, or a query or a fragment stands
right behind it.
-/

namespace DlpSystem.Agent

open Lib

/-! ## URLs -/

/-- A letter or a digit of ASCII, or one of some marks. -/
def isWordChar (marks : List Char) (char : Char) : Bool :=
  char.isAlphanum || char ∈ marks

/-- A character of a scheme. -/
def isSchemeChar : Char → Bool :=
  isWordChar ['+', '-', '.']

/-- A character of a DNS name or an IPv4 address. -/
def isNameChar : Char → Bool :=
  isWordChar ['-', '.', '_']

/-- A character of an IPv6 address. -/
def isAddressChar : Char → Bool :=
  isWordChar [':', '.']

/-- A visible character of ASCII. -/
def isVisible (char : Char) : Bool :=
  33 ≤ char.toNat && char.toNat ≤ 126

/-- A character of the user information. -/
def isUserChar (char : Char) : Bool :=
  isVisible char && char ∉ ['/', '?', '#', '@', '[', ']']

/-- A host. -/
inductive Host
  /-- A DNS name or an IPv4 address. -/
  | name (text : Text) (valid : text ≠ [] ∧ ∀ char ∈ text, isNameChar char)
  | ipv6 (address : Text) (valid : ':' ∈ address ∧ ∀ char ∈ address, isAddressChar char)

def Host.text : Host → Text
  | .name text _ => text
  | .ipv6 address _ => '[' :: address ++ [']']

/-- A URL by its parts.  The path is empty or starts with a slash. -/
structure Url where
  scheme : Text
  userinfo : Option Text
  host : Host
  port : Option Text
  path : Text
  query : Option Text
  fragment : Option Text
  scheme_valid : scheme ≠ [] ∧ ∀ char ∈ scheme, isSchemeChar char
  userinfo_valid : ∀ info ∈ userinfo, ∀ char ∈ info, isUserChar char
  port_valid : ∀ digits ∈ port, ∀ char ∈ digits, char.isDigit
  path_valid : (path = [] ∨ path.head? = some '/') ∧ '?' ∉ path ∧ '#' ∉ path
  query_valid : ∀ text ∈ query, '#' ∉ text

namespace Url

/-- The user information with the sign behind it. -/
def userText (url : Url) : Text :=
  match url.userinfo with
  | some info => info ++ ['@']
  | none => []

/-- The port with the colon in front of it. -/
def portText (url : Url) : Text :=
  match url.port with
  | some digits => ':' :: digits
  | none => []

/-- What is behind the port: the path, the query and the fragment. -/
def tailText (url : Url) : Text :=
  url.path ++ (url.query.map ('?' :: ·)).getD [] ++ (url.fragment.map ('#' :: ·)).getD []

/-- `scheme://[userinfo@]host[:port][/path][?query][#fragment]`. -/
def text (url : Url) : Text :=
  url.scheme ++ "://".toList ++ url.userText ++ url.host.text ++ url.portText ++ url.tailText

/-- `scheme://host` in lower case. -/
def origin (url : Url) : Text :=
  (url.scheme ++ "://".toList ++ url.host.text).map Char.toLower

/-- The URL without its optional parts. -/
def bare (url : Url) : Url where
  scheme := url.scheme
  userinfo := none
  host := url.host
  port := none
  path := []
  query := none
  fragment := none
  scheme_valid := url.scheme_valid
  userinfo_valid := by simp
  port_valid := by simp
  path_valid := by simp
  query_valid := by simp

end Url

/-- The origin of a URL is extracted, and pastes from it are decided as pastes from the URL
without user information, port, path, query and fragment. -/
def OriginExtracted (casing : Casing) (url : Url) : Prop :=
  toOrigin casing url.text = some url.origin ∧
    ∀ (handler : ChromeHandler) (requestToken : Option String) (reason : Option Int),
      handler.dispatchRequest casing ⟨requestToken, some ⟨some url.text⟩, reason⟩ =
        handler.dispatchRequest casing ⟨requestToken, some ⟨some url.bare.text⟩, reason⟩

/-- The host is a name.  A user is called like it, with a password; without a user the host
ends at a port, at a path or with the URL. -/
def Url.EndsHost (url : Url) : Prop :=
  match url.host, url.userinfo with
  | .ipv6 _ _, _ => False
  | .name host _, some info =>
      ':' ∈ info ∧ (info.takeWhile (· ≠ ':')).map Char.toLower = host.map Char.toLower
  | .name _ _, none => url.port.isSome ∨ url.path ≠ [] ∨ url.query = none ∧ url.fragment = none

/-! ## Characters -/

theorem isVisible_of_isAlphanum {char : Char} (valid : char.isAlphanum) : isVisible char := by
  unfold Char.isAlphanum Char.isAlpha Char.isUpper Char.isLower Char.isDigit at valid
  simp only [Bool.or_eq_true, Bool.and_eq_true, decide_eq_true_eq, ge_iff_le,
    UInt32.le_iff_toNat_le] at valid
  have upperA : 'A'.val.toNat = 65 := rfl
  have upperZ : 'Z'.val.toNat = 90 := rfl
  have lowerA : 'a'.val.toNat = 97 := rfl
  have lowerZ : 'z'.val.toNat = 122 := rfl
  have digit0 : '0'.val.toNat = 48 := rfl
  have digit9 : '9'.val.toNat = 57 := rfl
  have code : char.val.toNat = char.toNat := rfl
  rw [isVisible, Bool.and_eq_true, decide_eq_true_eq, decide_eq_true_eq]
  omega

theorem isVisible_of_isWordChar {marks : List Char} (visible : marks.all isVisible)
    {char : Char} (valid : isWordChar marks char) : isVisible char := by
  rw [isWordChar, Bool.or_eq_true, decide_eq_true_eq] at valid
  rcases valid with letter | mark
  · exact isVisible_of_isAlphanum letter
  · exact List.all_eq_true.mp visible char mark

theorem isVisible_of_isUserChar {char : Char} (valid : isUserChar char) : isVisible char := by
  rw [isUserChar, Bool.and_eq_true] at valid
  exact valid.1

theorem ascii_of_isVisible {char : Char} (visible : isVisible char) : char.toNat < 128 := by
  rw [isVisible, Bool.and_eq_true, decide_eq_true_eq, decide_eq_true_eq] at visible
  omega

theorem isTrimmed_of_isVisible {char : Char} (visible : isVisible char) :
    Server.isTrimmed char = false := by
  rw [isVisible, Bool.and_eq_true, decide_eq_true_eq, decide_eq_true_eq] at visible
  simp only [Server.isTrimmed, Bool.or_eq_false_iff, Bool.and_eq_false_iff, decide_eq_false_iff_not]
  omega

/-! ## The text of a URL -/

namespace Url

variable (url : Url)

/-- The scheme and the authority. -/
def frontText : Text :=
  url.scheme ++ "://".toList ++ url.userText ++ url.host.text ++ url.portText

theorem text_eq : url.text = url.frontText ++ url.tailText :=
  rfl

theorem visible_host : ∀ char ∈ url.host.text, isVisible char := by
  intro char member
  cases host : url.host with
  | name text valid =>
      rw [host] at member
      exact isVisible_of_isWordChar (by decide) (valid.2 char member)
  | ipv6 address valid =>
      rw [host, Host.text, List.cons_append, List.mem_cons, List.mem_append,
        List.mem_singleton] at member
      rcases member with rfl | inside | rfl
      · rfl
      · exact isVisible_of_isWordChar (by decide) (valid.2 char inside)
      · rfl

theorem visible_userText : ∀ char ∈ url.userText, isVisible char := by
  intro char member
  rw [userText] at member
  split at member
  · rename_i info present
    rcases List.mem_append.mp member with inside | sign
    · exact isVisible_of_isUserChar (url.userinfo_valid info present char inside)
    · rw [List.mem_singleton.mp sign]
      rfl
  · cases member

theorem visible_portText : ∀ char ∈ url.portText, isVisible char := by
  intro char member
  rw [portText] at member
  split at member
  · rename_i digits present
    rcases List.mem_cons.mp member with rfl | inside
    · rfl
    · apply isVisible_of_isAlphanum
      rw [Char.isAlphanum, url.port_valid digits present char inside, Bool.or_true]
  · cases member

theorem visible_frontText : ∀ char ∈ url.frontText, isVisible char := by
  intro char member
  simp only [frontText, List.mem_append] at member
  rcases member with (((scheme | sign) | user) | host) | port
  · exact isVisible_of_isWordChar (by decide) (url.scheme_valid.2 char scheme)
  · have visible : ∀ mark ∈ "://".toList, isVisible mark := forall_mem_of_all (by decide)
    exact visible char sign
  · exact url.visible_userText char user
  · exact url.visible_host char host
  · exact url.visible_portText char port

/-- Behind the port there is nothing, or one of three marks. -/
theorem head?_tailText :
    url.tailText.head? =
      if url.path ≠ [] then some '/'
      else if url.query.isSome then some '?'
      else if url.fragment.isSome then some '#' else none := by
  rcases url with ⟨_, _, _, _, path, query, fragment, _, _, _, ⟨slash, _⟩, _⟩
  cases path with
  | nil => cases query <;> cases fragment <;> rfl
  | cons first rest => simpa [tailText] using slash

end Url

/-! ## The text that is searched -/

/-- Whitespace goes only from behind the visible front of a text. -/
theorem trim_append {front : Text} (notEmpty : front ≠ [])
    (visible : ∀ char ∈ front, isVisible char) (back : Text) :
    Server.trim (front ++ back) = front ++ back.rdropWhile Server.isTrimmed := by
  have starts : (front ++ back).dropWhile Server.isTrimmed = front ++ back := by
    cases front with
    | nil => exact absurd rfl notEmpty
    | cons first rest =>
        apply List.dropWhile_cons_of_neg
        rw [isTrimmed_of_isVisible (visible first List.mem_cons_self)]
        exact Bool.false_ne_true
  have ends : front.rdropWhile Server.isTrimmed = front := by
    rw [List.rdropWhile_eq_self_iff]
    intro _ trimmed
    rw [isTrimmed_of_isVisible (visible _ (List.getLast_mem _))] at trimmed
    cases trimmed
  rw [Server.trim, starts]
  exact rdropWhile_append ends back

/-- The first character stays, unless it is whitespace. -/
theorem head?_rdropWhile {text : Text} (kept : ∀ first ∈ text.head?, isVisible first) :
    (text.rdropWhile Server.isTrimmed).head? = text.head? := by
  cases text with
  | nil => rfl
  | cons first rest =>
      obtain ⟨gone, split⟩ := List.rdropWhile_prefix Server.isTrimmed (first :: rest)
      cases stays : (first :: rest).rdropWhile Server.isTrimmed with
      | nil =>
          have trimmed := List.rdropWhile_eq_nil_iff.mp stays first List.mem_cons_self
          rw [isTrimmed_of_isVisible (kept first rfl)] at trimmed
          cases trimmed
      | cons other others =>
          rw [stays] at split
          injection split with same _
          rw [same]
          rfl

variable {casing : Casing}

/-- A mark at the start of a text stays. -/
theorem head?_lowerFrom {text : Text}
    (marks : ∀ first ∈ text.head?, isVisible first ∧ first.isAlpha = false) (before : Text) :
    (casing.lowerFrom before text).head? = text.head? := by
  cases text with
  | nil => rfl
  | cons first rest =>
      obtain ⟨visible, noLetter⟩ := marks first rfl
      rw [Casing.lowerFrom, Casing.lowerAt_ascii _ _ (ascii_of_isVisible visible),
        (Casing.toLower_eq_mark_iff noLetter first).mpr rfl]
      rfl

namespace Url

variable (url : Url)

/-- The text that is searched starts with the front of the URL, and goes on as the URL does. -/
theorem toLowercase_trim_text (casing : Casing) :
    ∃ rest, casing.toLowercase (Server.trim url.text) = url.frontText.map Char.toLower ++ rest ∧
      rest.head? = url.tailText.head? := by
  have notEmpty : url.frontText ≠ [] := by simp [frontText]
  have ascii : ∀ char ∈ url.frontText, char.toNat < 128 := fun char member =>
    ascii_of_isVisible (url.visible_frontText char member)
  have marks : ∀ first ∈ url.tailText.head?, isVisible first ∧ first.isAlpha = false := by
    intro first isFirst
    rw [head?_tailText] at isFirst
    repeat' split at isFirst
    all_goals cases isFirst
    all_goals decide
  have stays := head?_rdropWhile fun first isFirst => (marks first isFirst).1
  rw [text_eq, trim_append notEmpty url.visible_frontText, Casing.toLowercase,
    Casing.lowerFrom_ascii_append _ ascii]
  exact ⟨_, rfl, (head?_lowerFrom (by rwa [stays]) _).trans stays⟩

end Url

/-! ## What is read -/

/-- The host that is read off what is behind the scheme. -/
def readHost (rest : Text) : Text :=
  (rest.takeWhile (· ≠ '/')).takeWhile (· ≠ ':')

theorem readHost_eq (rest : Text) :
    readHost rest = rest.takeWhile fun char => char ≠ '/' ∧ char ≠ ':' := by
  rw [readHost, List.takeWhile_takeWhile]
  simp [and_comm]

theorem readHost_append {front : Text} (noSlash : '/' ∉ front) (noColon : ':' ∉ front)
    (rest : Text) : readHost (front ++ rest) = front ++ readHost rest := by
  rw [readHost_eq, readHost_eq]
  apply List.takeWhile_append_of_pos
  intro char member
  simp only [ne_eq, decide_eq_true_eq]
  constructor
  · rintro rfl
    exact noSlash member
  · rintro rfl
    exact noColon member

/-- Nothing is read at a slash, at a colon and at the end. -/
theorem readHost_eq_nil_iff (rest : Text) :
    readHost rest = [] ↔ ∀ first ∈ rest.head?, first = '/' ∨ first = ':' := by
  rw [readHost_eq]
  cases rest with
  | nil => simp
  | cons first others =>
      simp only [List.takeWhile_cons, List.head?_cons, Option.mem_some_iff, forall_eq']
      by_cases slash : first = '/' <;> by_cases colon : first = ':' <;> simp [slash, colon]

theorem not_mem_readHost (rest : Text) : '/' ∉ readHost rest ∧ ':' ∉ readHost rest := by
  rw [readHost_eq]
  constructor
  · intro member
    simpa using List.mem_takeWhile_imp member
  · intro member
    simpa using List.mem_takeWhile_imp member

theorem map_toLower_not_mem {mark : Char} (noLetter : mark.isAlpha = false) {text : Text} :
    mark ∉ text.map Char.toLower ↔ mark ∉ text := by
  simp [Casing.toLower_eq_mark_iff noLetter]

namespace Url

/-- What is behind the scheme in lower case, with the end of the URL. -/
def authority (url : Url) (rest : Text) : Text :=
  (url.userText ++ url.host.text ++ url.portText).map Char.toLower ++ rest

theorem toOrigin_text (casing : Casing) (url : Url) :
    ∃ rest, rest.head? = url.tailText.head? ∧
      (toOrigin casing url.text = some url.origin ↔
        readHost (url.authority rest) = url.host.text.map Char.toLower) := by
  obtain ⟨rest, lowered, head⟩ := url.toLowercase_trim_text casing
  have noColon : ':' ∉ url.scheme.map Char.toLower := by
    rw [map_toLower_not_mem (by decide)]
    intro member
    exact absurd (url.scheme_valid.2 ':' member) (by decide)
  have split : url.frontText.map Char.toLower ++ rest =
      url.scheme.map Char.toLower ++ "://".toList ++ url.authority rest := by
    simp [frontText, authority]
  have found : (url.scheme.map Char.toLower ++ "://".toList ++ url.authority rest).dropInfix?
      "://".toList = some (url.scheme.map Char.toLower, url.authority rest) :=
    dropInfix?_of_not_mem noColon _
  have origin : url.origin =
      url.scheme.map Char.toLower ++ "://".toList ++ url.host.text.map Char.toLower := by
    rw [Url.origin, List.map_append, List.map_append]
    rfl
  have reads : toOrigin casing url.text = some url.origin ↔
      readHost (url.authority rest) = url.host.text.map Char.toLower := by
    rw [toOrigin, lowered, split, found, origin, Option.map_some, Option.some_inj]
    exact List.append_right_inj _
  exact ⟨rest, head, reads⟩

/-- The end of a URL, behind a host that has no port. -/
theorem head?_tailText_stops (url : Url) :
    (∀ first ∈ url.tailText.head?, first = '/' ∨ first = ':') ↔
      url.path ≠ [] ∨ url.query = none ∧ url.fragment = none := by
  rw [head?_tailText]
  by_cases path : url.path = []
  · cases query : url.query <;> cases fragment : url.fragment <;> simp [path]
  · simp [path]

theorem not_mem_name {text : Text} (valid : ∀ char ∈ text, isNameChar char) {mark : Char}
    (invalid : isNameChar mark = false) : mark ∉ text := by
  intro member
  rw [valid mark member] at invalid
  cases invalid

theorem readHost_append_colon {front : Text} (noSlash : '/' ∉ front) (noColon : ':' ∉ front)
    (rest : Text) : readHost (front ++ ':' :: rest) = front := by
  rw [readHost_append noSlash noColon, (readHost_eq_nil_iff _).mpr (by simp), List.append_nil]

/-- Without a user the host is read up to its end. -/
theorem readHost_name_iff {name : Text} (valid : ∀ char ∈ name, isNameChar char) (rest : Text) :
    readHost (name.map Char.toLower ++ rest) = name.map Char.toLower ↔
      ∀ first ∈ rest.head?, first = '/' ∨ first = ':' := by
  have noSlash : '/' ∉ name.map Char.toLower := by
    rw [map_toLower_not_mem (by decide)]
    exact not_mem_name valid (by decide)
  have noColon : ':' ∉ name.map Char.toLower := by
    rw [map_toLower_not_mem (by decide)]
    exact not_mem_name valid (by decide)
  rw [readHost_append noSlash noColon, List.append_right_eq_self, readHost_eq_nil_iff]

/-- With a user, the user is read up to the password, or else the sign behind the user too. -/
theorem readHost_user_iff {info name : Text} (validInfo : ∀ char ∈ info, isUserChar char)
    (valid : ∀ char ∈ name, isNameChar char) (rest : Text) :
    readHost (info.map Char.toLower ++ '@' :: rest) = name.map Char.toLower ↔
      ':' ∈ info ∧ (info.takeWhile (· ≠ ':')).map Char.toLower = name.map Char.toLower := by
  have noSlash : '/' ∉ info := by
    intro member
    exact absurd (validInfo '/' member) (by decide)
  by_cases colon : ':' ∈ info
  · obtain ⟨user, password, rfl, first⟩ := List.eq_append_cons_of_mem colon
    have called : (user ++ ':' :: password).takeWhile (· ≠ ':') = user := by
      rw [List.takeWhile_append_of_pos, List.takeWhile_cons_of_neg (by simp), List.append_nil]
      intro char member
      simpa using ne_of_mem_of_not_mem member first
    have apart : (user ++ ':' :: password).map Char.toLower ++ '@' :: rest =
        user.map Char.toLower ++ ':' :: (password.map Char.toLower ++ '@' :: rest) := by
      rw [List.map_append, List.append_assoc]
      rfl
    rw [apart, called, readHost_append_colon]
    · exact (and_iff_right colon).symm
    · rw [map_toLower_not_mem (by decide)]
      intro member
      exact noSlash (List.mem_append_left _ member)
    · rwa [map_toLower_not_mem (by decide)]
  · have noSlash' : '/' ∉ info.map Char.toLower := by
      rwa [map_toLower_not_mem (by decide)]
    have noColon : ':' ∉ info.map Char.toLower := by
      rwa [map_toLower_not_mem (by decide)]
    rw [readHost_append noSlash' noColon]
    constructor
    · intro read
      have sign : '@' ∈ name.map Char.toLower := by
        rw [← read, readHost_eq]
        simp
      rw [← not_not (a := '@' ∈ _), map_toLower_not_mem (by decide)] at sign
      exact absurd (not_mem_name valid (by decide)) sign
    · rintro ⟨member, _⟩
      exact absurd member colon

/-- The host is read in full exactly if something ends it. -/
theorem readHost_authority_iff (url : Url) {rest : Text} (head : rest.head? = url.tailText.head?) :
    readHost (url.authority rest) = url.host.text.map Char.toLower ↔ url.EndsHost := by
  cases host : url.host with
  | ipv6 address valid =>
      have colon : ':' ∈ (Host.ipv6 address valid).text.map Char.toLower :=
        List.mem_map.mpr ⟨':', by simp [Host.text, valid.1], rfl⟩
      simp only [EndsHost, host, iff_false]
      intro read
      rw [← read] at colon
      exact (not_mem_readHost _).2 colon
  | name text valid =>
      cases user : url.userinfo with
      | some info =>
          have apart : url.authority rest = info.map Char.toLower ++ '@' ::
              ((text ++ url.portText).map Char.toLower ++ rest) := by
            simp [authority, userText, user, host, Host.text]
          rw [apart]
          simp only [EndsHost, host, user]
          exact readHost_user_iff (url.userinfo_valid info user) valid.2 _
      | none =>
          have apart : url.authority rest =
              text.map Char.toLower ++ (url.portText.map Char.toLower ++ rest) := by
            simp [authority, userText, user, host, Host.text]
          rw [apart]
          simp only [EndsHost, host, user]
          rw [← head?_tailText_stops, ← head]
          apply (readHost_name_iff valid.2 _).trans
          cases port : url.port with
          | none => simp [portText, port]
          | some digits => simp [portText, port]

end Url

/-! ## Decisions -/

/-- A paste is decided by the origin. -/
theorem dispatchRequest_congr (handler : ChromeHandler) {url other : Text}
    (same : toOrigin casing url = toOrigin casing other) (requestToken : Option String)
    (reason : Option Int) :
    handler.dispatchRequest casing ⟨requestToken, some ⟨some url⟩, reason⟩ =
      handler.dispatchRequest casing ⟨requestToken, some ⟨some other⟩, reason⟩ := by
  simp only [ChromeHandler.dispatchRequest, Option.bind_some, same]

theorem toOrigin_eq_origin_iff (casing : Casing) (url : Url) :
    toOrigin casing url.text = some url.origin ↔ url.EndsHost := by
  obtain ⟨rest, head, read⟩ := url.toOrigin_text casing
  rw [read, url.readHost_authority_iff head]

/-- Without its optional parts a URL ends its host. -/
theorem Url.EndsHost.bare {url : Url} (ends : url.EndsHost) : url.bare.EndsHost := by
  cases host : url.host with
  | name text valid => simp [EndsHost, Url.bare, host]
  | ipv6 address valid => simp [EndsHost, host] at ends

/-- The origin of a URL is extracted, and nothing else of it decides, if and only if something
ends its host. -/
theorem originExtracted_iff (casing : Casing) (url : Url) :
    OriginExtracted casing url ↔ url.EndsHost := by
  rw [OriginExtracted, toOrigin_eq_origin_iff, and_iff_left_iff_imp]
  intro ends handler requestToken reason
  apply dispatchRequest_congr
  rw [(toOrigin_eq_origin_iff casing url).mpr ends,
    (toOrigin_eq_origin_iff casing url.bare).mpr ends.bare]
  rfl

/-! ## A query behind the host -/

/-- `https://intranet.example?a=b`. -/
def queryUrl : Url where
  scheme := "https".toList
  userinfo := none
  host := .name "intranet.example".toList ⟨by decide, forall_mem_of_all (by decide)⟩
  port := none
  path := []
  query := some "a=b".toList
  fragment := none
  scheme_valid := ⟨by decide, forall_mem_of_all (by decide)⟩
  userinfo_valid := by simp
  port_valid := by simp
  path_valid := by simp
  query_valid := by
    rintro text ⟨⟩
    decide

/-- A policy that denies pastes from one origin. -/
def denyingHandler : ChromeHandler where
  evaluator := some fun request =>
    { decision := if request.sourceOrigin = some "https://intranet.example" then .deny else .allow
      matchedPolicyId := none
      reason := ""
      enforcementMode := none
      wouldHaveDenied := false
      matchedLabelId := none }
  deviceHealth := .healthy
  timestamp := 0

/-- With the query the paste is allowed, and without it blocked. -/
theorem not_originExtracted_query :
    ¬ ∀ (casing : Casing) (url : Url), OriginExtracted casing url := by
  intro claim
  obtain ⟨-, decides⟩ := claim Casing.excerpt queryUrl
  have same := decides denyingHandler none (some 1)
  revert same
  decide

end DlpSystem.Agent

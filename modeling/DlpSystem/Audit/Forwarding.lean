import DlpSystem.Server.Connectors

/-!
# What a forwarded batch says

The bodies for Splunk and Elasticsearch, and the stream for the syslog collector, can be read back
as the events of the batch.  A connection that breaks leaves the messages of the first events.
-/

namespace DlpSystem.Server

open AuditWire Common Lib

variable {Time : Type} (times : TimeText Time)

/-! ## Bodies for SIEM backends -/

/-- The events of a stream of `event` objects. -/
def readSplunk : Nat → List Char → Option (List (AuditEvent Time))
  | _, [] => some []
  | 0, _ :: _ => none
  | fuel + 1, first :: chars =>
      (readPrefix (first :: chars)).bind fun read =>
        match read.1 with
        | .object [(name, tree)] =>
            if name = "event" then
              ((AuditEvent.codec times).decode tree).bind fun event =>
                (readSplunk fuel read.2).map fun events => event :: events
            else none
        | _ => none

/-- The event of a line. -/
def readEventLine (line : List UInt8) : Option (AuditEvent Time) :=
  (String.fromUTF8? ⟨line.toArray⟩).bind fun text =>
    (readJson text).bind (AuditEvent.codec times).decode

/-- The events of a list of lines, each after an action line. -/
def readBulk : List (List UInt8) → Option (List (AuditEvent Time))
  | [] => some []
  | action :: line :: lines =>
      if action = utf8 actionLine then
        (readEventLine times line).bind fun event =>
          (readBulk lines).map fun events => event :: events
      else none
  | [_] => none

/-- The events that a backend finds in a body. -/
def readBody (body : String) : Backend → Option (List (AuditEvent Time))
  | .splunk => readSplunk times body.length body.toList
  | .elk =>
      let lines := splitLines (utf8 body)
      if lines.2 = [] then readBulk times lines.1 else none

variable {times}

/-- The text of an event. -/
def eventChars (times : TimeText Time) (event : AuditEvent Time) : List Char :=
  compactChars ((AuditEvent.codec times).encode event)

theorem toList_eventText (event : AuditEvent Time) :
    (eventText times event).toList = eventChars times event := by
  rw [eventText, eventChars, compactChars]

theorem toList_splunkEventText (event : AuditEvent Time) :
    (splunkEventText times event).toList =
      compactChars (.object [("event", (AuditEvent.codec times).encode event)]) := by
  rw [splunkEventText, compactChars]

theorem splunkBody_eq (events : List (AuditEvent Time)) :
    (splunkBody times events).toList =
      events.flatMap fun event => (splunkEventText times event).toList := by
  have general (body : String) :
      (events.foldl (fun body event => body ++ splunkEventText times event) body).toList =
        body.toList ++ events.flatMap fun event => (splunkEventText times event).toList := by
    induction events generalizing body with
    | nil => simp
    | cons event rest ih => rw [List.foldl_cons, ih]; simp
  exact general ""

/-- The stream of event objects. -/
def splunkChars (times : TimeText Time) (events : List (AuditEvent Time)) : List Char :=
  events.flatMap fun event => (splunkEventText times event).toList

/-- Nothing in the stream continues a number. -/
theorem endsNumber_splunkChars (events : List (AuditEvent Time)) :
    EndsNumber (splunkChars times events) := by
  cases events with
  | nil => rintro _ ⟨⟩
  | cons event rest =>
      rw [splunkChars, List.flatMap_cons, toList_splunkEventText, compactChars_object,
        List.cons_append]
      exact endsNumber_cons (by decide) _

/-- Every stream of event objects is read as its events. -/
theorem readSplunk_splunkChars (events : List (AuditEvent Time)) {fuel : Nat}
    (enough : (splunkChars times events).length ≤ fuel) :
    readSplunk times fuel (splunkChars times events) = some events := by
  induction events generalizing fuel with
  | nil =>
      rw [splunkChars, List.flatMap_nil]
      cases fuel <;> rfl
  | cons event rest ih =>
      have text : (splunkEventText times event).toList = _ := toList_splunkEventText event
      have start := compactChars_object [("event", (AuditEvent.codec times).encode event)]
      have split : splunkChars times (event :: rest) =
          compactChars (.object [("event", (AuditEvent.codec times).encode event)]) ++
            splunkChars times rest := by
        rw [← text]
        exact List.flatMap_cons ..
      have read := readPrefix_compactChars
        (.object [("event", (AuditEvent.codec times).encode event)])
        (show EndsNumber (splunkChars times rest) from endsNumber_splunkChars rest)
      rw [split, start, List.cons_append, List.length_cons, List.length_append] at enough
      obtain ⟨fuel, rfl⟩ : ∃ before, fuel = before + 1 := Nat.exists_eq_add_one.mpr (by omega)
      rw [split]
      rw [start, List.cons_append] at read ⊢
      rw [readSplunk, read, Option.bind_some]
      dsimp only
      rw [if_pos rfl, (AuditEvent.codec times).decode_encode, Option.bind_some, ih (by omega),
        Option.map_some]

/-! ### Lines of texts -/

/-- Only a line feed has its byte. -/
theorem lineFeed_not_mem_utf8EncodeChar {char : Char} (different : char ≠ '\n') :
    lineFeed ∉ String.utf8EncodeChar char := by
  have code : char.toNat ≠ 10 := by
    intro same
    exact different (Char.toNat_inj.mp same)
  have byte (value : Nat) (small : value < 256) (other : value ≠ 10) :
      lineFeed ≠ UInt8.ofNat value := by
    intro same
    have same := congrArg UInt8.toNat same
    rw [toNat_ofNat_byte small] at same
    exact other same.symm
  rw [utf8EncodeChar_eq]
  split_ifs with one two three <;>
    simp only [List.mem_cons, List.not_mem_nil, or_false, not_or]
  · exact byte _ (by omega) code
  · exact ⟨byte _ (by omega) (by omega), byte _ (by omega) (by omega)⟩
  · exact ⟨byte _ (by omega) (by omega), byte _ (by omega) (by omega),
      byte _ (by omega) (by omega)⟩
  · exact ⟨byte _ (by omega) (by omega), byte _ (by omega) (by omega),
      byte _ (by omega) (by omega), byte _ (by omega) (by omega)⟩

theorem lineFeed_not_mem_utf8 {text : String} (free : '\n' ∉ text.toList) :
    lineFeed ∉ utf8 text := by
  rw [utf8_eq_flatMap, List.mem_flatMap]
  rintro ⟨char, member, byte⟩
  refine lineFeed_not_mem_utf8EncodeChar ?_ byte
  rintro rfl
  exact free member

theorem utf8_append (front back : String) : utf8 (front ++ back) = utf8 front ++ utf8 back := by
  rw [utf8_eq_flatMap, utf8_eq_flatMap, utf8_eq_flatMap, String.toList_append, List.flatMap_append]

theorem utf8_lineBreak : utf8 "\n" = [lineFeed] := by
  rw [utf8_eq_flatMap]
  rfl

/-- The text of an event is on one line. -/
theorem lineBreak_not_mem_eventText (event : AuditEvent Time) :
    '\n' ∉ (eventText times event).toList := by
  intro member
  rw [toList_eventText] at member
  exact absurd (noControls_compactChars _ '\n' member) (by decide)

/-- The line of an event is read as the event. -/
theorem readEventLine_eventText (event : AuditEvent Time) :
    readEventLine times (utf8 (eventText times event)) = some event := by
  rw [readEventLine, fromUTF8?_utf8, Option.bind_some, eventText, readJson_compactText,
    Option.bind_some, (AuditEvent.codec times).decode_encode]

/-- The lines of a bulk body. -/
def bulkLines (times : TimeText Time) (events : List (AuditEvent Time)) : List (List UInt8) :=
  events.flatMap fun event => [utf8 actionLine, utf8 (eventText times event)]

theorem utf8_elkBody (events : List (AuditEvent Time)) :
    utf8 (elkBody times events) = unlines (bulkLines times events) := by
  have general (body : String) :
      utf8 (events.foldl (fun body event =>
          body ++ actionLine ++ "\n" ++ eventText times event ++ "\n") body) =
        utf8 body ++ unlines (bulkLines times events) := by
    induction events generalizing body with
    | nil => simp [bulkLines, unlines]
    | cons event rest ih =>
        rw [List.foldl_cons, ih]
        simp [utf8_append, utf8_lineBreak, bulkLines, unlines]
  exact general ""

theorem lineFeed_not_mem_bulkLines (events : List (AuditEvent Time)) :
    ∀ line ∈ bulkLines times events, lineFeed ∉ line := by
  intro line member
  rcases List.mem_flatMap.mp member with ⟨event, -, isLine⟩
  rcases List.mem_pair.mp isLine with rfl | rfl
  · exact lineFeed_not_mem_utf8 (by decide)
  · exact lineFeed_not_mem_utf8 (lineBreak_not_mem_eventText event)

/-- Every list of bulk lines is read as its events. -/
theorem readBulk_bulkLines (events : List (AuditEvent Time)) :
    readBulk times (bulkLines times events) = some events := by
  induction events with
  | nil => rfl
  | cons event rest ih =>
      have lines : bulkLines times (event :: rest) =
          utf8 actionLine :: utf8 (eventText times event) :: bulkLines times rest := rfl
      rw [lines, readBulk, if_pos rfl, readEventLine_eventText, Option.bind_some, ih,
        Option.map_some]

/-- The body that a backend is sent. -/
def bodyFor (times : TimeText Time) (events : List (AuditEvent Time)) : Backend → String
  | .splunk => splunkBody times events
  | .elk => elkBody times events

/-- Every body is read as its events. -/
theorem readBody_bodyFor (events : List (AuditEvent Time)) (backend : Backend) :
    readBody times (bodyFor times events backend) backend = some events := by
  cases backend with
  | splunk =>
      have chars : (splunkBody times events).toList = splunkChars times events :=
        splunkBody_eq events
      have length : (splunkBody times events).length = (splunkChars times events).length := by
        rw [← chars, String.length_toList]
      rw [bodyFor, readBody, chars, length]
      exact readSplunk_splunkChars events (Nat.le_refl _)
  | elk =>
      rw [bodyFor, readBody, utf8_elkBody,
        splitLines_unlines (lineFeed_not_mem_bulkLines events)]
      exact readBulk_bulkLines events

/-! ## Relaying to both backends -/

/-- A backend is switched on and has an address. -/
def Enabled (row : SiemConfigRow (Option String)) : Backend → Prop
  | .splunk => row.splunkEnabled ≠ 0 ∧ row.splunkUrl ≠ ""
  | .elk => row.elkEnabled ≠ 0 ∧ row.elkUrl ≠ ""

/-- A backend has accepted its request. -/
def Accepts (answers : Answers) (backend : Backend) : Prop :=
  ∃ response, answers backend = .ok response ∧ isSuccess response.status = true

instance (row : SiemConfigRow (Option String)) (backend : Backend) :
    Decidable (Enabled row backend) :=
  match backend with
  | .splunk => inferInstanceAs (Decidable (row.splunkEnabled ≠ 0 ∧ row.splunkUrl ≠ ""))
  | .elk => inferInstanceAs (Decidable (row.elkEnabled ≠ 0 ∧ row.elkUrl ≠ ""))

theorem checkAnswer_eq_ok_iff {answer : Except String PostResponse} :
    checkAnswer answer = .ok () ↔ ∃ response, answer = .ok response ∧
      isSuccess response.status = true := by
  unfold checkAnswer
  split
  · simp
  · split
    · rename_i response success
      simp [success]
    · rename_i response failure
      simp [failure]

/-- The request that a backend is sent. -/
def requestFor (times : TimeText Time) (row : SiemConfigRow (Option String))
    (events : List (AuditEvent Time)) : Backend → PostRequest
  | .splunk => splunkRequest times row.splunkUrl (row.splunkToken.getD "") events
  | .elk =>
      elkRequest times row.elkUrl row.elkIndex
        (if row.elkApiKey.getD "" = "" then none else some (row.elkApiKey.getD "")) events

/-- The backends that are attempted, in their order. -/
def attempted (row : SiemConfigRow (Option String)) : List Backend :=
  [Backend.splunk, Backend.elk].filter fun backend => Enabled row backend

/-- The error that a backend causes. -/
def errorOf (answers : Answers) (backend : Backend) : Option SiemError :=
  match checkAnswer (answers backend) with
  | .ok () => none
  | .error error => some error

theorem errorOf_eq_none_iff {answers : Answers} {backend : Backend} :
    errorOf answers backend = none ↔ Accepts answers backend := by
  rw [Accepts, ← checkAnswer_eq_ok_iff, errorOf]
  cases checkAnswer (answers backend) <;> simp

theorem attempt_errors (relay : Relay) (answers : Answers) (backend : Backend)
    (request : PostRequest) :
    relay.attempt answers backend request =
      ⟨relay.requests ++ [(backend, request)],
        relay.errors ++ (errorOf answers backend).toList⟩ := by
  rw [Relay.attempt, errorOf]
  cases checkAnswer (answers backend) <;> simp

/-- Each attempted backend is sent its request, and its error is collected. -/
theorem attemptBackends_eq (answers : Answers) (row : SiemConfigRow (Option String))
    (events : List (AuditEvent Time)) :
    attemptBackends times answers (loadConfig row) events =
      ⟨(attempted row).map fun backend => (backend, requestFor times row events backend),
        (attempted row).filterMap (errorOf answers)⟩ := by
  have attempts : attempted row =
      (if Enabled row .splunk then [.splunk] else []) ++
        if Enabled row .elk then [.elk] else [] := by
    rw [attempted, List.filter_cons, List.filter_cons, List.filter_nil]
    by_cases splunk : Enabled row .splunk <;> by_cases elk : Enabled row .elk <;> simp [splunk, elk]
  have splunkIff : (loadConfig row).splunkEnabled ≠ 0 ∧ (loadConfig row).splunkUrl ≠ "" ↔
      Enabled row .splunk := Iff.rfl
  have elkIff : (loadConfig row).elkEnabled ≠ 0 ∧ (loadConfig row).elkUrl ≠ "" ↔
      Enabled row .elk := Iff.rfl
  have collected (backends : List Backend) :
      backends.filterMap (errorOf answers) =
        backends.flatMap fun backend => (errorOf answers backend).toList :=
    List.filterMap_eq_flatMap_toList ..
  rw [attempts, collected]
  unfold attemptBackends
  simp only [splunkIff, elkIff]
  by_cases elk : Enabled row .elk
  · by_cases splunk : Enabled row .splunk <;>
      simp [splunk, elk, attempt_errors, requestFor, loadConfig] <;> rfl
  · by_cases splunk : Enabled row .splunk <;>
      simp [splunk, elk, attempt_errors, requestFor, loadConfig]

/-- A batch that is relayed: every backend that is switched on, and no other, is sent one request,
whatever becomes of the other one; each body is read as the batch; and all is well exactly when
every one of these backends has accepted. -/
theorem relayEvents_delivers (answers : Answers) (row : SiemConfigRow (Option String))
    (events : List (AuditEvent Time)) :
    (∀ backend, (∃ request, (backend, request) ∈ (relayEvents times answers (.ok row) events).1) ↔
      events ≠ [] ∧ Enabled row backend) ∧
    ((relayEvents times answers (.ok row) events).1.map Prod.fst).Nodup ∧
    (∀ sent ∈ (relayEvents times answers (.ok row) events).1,
      readBody times sent.2.body sent.1 = some events) ∧
    ((relayEvents times answers (.ok row) events).2 = .ok () ↔
      events = [] ∨ ∀ backend, Enabled row backend → Accepts answers backend) := by
  by_cases empty : events = []
  · rw [relayEvents, if_pos empty]
    simp [empty]
  have sent : (relayEvents times answers (.ok row) events).1 =
      (attempted row).map fun backend => (backend, requestFor times row events backend) := by
    rw [relayEvents, if_neg empty, attemptBackends_eq]
    dsimp only
    split <;> rfl
  have result : (relayEvents times answers (.ok row) events).2 = .ok () ↔
      (attempted row).filterMap (errorOf answers) = [] := by
    rw [relayEvents, if_neg empty, attemptBackends_eq]
    dsimp only
    split
    · rename_i failed
      rw [failed]
      simp
    · rename_i well
      simp [well]
  have isAttempted (backend : Backend) : backend ∈ attempted row ↔ Enabled row backend := by
    rw [attempted, List.mem_filter, decide_eq_true_iff]
    cases backend <;> simp
  refine ⟨fun backend => ?_, ?_, ?_, ?_⟩
  · rw [sent, ← isAttempted]
    simp [empty]
  · have backends : ((attempted row).map fun backend =>
        (backend, requestFor times row events backend)).map Prod.fst = attempted row := by
      rw [List.map_map]
      exact List.map_id _
    rw [sent, backends]
    exact List.Nodup.filter _ (by decide)
  · intro entry member
    rw [sent, List.mem_map] at member
    rcases member with ⟨backend, -, rfl⟩
    cases backend
    · exact readBody_bodyFor events .splunk
    · exact readBody_bodyFor events .elk
  · rw [result, List.filterMap_eq_nil_iff]
    simp only [isAttempted, errorOf_eq_none_iff, empty, false_or]

/-! ## Syslog messages -/

/-- What follows a word. -/
def strip (word chars : List Char) : Option (List Char) :=
  if word <+: chars then some (chars.drop word.length) else none

theorem strip_append (word rest : List Char) : strip word (word ++ rest) = some rest := by
  rw [strip, if_pos (List.prefix_append word rest), List.drop_left]

/-- The characters up to a blank, and what follows it. -/
def readToken (chars : List Char) : Option (String × List Char) :=
  (strip [' '] (chars.dropWhile fun char => char ≠ ' ')).map fun rest =>
    (String.ofList (chars.takeWhile fun char => char ≠ ' '), rest)

/-- A text without blanks and line breaks. -/
def Plain (text : String) : Prop :=
  ' ' ∉ text.toList ∧ '\n' ∉ text.toList

instance (text : String) : Decidable (Plain text) :=
  inferInstanceAs (Decidable (' ' ∉ text.toList ∧ '\n' ∉ text.toList))

theorem readToken_append {token : String} (plain : Plain token) (rest : List Char) :
    readToken (token.toList ++ ' ' :: rest) = some (token, rest) := by
  have inside : ∀ char ∈ token.toList, decide (char ≠ ' ') = true := by
    intro char member
    rw [decide_eq_true_iff]
    rintro rfl
    exact plain.1 member
  rw [readToken, List.dropWhile_append_of_pos inside, List.takeWhile_append_of_pos inside]
  simp [strip]

/-- What a message says. -/
structure SyslogMessage (Time : Type) where
  facility : Int
  severity : Int
  timestamp : String
  hostname : String
  appName : String
  procid : String
  msgid : String
  event : AuditEvent Time

/-- A line as an RFC 5424 message without structured data. -/
def readMessage (times : TimeText Time) (line : List UInt8) : Option (SyslogMessage Time) := do
  let text ← String.fromUTF8? ⟨line.toArray⟩
  let chars ← strip ['<'] text.toList
  let priority ← readDigits chars
  let chars ← strip ['>', '1', ' '] priority.2
  let timestamp ← readToken chars
  let hostname ← readToken timestamp.2
  let appName ← readToken hostname.2
  let procid ← readToken appName.2
  let msgid ← readToken procid.2
  let chars ← strip ['-', ' '] msgid.2
  let tree ← readJson (String.ofList chars)
  let event ← (AuditEvent.codec times).decode tree
  return {
    facility := priority.1 / 8
    severity := priority.1 % 8
    timestamp := timestamp.1
    hostname := hostname.1
    appName := appName.1
    procid := procid.1
    msgid := msgid.1
    event := event }

/-- What the message of an event should say. -/
def messageOf (millis : Time → String) (config : SyslogConfigRow) (hostname : String)
    (procid : Nat) (event : AuditEvent Time) : SyslogMessage Time where
  facility := config.facilityCode
  severity := mapSeverity event.eventType config
  timestamp := millis event.timestamp
  hostname := hostname
  appName := "DLP-AUDIT"
  procid := toString procid
  msgid := eventTypeToMsgid event.eventType
  event := event

/-- A row with a facility and severities of RFC 5424. -/
structure ValidSyslog (config : SyslogConfigRow) : Prop where
  facility : 16 ≤ config.facilityCode ∧ config.facilityCode ≤ 23
  alert : 0 ≤ config.severityAlert ∧ config.severityAlert ≤ 7
  block : 0 ≤ config.severityBlock ∧ config.severityBlock ≤ 7
  audit : 0 ≤ config.severityAudit ∧ config.severityAudit ≤ 7

theorem ValidSyslog.severity {config : SyslogConfigRow} (valid : ValidSyslog config)
    (eventType : EventType) :
    0 ≤ mapSeverity eventType config ∧ mapSeverity eventType config ≤ 7 := by
  unfold mapSeverity
  split
  · exact valid.alert
  · exact valid.block
  · exact valid.audit

/-- A JSON text has no line breaks to escape. -/
theorem sanitizedPayload_of_noControls {text : String} (visible : NoControls text.toList) :
    sanitizedPayload text = text := by
  have same (char : Char) (control : char.toNat < 32) (replacement : List Char) :
      replaceChar char replacement text.toList = text.toList := by
    have kept : ∀ other ∈ text.toList,
        (if other = char then replacement else [other]) = [other] := by
      intro other member
      have visible := visible other member
      refine if_neg ?_
      rintro rfl
      omega
    rw [replaceChar, List.flatMap_congr kept, List.flatMap_singleton']
  rw [sanitizedPayload, same '\n' (by decide), same '\r' (by decide), String.ofList_toList]

theorem noControls_eventText (event : AuditEvent Time) :
    NoControls (eventText times event).toList := by
  rw [toList_eventText]
  exact noControls_compactChars _

section Messages

variable {millis : Time → String} {config : SyslogConfigRow} {hostname : String} {procid : Nat}

/-- The priority of a valid row is one byte. -/
theorem priorityOf_eq (valid : ValidSyslog config) (event : AuditEvent Time) :
    ((priorityOf config event / 8 : Nat) : Int) = config.facilityCode ∧
      ((priorityOf config event % 8 : Nat) : Int) = mapSeverity event.eventType config := by
  have facility := valid.facility
  have severity := valid.severity event.eventType
  rw [priorityOf, asU8]
  omega

/-- The characters of a message. -/
def messageChars (times : TimeText Time) (millis : Time → String) (config : SyslogConfigRow)
    (hostname : String) (procid : Nat) (event : AuditEvent Time) : List Char :=
  ['<'] ++ (Nat.toDigits 10 (priorityOf config event) ++ (['>', '1', ' '] ++
    ((millis event.timestamp).toList ++ ' ' :: (hostname.toList ++ ' ' ::
      ("DLP-AUDIT".toList ++ ' ' :: ((toString procid).toList ++ ' ' ::
        ((eventTypeToMsgid event.eventType).toList ++ ' ' ::
          (['-', ' '] ++ (eventText times event).toList))))))))

theorem toList_formatRfc5424 (event : AuditEvent Time) :
    (formatRfc5424 times millis event config hostname procid).toList =
      messageChars times millis config hostname procid event ++ ['\n'] := by
  have payload : sanitizedPayload (eventText times event) = eventText times event :=
    sanitizedPayload_of_noControls (noControls_eventText event)
  delta formatRfc5424
  simp [payload, messageChars, Nat.toList_repr]

/-- The message of an event. -/
def messageText (times : TimeText Time) (millis : Time → String) (config : SyslogConfigRow)
    (hostname : String) (procid : Nat) (event : AuditEvent Time) : String :=
  String.ofList (messageChars times millis config hostname procid event)

theorem formatRfc5424_eq (event : AuditEvent Time) :
    formatRfc5424 times millis event config hostname procid =
      messageText times millis config hostname procid event ++ "\n" := by
  apply String.toList_injective
  rw [toList_formatRfc5424, String.toList_append, messageText, String.toList_ofList]
  rfl

theorem plain_eventTypeToMsgid (eventType : EventType) : Plain (eventTypeToMsgid eventType) := by
  unfold eventTypeToMsgid
  split <;> decide

theorem plain_toString (value : Nat) : Plain (toString value) := by
  have digit (char : Char) (other : char.isDigit = false) : char ∉ (toString value).toList := by
    intro member
    rw [Nat.toString_eq_repr, Nat.toList_repr] at member
    exact absurd ((isDigit_toDigits value char member).symm.trans other) (by decide)
  exact ⟨digit ' ' (by decide), digit '\n' (by decide)⟩

/-- A message is on one line. -/
theorem lineBreak_not_mem_messageText (plainHost : Plain hostname) (event : AuditEvent Time)
    (plainTime : Plain (millis event.timestamp)) :
    '\n' ∉ (messageText times millis config hostname procid event).toList := by
  have digits : '\n' ∉ Nat.toDigits 10 (priorityOf config event) := fun member =>
    absurd (isDigit_toDigits _ _ member) (by decide)
  have text : '\n' ∉ (eventText times event).toList := lineBreak_not_mem_eventText event
  have msgid := (plain_eventTypeToMsgid event.eventType).2
  have process := (plain_toString procid).2
  have name : '\n' ∉ "DLP-AUDIT".toList := by decide
  rw [messageText, String.toList_ofList, messageChars]
  simp only [List.mem_cons, List.mem_append, List.not_mem_nil, or_false, not_or]
  exact ⟨by decide, digits, by decide, plainTime.2, by decide, plainHost.2, by decide, name,
    by decide, process, by decide, msgid, by decide, by decide, text⟩

/-- Every message is read as what it should say. -/
theorem readMessage_messageText (valid : ValidSyslog config) (plainHost : Plain hostname)
    (event : AuditEvent Time) (plainTime : Plain (millis event.timestamp)) :
    readMessage times (utf8 (messageText times millis config hostname procid event)) =
      some (messageOf millis config hostname procid event) := by
  have split := priorityOf_eq valid event
  have digits (rest : List Char) :
      readDigits (Nat.toDigits 10 (priorityOf config event) ++ (['>', '1', ' '] ++ rest)) =
        some (priorityOf config event, ['>', '1', ' '] ++ rest) :=
    readDigits_toDigits _ (endsNumber_cons (by decide) _)
  have json : readJson (eventText times event) = some ((AuditEvent.codec times).encode event) :=
    readJson_compactText _
  rw [readMessage, fromUTF8?_utf8, messageText]
  simp only [String.toList_ofList, Option.bind_eq_bind, Option.bind_some, messageChars,
    strip_append, digits, readToken_append plainTime, readToken_append plainHost,
    readToken_append (show Plain "DLP-AUDIT" by decide), readToken_append (plain_toString procid),
    readToken_append (plain_eventTypeToMsgid event.eventType), String.ofList_toList, json,
    (AuditEvent.codec times).decode_encode]
  rw [messageOf, ← split.1, ← split.2]
  rfl

/-- What a connection has taken is the start of all the messages. -/
theorem writeAll_eq (takes : Option Nat) (messages : List String) :
    (writeAll takes messages).1 =
        (takes.elim (messages.flatMap utf8) fun room => (messages.flatMap utf8).take room) ∧
      ((writeAll takes messages).2 = true →
        (writeAll takes messages).1 = messages.flatMap utf8) := by
  induction messages generalizing takes with
  | nil => cases takes <;> simp [writeAll]
  | cons message rest ih =>
      cases takes with
      | none =>
          have later := ih none
          rw [writeAll, List.flatMap_cons]
          refine ⟨?_, fun _ => ?_⟩ <;> rw [later.1] <;> rfl
      | some room =>
          rw [writeAll, List.flatMap_cons]
          split
          · rename_i fits
            have later := ih (some (room - (utf8 message).length))
            dsimp only
            refine ⟨?_, fun whole => ?_⟩
            · rw [later.1]
              simp only [Option.elim_some]
              rw [List.take_append, List.take_of_length_le fits]
            · rw [later.2 whole]
          · rename_i broken
            refine ⟨?_, fun whole => absurd whole (by simp)⟩
            simp only [Option.elim_some]
            rw [List.take_append_of_le_length (by omega)]

theorem flatMap_utf8_messages (events : List (AuditEvent Time)) :
    (events.map fun event =>
        formatRfc5424 times millis event config hostname procid).flatMap utf8 =
      unlines (events.map fun event =>
        utf8 (messageText times millis config hostname procid event)) := by
  rw [unlines, List.flatMap_map, List.flatMap_map]
  refine List.flatMap_congr fun event _ => ?_
  rw [formatRfc5424_eq, utf8_append, utf8_lineBreak]

/-- A connection that comes up takes the messages. -/
theorem forward_connected {link : SyslogLink}
    (up : link.buildTlsConfig = .ok () ∧ link.resolveServerName = .ok () ∧ link.connect = .ok () ∧
      link.handshake = .ok ())
    (enabled : config.enabled ≠ 0) (host : config.host ≠ "") {events : List (AuditEvent Time)}
    (nonempty : events ≠ []) :
    (forward times millis link (some config) hostname procid events).1 =
      (writeAll link.takes (events.map fun event =>
        formatRfc5424 times millis event config hostname procid)).1 := by
  simp only [forward, if_neg nonempty, if_neg enabled, if_neg host, up]

/-- A connection that breaks after the first byte of the second message has taken one line. -/
theorem lines_of_broken {link : SyslogLink}
    (up : link.buildTlsConfig = .ok () ∧ link.resolveServerName = .ok () ∧ link.connect = .ok () ∧
      link.handshake = .ok ())
    (enabled : config.enabled ≠ 0) (host : config.host ≠ "") (plainHost : Plain hostname)
    {first second : AuditEvent Time}
    (plainTimes : ∀ event ∈ [first, second], Plain (millis event.timestamp))
    (takes : link.takes =
      some ((utf8 (messageText times millis config hostname procid first)).length + 2)) :
    (splitLines (forward times millis link (some config) hostname procid [first, second]).1).1 =
      [utf8 (messageText times millis config hostname procid first)] := by
  have free : ∀ event ∈ [first, second],
      lineFeed ∉ utf8 (messageText times millis config hostname procid event) :=
    fun event member =>
      lineFeed_not_mem_utf8 (lineBreak_not_mem_messageText plainHost event (plainTimes event member))
  have bracket : String.utf8EncodeChar '<' = [60] := by decide
  have begins : ∃ rest, utf8 (messageText times millis config hostname procid second) =
      60 :: rest := by
    rw [utf8_eq_flatMap, messageText, String.toList_ofList, messageChars, List.singleton_append,
      List.flatMap_cons, bracket, List.singleton_append]
    exact ⟨_, rfl⟩
  obtain ⟨rest, begins⟩ := begins
  have nextFree := free second (List.mem_cons_of_mem _ List.mem_cons_self)
  rw [forward_connected up enabled host (List.cons_ne_nil _ _), (writeAll_eq _ _).1,
    flatMap_utf8_messages, takes, Option.elim_some, List.map_cons, List.map_singleton]
  rw [begins] at nextFree ⊢
  exact splitLines_take_next (free first List.mem_cons_self) nextFree

/-- The lines of a cut stream are the messages of the first events. -/
theorem readMessage_lines (valid : ValidSyslog config) (plainHost : Plain hostname)
    {events : List (AuditEvent Time)}
    (plainTimes : ∀ event ∈ events, Plain (millis event.timestamp)) (size : Nat) :
    ∃ count,
      (splitLines ((unlines (events.map fun event =>
          utf8 (messageText times millis config hostname procid event))).take size)).1.map
          (readMessage times) =
        (events.take count).map
          (fun event => some (messageOf millis config hostname procid event)) ∧
      ((unlines (events.map fun event =>
          utf8 (messageText times millis config hostname procid event))).length ≤ size →
        events.length ≤ count) := by
  have free : ∀ line ∈ events.map fun event =>
      utf8 (messageText times millis config hostname procid event), lineFeed ∉ line := by
    intro line member
    rcases List.mem_map.mp member with ⟨event, isEvent, rfl⟩
    exact lineFeed_not_mem_utf8
      (lineBreak_not_mem_messageText plainHost event (plainTimes event isEvent))
  rcases splitLines_take_unlines free size with ⟨count, lines, all⟩
  refine ⟨count, ?_, by simpa using all⟩
  rw [lines, ← List.map_take, List.map_map]
  refine List.map_congr_left fun event member => ?_
  exact readMessage_messageText valid plainHost event
    (plainTimes event (List.mem_of_mem_take member))

end Messages

/-! ## The configuration over time -/

/-- The row after some calls of the handler. -/
def syslogConfigAfter (calls : List SyslogUpdate) : SyslogConfigRow :=
  calls.foldl (fun row call => (call.run row).1) .seed

theorem validateFacilityCode_eq_ok {value : Int} :
    validateFacilityCode value = .ok () → 16 ≤ value ∧ value ≤ 23 := by
  unfold validateFacilityCode
  split
  · exact fun _ => ‹_›
  · rintro ⟨⟩

theorem validateSeverity_eq_ok {value : Int} :
    validateSeverity value = .ok () → 0 ≤ value ∧ value ≤ 7 := by
  unfold validateSeverity
  split
  · exact fun _ => ‹_›
  · rintro ⟨⟩

theorem valid_record {payload : SyslogConfigPayload} (accepted : payload.validate = .ok ())
    (now : String) : ValidSyslog (payload.record now) := by
  unfold SyslogConfigPayload.validate at accepted
  dsimp only at accepted
  by_cases port : payload.port < 1 ∨ payload.port > 65535
  · rw [if_pos port] at accepted
    cases accepted
  rw [if_neg port] at accepted
  obtain ⟨⟨⟩, facility, accepted⟩ := bind_eq_ok_iff.mp accepted
  obtain ⟨⟨⟩, alert, accepted⟩ := bind_eq_ok_iff.mp accepted
  obtain ⟨⟨⟩, block, accepted⟩ := bind_eq_ok_iff.mp accepted
  obtain ⟨⟨⟩, audit, -⟩ := bind_eq_ok_iff.mp accepted
  exact ⟨validateFacilityCode_eq_ok facility, validateSeverity_eq_ok alert,
    validateSeverity_eq_ok block, validateSeverity_eq_ok audit⟩

theorem validSyslog_run {row : SyslogConfigRow} (valid : ValidSyslog row) (call : SyslogUpdate) :
    ValidSyslog (call.run row).1 := by
  rw [SyslogUpdate.run]
  split
  · exact valid
  · rename_i accepted
    split
    · exact valid
    · exact valid_record accepted call.now

/-- Whatever is written to the configuration, its facility and severities are valid. -/
theorem validSyslog_configAfter (calls : List SyslogUpdate) :
    ValidSyslog (syslogConfigAfter calls) := by
  rw [syslogConfigAfter]
  have seed : ValidSyslog .seed := ⟨by decide, by decide, by decide, by decide⟩
  generalize SyslogConfigRow.seed = row at seed
  induction calls generalizing row with
  | nil => exact seed
  | cons call rest ih => exact ih _ (validSyslog_run seed call)

/-- Under every configuration that was ever accepted, what the collector gets is one line for each
of the first events, with the facility and the severity of the configuration and with the whole
event in it; and it is a line for every event if all is well. -/
theorem forward_messages (millis : Time → String) (calls : List SyslogUpdate) (link : SyslogLink)
    {hostname : String} (plainHost : Plain hostname) (procid : Nat)
    {events : List (AuditEvent Time)}
    (plainTimes : ∀ event ∈ events, Plain (millis event.timestamp)) :
    ∃ count,
      (splitLines (forward times millis link (some (syslogConfigAfter calls)) hostname procid
          events).1).1.map (readMessage times) =
        (events.take count).map (fun event =>
          some (messageOf millis (syslogConfigAfter calls) hostname procid event)) ∧
      ((forward times millis link (some (syslogConfigAfter calls)) hostname procid events).2 =
          .ok () →
        (syslogConfigAfter calls).enabled ≠ 0 → (syslogConfigAfter calls).host ≠ "" →
          events.length ≤ count) := by
  have valid := validSyslog_configAfter calls
  generalize syslogConfigAfter calls = config at valid
  have nothing : ((splitLines ([] : List UInt8)).1.map (readMessage times)) =
      (events.take 0).map fun event => some (messageOf millis config hostname procid event) := rfl
  unfold forward
  split
  · rename_i empty
    exact ⟨0, nothing, by simp [empty]⟩
  dsimp only
  split
  · rename_i disabled
    exact ⟨0, nothing, fun _ enabled => absurd disabled enabled⟩
  split
  · rename_i noHost
    exact ⟨0, nothing, fun _ _ host => absurd noHost host⟩
  split
  · exact ⟨0, nothing, by rintro ⟨⟩⟩
  · exact ⟨0, nothing, by rintro ⟨⟩⟩
  · exact ⟨0, nothing, by rintro ⟨⟩⟩
  · exact ⟨0, nothing, by rintro ⟨⟩⟩
  · have written := writeAll_eq link.takes
      (events.map fun event => formatRfc5424 times millis event config hostname procid)
    rw [flatMap_utf8_messages] at written
    have size : ∃ size, (writeAll link.takes (events.map fun event =>
        formatRfc5424 times millis event config hostname procid)).1 =
          (unlines (events.map fun event =>
            utf8 (messageText times millis config hostname procid event))).take size := by
      rw [written.1]
      cases link.takes with
      | none => exact ⟨_, (List.take_length ..).symm⟩
      | some room => exact ⟨room, rfl⟩
    obtain ⟨size, cut⟩ := size
    rcases @readMessage_lines _ times _ _ _ procid valid plainHost _ plainTimes size with
      ⟨count, lines, all⟩
    refine ⟨count, by rw [cut, lines], fun well _ _ => all ?_⟩
    dsimp only at well
    split at well
    · rename_i whole
      have lengths := congrArg List.length ((written.2 whole).symm.trans cut)
      rw [List.length_take] at lengths
      omega
    · cases well

/-- An update that switches forwarding on. -/
def localSix : SyslogUpdate where
  payload :=
    { host := "syslog.example.com"
      port := 6514
      enabled := true
      protocol := "tls"
      facilityCode := 22
      format := "json"
      batchingEnabled := true
      severityAlert := 3
      severityBlock := 4
      severityAudit := 6
      queuePolicy := "ring_buffer"
      queueMaxSize := 1000
      tlsMinVersion := "1.2" }
  now := "2027-01-01T00:00:00Z"
  databaseFails := false

/-- A connection that takes everything. -/
def openLink : SyslogLink := ⟨.ok (), .ok (), .ok (), .ok (), none, ""⟩

/-- The time of the events below. -/
def fixedMillis : String → String :=
  fun _ => "2027-01-01T00:00:01.000Z"

/-- An event whose path holds a line break. -/
def lineBreakEvent : AuditEvent String :=
  { discoveryEvent with resourcePath := "C:\\Data\nReports" }

/-- A connection that breaks after the first byte of the second message. -/
def brokenLink : SyslogLink :=
  { openLink with
    takes := some ((utf8 (messageText textTimes fixedMillis (syslogConfigAfter [localSix])
      "server01" 1234 lineBreakEvent)).length + 2) }

/-- Of two events the first one arrives, though its path holds a line break. -/
theorem forward_messages_broken :
    (splitLines (forward textTimes fixedMillis brokenLink
        (some (syslogConfigAfter [localSix])) "server01" 1234
        [lineBreakEvent, discoveryEvent]).1).1.map (readMessage textTimes) =
      [some (messageOf fixedMillis (syslogConfigAfter [localSix]) "server01" 1234
        lineBreakEvent)] := by
  have plainTimes : ∀ event ∈ [lineBreakEvent, discoveryEvent],
      Plain (fixedMillis event.timestamp) :=
    fun _ _ => show Plain "2027-01-01T00:00:01.000Z" by decide
  have plainHost : Plain "server01" := by decide
  obtain ⟨count, lines, -⟩ :=
    forward_messages fixedMillis [localSix] brokenLink plainHost 1234 plainTimes
  have one : count = 1 := by
    have lengths := congrArg List.length lines
    rw [lines_of_broken ⟨rfl, rfl, rfl, rfl⟩ (by decide) (by decide) plainHost plainTimes rfl,
      List.length_map, List.length_map, List.length_take] at lengths
    simp only [List.length_cons, List.length_nil] at lengths
    omega
  rw [lines, one]
  rfl

end DlpSystem.Server

import DlpSystem.Agent.DaclTripwire

/-!
# Descriptors as Windows renders them

The text of a descriptor that is read with its owner, its group and its DACL starts with
the owner.  `build_canonical_security_descriptor` looks for the entries of a text that
starts with the DACL, and the snapshot that it takes is such a text; the watcher compares
the snapshot with what Windows renders.
-/

namespace DlpSystem.Agent

/-! ## Entries in text form -/

/-- An entry of a DACL.  The account is a SID, or the alias of one. -/
structure AceString where
  kind : String
  flags : String
  rights : String
  objectType : String
  inheritedObjectType : String
  account : String
  condition : Option String
  deriving DecidableEq

/-- The text of an entry. -/
def AceString.text (ace : AceString) : String :=
  "(" ++ ";".intercalate ([ace.kind, ace.flags, ace.rights, ace.objectType,
    ace.inheritedObjectType, ace.account] ++ ace.condition.toList) ++ ")"

example : AceString.text ⟨"A", "OICI", "FA", "", "", "BA", none⟩ = "(A;OICI;FA;;;BA)" := by
  decide +kernel

/-- A descriptor that was read with owner, group and DACL. -/
def renderedSddl (owner group flags : String) (aces : List AceString) : String :=
  "O:" ++ owner ++ "G:" ++ group ++ "D:" ++ flags ++ String.join (aces.map AceString.text)

/-- An entry that is none of those that the tripwire places itself: it allows nothing to
SYSTEM or the administrators, and denies nothing to authenticated users.  `sidOf` takes an
account to its SID. -/
def AceString.isForeign (sidOf : String → String) (dlpAdminSid : Option String)
    (ace : AceString) : Bool :=
  !(ace.kind == "A" && sidOf ace.account == "S-1-5-18") &&
    !(ace.kind == "A" && dlpAdminSid == some (sidOf ace.account)) &&
    !(ace.kind == "D" && sidOf ace.account == "S-1-5-11")

/-- The entries that the tripwire places in front. -/
def placedAces (dlpAdminSid : Option String) (includeDenyAce : Bool) : Dacl :=
  [systemAce] ++ (dlpAdminSid.map adminAce).toList ++ if includeDenyAce then [denyAce] else []

/-- Nothing is carried over from a text that starts with the owner. -/
theorem keptAces_of_owner (rest : String) (dlpAdminSid : Option String) :
    keptAces ("O:" ++ rest) dlpAdminSid = [] := by
  have chars : ("O:" ++ rest).toList = 'O' :: ':' :: rest.toList := by
    rw [String.toList_append]
    rfl
  rw [keptAces, chars]
  rfl

/-- The entries of others are carried over exactly if there are none. -/
theorem canonicalDacl_foreign_iff (sidOf : String → String) (owner group flags : String)
    (aces : List AceString) (dlpAdminSid : Option String) (includeDenyAce : Bool) :
    canonicalDacl (renderedSddl owner group flags aces) dlpAdminSid includeDenyAce =
        placedAces dlpAdminSid includeDenyAce ++
          (aces.filter (AceString.isForeign sidOf dlpAdminSid)).map AceString.text ↔
      ∀ ace ∈ aces, ace.isForeign sidOf dlpAdminSid = false := by
  have built : canonicalDacl (renderedSddl owner group flags aces) dlpAdminSid includeDenyAce =
      placedAces dlpAdminSid includeDenyAce ++ [] := by
    rw [canonicalDacl, renderedSddl]
    simp only [String.append_assoc]
    rw [keptAces_of_owner]
    rfl
  rw [built, List.append_cancel_left_eq, eq_comm, List.map_eq_nil_iff, List.filter_eq_nil_iff]
  simp only [Bool.not_eq_true]

/-- The aliases of SYSTEM, the administrators and authenticated users. -/
def sidOfAlias (account : String) : String :=
  if account = "SY" then "S-1-5-18"
  else if account = "BA" then "S-1-5-32-544"
  else if account = "AU" then "S-1-5-11"
  else account

/-- A folder of the administrators. -/
def folderAces : List AceString :=
  [⟨"A", "OICI", "FA", "", "", "SY", none⟩, ⟨"A", "OICI", "FA", "", "", "BA", none⟩]

/-- The administrators of a folder lose their entry. -/
theorem administrators_entry_lost :
    canonicalDacl (renderedSddl "BA" "BA" "AI" folderAces) none true ≠
      placedAces none true ++
        (folderAces.filter (AceString.isForeign sidOfAlias none)).map AceString.text := by
  decide +kernel

/-! ## The check of a snapshot -/

/-- What Windows makes of SIDs and DACLs: their texts, with the flags of a DACL, the DACL of
a descriptor in text form, and the bytes of a DACL. -/
structure SecurityApi (Sid Acl : Type) where
  sidText : Sid → String
  aclText : Acl → String
  parseDacl : String → Option Acl
  aclSize : Acl → Nat

/-- The descriptor of a file. -/
structure FileDescriptor (Sid Acl : Type) where
  owner : Sid
  group : Sid
  dacl : Acl

/-- The files of a machine, with the descriptors that Windows keeps. -/
structure FileStore (Sid Acl : Type) where
  descriptor : String → FileDescriptor Sid Acl
  isReparsePoint : String → Bool
  readable : String → Bool
  writable : String → Bool

namespace FileStore

variable {Sid Acl : Type} (api : SecurityApi Sid Acl)

/-- The files by the texts of their descriptors; the text of a DACL counts as one entry. -/
def view (store : FileStore Sid Acl) : Volume where
  ownerAndGroup path := "O:" ++ api.sidText (store.descriptor path).owner ++ "G:" ++
    api.sidText (store.descriptor path).group
  dacl path := [api.aclText (store.descriptor path).dacl]
  isReparsePoint := store.isReparsePoint
  aclSize dacl := ((api.parseDacl (sddlText dacl)).map api.aclSize).getD 0

/-- `SetFileSecurityW`: the DACL is stored as it is given. -/
def setDacl (store : FileStore Sid Acl) (path : String) (dacl : Acl) : FileStore Sid Acl :=
  { store with
    descriptor := Function.update store.descriptor path
      { store.descriptor path with dacl := dacl } }

/-- `apply_tripwire_to_path`.  An error without a reason is a failure of Windows. -/
def applyTripwireToPath (store : FileStore Sid Acl) (dlpAdminSid : Option String)
    (path : String) :
    Except (Option DaclTripwireError) (CanonicalAclSnapshot × FileStore Sid Acl) :=
  match (store.view api).validatePath path with
  | .error reason => .error (some reason)
  | .ok () =>
      if store.readable path = false then .error none
      else
        match (store.view api).buildCanonicalSecurityDescriptor dlpAdminSid true path with
        | .error reason => .error (some reason)
        | .ok snapshot =>
            match api.parseDacl (sddlText snapshot.dacl) with
            | none => .error none
            | some dacl =>
                if store.writable path then .ok (snapshot, store.setDacl path dacl)
                else .error none

/-- `check_acl_mismatch`: the text of the snapshot against the text of the descriptor. -/
def checkAclMismatch (store : FileStore Sid Acl) (path : String)
    (snapshot : CanonicalAclSnapshot) : Except Unit Bool :=
  if store.readable path then
    .ok (decide ((store.view api).readSddl path ≠ sddlText snapshot.dacl))
  else .error ()

/-- The text of a descriptor is not that of a DACL. -/
theorem readSddl_view_ne (store : FileStore Sid Acl) (path : String) (dacl : Dacl) :
    (store.view api).readSddl path ≠ sddlText dacl := by
  intro same
  have firsts := congrArg (fun text : String => text.toList.head?) same
  simp [Volume.readSddl, view, sddlText] at firsts

variable {api} {store after : FileStore Sid Acl} {dlpAdminSid : Option String} {path : String}
  {snapshot : CanonicalAclSnapshot}

/-- A tripwire is applied to a file that can be read, and it still can be afterwards. -/
theorem readable_of_applied
    (applied : store.applyTripwireToPath api dlpAdminSid path = .ok (snapshot, after)) :
    after.readable path = true := by
  unfold applyTripwireToPath at applied
  split at applied
  · cases applied
  · split at applied
    · cases applied
    · rename_i readable
      split at applied
      · cases applied
      · split at applied
        · cases applied
        · split at applied
          · cases applied
            simpa [setDacl] using readable
          · cases applied

/-- A file that can be read does not match. -/
theorem checkAclMismatch_of_readable (readable : store.readable path = true) :
    store.checkAclMismatch api path snapshot = .ok true := by
  rw [checkAclMismatch, if_pos readable]
  exact congrArg Except.ok (decide_eq_true (readSddl_view_ne api store path snapshot.dacl))

/-- The watcher takes every path for tampered right after the tripwire was applied. -/
theorem tamper_alarm_of_applied
    (applied : store.applyTripwireToPath api dlpAdminSid path = .ok (snapshot, after)) :
    after.checkAclMismatch api path snapshot = .ok true :=
  checkAclMismatch_of_readable (readable_of_applied applied)

/-- Descriptors that are kept as their texts. -/
def textApi : SecurityApi String String where
  sidText := id
  aclText := id
  parseDacl sddl := some (String.ofList (sddl.toList.drop 2))
  aclSize := String.length

/-- A machine on which every file belongs to the administrators. -/
def adminStore : FileStore String String where
  descriptor _ := ⟨"BA", "BA", "AI(A;OICI;FA;;;SY)(A;OICI;FA;;;BA)"⟩
  isReparsePoint _ := false
  readable _ := true
  writable _ := true

theorem applied_adminStore :
    ∃ (snapshot : CanonicalAclSnapshot) (after : FileStore String String),
      adminStore.applyTripwireToPath textApi none "C:\\DATA\\" = .ok (snapshot, after) := by
  have applies :
      (adminStore.applyTripwireToPath textApi none "C:\\DATA\\").toOption.isSome = true := by
    decide +kernel
  cases applied : adminStore.applyTripwireToPath textApi none "C:\\DATA\\" with
  | error reason =>
      rw [applied] at applies
      cases applies
  | ok result => exact ⟨result.1, result.2, rfl⟩

theorem tamper_alarm_of_applied_admin :
    ∃ (snapshot : CanonicalAclSnapshot) (after : FileStore String String),
      adminStore.applyTripwireToPath textApi none "C:\\DATA\\" = .ok (snapshot, after) ∧
        after.checkAclMismatch textApi "C:\\DATA\\" snapshot = .ok true := by
  obtain ⟨snapshot, after, applied⟩ := applied_adminStore
  exact ⟨snapshot, after, applied, tamper_alarm_of_applied applied⟩

/-- The alarm on a folder that nobody touched. -/
theorem tamper_alarm_untouched :
    ¬ ∀ (snapshot : CanonicalAclSnapshot) (after : FileStore String String),
      adminStore.applyTripwireToPath textApi none "C:\\DATA\\" = .ok (snapshot, after) →
        after.checkAclMismatch textApi "C:\\DATA\\" snapshot = .ok false := by
  intro quiet
  obtain ⟨snapshot, after, applied⟩ := applied_adminStore
  have alarm : after.checkAclMismatch textApi "C:\\DATA\\" snapshot = .ok true :=
    checkAclMismatch_of_readable (readable_of_applied applied)
  exact absurd (alarm.symm.trans (quiet snapshot after applied)) (by simp)

end FileStore

end DlpSystem.Agent

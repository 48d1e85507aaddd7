import DlpSystem.Agent.OfflineManager
import Mathlib.Data.List.Infix

/-!
# Provisional classification

`PolicyMapper` and the `ContentClassifier` behind it: how the file monitor classifies a
file without the engine, by the directory and else by the first bytes of its content.

Texts are lowered by ASCII letters only.  No other character lowers to a letter of the
tables here in a place where it would complete a match.
-/

namespace DlpSystem.Agent

open Abac

/-! ## Content -/

/-- A text in lower case. -/
def lowered (text : String) : List Char :=
  text.toList.map Char.toLower

/-- `str::contains`. -/
def containsText (text pattern : List Char) : Bool :=
  decide (pattern <:+: text)

/-- A window of `contains_ssn_pattern`: three, two and four digits. -/
def isSsn : List Char → Bool
  | [a, b, c, sep, d, e, other, f, g, h, i] =>
      (sep = '-' || sep = ' ') && other = sep && [a, b, c, d, e, f, g, h, i].all Char.isDigit
  | _ => false

/-- `contains_ssn_pattern`. -/
def containsSsnPattern (text : List Char) : Bool :=
  text.tails.any fun rest => isSsn (rest.take 11)

/-- A window of the formatted card number: four groups of four digits. -/
def isFormattedCard (window : List Char) : Bool :=
  match window with
  | [a, b, c, d, sep, e, f, g, h, second, i, j, k, l, third, m, n, o, p] =>
      (sep = '-' || sep = ' ') && second = sep && third = sep &&
        [a, b, c, d, e, f, g, h, i, j, k, l, m, n, o, p].all Char.isDigit
  | _ => false

/-- Sixteen digits in a row, after some digits already seen. -/
def hasCardDigits : Nat → List Char → Bool
  | _, [] => false
  | seen, char :: rest =>
      if char.isDigit then seen + 1 ≥ 16 || hasCardDigits (seen + 1) rest
      else hasCardDigits 0 rest

/-- `contains_credit_card_pattern`. -/
def containsCreditCardPattern (text : List Char) : Bool :=
  (text.tails.any fun rest => isFormattedCard (rest.take 19)) || hasCardDigits 0 text

/-- The keyword rules of `DEFAULT_RULES`, in their order. -/
def keywordRules : List (String × Classification) :=
  [("confidential", .T3), ("secret", .T3), ("top secret", .T3), ("internal only", .T2),
    ("do not distribute", .T2), ("internal use", .T2)]

/-- `ContentClassifier::classify`. -/
def classifyContent (text : String) : Classification :=
  if containsSsnPattern text.toList then .T4
  else if containsCreditCardPattern text.toList then .T4
  else
    ((keywordRules.find? fun rule => containsText (lowered text) rule.1.toList).map
      Prod.snd).getD .T1

example : classifyContent "SSN 123-45-6789" = .T4 := by decide +kernel

/-! ## Paths -/

/-- `DEFAULT_SENSITIVE_PREFIXES`. -/
def sensitivePrefixes : List (String × Classification) :=
  [("c:\\restricted\\", .T4), ("c:\\confidential\\", .T3), ("c:\\data\\", .T2),
    ("c:\\public\\", .T1)]

/-- `path_classification`. -/
def pathClassification (path : String) : Classification :=
  ((sensitivePrefixes.find? fun rule => rule.1.toList.isPrefixOf (lowered path)).map
    Prod.snd).getD .T1

/-- The first 8 KiB of the files, as text.  A file that cannot be read, or is empty, has
none. -/
abbrev FileTexts := String → Option String

/-- `content_classification`. -/
def contentClassification (texts : FileTexts) (path : String) : Option Classification :=
  (texts path).map classifyContent

/-- `PolicyMapper::provisional_classification`. -/
def provisionalClassification (texts : FileTexts) (path : String) : Classification :=
  match pathClassification path with
  | .T1 => (contentClassification texts path).getD .T1
  | tier => tier

example : provisionalClassification (fun _ => none) "C:\\Restricted\\a.txt" = .T4 := by
  decide +kernel

end DlpSystem.Agent

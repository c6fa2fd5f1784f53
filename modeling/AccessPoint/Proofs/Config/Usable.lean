import AccessPoint.Proofs.Config
import AccessPoint.Proofs.Log.Level

/-!
# Valid configurations can be used

A configuration is checked once and used later: its type in selections, its level when logging is
set up. Both are read again then, so the check must accept what these readings accept. Said without
the check, a type is usable if it can stand in a list of types as it is (`IsType`), and a level if
some level is denoted (`Log.Level.Denotes`). The check accepts exactly the configurations with both,
of two faults it reports that of the type, and a configuration that it accepts gives a log
configuration whatever the application is called (`valid_iff_usable`).

What the check answers is split at the type. A usable type leaves the level to be checked
(`validate_of_isType`), and any other type is reported whatever the level is
(`validate_of_not_isType`); which of the two wordings it is reported with depends on whether there
is anything but spaces in it. Between them these say what comes of two faults, without a case for
each pair.

That the level is read again with the same answer is not assumed: `LogSettings.toConfig_of_denotes`
starts from the level that the text denotes, and a text denotes no more than one
(`Log.Level.Denotes.unique`).
-/

namespace AccessPoint

open Text (isSpace)
open Log (Level)

variable {c : Config} {type : String} {l : Level}

/-- A type that may be requested: there is something in it, with no space at either end, and no
comma. -/
structure IsType (type : String) : Prop where
  ne_empty : type ≠ ""
  head : ∀ c ∈ type.toList.head?, isSpace c = false
  last : ∀ c ∈ type.toList.getLast?, isSpace c = false
  comma_not_mem : ',' ∉ type.toList

/-- Spaces at the ends are those that trimming would take. -/
theorem isType_iff : IsType type ↔
    type ≠ "" ∧ Text.trimSpace type = type ∧ ',' ∉ type.toList := by
  rw [Text.trimSpace_eq_self_iff]
  exact ⟨fun h ↦ ⟨h.ne_empty, ⟨h.head, h.last⟩, h.comma_not_mem⟩,
    fun ⟨hne, ⟨hhead, hlast⟩, hcomma⟩ ↦ ⟨hne, hhead, hlast, hcomma⟩⟩

namespace Config

/-! ### What the check answers -/

/-- A usable type leaves the level to be checked. -/
theorem validate_of_isType (h : IsType c.apnType) :
    c.validate = (Level.parse c.logging.level).map fun _ ↦ () := by
  obtain ⟨hne, htrim, hcomma⟩ := isType_iff.1 h
  rw [validate, htrim]
  simp [hne, hcomma]

/-- Any other type is reported, whatever the level. -/
theorem validate_of_not_isType (h : ¬IsType c.apnType) :
    c.validate = .error (.config
      (if c.apnType.toList.all isSpace then .emptyType else .compoundType c.apnType)) := by
  have hall : c.apnType.toList.all isSpace ↔ Text.trimSpace c.apnType = "" :=
    List.all_eq_true.trans Text.trimSpace_eq_empty_iff.symm
  rw [isType_iff] at h
  rw [validate]
  by_cases hempty : Text.trimSpace c.apnType = ""
  · rw [if_pos (hall.2 hempty), hempty]
    rfl
  · have hcompound : Text.trimSpace c.apnType ≠ c.apnType ∨
        (Text.trimSpace c.apnType).toList.contains ',' := by
      by_contra hno
      rw [not_or, not_not, List.contains_iff_mem] at hno
      obtain ⟨htrim, hcomma⟩ := hno
      rw [htrim] at hempty hcomma
      exact h ⟨hempty, htrim, hcomma⟩
    rw [if_neg (hall.not.2 hempty), if_neg (by simpa using hempty), if_pos hcompound]

/-- A configuration is valid with a usable type and a text that denotes a level. -/
theorem validate_eq_ok_iff_isType : c.validate = .ok () ↔
    IsType c.apnType ∧ ∃ l, Level.Denotes (Text.trimSpace c.logging.level) l := by
  rw [validate_eq_ok_iff, isType_iff, and_assoc, and_assoc]
  simp only [Level.parse_eq_ok_iff]

end Config

/-- Log settings give the level that their text denotes. -/
theorem LogSettings.toConfig_of_denotes {s : LogSettings}
    (h : Level.Denotes (Text.trimSpace s.level) l) (appName : String) :
    s.toConfig appName = .ok { level := l, json := s.json, fileInfo := false, appName } := by
  rw [toConfig, Level.parse_eq_ok_iff.2 h]
  rfl

/-- **A configuration is valid exactly if it can be used.** Its type is one that may be requested,
and its level denotes one, spaces around it aside. One that is valid, as every one that is read is,
gives a log configuration for every application: with the one level that is denoted, JSON as asked
for, and no places. Where the type is at fault the type is reported, whatever the level, and else
the level, with its text as it was given. -/
theorem Config.valid_iff_usable (c : Config) :
    (c.validate = .ok () ↔
      IsType c.apnType ∧ ∃ l, Level.Denotes (Text.trimSpace c.logging.level) l) ∧
    (∀ s, parse s = .ok c → c.validate = .ok ()) ∧
    (c.validate = .ok () → ∃ l, (∀ m, Level.Denotes (Text.trimSpace c.logging.level) m ↔ m = l) ∧
      ∀ appName, c.logging.toConfig appName =
        .ok { level := l, json := c.logging.json, fileInfo := false, appName }) ∧
    (¬IsType c.apnType → c.validate = .error (.config
      (if c.apnType.toList.all isSpace then .emptyType else .compoundType c.apnType))) ∧
    (IsType c.apnType → (∀ l, ¬Level.Denotes (Text.trimSpace c.logging.level) l) →
      c.validate = .error (.config (.level c.logging.level)) ∧
        (Problem.level c.logging.level).message = "Invalid log level: " ++ c.logging.level) := by
  refine ⟨validate_eq_ok_iff_isType, fun s ↦ validate_of_parse, fun h ↦ ?_,
    validate_of_not_isType, fun htype hlevel ↦ ⟨?_, rfl⟩⟩
  · obtain ⟨-, l, hl⟩ := validate_eq_ok_iff_isType.1 h
    refine ⟨l, fun m ↦ ⟨fun hm ↦ hm.unique hl, ?_⟩, LogSettings.toConfig_of_denotes hl⟩
    rintro rfl
    exact hl
  · rw [validate_of_isType htype, Level.parse_eq_error_iff.2 ⟨hlevel, rfl⟩]
    rfl

/-- A configuration read from a text, with a numeral for its level; one with two faults, of which
the type is reported; and one whose level has a letter outside ASCII, which has no other case. -/
theorem Config.valid_iff_usable_signed_numeral :
    let c : Config := { apnName := some "", logging := { level := "\u00A0+0003 ", json := true } }
    let compound : Config := { apnType := "mms,supl", logging := { level := "loud" } }
    let dotless : Config := { logging := { level := " \u0131nfo" } }
    parse "apn_name = \"\"\nlogging = [\"\u00A0+0003 \", true]" = .ok c ∧ c.validate = .ok () ∧
      c.logging.toConfig "mms" = .ok ⟨.info, true, false, "mms"⟩ ∧
      compound.validate = .error (.config (.compoundType "mms,supl")) ∧
      IsType dotless.apnType ∧ dotless.validate = .error (.config (.level " \u0131nfo")) := by
  intro c compound dotless
  have hparse : parse "apn_name = \"\"\nlogging = [\"\u00A0+0003 \", true]" = .ok c := by
    decide +kernel
  have hvalid : c.validate = .ok () := (valid_iff_usable c).2.1 _ hparse
  have hinfo : Level.Denotes (Text.trimSpace c.logging.level) .info :=
    Level.ofText?_eq_some_iff.1 (by decide +kernel)
  have hdotless : IsType dotless.apnType := isType_iff.2 (by decide +kernel)
  have hnone : ∀ l, ¬Level.Denotes (Text.trimSpace dotless.logging.level) l := by
    intro l hl
    have hread : Level.ofText? (Text.trimSpace dotless.logging.level) = none := by decide +kernel
    rw [Level.ofText?_eq_some_iff.2 hl] at hread
    cases hread
  obtain ⟨-, -, hlog, -, -⟩ := valid_iff_usable c
  obtain ⟨l, honly, hconfig⟩ := hlog hvalid
  obtain rfl := (honly .info).1 hinfo
  refine ⟨hparse, hvalid, hconfig "mms", ?_, hdotless, ?_⟩
  · rw [(valid_iff_usable compound).2.2.2.1 fun h ↦ h.comma_not_mem (by decide),
      if_neg (by decide +kernel)]
  · exact ((valid_iff_usable dotless).2.2.2.2 hdotless hnone).1

end AccessPoint

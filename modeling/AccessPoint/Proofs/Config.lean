import AccessPoint.Config.Toml
import AccessPoint.Proofs.Table
import AccessPoint.Proofs.Types

/-!
# Valid configurations

A valid configuration names a type without a comma and without spaces at its ends, and a log level
(`validate_eq_ok_iff`). Every configuration that is read from a text is valid (`validate_of_parse`),
since reading ends with the check.

Entries in a row's list of types are rid of blanks, which are other characters than spaces: U+0001
is a blank and no space. A valid type with such a blank at an end is therefore no entry of any list,
and it is found wherever it is listed exactly if trimming leaves it as it is or makes it the
wildcard (`listed_iff_of_valid`). The lists are those with the type at some `Types.Place`: among any
other entries, and with any blanks around it. That one list without other entries is among them
gives the one direction, `Types.Place.serves_fill_iff` for the place at hand the other.

The check goes by spaces and the lists by blanks. Where the two part is shown by
`not_listed_control_character`, from the text of a configuration to the answer of a lookup.
-/

namespace AccessPoint.Config

variable {c : Config} {s : String}

/-- The check passes with a type that can stand in a list as it is, up to spaces, and a text that is
read as a level. -/
theorem validate_eq_ok_iff :
    c.validate = .ok () ↔ c.apnType ≠ "" ∧ Text.trimSpace c.apnType = c.apnType ∧
      ',' ∉ c.apnType.toList ∧ ∃ level, Log.Level.parse c.logging.level = .ok level := by
  rw [validate]
  by_cases hspace : Text.trimSpace c.apnType = c.apnType
  · rw [hspace]
    by_cases hempty : c.apnType = ""
    · simp [hempty]
    · by_cases hcomma : ',' ∈ c.apnType.toList
      · simp [hempty, hcomma]
      · cases Log.Level.parse c.logging.level <;> simp [hempty, hcomma, Except.map]
  · refine iff_of_false ?_ fun h ↦ hspace h.2.1
    by_cases hempty : Text.trimSpace c.apnType = "" <;> simp [hspace, hempty]

/-- A configuration that is read is valid. -/
theorem validate_of_parse (h : parse s = .ok c) : c.validate = .ok () := by
  rw [parse] at h
  split at h
  · next d _ =>
    rw [validated] at h
    cases hd : d.validate with
    | error e =>
      rw [hd] at h
      cases h
    | ok _ =>
      rw [hd] at h
      cases h
      exact hd
  · cases h

/-- **A valid type is found in every list that holds it exactly if it survives trimming**, or if
trimming makes it the wildcard. A configuration that is read from a text is valid. -/
theorem listed_iff_of_valid (c : Config) :
    (∀ s, parse s = .ok c → c.validate = .ok ()) ∧
      (c.validate = .ok () →
        ((∀ p : Types.Place, Types.serves (some (p.fill c.apnType)) c.apnType) ↔
          Text.trim c.apnType = c.apnType ∨ Text.trim c.apnType = Types.wildcard)) := by
  refine ⟨fun s ↦ validate_of_parse, fun h ↦ ?_⟩
  obtain ⟨hne, -, hcomma, -⟩ := validate_eq_ok_iff.1 h
  constructor
  · intro hlisted
    rcases (Types.Place.alone.serves_fill_iff hne hcomma).1 (hlisted .alone) with ⟨t, ht, -⟩ | htrim
    · cases ht
    · exact htrim
  · intro htrim p
    exact (p.serves_fill_iff hne hcomma).2 (.inr htrim)

/-- The default type among others, with blanks around it. -/
theorem listed_default_type :
    let c : Config := {}
    c.validate = .ok () ∧ Text.trim c.apnType = c.apnType ∧
      Types.serves (some "default,\t mms\x00,, supl") c.apnType := by
  intro c
  have hvalid : c.validate = .ok () := by decide +kernel
  have htrim : Text.trim c.apnType = c.apnType := by decide +kernel
  let p : Types.Place :=
    { before := ["default"], after := ["", " supl"], left := "\t ", right := "\x00"
      comma_not_mem := by simp
      isBlank_left := by simp [Text.isBlank]
      isBlank_right := by simp [Text.isBlank] }
  have hfill : p.fill c.apnType = "default,\t mms\x00,, supl" := by decide +kernel
  rw [← hfill]
  exact ⟨hvalid, htrim, ((listed_iff_of_valid c).2 hvalid).2 (.inl htrim) p⟩

/-- A control character in front of a type makes a valid configuration, for which no row is found
that lists the type. -/
theorem not_listed_control_character :
    let c : Config := { apnType := "\x01mms" }
    let row := (Record.empty.put .type c.apnType).put .mmsc "http://m/"
    parse "apn_type = \"\\u0001mms\"" = .ok c ∧ c.validate = .ok () ∧
      ¬Types.serves (some (Types.Place.alone.fill c.apnType)) c.apnType ∧
      (load c (.ofTable (Table.empty.insert 1 row)) none 1 "req").result = .error .noValidApn := by
  decide +kernel

end AccessPoint.Config

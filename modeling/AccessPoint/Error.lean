import AccessPoint.Text.Quoted

/-!
# Errors

What can go wrong between a configuration and the settings for a message. An error records its
cause; `Error.message?` is the wording. Errors of document syntax and of file access have no wording
of their own.
-/

namespace AccessPoint

/-- What is wrong with a configuration, or with an attempt to apply it. -/
inductive Problem
  /-- The requested APN type is empty or consists of spaces. -/
  | emptyType
  /-- The requested APN type holds a comma, or a space at either end. -/
  | compoundType (type : String)
  /-- The text is no log level. -/
  | level (text : String)
  /-- Logging is installed already. -/
  | installed
  /-- A problem in the caller's words. -/
  | stated (text : String)
  deriving DecidableEq, Repr

/-- The wording of a problem. -/
def Problem.message : Problem → String
  | emptyType => "apn_type must not be empty"
  | compoundType type =>
    "apn_type must be a single type without whitespace: " ++ Text.quote type
  | level text => "Invalid log level: " ++ text
  | installed =>
    "Failed to install logging: a global default trace dispatcher has already been set"
  | stated text => text

/-- Why a file could not be read as text. -/
inductive FileFault
  | notFound
  /-- The content is not UTF-8. -/
  | invalidData
  deriving DecidableEq, Repr

/-- Why there are no settings. -/
inductive Error
  /-- No candidate serves the requested type and has an MMSC. -/
  | noValidApn
  /-- The deciding candidate has an MMSC that is no URI reference. -/
  | invalidMmscUrl (url : String)
  | config (problem : Problem)
  /-- The source of candidates failed. -/
  | source (text : String)
  /-- A document is not well formed or not of the expected shape. -/
  | document
  | file (fault : FileFault)
  deriving DecidableEq, Repr

namespace Error

/-- The wording of an error, where it has one. -/
def message? : Error → Option String
  | noValidApn => some "Can not find valid APN"
  | invalidMmscUrl url => some ("Invalid MMSC url " ++ url)
  | config problem => some ("Configuration error: " ++ problem.message)
  | source text => some ("APN source error: " ++ text)
  | document => none
  | file _ => none

/-- Whether the error comes from the selection among candidates, and not from configuration,
documents or the source. -/
def isResolution : Error → Bool
  | noValidApn | invalidMmscUrl _ => true
  | _ => false

end Error

end AccessPoint

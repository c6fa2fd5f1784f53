/-!
# TOML values

The tree of a TOML document. Tables keep their entries in the order in which they were defined, each
key once. The value of a float or of a moment in time is needed by no reader of this library, so the
tree records only that there is one.
-/

namespace AccessPoint.Toml

/-- A value in a TOML document. -/
inductive Value
  | string (s : String)
  | integer (n : Int)
  | float
  | boolean (b : Bool)
  /-- A date, a time, or both. -/
  | moment
  | array (items : List Value)
  | table (entries : List (String × Value))
  deriving Repr, Inhabited

mutual

/-- Whether two values are the same. -/
def Value.decEq : (v w : Value) → Decidable (v = w)
  | .string s, w => match w with
    | .string t => decidable_of_iff (s = t) (by simp)
    | .integer _ | .float | .boolean _ | .moment | .array _ | .table _ => isFalse nofun
  | .integer m, w => match w with
    | .integer n => decidable_of_iff (m = n) (by simp)
    | .string _ | .float | .boolean _ | .moment | .array _ | .table _ => isFalse nofun
  | .float, w => match w with
    | .float => isTrue rfl
    | .string _ | .integer _ | .boolean _ | .moment | .array _ | .table _ => isFalse nofun
  | .boolean b, w => match w with
    | .boolean c => decidable_of_iff (b = c) (by simp)
    | .string _ | .integer _ | .float | .moment | .array _ | .table _ => isFalse nofun
  | .moment, w => match w with
    | .moment => isTrue rfl
    | .string _ | .integer _ | .float | .boolean _ | .array _ | .table _ => isFalse nofun
  | .array vs, w => match w with
    | .array ws =>
      have := Value.decEqItems vs ws
      decidable_of_iff (vs = ws) (by simp)
    | .string _ | .integer _ | .float | .boolean _ | .moment | .table _ => isFalse nofun
  | .table es, w => match w with
    | .table fs =>
      have := Value.decEqEntries es fs
      decidable_of_iff (es = fs) (by simp)
    | .string _ | .integer _ | .float | .boolean _ | .moment | .array _ => isFalse nofun

/-- Whether the items of two arrays are the same. -/
def Value.decEqItems : (vs ws : List Value) → Decidable (vs = ws)
  | [], [] => isTrue rfl
  | [], _ :: _ | _ :: _, [] => isFalse nofun
  | v :: vs, w :: ws =>
    have := v.decEq w
    have := Value.decEqItems vs ws
    decidable_of_iff (v = w ∧ vs = ws) (by simp)

/-- Whether the entries of two tables are the same. -/
def Value.decEqEntries : (es fs : List (String × Value)) → Decidable (es = fs)
  | [], [] => isTrue rfl
  | [], _ :: _ | _ :: _, [] => isFalse nofun
  | (k, v) :: es, (l, w) :: fs =>
    have := v.decEq w
    have := Value.decEqEntries es fs
    decidable_of_iff ((k = l ∧ v = w) ∧ es = fs) (by simp)

end

instance : DecidableEq Value := Value.decEq

/-- The entries of the table that a document is. -/
abbrev Tree := List (String × Value)

namespace Value

/-- The text of a string. -/
def string? : Value → Option String
  | string s => some s
  | _ => none

/-- The truth value of a boolean. -/
def boolean? : Value → Option Bool
  | boolean b => some b
  | _ => none

/-- The value of an integer from `least` to `greatest`. -/
def integer? (least greatest : Int) : Value → Option Int
  | integer n => if least ≤ n ∧ n ≤ greatest then some n else none
  | _ => none

/-- The items of an array. -/
def array? : Value → Option (List Value)
  | array items => some items
  | _ => none

/-- The entries of a table. -/
def table? : Value → Option Tree
  | table entries => some entries
  | _ => none

/-- What `f` reads from a value that may be absent, or a default where it is. -/
def orDefault (default : α) (f : Value → Option α) : Option Value → Option α
  | none => some default
  | some v => f v

end Value

end AccessPoint.Toml

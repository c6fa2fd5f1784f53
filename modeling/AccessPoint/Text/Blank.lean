/-!
# Blank characters and trimming

Two notions of "nothing to see" are used on APN data.

* A *blank* is U+0020 or any character below it: the space and the ASCII controls. Values of
  records and queries are trimmed of blanks, so U+00A0 and its like survive.
* A *space* is a character with the Unicode property `White_Space`. Configuration values are
  trimmed of spaces.

`strip` is the trimming of a list of characters for either notion, `trim` and `trimSpace` are its
two instances on text, and `present?` is the reading of an optional value under which absent,
empty and blank are one.
-/

namespace AccessPoint.Text

/-- The space and every character below it. -/
def isBlank (c : Char) : Bool := c.toNat ≤ 0x20

/-- Unicode property `White_Space`. -/
def isSpace (c : Char) : Bool :=
  let n := c.toNat
  (0x09 ≤ n && n ≤ 0x0D) || n == 0x20 || n == 0x85 || n == 0xA0 || n == 0x1680 ||
    (0x2000 ≤ n && n ≤ 0x200A) || n == 0x2028 || n == 0x2029 || n == 0x202F || n == 0x205F ||
    n == 0x3000

/-- Unicode category `Cc`: the C0 controls, delete and the C1 controls. -/
def isControl (c : Char) : Bool :=
  let n := c.toNat
  n ≤ 0x1F || (0x7F ≤ n && n ≤ 0x9F)

/-- The characters of `cs` without those of the class `p` at either end. -/
def strip (p : Char → Bool) (cs : List Char) : List Char :=
  ((cs.dropWhile p).reverse.dropWhile p).reverse

/-- The text without the blanks at either end. -/
def trim (s : String) : String := String.ofList (strip isBlank s.toList)

/-- The text without the Unicode spaces at either end. -/
def trimSpace (s : String) : String := String.ofList (strip isSpace s.toList)

/-- An optional value trimmed of blanks, if anything is left of it. Absent, empty and blank values
all read as nothing. -/
def present? (value : Option String) : Option String :=
  (value.map trim).filter (· ≠ "")

/-! ### Laws -/

section Strip

variable {p : Char → Bool} {cs pad : List Char}

/-- Characters of the class in front of a list are stripped. -/
theorem strip_append_left (h : ∀ c ∈ pad, p c) : strip p (pad ++ cs) = strip p cs := by
  rw [strip, strip, List.dropWhile_append_of_pos h]

/-- Characters of the class behind a list are stripped. -/
theorem strip_append_right (h : ∀ c ∈ pad, p c) : strip p (cs ++ pad) = strip p cs := by
  have h' : ∀ c ∈ pad.reverse, p c := fun c hc ↦ h c (List.mem_reverse.1 hc)
  rw [strip, strip, List.dropWhile_append]
  split <;> rename_i hcs
  · have hd : pad.dropWhile p = [] := by
      rw [← List.append_nil pad, List.dropWhile_append_of_pos h, List.dropWhile_nil]
    rw [List.isEmpty_iff.1 hcs, hd]
  · rw [List.reverse_append, List.dropWhile_append_of_pos h']

end Strip

@[simp] theorem present?_none : present? none = none := rfl

@[simp] theorem present?_empty : present? (some "") = none := by decide

/-- What is present is not empty. -/
theorem ne_empty_of_present? {v : Option String} {s : String} (h : present? v = some s) :
    s ≠ "" := by
  simpa using (Option.filter_eq_some_iff.1 h).2

end AccessPoint.Text

import AccessPoint.Json.Printer
import AccessPoint.Json.Reader
import Mathlib.Data.List.Basic
import Mathlib.Data.List.TakeDrop
import Mathlib.Tactic.IntervalCases

/-!
# Reading back what is printed

A tree whose numbers are natural numbers is read back from its compact text (`parse_render`). The
texts of its strings are arbitrary, and a string without a text is read back as well: it stands for
an escape of half a surrogate pair, for which there is no character.

The reader goes along the text, the printer along the tree, and the two are brought together from
the inside:

* a character is printed in one of three ways (`escapeChar_cases`), each of which is read as its
  code point (`units?_escapeChar`), and code points of characters never pair up
  (`not_isHigh_and_not_isLow`), so a string is read back from between its quotes
  (`exists_renderText_eq`);
* a number is read up to the first character that is no digit, which must therefore be known:
  `Parted` names the three characters that may follow an item or a member, and `numeral?_repr` reads
  a number in front of them;
* a value is read back in front of whatever may follow it inside a larger one (`ReadsBack`). The
  lists of items and members are read back from this for any reader of their values
  (`items_renderItems`, `members_renderMembers`), so that the recursion of the reader is tied only
  once, in `readsBack_value`.

The reader allows for as many brackets and entries as the length of the text bounds. The induction
of `readsBack_value` is over this number, and `length_le_renderItems` and `length_le_renderMembers`
say that what is inside a value has a shorter text than the value.
-/

namespace AccessPoint.Json

/-! ### Strings -/

/-- A control character is printed by its number. -/
theorem hexNumber?_unicodeEscape : ∀ n < 0x20, ∃ x y z w,
    unicodeEscape (Char.ofNat n) = ['\\', 'u', x, y, z, w] ∧
      Text.hexNumber? [x, y, z, w] = some n := by
  intro n hn
  refine ⟨'0', '0', Nat.digitChar (n / 16), Nat.digitChar (n % 16), ?_⟩
  revert n
  decide

/-- A character is printed by a letter that stands for it, by its number or as itself. -/
theorem escapeChar_cases (c : Char) :
    (∃ e, e ≠ 'u' ∧ shortEscape? e = some c ∧ escapeChar c = ['\\', e]) ∨
      (∃ x y z w, Text.hexNumber? [x, y, z, w] = some c.toNat ∧
        escapeChar c = ['\\', 'u', x, y, z, w]) ∨
      (c ≠ '\x22' ∧ c ≠ '\\' ∧ ¬c.toNat < 0x20 ∧ escapeChar c = [c]) := by
  rw [escapeChar]
  split_ifs with h₁ h₂ h₃ h₄ h₅ h₆ h₇ h₈
  · exact .inl ⟨'\x22', by decide, by rw [h₁]; decide, rfl⟩
  · exact .inl ⟨'\\', by decide, by rw [h₂]; decide, rfl⟩
  · exact .inl ⟨'b', by decide, h₃ ▸ by decide, rfl⟩
  · exact .inl ⟨'f', by decide, h₄ ▸ by decide, rfl⟩
  · exact .inl ⟨'n', by decide, h₅ ▸ by decide, rfl⟩
  · exact .inl ⟨'r', by decide, h₆ ▸ by decide, rfl⟩
  · exact .inl ⟨'t', by decide, h₇ ▸ by decide, rfl⟩
  · obtain ⟨x, y, z, w, heq, hn⟩ := hexNumber?_unicodeEscape c.toNat h₈
    rw [Char.ofNat_toNat] at heq
    exact .inr (.inl ⟨x, y, z, w, hn, heq⟩)
  · exact .inr (.inr ⟨h₁, h₂, h₈, rfl⟩)

/-- What stands for a character is read as the character. -/
theorem units?_escapeChar (c : Char) (cs : List Char) :
    units? (escapeChar c ++ cs) = (units? cs).map fun (us, rest) ↦ (c.toNat :: us, rest) := by
  obtain ⟨e, hu, he, heq⟩ | ⟨x, y, z, w, hn, heq⟩ | ⟨hq, hb, hc, heq⟩ := escapeChar_cases c
  · simp [heq, units?, he, hu, Option.map_eq_bind]
  · simp [heq, units?, hn, Option.map_eq_bind]
  · simp [heq, units?, hq, hb, hc]

/-- A printed string is read character by character up to its closing quote. -/
theorem units?_flatMap_escapeChar (cs rest : List Char) :
    units? (cs.flatMap escapeChar ++ '\x22' :: rest) = some (cs.map Char.toNat, rest) := by
  induction cs with
  | nil => simp [units?]
  | cons c cs ih => simp [List.append_assoc, units?_escapeChar, ih]

/-- No character is half of a surrogate pair. -/
theorem not_isHigh_and_not_isLow (c : Char) : isHigh c.toNat = false ∧ isLow c.toNat = false := by
  have hvalid : c.toNat < 0xD800 ∨ 0xDFFF < c.toNat ∧ c.toNat < 0x110000 := c.valid
  simp only [isHigh, isLow, Bool.and_eq_false_iff, decide_eq_false_iff_not]
  omega

/-- A code point of a character stands for that character alone. -/
theorem decodeUnits?_cons (c : Char) (us : List Nat) :
    decodeUnits? (c.toNat :: us) = (decodeUnits? us).map (c :: ·) := by
  obtain ⟨hhigh, hlow⟩ := not_isHigh_and_not_isLow c
  cases us with
  | nil => simp [decodeUnits?, hhigh, hlow]
  | cons u us => simp [decodeUnits?, hhigh, hlow]

theorem decodeUnits?_map_toNat (cs : List Char) : decodeUnits? (cs.map Char.toNat) = some cs := by
  induction cs with
  | nil => rfl
  | cons c cs ih => rw [List.map_cons, decodeUnits?_cons, ih, Option.map_some]

/-- A string is read back from between its quotes, also one without a text. -/
theorem exists_renderText_eq (text : Option String) : ∃ cs, renderText text = '\x22' :: cs ∧
    ∀ rest, stringBody? (cs ++ rest) = some (text, rest) := by
  cases text with
  | none => exact ⟨_, rfl, fun rest ↦ rfl⟩
  | some s =>
    refine ⟨s.toList.flatMap escapeChar ++ ['\x22'], rfl, fun rest ↦ ?_⟩
    rw [List.append_assoc, List.singleton_append, stringBody?, units?_flatMap_escapeChar]
    simp [decodeUnits?_map_toNat]

/-! ### Numbers -/

/-- The characters that may follow an item or a member. -/
def Parted (rest : List Char) : Prop := ∀ c ∈ rest.head?, c = ',' ∨ c = ']' ∨ c = '\x7d'

/-- Digits are read up to the first character that is none. -/
theorem digits?_append {ds rest : List Char} (hne : ds ≠ []) (hds : ∀ d ∈ ds, d.isDigit)
    (hrest : ∀ c ∈ rest.head?, c.isDigit = false) : digits? (ds ++ rest) = some (ds, rest) := by
  have hspan : (ds ++ rest).span Char.isDigit = (ds, rest) := by
    rw [List.span_eq_takeWhile_dropWhile, List.takeWhile_append_of_pos hds,
      List.dropWhile_append_of_pos hds]
    cases rest with
    | nil => simp
    | cons c rest => simp [hrest c rfl]
  rw [digits?, hspan]
  simp [hne]

/-- The digits of a number other than zero begin with none. -/
theorem head?_toDigits_ne {n : Nat} (hn : n ≠ 0) : (Nat.toDigits 10 n).head? ≠ some '0' := by
  induction n using Nat.strongRecOn with
  | ind n ih =>
    by_cases h : n < 10
    · rw [Nat.toDigits_of_lt_base h]
      interval_cases n <;> simp_all
    · rw [Nat.toDigits_of_base_le (by decide) (by omega),
        List.head?_append_of_ne_nil _ Nat.toDigits_ne_nil]
      exact ih _ (by omega) (by omega)

theorem exists_toDigits_eq_cons (n : Nat) :
    ∃ d ds, Nat.toDigits 10 n = d :: ds ∧ d.isDigit := by
  obtain ⟨d, ds, heq⟩ := List.exists_cons_of_ne_nil (Nat.toDigits_ne_nil (n := n) (b := 10))
  have hmem : d ∈ Nat.toDigits 10 n := heq ▸ List.mem_cons_self
  exact ⟨d, ds, heq, Nat.isDigit_of_mem_toDigits (by decide) (by decide) hmem⟩

theorem ne_of_isDigit {c d : Char} (hd : d.isDigit) (hc : c.isDigit = false) : d ≠ c := by
  rintro rfl
  rw [hd] at hc
  cases hc

/-- A number in decimal has no leading zeros, so all of it is read as the whole part. -/
theorem wholePart?_toDigits (n : Nat) {rest : List Char}
    (hrest : ∀ c ∈ rest.head?, c.isDigit = false) :
    wholePart? (Nat.toDigits 10 n ++ rest) = some (Nat.toDigits 10 n, rest) := by
  by_cases hn : n = 0
  · subst hn
    rfl
  · have hdigits : digits? (Nat.toDigits 10 n ++ rest) = some (Nat.toDigits 10 n, rest) :=
      digits?_append Nat.toDigits_ne_nil
        (fun d ↦ Nat.isDigit_of_mem_toDigits (by decide) (by decide)) hrest
    have hhead := head?_toDigits_ne hn
    obtain ⟨d, ds, heq, -⟩ := exists_toDigits_eq_cons n
    rw [heq] at hdigits hhead ⊢
    have hd : d ≠ '0' := fun h ↦ hhead (congrArg some h)
    rwa [List.cons_append, wholePart?]
    simp [hd]

/-- A natural number is read back from its decimal text. -/
theorem numeral?_repr (n : Nat) {rest : List Char} (hrest : Parted rest) :
    numeral? ((Nat.repr n).toList ++ rest) = some (ofNat n, rest) := by
  have hnone : ∀ c ∈ rest.head?, c.isDigit = false := by
    intro c hc
    obtain rfl | rfl | rfl := hrest c hc <;> rfl
  have hwhole := wholePart?_toDigits n hnone
  have hfraction : fraction? rest = some ([], rest) := by
    cases rest with
    | nil => rfl
    | cons c rest => obtain rfl | rfl | rfl := hrest c rfl <;> rfl
  have hexponent : exponent? rest = some ([], rest) := by
    cases rest with
    | nil => rfl
    | cons c rest => obtain rfl | rfl | rfl := hrest c rfl <;> rfl
  rw [Nat.toList_repr, numeral?]
  · simp [hwhole, hfraction, hexponent, ofNat, Nat.repr_eq_ofList_toDigits]
  · obtain ⟨d, ds, heq, hd⟩ := exists_toDigits_eq_cons n
    simp [heq, ne_of_isDigit hd]

/-! ### Values -/

/-- The trees whose numbers are natural numbers. -/
inductive Natural : Json → Prop
  | null : Natural null
  | boolean (b : Bool) : Natural (boolean b)
  | number (n : Nat) : Natural (ofNat n)
  | string (text : Option String) : Natural (string text)
  | array {vs : List Json} (h : ∀ v ∈ vs, Natural v) : Natural (array vs)
  | object {ms : List (Option String × Json)} (h : ∀ m ∈ ms, Natural m.2) : Natural (object ms)

theorem skipGap_cons {c : Char} (h : isGap c = false) (cs : List Char) :
    skipGap (c :: cs) = c :: cs := by simp [skipGap, h]

/-- The text of a value begins neither with a gap nor as the end of an array. -/
theorem exists_renderChars_eq_cons {v : Json} (h : Natural v) :
    ∃ c cs, renderChars v = c :: cs ∧ isGap c = false ∧ c ≠ ']' := by
  cases h with
  | null => exact ⟨_, _, rfl, by decide⟩
  | boolean b => cases b <;> exact ⟨_, _, rfl, by decide⟩
  | number n =>
    obtain ⟨d, ds, heq, hd⟩ := exists_toDigits_eq_cons n
    refine ⟨d, ds, ?_, ?_, ne_of_isDigit hd rfl⟩
    · rw [ofNat, renderChars, Nat.toList_repr, heq]
    · simp [isGap, ne_of_isDigit hd]
  | string text =>
    obtain ⟨cs, heq, -⟩ := exists_renderText_eq text
    exact ⟨_, _, heq, by decide⟩
  | array h => exact ⟨_, _, rfl, by decide⟩
  | object h => exact ⟨_, _, rfl, by decide⟩

/-- A reader reads a value back from its text, whatever may follow it there. -/
def ReadsBack (item : Text.Reader Json) (v : Json) : Prop :=
  ∀ rest, Parted rest → item (renderChars v ++ rest) = some (v, rest)

/-- The items of an array are read back up to the closing bracket if each of them is read back. -/
theorem items_renderItems {item : Text.Reader Json} (rest : List Char) :
    ∀ {n : Nat} {vs : List Json}, vs ≠ [] → vs.length ≤ n → (∀ v ∈ vs, ReadsBack item v) →
      items item n (renderItems vs ++ ']' :: rest) = some (vs, rest)
  | 0, vs, hne, hn, _ => absurd (List.length_eq_zero_iff.1 (Nat.le_zero.1 hn)) hne
  | n + 1, [v], _, _, h => by
    have hv := h v List.mem_cons_self (']' :: rest) (by simp [Parted])
    simp [items, renderItems, hv, skipGap_cons, isGap]
  | n + 1, v :: w :: vs, _, hn, h => by
    have hv := h v List.mem_cons_self (',' :: (renderItems (w :: vs) ++ ']' :: rest))
      (by simp [Parted])
    have ih := items_renderItems rest (List.cons_ne_nil w vs) (Nat.le_of_succ_le_succ hn)
      fun v hv ↦ h v (List.mem_cons_of_mem _ hv)
    simp [items, renderItems, hv, skipGap_cons, isGap, ih]

/-- The members of an object are read back with their names if each of their values is read back. -/
theorem members_renderMembers {item : Text.Reader Json} (rest : List Char) :
    ∀ {n : Nat} {ms : List (Option String × Json)}, ms ≠ [] → ms.length ≤ n →
      (∀ m ∈ ms, ReadsBack item m.2) →
      members item n (renderMembers ms ++ '\x7d' :: rest) = some (ms, rest)
  | 0, ms, hne, hn, _ => absurd (List.length_eq_zero_iff.1 (Nat.le_zero.1 hn)) hne
  | n + 1, [(name, v)], _, _, h => by
    obtain ⟨cs, heq, hname⟩ := exists_renderText_eq name
    have hv := h (name, v) List.mem_cons_self ('\x7d' :: rest) (by simp [Parted])
    simp [members, renderMembers, heq, hname, hv, skipGap_cons, isGap, Text.mark?]
  | n + 1, (name, v) :: m :: ms, _, hn, h => by
    obtain ⟨cs, heq, hname⟩ := exists_renderText_eq name
    have hv := h (name, v) List.mem_cons_self (',' :: (renderMembers (m :: ms) ++ '\x7d' :: rest))
      (by simp [Parted])
    have ih := members_renderMembers rest (List.cons_ne_nil m ms) (Nat.le_of_succ_le_succ hn)
      fun m hm ↦ h m (List.mem_cons_of_mem _ hm)
    simp [members, renderMembers, heq, hname, hv, skipGap_cons, isGap, Text.mark?, ih]

theorem renderItems_eq_intercalate : ∀ vs,
    renderItems vs = [','].intercalate (vs.map renderChars)
  | [] => rfl
  | [v] => by simp [renderItems]
  | v :: w :: vs => by simp [renderItems, renderItems_eq_intercalate (w :: vs)]

theorem renderMembers_eq_intercalate : ∀ ms, renderMembers ms =
    [','].intercalate (ms.map fun m ↦ renderText m.1 ++ ':' :: renderChars m.2)
  | [] => rfl
  | [m] => by simp [renderMembers]
  | (name, v) :: m :: ms => by simp [renderMembers, renderMembers_eq_intercalate (m :: ms)]

/-- A list of entries is no shorter than their number, nor than any of them. -/
theorem le_length_intercalate {ps : List (List Char)} (h : ∀ p ∈ ps, p ≠ []) :
    ps.length ≤ ([','].intercalate ps).length ∧
      ∀ p ∈ ps, p.length ≤ ([','].intercalate ps).length := by
  induction ps with
  | nil => simp
  | cons p ps ih =>
    obtain ⟨hp, hps⟩ := List.forall_mem_cons.1 h
    obtain ⟨hlen, hmem⟩ := ih hps
    have hpos := List.length_pos_iff.2 hp
    cases ps with
    | nil => simpa using Nat.succ_le_of_lt hpos
    | cons q ps =>
      simp only [List.intercalate_cons_cons, List.length_append, List.length_cons,
        List.forall_mem_cons] at *
      refine ⟨by omega, by omega, by omega, fun r hr ↦ ?_⟩
      have := hmem.2 r hr
      omega

/-- The items of an array begin as their first does. -/
theorem exists_renderItems_eq_cons {vs : List Json} (hne : vs ≠ []) (h : ∀ v ∈ vs, Natural v) :
    ∃ c cs, renderItems vs = c :: cs ∧ isGap c = false ∧ c ≠ ']' := by
  cases vs with
  | nil => exact absurd rfl hne
  | cons v vs =>
    obtain ⟨c, cs, heq, hgap, hc⟩ := exists_renderChars_eq_cons (h v List.mem_cons_self)
    cases vs with
    | nil => exact ⟨c, cs, by rw [renderItems, heq], hgap, hc⟩
    | cons w vs => exact ⟨c, _, by rw [renderItems, heq, List.cons_append], hgap, hc⟩

/-- The members of an object begin with the quote of a name. -/
theorem exists_renderMembers_eq_cons {ms : List (Option String × Json)} (hne : ms ≠ []) :
    ∃ cs, renderMembers ms = '\x22' :: cs := by
  match ms with
  | [] => exact absurd rfl hne
  | [(name, v)] =>
    obtain ⟨cs, heq, -⟩ := exists_renderText_eq name
    exact ⟨_, by rw [renderMembers, heq, List.cons_append]⟩
  | (name, v) :: m :: ms =>
    obtain ⟨cs, heq, -⟩ := exists_renderText_eq name
    exact ⟨_, by rw [renderMembers, heq, List.cons_append, List.cons_append]⟩

/-- The text of the items allows for their number and for each of them. -/
theorem length_le_renderItems {vs : List Json} (h : ∀ v ∈ vs, Natural v) :
    vs.length ≤ (renderItems vs).length ∧
      ∀ v ∈ vs, (renderChars v).length ≤ (renderItems vs).length := by
  have hne : ∀ p ∈ vs.map renderChars, p ≠ [] := by
    simp only [List.forall_mem_map]
    intro v hv
    obtain ⟨c, cs, heq, -⟩ := exists_renderChars_eq_cons (h v hv)
    simp [heq]
  have hle := le_length_intercalate hne
  rw [← renderItems_eq_intercalate, List.length_map, List.forall_mem_map] at hle
  exact hle

/-- The text of the members allows for their number and for each of their values. -/
theorem length_le_renderMembers (ms : List (Option String × Json)) :
    ms.length ≤ (renderMembers ms).length ∧
      ∀ m ∈ ms, (renderChars m.2).length ≤ (renderMembers ms).length := by
  have hne : ∀ p ∈ ms.map fun m ↦ renderText m.1 ++ ':' :: renderChars m.2, p ≠ [] := by
    simp only [List.forall_mem_map]
    exact fun m _ ↦ List.append_ne_nil_of_right_ne_nil _ (List.cons_ne_nil _ _)
  obtain ⟨hlen, hmem⟩ := le_length_intercalate hne
  rw [← renderMembers_eq_intercalate, List.length_map] at hlen
  rw [← renderMembers_eq_intercalate, List.forall_mem_map] at hmem
  refine ⟨hlen, fun m hm ↦ ?_⟩
  have := hmem m hm
  simp only [List.length_append, List.length_cons] at this
  omega

/-- One level of the reader is spent on the brackets of an array. -/
theorem value_array {n : Nat} {c : Char} {cs rest : List Char} {vs : List Json}
    (hgap : isGap c = false) (hc : c ≠ ']')
    (h : items (value n) n (c :: cs) = some (vs, rest)) :
    value (n + 1) ('[' :: c :: cs) = some (array vs, rest) := by
  simp [value, skipGap_cons, isGap, skipGap_cons hgap, hc, h]

theorem value_object {n : Nat} {c : Char} {cs rest : List Char} {ms : List (Option String × Json)}
    (hgap : isGap c = false) (hc : c ≠ '\x7d')
    (h : members (value n) n (c :: cs) = some (ms, rest)) :
    value (n + 1) ('\x7b' :: c :: cs) = some (object ms, rest) := by
  simp [value, skipGap_cons, isGap, skipGap_cons hgap, hc, h]

/-- A value is read back by any reader that allows for the length of its text. -/
theorem readsBack_value {v : Json} (hv : Natural v) {n : Nat} (hn : (renderChars v).length < n) :
    ReadsBack (value n) v := by
  -- one level of the reader for one of the tree: what is inside has a shorter text
  induction n generalizing v with
  | zero => omega
  | succ n ih =>
    intro rest hrest
    cases hv with
    | null => rfl
    | boolean b => cases b <;> rfl
    | number k =>
      have hk := numeral?_repr k hrest
      obtain ⟨d, ds, heq, hd⟩ := exists_toDigits_eq_cons k
      have hgap : isGap d = false := by simp [isGap, ne_of_isDigit hd]
      rw [ofNat, renderChars]
      rw [Nat.toList_repr, heq, List.cons_append] at hk ⊢
      simp [value, skipGap_cons hgap, ne_of_isDigit hd, hk, ofNat]
    | string text =>
      obtain ⟨cs, heq, htext⟩ := exists_renderText_eq text
      simp [renderChars, value, skipGap_cons, isGap, heq, htext]
    | @array vs h =>
      by_cases hne : vs = []
      · subst hne
        rfl
      · obtain ⟨hlen, hmem⟩ := length_le_renderItems h
        obtain ⟨c, cs, heq, hgap, hc⟩ := exists_renderItems_eq_cons hne h
        rw [renderChars, List.length_append, List.length_cons] at hn
        have hitems := items_renderItems (n := n) rest hne (by omega) fun v hv ↦
          ih (h v hv) (by have := hmem v hv; omega)
        rw [renderChars, List.append_assoc, List.cons_append, heq]
        rw [heq] at hitems
        exact value_array hgap hc hitems
    | @object ms h =>
      by_cases hne : ms = []
      · subst hne
        rfl
      · obtain ⟨hlen, hmem⟩ := length_le_renderMembers ms
        obtain ⟨cs, heq⟩ := exists_renderMembers_eq_cons hne
        rw [renderChars, List.length_append, List.length_cons] at hn
        have hmembers := members_renderMembers (n := n) rest hne (by omega) fun m hm ↦
          ih (h m hm) (by have := hmem m hm; omega)
        rw [renderChars, List.append_assoc, List.cons_append, heq]
        rw [heq] at hmembers
        exact value_object (by decide) (by decide) hmembers

/-- **A tree of natural numbers is read back from its text.** -/
theorem parse_render {v : Json} (hv : Natural v) : parse (render v) = some v := by
  have hvalue := readsBack_value hv (Nat.lt_succ_self _) [] (by simp [Parted])
  rw [List.append_nil] at hvalue
  simp [parse, render, hvalue, skipGap]

end AccessPoint.Json

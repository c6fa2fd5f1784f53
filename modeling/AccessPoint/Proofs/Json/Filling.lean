import AccessPoint.Network.Json
import AccessPoint.Proofs.Json.RoundTrip
import AccessPoint.Proofs.Record.Store
import AccessPoint.Proofs.Text.Numeral
import AccessPoint.Record.Json
import Mathlib.Data.List.Count

/-!
# Records filled from JSON

Records and APNs of the network layer are read from the members of an object by name, or from the
items of an array by place. A record may also be filled without JSON, from pairs of names and texts,
and every way of filling it must agree with the others (`Record.json_fillings_agree`). Names in
JSON, names in pairs, places in an array and names in a query of the record come from four tables of
the model, so the agreement rests on `Record.tables_agree`. The statement itself speaks of
`Record.columnNames` only: to follow it, no other table needs to be looked at.

The names of an object are looked up in `member?`, which finds a name that occurs once
(`member?_of_mem`), passes over a name that does not occur (`member?_of_not_mem`) and refuses a
repeated one (`member?_of_repeated`). Whatever is given under other names is not looked at. With
what `Record.ofColumns` and `Record.ofValues` do for each column, `Record.ofJson?_of_fields` gives
the record of any tree from the fields that are found in it.

What is printed is read back in two steps. The tree of a record or of an APN has natural numbers
only, so its text is read back as the tree (`Json.parse_render`), and from the tree the value is
read back field by field (`Record.ofJson?_toJson`, `NetworkApn.ofJson?_toJson`).
-/

namespace AccessPoint

namespace Json

/-! ### Named fields -/

variable {name : String} {v : Json} {members : List (Option String × Json)}
  {ms : List (String × Json)}

theorem length_filter_name (name : String) (members : List (Option String × Json)) :
    (members.filter fun m ↦ m.1 == some name).length =
      (members.map Prod.fst).count (some name) := by
  rw [List.count, List.countP_map, List.countP_eq_length_filter]
  rfl

/-- A member whose name is not repeated is found. -/
theorem member?_of_mem (h : (members.map Prod.fst).count (some name) ≤ 1)
    (hm : (some name, v) ∈ members) : member? name members = some (some v) := by
  have hmem : (some name, v) ∈ members.filter fun m ↦ m.1 == some name :=
    List.mem_filter.2 ⟨hm, beq_self_eq_true _⟩
  rw [← length_filter_name] at h
  rw [member?]
  generalize members.filter (fun m ↦ m.1 == some name) = found at h hmem ⊢
  match found with
  | [] => cases hmem
  | [m] => rw [← List.mem_singleton.1 hmem]
  | _ :: _ :: _ => simp at h

/-- A name that does not occur is passed over, and its field is left without a value. -/
theorem member?_of_not_mem (h : some name ∉ members.map Prod.fst) :
    member? name members = some none := by
  rw [← List.count_eq_zero, ← length_filter_name, List.length_eq_zero_iff] at h
  rw [member?, h]

/-- A repeated name is refused. -/
theorem member?_of_repeated (h : 2 ≤ (members.map Prod.fst).count (some name)) :
    member? name members = none := by
  rw [← length_filter_name] at h
  rw [member?]
  generalize members.filter (fun m ↦ m.1 == some name) = found at h ⊢
  match found with
  | [] => simp at h
  | [_] => simp at h
  | _ :: _ :: _ => rfl

/-- The fields of an object are looked up name by name, in the order that is asked for. -/
theorem fields?_ofMembers (names : List String) (ms : List (String × Json)) :
    (ofMembers ms).fields? names =
      names.mapM fun name ↦ member? name (ms.map fun (name, v) ↦ (some name, v)) := by
  rw [ofMembers, fields?, if_pos]
  simp

/-- The names of the members of an object that is given with texts for names. -/
theorem map_fst_ofMembers (ms : List (String × Json)) :
    (ms.map fun (name, v) ↦ (some name, v)).map Prod.fst = (ms.map Prod.fst).map some := by
  rw [List.map_map, List.map_map]
  rfl

theorem member?_ofMembers_of_mem (h : (ms.map Prod.fst).count name ≤ 1) (hm : (name, v) ∈ ms) :
    member? name (ms.map fun (name, v) ↦ (some name, v)) = some (some v) := by
  refine member?_of_mem ?_ (List.mem_map.2 ⟨_, hm, rfl⟩)
  rwa [map_fst_ofMembers, List.count_map_of_injective _ _ (Option.some_injective _)]

/-- The fields of an object that names each once, in the order in which it names them. -/
theorem fields?_ofMembers_of_nodup {names : List String} {ms : List (String × Json)}
    (hnames : ms.map Prod.fst = names) (h : names.Nodup) :
    (ofMembers ms).fields? names = some (ms.map fun m ↦ some m.2) := by
  subst hnames
  rw [fields?_ofMembers, List.mapM_map]
  refine mapM_eq_some_map fun m hm ↦ member?_ofMembers_of_mem ?_ hm
  exact List.nodup_iff_count_le_one.1 h _

/-! ### Printed values -/

section Values

variable {α β : Type} {f : α → Json} {g : Json → Option β} {k : α → β}

theorem natural_ofMembers {ms : List (String × Json)} (h : ∀ m ∈ ms, Natural m.2) :
    Natural (ofMembers ms) :=
  .object (List.forall_mem_map.2 h)

/-- What may be missing is printed as null, which needs no number. -/
theorem natural_ofOption (h : ∀ a, Natural (f a)) : ∀ o : Option α, Natural (ofOption f o)
  | none => .null
  | some a => h a

/-- Null is read as nothing, and nothing else is printed as null. -/
theorem nullOr?_ofOption (hnull : ∀ a, f a ≠ null) (h : ∀ a, g (f a) = some (k a)) :
    ∀ o : Option α, nullOr? g (ofOption f o) = some (o.map k)
  | none => rfl
  | some a => by
    rw [ofOption, nullOr?, h]
    · rfl
    · exact hnull a

theorem items?_map (h : ∀ a, g (f a) = some (k a)) (as : List α) :
    (array (as.map f)).items? g = some (as.map k) := by
  rw [items?, List.mapM_map]
  exact mapM_eq_some_map fun a _ ↦ h a

theorem text?_ofText (s : String) : (ofText s).text? = some s := rfl

theorem nullOr?_ofText (o : Option String) : nullOr? text? (ofOption ofText o) = some o := by
  have hnull : ∀ s, ofText s ≠ null := fun s h ↦ by cases h
  rw [nullOr?_ofOption (k := id) hnull text?_ofText, Option.map_id_apply]

/-- A number within the limit is read back from its numeral. -/
theorem nat?_ofNat {limit n : Nat} (h : n ≤ limit) : nat? limit (ofNat n) = some n := by
  have hdigits : (Nat.repr n).toList.all Char.isDigit := by
    rw [Nat.toList_repr, List.all_eq_true]
    exact fun c ↦ Nat.isDigit_of_mem_toDigits (by decide) (by decide)
  rw [ofNat, nat?, if_pos hdigits, Text.Numeral.read_repr h]
  rfl

end Values

end Json

/-! ### APNs of the network layer -/

namespace NetworkApn

/-- The port of an APN is its only number, and it is a natural one. -/
theorem natural_toJson (apn : NetworkApn) : Json.Natural apn.toJson := by
  have hvalues : ∀ v ∈ apn.fieldValues, Json.Natural v := by
    simp only [fieldValues, List.forall_mem_cons]
    exact ⟨.string _, .string _, .array (List.forall_mem_map.2 fun _ _ ↦ .string _),
      Json.natural_ofOption (fun _ ↦ .string _) _, Json.natural_ofOption (fun _ ↦ .string _) _,
      Json.natural_ofOption (fun _ ↦ .number _) _, List.forall_mem_nil _⟩
  exact Json.natural_ofMembers fun m hm ↦ hvalues m.2 (List.of_mem_zip hm).2

/-- An APN of the network layer is read back from its tree. -/
theorem ofJson?_toJson (apn : NetworkApn) : ofJson? apn.toJson = some apn := by
  have hfields : apn.toJson.fields? fieldNames = some (apn.fieldValues.map some) :=
    Json.fields?_ofMembers_of_nodup rfl (by decide)
  have htypes : (Json.array (apn.apnTypes.map .ofText)).items? Json.text? = some apn.apnTypes := by
    rw [Json.items?_map (k := id) Json.text?_ofText, List.map_id]
  have hport : Json.nullOr? (Json.nat? maxPort)
      (.ofOption (fun port ↦ .ofNat port.toNat) apn.mmsProxyPort) =
        some (apn.mmsProxyPort.map UInt16.toNat) :=
    Json.nullOr?_ofOption (fun port h ↦ by cases h)
      (fun port ↦ Json.nat?_ofNat (Nat.le_of_lt_succ (UInt16.toNat_lt port))) _
  have hback : (apn.mmsProxyPort.map UInt16.toNat).map Nat.toUInt16 = apn.mmsProxyPort := by
    rw [Option.map_map]
    cases apn.mmsProxyPort <;> simp
  rw [ofJson?, hfields]
  simp [fieldValues, htypes, hport, hback, Json.nullOr?_ofText, Json.text?_ofText]

end NetworkApn

/-! ### Records -/

namespace Record

variable {c : Column} {json : Json} {pairs : List (String × String)}

/-- A record whose columns are fields is read with the value of each field. -/
theorem ofJson?_of_fields {F : Column → Option Json} {g : Column → Option String}
    (hfields : json.fields? (Column.members.map Prod.fst) = some (Column.all.map F))
    (h : ∀ c, ((F c).getD .null).nullOr? Json.text? = some (g c)) : ofJson? json = some ⟨g⟩ := by
  have hvalues : (Column.all.map F).mapM (fun field ↦ (field.getD .null).nullOr? Json.text?) =
      some (Column.all.map g) := by
    rw [List.mapM_map]
    exact mapM_eq_some_map fun c _ ↦ h c
  rw [ofJson?, hfields]
  simp [hvalues, ofValues_map]

/-- There are no numbers in a record. -/
theorem natural_toJson (r : Record) : Json.Natural r.toJson := by
  refine Json.natural_ofMembers ?_
  simp only [List.forall_mem_map]
  exact fun p _ ↦ Json.natural_ofOption (fun _ ↦ .string _) _

/-- A record is read back from its tree. -/
theorem ofJson?_toJson (r : Record) : ofJson? r.toJson = some r := by
  have hnames : (Column.members.map fun m ↦
      (m.1, Json.ofOption .ofText (r.value m.2))).map Prod.fst = Column.members.map Prod.fst := by
    rw [List.map_map]
    rfl
  have hfields : r.toJson.fields? (Column.members.map Prod.fst) =
      some (Column.all.map fun c ↦ some (.ofOption .ofText (r.value c))) := by
    rw [toJson, Json.fields?_ofMembers_of_nodup hnames Column.nodup_names, List.map_map,
      Column.all, List.map_map]
    rfl
  exact ofJson?_of_fields hfields fun c ↦ Json.nullOr?_ofText _

/-- The object with the given names and texts. -/
def pairsJson (pairs : List (String × String)) : Json :=
  .ofMembers (pairs.map fun (name, v) ↦ (name, .ofText v))

/-- The array with the given texts and, where there is none, null. -/
def valuesJson (values : List (Option String)) : Json := .array (values.map (.ofOption .ofText))

/-- An object of texts that repeats no column gives the record of its pairs. -/
theorem ofJson?_pairsJson (h : ∀ c : Column, (pairs.map Prod.fst).count c.label ≤ 1) :
    ofJson? (pairsJson pairs) = some (ofColumns pairs) := by
  have hnames : (pairs.map fun (name, v) ↦ (name, Json.ofText v)).map Prod.fst =
      pairs.map Prod.fst := by
    rw [List.map_map]
    rfl
  refine ofJson?_of_fields (F := fun c ↦ ((ofColumns pairs).value c).map .ofText)
    (g := (ofColumns pairs).value) ?_ fun c ↦ ?_
  · rw [pairsJson, Json.fields?_ofMembers, Column.map_fst_members, List.mapM_map]
    refine mapM_eq_some_map fun c _ ↦ ?_
    cases hv : (ofColumns pairs).value c with
    | none =>
      refine Json.member?_of_not_mem ?_
      rw [Json.map_fst_ofMembers, hnames, List.mem_map_of_injective (Option.some_injective _)]
      exact not_mem_of_value_ofColumns hv
    | some v =>
      exact Json.member?_ofMembers_of_mem (hnames ▸ h c)
        (List.mem_map_of_mem (mem_of_value_ofColumns hv))
  · cases (ofColumns pairs).value c <;> rfl

/-- An object that repeats a column is refused, whatever the column is given. -/
theorem ofJson?_of_repeated {members : List (Option String × Json)}
    (h : 2 ≤ (members.map Prod.fst).count (some c.label)) : ofJson? (.object members) = none := by
  have hfields : (Json.object members).fields? (Column.members.map Prod.fst) = none := by
    rw [Column.map_fst_members, Json.fields?]
    split
    · exact mapM_eq_none_of_mem (List.mem_map_of_mem c.mem_all) (Json.member?_of_repeated h)
    · rfl
  rw [ofJson?, hfields]
  rfl

/-- What is missing at the end of an array reads as null. -/
theorem join_getElem?_append_replicate (values : List (Option String)) (k i : Nat) :
    ((values.map some ++ List.replicate k none)[i]?.map Option.join).join = values[i]?.join := by
  by_cases h : i < values.length
  · simp [h, List.getElem?_append_left]
  · have hle : values.length ≤ i := Nat.le_of_not_lt h
    rw [List.getElem?_append_right (by simpa using hle), List.getElem?_replicate,
      List.getElem?_eq_none hle]
    split <;> rfl

/-- An array of texts and nulls that is no longer than the columns gives each column the value in
its place. -/
theorem exists_ofJson?_valuesJson {values : List (Option String)}
    (h : values.length ≤ Column.all.length) :
    ∃ r, ofJson? (valuesJson values) = some r ∧
      ∀ (i : Nat) c, Column.all[i]? = some c → r.value c = values[i]?.join := by
  obtain ⟨slots, hslots⟩ : ∃ slots, slots =
    values.map some ++ List.replicate (Column.all.length - values.length) none := ⟨_, rfl⟩
  have hfields : (valuesJson values).fields? (Column.members.map Prod.fst) =
      some (slots.map (Option.map (.ofOption .ofText))) := by
    rw [Column.map_fst_members, valuesJson, Json.fields?, if_pos (by simpa using h), hslots]
    simp
  have hvalues : (slots.map (Option.map (Json.ofOption .ofText))).mapM
      (fun field ↦ (field.getD .null).nullOr? Json.text?) = some (slots.map Option.join) := by
    rw [List.mapM_map]
    refine mapM_eq_some_map fun slot _ ↦ ?_
    cases slot with
    | none => rfl
    | some o => exact Json.nullOr?_ofText o
  refine ⟨ofValues (slots.map Option.join), ?_, fun i c hi ↦ ?_⟩
  · rw [ofJson?, hfields]
    simp [hvalues]
  · rw [value_ofValues hi, List.getElem?_map, hslots, join_getElem?_append_replicate]

/-- An array with more items than there are columns is refused. -/
theorem ofJson?_array_of_lt {items : List Json} (h : Column.all.length < items.length) :
    ofJson? (.array items) = none := by
  rw [ofJson?, Column.map_fst_members, Json.fields?, if_neg]
  · rfl
  · rw [List.length_map]
    omega

/-- **Every way of filling a record agrees, and what is printed is read back.** Records and APNs of
the network layer are read back from their texts. An object of texts gives the record of its pairs,
in any order and with any names between that are no columns, and an object that repeats a column is
refused. An array gives each column the value in its place, and one with too many items is refused.
Every object of texts and every array of texts and nulls has a text. -/
theorem json_fillings_agree :
    (∀ r : Record, parseJson? (Json.render r.toJson) = some r) ∧
    (∀ apn : NetworkApn, NetworkApn.parseJson? (Json.render apn.toJson) = some apn) ∧
    (∀ pairs : List (String × String),
      Json.parse (Json.render (pairsJson pairs)) = some (pairsJson pairs) ∧
      ∀ text, Json.parse text = some (pairsJson pairs) →
        (∀ name ∈ columnNames, (pairs.map Prod.fst).count name ≤ 1) →
          parseJson? text = some (ofColumns pairs)) ∧
    (∀ (members : List (Option String × Json)) (text : String),
      Json.parse text = some (.object members) →
        (∃ name ∈ columnNames, 2 ≤ (members.map Prod.fst).count (some name)) →
          parseJson? text = none) ∧
    ∀ values : List (Option String),
      Json.parse (Json.render (valuesJson values)) = some (valuesJson values) ∧
      ∀ text, Json.parse text = some (valuesJson values) →
        (values.length ≤ 17 → ∃ r, parseJson? text = some r ∧
          ∀ (i : Nat) name, columnNames[i]? = some name → r.get name = values[i]?.join) ∧
        (17 < values.length → parseJson? text = none) := by
  have hread : ∀ {text tree}, Json.parse text = some tree → parseJson? text = ofJson? tree := by
    intro text tree h
    rw [parseJson?, h, Option.bind_some]
  refine ⟨fun r ↦ ?_, fun apn ↦ ?_, fun pairs ↦ ⟨?_, fun text htext honce ↦ ?_⟩,
    fun members text htext hrepeated ↦ ?_, fun values ↦ ⟨?_, fun text htext ↦ ⟨?_, ?_⟩⟩⟩
  · rw [hread (Json.parse_render r.natural_toJson), ofJson?_toJson]
  · rw [NetworkApn.parseJson?, Json.parse_render apn.natural_toJson, Option.bind_some,
      NetworkApn.ofJson?_toJson]
  · exact Json.parse_render (Json.natural_ofMembers (List.forall_mem_map.2 fun _ _ ↦ .string _))
  · rw [hread htext, ofJson?_pairsJson fun c ↦ honce _ (label_mem_columnNames c)]
  · obtain ⟨name, hname, hcount⟩ := hrepeated
    obtain ⟨c, rfl⟩ := exists_label_eq hname
    rw [hread htext, ofJson?_of_repeated hcount]
  · exact Json.parse_render
      (.array (List.forall_mem_map.2 fun _ _ ↦ Json.natural_ofOption (fun _ ↦ .string _) _))
  · intro hle
    obtain ⟨r, hr, hvalue⟩ := exists_ofJson?_valuesJson hle
    refine ⟨r, (hread htext).trans hr, fun i name hi ↦ ?_⟩
    rw [columnNames_eq, List.getElem?_map, Option.map_eq_some_iff] at hi
    obtain ⟨c, hc, rfl⟩ := hi
    rw [get_label, hvalue i c hc]
  · intro hlt
    rw [hread htext]
    exact ofJson?_array_of_lt (by rw [List.length_map]; exact hlt)

/-- Columns out of order with another name between them, a column twice, and an array. -/
theorem json_fillings_agree_small_texts :
    parseJson? "\x7b\"name\": \"b\\u00e9\", \"x\": \"1\", \"mmsc\": \"m\"\x7d" =
        some (ofColumns [("name", "bé"), ("x", "1"), ("mmsc", "m")]) ∧
      parseJson? "\x7b\"mmsc\": \"m\", \"mmsc\": 1\x7d" = none ∧
      ∃ r, parseJson? "[null, \"m\"]" = some r ∧ r.get "mmsc" = some "m" := by
  obtain ⟨-, -, hpairs, hrepeated, harray⟩ := json_fillings_agree
  refine ⟨(hpairs _).2 _ rfl (by decide), ?_, ?_⟩
  · exact hrepeated [(some "mmsc", .ofText "m"), (some "mmsc", .number "1")] _ rfl
      ⟨"mmsc", by decide, by decide⟩
  · obtain ⟨r, hr, hvalue⟩ := ((harray [none, some "m"]).2 "[null, \"m\"]" rfl).1 (by decide)
    exact ⟨r, hr, hvalue 1 "mmsc" rfl⟩

end Record

end AccessPoint

/-
  Settings overlay — a settings file changes the settings that it names, and no others.

  1. **Fields** — each part of a file has its fields, and each field a kind: strings, a string or a
     truth value.  A value of a kind is read as what it holds, and no other value is
     (`read_eq_some_iff`).

  2. **Conforming files (`Conforms`)** — every part is known, so is every key in it, and every value
     is of the kind of its field.

  3. **Overlay (`Overlaid`)** — a field has the value that the file has for it, or else its default.
     A conforming file gives settings of which that is true in every field; there are no others
     (`Overlaid.unique`, `eq_of_value?`).  Any other file gives none.
-/
import Scenarist.Command.Settings
import Scenarist.Proofs.Files.Listing
import Scenarist.Proofs.Toml.DistinctKeys

namespace Scenarist.Settings

open Toml (Value)

variable {find : Lookup} {path t part key : Text} {es fs : Toml.Table} {v : Value} {k : Kind}
  {s : Settings} {o : Extraction.Options} {align : Bool}

/-! ## Fields -/

/-- The kinds of values that fields have. -/
inductive Kind where
  /-- A list of strings. -/
  | texts
  /-- A string. -/
  | text
  /-- A truth value. -/
  | truth
  deriving DecidableEq

namespace Kind

/-- What a value of a kind holds. -/
def Content : Kind → Type
  | .texts => List Text
  | .text => Text
  | .truth => Bool

/-- The value that holds something. -/
def value : (k : Kind) → k.Content → Value
  | .texts => fun ts : List Text => .array (ts.map .string)
  | .text => .string
  | .truth => .boolean

/-- What a value holds, if it is of the kind. -/
def read : (k : Kind) → Value → Option k.Content
  | .texts => Value.texts?
  | .text => Value.text?
  | .truth => Value.bool?

/-- Whether a value is of a kind. -/
def Fits (k : Kind) (v : Value) : Prop := ∃ x, v = k.value x

end Kind

theorem text?_eq_some_iff {t : Text} : v.text? = some t ↔ v = .string t := by
  cases v <;> simp [Value.text?]

theorem bool?_eq_some_iff {b : Bool} : v.bool? = some b ↔ v = .boolean b := by
  cases v <;> simp [Value.bool?]

theorem mapM_text?_eq_some_iff {items : List Value} {ts : List Text} :
    items.mapM Value.text? = some ts ↔ items = ts.map .string := by
  induction items generalizing ts with
  | nil => cases ts <;> simp
  | cons v items ih =>
    rw [List.mapM_cons]
    constructor
    · intro h
      obtain ⟨t, ht, h⟩ := Option.bind_eq_some_iff.1 h
      obtain ⟨us, hus, h⟩ := Option.bind_eq_some_iff.1 h
      obtain rfl := Option.some.inj h
      rw [text?_eq_some_iff.1 ht, ih.1 hus, List.map_cons]
    · intro h
      cases ts with
      | nil => cases h
      | cons t ts =>
        obtain ⟨rfl, hitems⟩ := List.cons.inj h
        rw [ih.2 hitems]
        rfl

theorem texts?_eq_some_iff {ts : List Text} :
    v.texts? = some ts ↔ v = .array (ts.map .string) := by
  cases v with
  | array items => rw [Value.texts?, mapM_text?_eq_some_iff, Value.array.injEq]
  | _ => simp [Value.texts?]

/-- A value of a kind is read as what it holds, and no other value is read. -/
theorem read_eq_some_iff {x : k.Content} : k.read v = some x ↔ v = k.value x := by
  cases k with
  | texts => exact texts?_eq_some_iff
  | text => exact text?_eq_some_iff
  | truth => exact bool?_eq_some_iff

theorem value_inj {x y : k.Content} (h : k.value x = k.value y) : x = y :=
  Option.some.inj ((read_eq_some_iff.2 rfl).symm.trans (read_eq_some_iff.2 h))

/-- The fields of the part `extract`. -/
def extractFields : List (Text × Kind) := [
  ("feature_headings".toList, .texts), ("background_heading".toList, .text),
  ("scenarios_heading".toList, .text), ("default_table_header".toList, .text)]

/-- The fields of the part `output`. -/
def outputFields : List (Text × Kind) := [("align_tables".toList, .truth)]

/-- The values of the part `extract`. -/
def extractValues (o : Extraction.Options) : Toml.Table := [
  ("feature_headings".toList, Kind.texts.value o.featureHeadings),
  ("background_heading".toList, Kind.text.value o.backgroundHeading),
  ("scenarios_heading".toList, Kind.text.value o.scenariosHeading),
  ("default_table_header".toList, Kind.text.value o.defaultTableHeader)]

/-- The values of the part `output`. -/
def outputValues (align : Bool) : Toml.Table := [("align_tables".toList, Kind.truth.value align)]

/-- The value that settings have for a key of a part. -/
def value? (s : Settings) (part key : Text) : Option Value :=
  if part = "extract".toList then (extractValues s.options).lookup key
  else if part = "output".toList then (outputValues s.align).lookup key
  else none

theorem value?_extract (s : Settings) (key : Text) :
    s.value? "extract".toList key = (extractValues s.options).lookup key := if_pos rfl

theorem value?_output (s : Settings) (key : Text) :
    s.value? "output".toList key = (outputValues s.align).lookup key := by
  rw [value?, if_neg (by decide), if_pos rfl]

/-- Settings are known by their values. -/
theorem eq_of_value? {s s' : Settings} (h : ∀ part key, s.value? part key = s'.value? part key) :
    s = s' := by
  have hextract := h "extract".toList
  have houtput := h "output".toList
  simp only [value?_extract] at hextract
  simp only [value?_output] at houtput
  obtain ⟨⟨fs, b, sc, d⟩, align⟩ := s
  obtain ⟨⟨fs', b', sc', d'⟩, align'⟩ := s'
  obtain rfl : fs = fs' :=
    value_inj (k := .texts) (Option.some.inj (hextract "feature_headings".toList))
  obtain rfl : b = b' :=
    value_inj (k := .text) (Option.some.inj (hextract "background_heading".toList))
  obtain rfl : sc = sc' :=
    value_inj (k := .text) (Option.some.inj (hextract "scenarios_heading".toList))
  obtain rfl : d = d' :=
    value_inj (k := .text) (Option.some.inj (hextract "default_table_header".toList))
  obtain rfl : align = align' :=
    value_inj (k := .truth) (Option.some.inj (houtput "align_tables".toList))
  rfl

/-! ## Conforming files -/

/-- A document has a value for a key of a part. -/
def Says (es : Toml.Table) (part key : Text) (v : Value) : Prop :=
  ∃ fs, (part, .table fs) ∈ es ∧ (key, v) ∈ fs

/-- The entries of a table are known, and their values are of the right kinds. -/
def Typed (fields : List (Text × Kind)) (fs : Toml.Table) : Prop :=
  ∀ key v, (key, v) ∈ fs → ∃ k, (key, k) ∈ fields ∧ k.Fits v

/-- A document names known fields only and gives each of them a value of its kind. -/
structure Conforms (es : Toml.Table) : Prop where
  /-- The parts are known. -/
  parts : ∀ part v, (part, v) ∈ es → part = "extract".toList ∨ part = "output".toList
  /-- The keys of the part `extract` are, and their values are of the right kinds. -/
  extract : ∀ key v, Says es "extract".toList key v → ∃ k, (key, k) ∈ extractFields ∧ k.Fits v
  /-- So are the keys of the part `output`. -/
  output : ∀ key v, Says es "output".toList key v → ∃ k, (key, k) ∈ outputFields ∧ k.Fits v

/-! ## One field -/

/-- A field has the value that a table has for its key, and its default if the table has none. -/
def Overlaid (fs : Toml.Table) (key : Text) (value default : Option Value) : Prop :=
  (∀ v, (key, v) ∈ fs → value = some v) ∧ ((∀ v, (key, v) ∉ fs) → value = default)

theorem field?_of_mem {x d : k.Content} (hdiffer : (fs.map Prod.fst).Nodup) (hv : (key, v) ∈ fs) :
    Toml.Table.field? fs key k.read d = some x ↔ v = k.value x := by
  rw [Toml.Table.field?, (Entry.lookup_eq_some_iff_mem hdiffer).2 hv]
  exact read_eq_some_iff

theorem lookup_of_not_mem (hnone : ∀ v, (key, v) ∉ fs) : fs.lookup key = none := by
  rw [List.lookup_eq_none_iff]
  rintro ⟨n, v⟩ hmem
  refine bne_iff_ne.2 ?_
  rintro rfl
  exact hnone v hmem

theorem field?_of_not_mem {α : Type} {read : Value → Option α} {d : α}
    (hnone : ∀ v, (key, v) ∉ fs) : Toml.Table.field? fs key read d = some d := by
  rw [Toml.Table.field?, lookup_of_not_mem hnone]

/-- There is one value that overlays a default. -/
theorem Overlaid.unique {x y default : Option Value} (hx : Overlaid fs key x default)
    (hy : Overlaid fs key y default) : x = y := by
  by_cases h : ∃ v, (key, v) ∈ fs
  · obtain ⟨v, hv⟩ := h
    rw [hx.1 v hv, hy.1 v hv]
  · have hnone : ∀ v, (key, v) ∉ fs := fun v hv => h ⟨v, hv⟩
    rw [hx.2 hnone, hy.2 hnone]

/-- What is read of a field is overlaid. -/
theorem overlaid_of_field {x d : k.Content} (hdiffer : (fs.map Prod.fst).Nodup)
    (h : Toml.Table.field? fs key k.read d = some x) :
    Overlaid fs key (some (k.value x)) (some (k.value d)) := by
  constructor
  · intro v hv
    rw [(field?_of_mem hdiffer hv).1 h]
  · intro hnone
    rw [field?_of_not_mem hnone] at h
    rw [Option.some.inj h]

/-- A field can be read if its value, where there is one, is of its kind. -/
theorem exists_field (hdiffer : (fs.map Prod.fst).Nodup) (d : k.Content)
    (hfits : ∀ v, (key, v) ∈ fs → k.Fits v) :
    ∃ x, Toml.Table.field? fs key k.read d = some x := by
  by_cases h : ∃ v, (key, v) ∈ fs
  · obtain ⟨v, hv⟩ := h
    obtain ⟨x, hx⟩ := hfits v hv
    exact ⟨x, (field?_of_mem hdiffer hv).2 hx⟩
  · exact ⟨d, field?_of_not_mem fun v hv => h ⟨v, hv⟩⟩

/-- A value that is read is of the kind of the field. -/
theorem fits_of_field {x d : k.Content} (hdiffer : (fs.map Prod.fst).Nodup)
    (h : Toml.Table.field? fs key k.read d = some x) (hv : (key, v) ∈ fs) : k.Fits v :=
  ⟨x, (field?_of_mem hdiffer hv).1 h⟩

/-! ## One part -/

theorem hasOnly_iff {keys : List Text} :
    Toml.Table.hasOnly fs keys = true ↔ ∀ key v, (key, v) ∈ fs → key ∈ keys := by
  simp [Toml.Table.hasOnly, List.all_eq_true]

theorem optionsBy_eq_some_iff
    {field : {α : Type} → Text → Nat → (Value → Option α) → α → Option α} :
    let d : Extraction.Options := {}
    optionsBy field = some o ↔
      field "feature_headings".toList 0 Value.texts? d.featureHeadings = some o.featureHeadings ∧
      field "background_heading".toList 1 Value.text? d.backgroundHeading
        = some o.backgroundHeading ∧
      field "scenarios_heading".toList 2 Value.text? d.scenariosHeading = some o.scenariosHeading ∧
      field "default_table_header".toList 3 Value.text? d.defaultTableHeader
        = some o.defaultTableHeader := by
  intro d
  constructor
  · intro h
    obtain ⟨a, ha, h⟩ := Option.bind_eq_some_iff.1 h
    obtain ⟨b, hb, h⟩ := Option.bind_eq_some_iff.1 h
    obtain ⟨c, hc, h⟩ := Option.bind_eq_some_iff.1 h
    obtain ⟨e, he, h⟩ := Option.bind_eq_some_iff.1 h
    obtain rfl := Option.some.inj h
    exact ⟨ha, hb, hc, he⟩
  · rintro ⟨ha, hb, hc, he⟩
    dsimp only [optionsBy]
    rw [ha, hb, hc, he]
    rfl

theorem extract?_eq_some_iff : extract? (.table fs) = some o ↔
    Toml.Table.hasOnly fs extractKeys = true ∧
      optionsBy (fun key _ => Toml.Table.field? fs key) = some o := by
  rw [extract?, Option.ite_none_right_eq_some]

theorem output?_eq_some_iff : output? (.table fs) = some align ↔
    Toml.Table.hasOnly fs ["align_tables".toList] = true ∧
      Toml.Table.field? fs "align_tables".toList Value.bool? true = some align := by
  rw [output?, Option.ite_none_right_eq_some]

/-- A part of which every key has been read as a field is typed, and its fields are overlaid. -/
theorem overlaid_part {fields : List (Text × Kind)} {values defaults : Toml.Table}
    {keys : List Text} (hdiffer : (fs.map Prod.fst).Nodup)
    (honly : Toml.Table.hasOnly fs keys = true) (hvalues : values.map Prod.fst = keys)
    (hdefaults : defaults.map Prod.fst = keys)
    (hfields : ∀ key ∈ keys, ∃ (k : Kind) (x d : k.Content), (key, k) ∈ fields ∧
      Toml.Table.field? fs key k.read d = some x ∧
      values.lookup key = some (k.value x) ∧ defaults.lookup key = some (k.value d)) :
    Typed fields fs ∧ ∀ key, Overlaid fs key (values.lookup key) (defaults.lookup key) := by
  have hknown := hasOnly_iff.1 honly
  constructor
  · intro key v hv
    obtain ⟨k, x, d, hk, hfield, -⟩ := hfields key (hknown key v hv)
    exact ⟨k, hk, fits_of_field hdiffer hfield hv⟩
  · intro key
    by_cases hkey : key ∈ keys
    · obtain ⟨k, x, d, -, hfield, hvalue, hdefault⟩ := hfields key hkey
      rw [hvalue, hdefault]
      exact overlaid_of_field hdiffer hfield
    · -- settings have no such field, and neither has the part
      have hnone : ∀ entries : Toml.Table, entries.map Prod.fst = keys →
          entries.lookup key = none := by
        rintro entries rfl
        exact lookup_of_not_mem fun v hv => hkey (List.mem_map_of_mem hv)
      rw [hnone values hvalues, hnone defaults hdefaults]
      exact ⟨fun v hv => absurd (hknown key v hv) hkey, fun _ => rfl⟩

theorem overlaid_extract (hdiffer : (fs.map Prod.fst).Nodup) (h : extract? (.table fs) = some o) :
    Typed extractFields fs ∧
      ∀ key, Overlaid fs key ((extractValues o).lookup key) ((extractValues {}).lookup key) := by
  obtain ⟨honly, hfields⟩ := extract?_eq_some_iff.1 h
  obtain ⟨hfeature, hbackground, hscenarios, hheader⟩ := optionsBy_eq_some_iff.1 hfields
  refine overlaid_part hdiffer honly rfl rfl fun key hkey => ?_
  simp only [extractKeys, List.mem_cons, List.not_mem_nil, or_false] at hkey
  rcases hkey with rfl | rfl | rfl | rfl
  · exact ⟨.texts, _, _, by simp [extractFields], hfeature, rfl, rfl⟩
  · exact ⟨.text, _, _, by simp [extractFields], hbackground, rfl, rfl⟩
  · exact ⟨.text, _, _, by simp [extractFields], hscenarios, rfl, rfl⟩
  · exact ⟨.text, _, _, by simp [extractFields], hheader, rfl, rfl⟩

theorem overlaid_output (hdiffer : (fs.map Prod.fst).Nodup)
    (h : output? (.table fs) = some align) :
    Typed outputFields fs ∧
      ∀ key, Overlaid fs key ((outputValues align).lookup key) ((outputValues true).lookup key) := by
  obtain ⟨honly, hfield⟩ := output?_eq_some_iff.1 h
  refine overlaid_part hdiffer honly rfl rfl fun key hkey => ?_
  obtain rfl := List.mem_singleton.1 hkey
  exact ⟨.truth, _, _, List.mem_singleton_self _, hfield, rfl, rfl⟩

/-- In a typed part, the value of a key is of the kind of its field. -/
theorem Typed.fits {fields : List (Text × Kind)} (h : Typed fields fs)
    (hfields : (fields.map Prod.fst).Nodup) (hk : (key, k) ∈ fields) :
    ∀ v, (key, v) ∈ fs → k.Fits v := by
  intro v hv
  obtain ⟨k', hk', hfits⟩ := h key v hv
  have hsame : (key, k) = (key, k') := List.inj_on_of_nodup_map hfields hk hk' rfl
  obtain rfl := (Prod.mk.inj hsame).2
  exact hfits

theorem Typed.hasOnly {fields : List (Text × Kind)} (h : Typed fields fs) :
    Toml.Table.hasOnly fs (fields.map Prod.fst) = true := by
  rw [hasOnly_iff]
  intro key v hv
  obtain ⟨k, hk, -⟩ := h key v hv
  exact List.mem_map.2 ⟨_, hk, rfl⟩

theorem exists_extract (hdiffer : (fs.map Prod.fst).Nodup) (h : Typed extractFields fs) :
    ∃ o, extract? (.table fs) = some o := by
  have hfits : ∀ key k, (key, k) ∈ extractFields → ∀ v, (key, v) ∈ fs → k.Fits v :=
    fun _ _ hk => h.fits (by decide +kernel) hk
  let d : Extraction.Options := {}
  obtain ⟨a, ha⟩ := exists_field (k := .texts) hdiffer d.featureHeadings
    (hfits "feature_headings".toList _ (by simp [extractFields]))
  obtain ⟨b, hb⟩ := exists_field (k := .text) hdiffer d.backgroundHeading
    (hfits "background_heading".toList _ (by simp [extractFields]))
  obtain ⟨c, hc⟩ := exists_field (k := .text) hdiffer d.scenariosHeading
    (hfits "scenarios_heading".toList _ (by simp [extractFields]))
  obtain ⟨e, he⟩ := exists_field (k := .text) hdiffer d.defaultTableHeader
    (hfits "default_table_header".toList _ (by simp [extractFields]))
  refine ⟨⟨a, b, c, e⟩, extract?_eq_some_iff.2 ⟨h.hasOnly, ?_⟩⟩
  exact optionsBy_eq_some_iff.2 ⟨ha, hb, hc, he⟩

theorem exists_output (hdiffer : (fs.map Prod.fst).Nodup) (h : Typed outputFields fs) :
    ∃ align, output? (.table fs) = some align := by
  obtain ⟨align, halign⟩ := exists_field (k := .truth) hdiffer true
    (h.fits (by decide +kernel) (List.mem_singleton_self _))
  exact ⟨align, output?_eq_some_iff.2 ⟨h.hasOnly, halign⟩⟩

/-! ## Whole files -/

/-- The entries of a part; none if it is missing. -/
def entriesOf (es : Toml.Table) (part : Text) : Toml.Table :=
  match es.lookup part with
  | some (.table fs) => fs
  | _ => []

theorem says_iff (hes : Value.Distinct (.table es)) :
    Says es part key v ↔ (key, v) ∈ entriesOf es part := by
  unfold Says entriesOf
  constructor
  · rintro ⟨fs, hpart, hv⟩
    rw [(Entry.lookup_eq_some_iff_mem hes.differ).2 hpart]
    exact hv
  · intro hv
    split at hv
    · next fs hfs => exact ⟨fs, (Entry.lookup_eq_some_iff_mem hes.differ).1 hfs, hv⟩
    · cases hv

theorem nodup_entriesOf (hes : Value.Distinct (.table es)) (part : Text) :
    ((entriesOf es part).map Prod.fst).Nodup := by
  unfold entriesOf
  split
  · next fs hfs =>
    exact (hes.inside _ ((Entry.lookup_eq_some_iff_mem hes.differ).1 hfs)).differ
  · exact List.nodup_nil

/-- A part that is missing reads like one without entries. -/
theorem field?_part {α : Type} {read : Value → Option α} {d : α}
    (hes : Value.Distinct (.table es)) (hpart : ∀ v, (part, v) ∈ es → ∃ fs, v = .table fs)
    (hempty : read (.table []) = some d) :
    Toml.Table.field? es part read d = read (.table (entriesOf es part)) := by
  unfold Toml.Table.field? entriesOf
  cases hlookup : es.lookup part with
  | none => exact hempty.symm
  | some v =>
    obtain ⟨fs, rfl⟩ := hpart v ((Entry.lookup_eq_some_iff_mem hes.differ).1 hlookup)
    rfl

/-- The parts of a settings file. -/
def partNames : List Text := ["extract".toList, "output".toList]

/-- The known parts of a document, as far as they are there, are tables. -/
def PartsAreTables (es : Toml.Table) : Prop :=
  ∀ part ∈ partNames, ∀ v, (part, v) ∈ es → ∃ fs, v = .table fs

theorem ofTable?_eq_some_iff (hes : Value.Distinct (.table es)) (hparts : PartsAreTables es) :
    ofTable? es = some s ↔ Toml.Table.hasOnly es partNames = true ∧
      extract? (.table (entriesOf es "extract".toList)) = some s.options ∧
      output? (.table (entriesOf es "output".toList)) = some s.align := by
  have hextract : Toml.Table.field? es "extract".toList extract? {}
      = extract? (.table (entriesOf es "extract".toList)) :=
    field?_part hes (hparts _ (by simp [partNames])) rfl
  have houtput : Toml.Table.field? es "output".toList output? true
      = output? (.table (entriesOf es "output".toList)) :=
    field?_part hes (hparts _ (by simp [partNames])) rfl
  rw [ofTable?, hextract, houtput, ← partNames]
  by_cases h : Toml.Table.hasOnly es partNames = true
  · rw [if_neg (by simp [h]), and_iff_right h]
    constructor
    · intro hsome
      obtain ⟨o, ho, hsome⟩ := Option.bind_eq_some_iff.1 hsome
      obtain ⟨align, halign, hsome⟩ := Option.bind_eq_some_iff.1 hsome
      obtain rfl := Option.some.inj hsome
      exact ⟨ho, halign⟩
    · rintro ⟨ho, halign⟩
      rw [ho, halign]
      rfl
  · rw [if_pos (by simp [h])]
    exact iff_of_false nofun fun hsome => h hsome.1

theorem conforms_iff (hes : Value.Distinct (.table es)) :
    Conforms es ↔ Toml.Table.hasOnly es partNames = true ∧
      Typed extractFields (entriesOf es "extract".toList) ∧
      Typed outputFields (entriesOf es "output".toList) := by
  have hparts : Toml.Table.hasOnly es partNames = true ↔
      ∀ part v, (part, v) ∈ es → part = "extract".toList ∨ part = "output".toList := by
    rw [hasOnly_iff]
    simp only [partNames, List.mem_cons, List.not_mem_nil, or_false]
  simp only [Typed, ← says_iff hes, hparts]
  exact ⟨fun h => ⟨h.parts, h.extract, h.output⟩, fun ⟨hp, he, ho⟩ => ⟨hp, he, ho⟩⟩

/-- **There are settings** exactly for a conforming file. -/
theorem exists_ofTable_iff (hes : Value.Distinct (.table es)) (hparts : PartsAreTables es) :
    (∃ s, ofTable? es = some s) ↔ Conforms es := by
  rw [conforms_iff hes]
  constructor
  · rintro ⟨s, hs⟩
    obtain ⟨honly, hextract, houtput⟩ := (ofTable?_eq_some_iff hes hparts).1 hs
    exact ⟨honly, (overlaid_extract (nodup_entriesOf hes _) hextract).1,
      (overlaid_output (nodup_entriesOf hes _) houtput).1⟩
  · rintro ⟨honly, hextract, houtput⟩
    obtain ⟨o, ho⟩ := exists_extract (nodup_entriesOf hes _) hextract
    obtain ⟨align, halign⟩ := exists_output (nodup_entriesOf hes _) houtput
    exact ⟨⟨o, align⟩, (ofTable?_eq_some_iff hes hparts).2 ⟨honly, ho, halign⟩⟩

/-- **The settings** have what the file says, and the defaults where it says nothing. -/
theorem overlaid_ofTable (hes : Value.Distinct (.table es)) (hparts : PartsAreTables es)
    (hs : ofTable? es = some s) (part key : Text) :
    Overlaid (entriesOf es part) key (s.value? part key) (({} : Settings).value? part key) := by
  obtain ⟨honly, hextract, houtput⟩ := (ofTable?_eq_some_iff hes hparts).1 hs
  unfold value?
  split
  · next hpart =>
    subst hpart
    exact (overlaid_extract (nodup_entriesOf hes _) hextract).2 key
  · next hnotExtract =>
    split
    · next hpart =>
      subst hpart
      exact (overlaid_output (nodup_entriesOf hes _) houtput).2 key
    · next hnotOutput =>
      refine ⟨fun v hv => ?_, fun _ => rfl⟩
      obtain ⟨fs, hfs, -⟩ := (says_iff hes).2 hv
      have hmem := hasOnly_iff.1 honly part _ hfs
      simp only [partNames, List.mem_cons, List.not_mem_nil, or_false] at hmem
      exact absurd hmem (not_or.2 ⟨hnotExtract, hnotOutput⟩)

theorem loadFile_eq (hread : Lookup.read find path = .ok t) :
    loadFile find path = match parse? t with
      | none => .error (.malformed path)
      | some s => .ok (some s) := by
  have hfind : ∃ e, find path = .ok e := by
    unfold Lookup.read at hread
    cases h : find path with
    | ok e => exact ⟨e, rfl⟩
    | error e =>
      rw [h] at hread
      cases hread
  obtain ⟨e, he⟩ := hfind
  cases hparse : parse? t <;> simp only [loadFile, he, hread, hparse]

/-- **A settings file overlays the defaults.**  Let a file be a TOML document in which the known
parts, as far as they are there, are tables.  It is loaded exactly if it conforms: its parts and keys
are known, and its values are of the kinds of their fields.  If it does not, the whole file is
refused.  If it does, the settings that are loaded are the ones that have the value of the file for
each key that it has, and the default for each other key. -/
theorem file_overlays_defaults (hread : Lookup.read find path = .ok t)
    (htoml : Toml.parse? t = some es) (hparts : PartsAreTables es) :
    ((∃ s, loadFile find path = .ok (some s)) ↔ Conforms es) ∧
    (¬ Conforms es → loadFile find path = .error (.malformed path)) ∧
    (Conforms es → ∀ s, loadFile find path = .ok (some s) ↔ ∀ part key,
      (∀ v, Says es part key v → s.value? part key = some v) ∧
      ((∀ v, ¬ Says es part key v) → s.value? part key = ({} : Settings).value? part key)) := by
  have hes := Toml.distinct_parse htoml
  have hparse : parse? t = ofTable? es := by rw [parse?, htoml, Option.bind_some]
  have hload := loadFile_eq hread
  rw [hparse] at hload
  have hsome : ∀ s, loadFile find path = .ok (some s) ↔ ofTable? es = some s := by
    intro s
    rw [hload]
    cases ofTable? es <;> simp
  refine ⟨?_, fun hnot => ?_, fun hconforms s => ?_⟩
  · simp only [hsome]
    exact exists_ofTable_iff hes hparts
  · have hnone : ofTable? es = none := by
      rw [Option.eq_none_iff_forall_ne_some]
      exact fun s hs => hnot ((exists_ofTable_iff hes hparts).1 ⟨s, hs⟩)
    rw [hload, hnone]
  · simp only [hsome, says_iff hes]
    constructor
    · exact fun hs part key => overlaid_ofTable hes hparts hs part key
    · intro hs
      obtain ⟨s', hs'⟩ := (exists_ofTable_iff hes hparts).2 hconforms
      have hsame : s = s' := eq_of_value? fun part key =>
        Overlaid.unique (hs part key) (overlaid_ofTable hes hparts hs' part key)
      rw [hsame]
      exact hs'

/-- A file that changes one setting of each part. -/
def partialFile : Text :=
  "[output]\nalign_tables = false\n\n[extract]\nfeature_headings = [\"Epic\"]\n".toList

/-- What it says. -/
def partialEntries : Toml.Table := [
  ("output".toList, .table [("align_tables".toList, .boolean false)]),
  ("extract".toList, .table [("feature_headings".toList, .array [.string "Epic".toList])])]

/-- The folder in which the file is. -/
def settingsFolder : Entry := .folder [("partial.toml".toList, .file (some partialFile))]

/-- The file changes two settings and leaves the others as they are. -/
theorem file_overlays_defaults_partial :
    Lookup.read settingsFolder.find "partial.toml".toList = .ok partialFile ∧
    Toml.parse? partialFile = some partialEntries ∧ PartsAreTables partialEntries ∧
    ∃ s, loadFile settingsFolder.find "partial.toml".toList = .ok (some s) ∧
      s.value? "output".toList "align_tables".toList = some (.boolean false) ∧
      s.value? "extract".toList "feature_headings".toList = some (.array [.string "Epic".toList]) ∧
      s.value? "extract".toList "background_heading".toList = some (.string "background".toList) := by
  have hread : Lookup.read settingsFolder.find "partial.toml".toList = .ok partialFile := by
    decide +kernel
  have htoml : Toml.parse? partialFile = some partialEntries := by decide +kernel
  have hparts : PartsAreTables partialEntries := by
    intro part _ v hv
    simp only [partialEntries, List.mem_cons, List.not_mem_nil, or_false, Prod.mk.injEq] at hv
    rcases hv with ⟨-, rfl⟩ | ⟨-, rfl⟩ <;> exact ⟨_, rfl⟩
  obtain ⟨hconforms, -, hvalues⟩ := file_overlays_defaults hread htoml hparts
  have hload : loadFile settingsFolder.find "partial.toml".toList
      = .ok (some ⟨{ featureHeadings := ["Epic".toList] }, false⟩) := by decide +kernel
  have hholds := (hvalues (hconforms.1 ⟨_, hload⟩) _).1 hload
  refine ⟨hread, htoml, hparts, _, hload, ?_, ?_, ?_⟩
  · exact (hholds _ _).1 _ ⟨_, .head _, .head _⟩
  · exact (hholds _ _).1 _ ⟨_, .tail _ (.head _), .head _⟩
  · have hsilent : ∀ v, ¬ Says partialEntries "extract".toList "background_heading".toList v := by
      intro v hv
      have hmem := (says_iff (Toml.distinct_parse htoml)).1 hv
      have hname := (Prod.mk.inj (List.mem_singleton.1 hmem)).1
      exact absurd hname (by decide +kernel)
    exact (hholds _ _).2 hsilent

end Scenarist.Settings

import TileCache.Config.Record
import TileCache.Proofs.JsonRecords
import TileCache.Tile.Record
set_option autoImplicit false

/-!
# Coordinates, ranges and settings as JSON

Coordinates and ranges are types of records, and so they survive their text. Settings are written as
an object with every field, and are read back from it; if some of the fields are taken away, the
settings that are read have the defaults for these and are else the same.

## Main definitions

* `TileCache.Coord.form`, `TileCache.TileRange.form` — coordinates and ranges as types of records.
* `TileCache.Config.keeping` — settings of which some are kept, and the others have their defaults.

## Main results

* `TileCache.Config.ofJson?_of_perm` — what is read of settings without some of their fields.
* `TileCache.records_survive` — all of it.
-/

namespace TileCache

/-! ## Words -/

namespace Json

/-- A natural number below the bound is read back. -/
lemma natural?_ofNat {bound n : ℕ} (h : n < bound) : (ofNat n).natural? bound = some n :=
  (natural?_number_eq_some_iff (numberText_toString n)).2 ⟨rfl, h⟩

/-- A 32-bit word is read back. -/
lemma word32?_ofWord32 (n : UInt32) : (ofWord32 n).word32? = some n := by
  rw [word32?, ofWord32, natural?_ofNat n.toNat_lt, Option.map_some, UInt32.ofNat_toNat]

/-- A 64-bit word is read back. -/
lemma word64?_ofNat (n : UInt64) : (ofNat n.toNat).word64? = some n := by
  rw [word64?, natural?_ofNat n.toNat_lt, Option.map_some, UInt64.ofNat_toNat]

/-- A printed word is a text of it. -/
lemma valueText_ofWord32 (n : UInt32) : ValueText (ofWord32 n) (ofWord32 n).printChars :=
  valueText_ofNat n.toNat

/-- A printed optional value is a text of it. -/
lemma valueText_ofOption {α : Type} {write : α → Json}
    (h : ∀ a, ValueText (write a) (write a).printChars) (a? : Option α) :
    ValueText (ofOption write a?) (ofOption write a?).printChars := by
  cases a? with
  | none =>
    rw [ofOption, printChars]
    exact .null
  | some a => exact h a

end Json

open Json

/-- What follows a check comes to a value just if the check passes. -/
lemma guard_bind {α : Type} (b : Bool) (f : Unit → Option α) :
    (guard (b = true) >>= f) = if b then f () else none := by
  cases b <;> rfl

/-! ## Coordinates -/

namespace Coord

/-- The fields of coordinates. -/
def fields : List Field :=
  [{ name := "z", word := true }, { name := "x", word := true }, { name := "y", word := true }]

/-- An object is read as the array of the values of its fields. -/
lemma ofJson?_object (ms : Members) :
    ofJson? (.object ms) = if Members.wellNamed ms then
      (Members.gather ms fields).bind fun items => ofJson? (.array items) else none := by
  rw [ofJson?, guard_bind]
  simp only [Members.gather, fields, List.mapM_cons, List.mapM_nil, Members.value?]
  cases Members.wellNamed ms with
  | false => rfl
  | true =>
    cases Members.required? ms "z" <;> cases Members.required? ms "x" <;>
      cases Members.required? ms "y" <;> rfl

/-- An array that is read has a word for each field. -/
lemma of_ofJson?_array {items : List Json} {c : Coord} (h : ofJson? (.array items) = some c) :
    items.length = fields.length ∧
      ∀ e ∈ fields.zip items, e.1.word = true → e.2.word32?.isSome = true := by
  unfold ofJson? at h
  split at h
  · next heq => cases heq
  · next z x y heq =>
    obtain rfl := Json.array.inj heq
    simp only [ofFields?, Option.bind_eq_bind, Option.bind_eq_some_iff] at h
    obtain ⟨z', hz, x', hx, y', hy, -⟩ := h
    simp [fields, hz, hx, hy]
  · cases h

/-- Coordinates as a type of records. -/
def form : RecordForm Coord where
  fields := fields
  entries c := fields.zip [.ofWord32 c.z, .ofWord32 c.x, .ofWord32 c.y]
  read := ofJson?
  entries_fst _ := rfl
  nodup := by decide
  fields_ne_nil := nofun
  read_object := ofJson?_object
  read_entries c := by simp [fields, ofJson?, ofFields?, word32?_ofWord32]
  of_read _ _ := of_ofJson?_array
  valueText c := by simp [fields, valueText_ofWord32]

end Coord

/-! ## Ranges -/

namespace TileRange

/-- The fields of ranges. Only the parameters may be left out. -/
def fields : List Field :=
  [{ name := "layer_name" }, { name := "gridset_id" }, { name := "zoom_start", word := true },
   { name := "zoom_stop", word := true }, { name := "blob_format" },
   { name := "parameters_id", optional := true }]

/-- An object is read as the array of the values of its fields. -/
lemma ofJson?_object (ms : Members) :
    ofJson? (.object ms) = if Members.wellNamed ms then
      (Members.gather ms fields).bind fun items => ofJson? (.array items) else none := by
  rw [ofJson?, guard_bind]
  simp only [Members.gather, fields, List.mapM_cons, List.mapM_nil, Members.value?]
  cases Members.wellNamed ms with
  | false => rfl
  | true =>
    cases Members.field? ms "parameters_id" <;> cases Members.required? ms "layer_name" <;>
      cases Members.required? ms "gridset_id" <;> cases Members.required? ms "zoom_start" <;>
      cases Members.required? ms "zoom_stop" <;> cases Members.required? ms "blob_format" <;> rfl

/-- An array that is read has a value for each field, and words for the zoom levels. -/
lemma of_ofJson?_array {items : List Json} {r : TileRange} (h : ofJson? (.array items) = some r) :
    items.length = fields.length ∧
      ∀ e ∈ fields.zip items, e.1.word = true → e.2.word32?.isSome = true := by
  unfold ofJson? at h
  split at h
  · next heq => cases heq
  · next heq =>
    obtain rfl := Json.array.inj heq
    simp only [ofFields?, Option.bind_eq_bind, Option.bind_eq_some_iff] at h
    obtain ⟨layer, -, gridset, -, start, hstart, stop, hstop, -⟩ := h
    simp [fields, hstart, hstop]
  · cases h

/-- Optional parameters are read back. -/
lemma nullable?_ofOption (parameters : Option String) :
    nullable? Json.text? (ofOption ofText parameters) = some parameters := by
  cases parameters <;> rfl

/-- Ranges as a type of records. -/
def form : RecordForm TileRange where
  fields := fields
  entries r := fields.zip [.ofText r.layer, .ofText r.gridset, .ofWord32 r.zoomStart,
    .ofWord32 r.zoomStop, .ofText r.format, .ofOption .ofText r.parameters]
  read := ofJson?
  entries_fst _ := rfl
  nodup := by decide
  fields_ne_nil := nofun
  read_object := ofJson?_object
  read_entries r := by
    simp [fields, ofJson?, ofFields?, word32?_ofWord32, nullable?_ofOption, Json.text?, ofText]
  of_read _ _ := of_ofJson?_array
  valueText r := by
    simp [fields, valueText_ofWord32, valueText_ofText, valueText_ofOption valueText_ofText]

end TileRange

/-! ## Settings -/

namespace Config

/-- The settings with the given names, and the defaults for the others. -/
def keeping (keep : String → Bool) (c : Config) : Config :=
  let base : Config := {}
  { bucket := if keep "bucket" then c.bucket else base.bucket
    root := if keep "prefix" then c.root else base.root
    endpoint := if keep "endpoint" then c.endpoint else base.endpoint
    region := if keep "region" then c.region else base.region
    accessKey := if keep "access_key_id" then c.accessKey else base.accessKey
    secretKey := if keep "secret_access_key" then c.secretKey else base.secretKey
    useHttps := if keep "use_https" then c.useHttps else base.useHttps
    maxConnections := if keep "max_connections" then c.maxConnections else base.maxConnections
    proxy := if keep "proxy_url" then c.proxy else base.proxy
    timeout := if keep "request_timeout_secs" then c.timeout else base.timeout
    batchSize := if keep "delete_batch_size" then c.batchSize else base.batchSize }

section Settings

variable {α V : Type} {n : Reading V} {read : V → Option α} {keep : String → Bool} {c : Config}
  {ms : Members}

/-- A field that is kept is read, and one that is not has its default. -/
lemma given_ite {v : V} {a : α} (h : read v = some a) (default : α) (kept : Bool) :
    Reading.given read default (if kept then some v else none) =
      some (if kept then a else default) := by
  cases kept
  · rfl
  · exact h

/-- A field that may be null is read if it is kept, and is absent if it is not. -/
lemma nullable_ofOption {read : Json → Option α} {write : α → Json}
    (h : ∀ a, read (write a) = some a) (hnull : ∀ a, jsonReading.isNull (write a) = false)
    (a? : Option α) (kept : Bool) :
    jsonReading.nullable read (if kept then some (ofOption write a?) else none) =
      some (if kept then a? else none) := by
  cases kept
  · rfl
  · cases a? with
    | none => rfl
    | some a => simp [Reading.nullable, ofOption, h, hnull]

/-- An optional text is read if it is kept. -/
lemma nullable_text (text? : Option String) (kept : Bool) :
    jsonReading.nullable jsonReading.text? (if kept then some (ofOption ofText text?) else none) =
      some (if kept then text? else none) :=
  @nullable_ofOption _ Json.text? ofText (fun _ => rfl) (fun _ => rfl) text? kept

/-- An optional number is read if it is kept. -/
lemma nullable_number (number? : Option UInt64) (kept : Bool) :
    jsonReading.nullable jsonReading.number?
        (if kept then some (ofOption numberJson number?) else none) =
      some (if kept then number? else none) :=
  nullable_ofOption word64?_ofNat (fun _ => rfl) number? kept

/-- The members of settings. -/
def members (c : Config) : List (String × Json) :=
  fieldNames.zip
    [.ofText c.bucket, .ofOption .ofText c.root, .ofOption .ofText c.endpoint, .ofText c.region,
     .ofText c.accessKey, .ofText c.secretKey, .bool c.useHttps,
     .ofOption numberJson c.maxConnections, .ofOption .ofText c.proxy,
     .ofOption numberJson c.timeout, numberJson c.batchSize]

/-- Settings are read from the fields that are kept. -/
lemma ofFields?_of_members {field? : String → Option (Option Json)}
    (h : ∀ m ∈ c.members, field? m.1 = some (if keep m.1 then some m.2 else none)) :
    ofFields? jsonReading field? = some (c.keeping keep) := by
  have htext (text default : String) (kept : Bool) :
      Reading.given jsonReading.text? default (if kept then some (ofText text) else none) =
        some (if kept then text else default) :=
    @given_ite _ _ jsonReading.text? (ofText text) text rfl default kept
  have htruth (b default kept : Bool) :
      Reading.given jsonReading.truth? default (if kept then some (.bool b) else none) =
        some (if kept then b else default) :=
    @given_ite _ _ jsonReading.truth? (.bool b) b rfl default kept
  have hnumber (n default : UInt64) (kept : Bool) :
      Reading.given jsonReading.number? default (if kept then some (numberJson n) else none) =
        some (if kept then n else default) := given_ite (word64?_ofNat n) default kept
  simp only [members, fieldNames, List.zip_cons_cons, List.zip_nil_left, List.forall_mem_cons,
    List.not_mem_nil, false_imp_iff, implies_true, and_true] at h
  simp only [ofFields?, h, Option.bind_eq_bind, Option.bind_some, htext, htruth, hnumber,
    nullable_text, nullable_number]
  rfl

/-- **Settings are read** from an object that holds some of their members, in any order: the others
have their defaults. -/
lemma ofJson?_of_perm
    (hperm : ms.Perm (Members.ofPairs (c.members.filter fun m => keep m.1))) :
    ofJson? (.object ms) = some (c.keeping keep) := by
  have hnodup : (c.members.map Prod.fst).Nodup := by
    change fieldNames.Nodup
    decide
  have hnamed : Members.wellNamed ms = true := by
    refine List.all_eq_true.2 fun m hm => ?_
    obtain ⟨m', -, rfl⟩ := List.mem_map.1 (hperm.mem_iff.1 hm)
    rfl
  have hknown : ms.known (c.members.map Prod.fst) = ms := by
    refine List.filter_eq_self.2 fun m hm => ?_
    obtain ⟨m', hm', rfl⟩ := List.mem_map.1 (hperm.mem_iff.1 hm)
    have hname : m'.1 ∈ c.members.map Prod.fst := List.mem_map_of_mem (List.mem_filter.1 hm').1
    simpa using hname
  have hfields : ofFields? jsonReading ms.field? = some (c.keeping keep) :=
    ofFields?_of_members fun m hm => field?_of_perm hnodup (hknown.symm ▸ hperm) hm
  rw [ofJson?, guard_bind, if_pos hnamed]
  exact hfields

/-- Settings of which all is kept are as they were. -/
lemma keeping_all (c : Config) : (c.keeping fun _ => true) = c := rfl

/-- Settings are read back. -/
lemma ofJson?_toJson (c : Config) : ofJson? c.toJson = some c := by
  have h := @ofJson?_of_perm (fun _ => true) c (Members.ofPairs c.members)
  rw [List.filter_true, keeping_all] at h
  exact h (List.Perm.refl _)

end Settings

end Config

/-- **Records survive being written.** Coordinates and ranges survive their text: what is printed is
parsed back, so no two print alike, and so is every text that differs from it in the order of the
fields, in further fields with any values, in blanks or in how strings are written, or that is the
array of all the values; and a text is refused that gives a field twice, or leaves out one other than
the parameters, or gives a zoom level, column or row a number that is no 32-bit word. Settings are
read back from their object, and without some of its members the settings are the same but for the
defaults in their places.

**Proof sketch.** The reader finds the value of every text, and fields are found by their names
wherever they stand. The value of a field determines what is read of it, and a literal stands for a
number if it is its numeral. -/
theorem records_survive :
    Survives Coord.fields Coord.toJson Coord.parse? ∧
    Survives TileRange.fields TileRange.toJson TileRange.parse? ∧
    (∀ c : Config, Config.ofJson? c.toJson = some c) ∧
    ∀ (c : Config) (members : List (String × Json)) (keep : String → Bool) (ms : Members),
      c.toJson = .ofMembers members →
      ms.Perm (Members.ofPairs (members.filter fun m => keep m.1)) →
      Config.ofJson? (.object ms) = some (c.keeping keep) := by
  refine ⟨Coord.form.survives, TileRange.form.survives, Config.ofJson?_toJson,
    fun c members keep ms hmembers hperm => ?_⟩
  obtain rfl : members = c.members := ofMembers_injective hmembers.symm
  exact Config.ofJson?_of_perm hperm

/-- Fields in another order, blanks, an escaped name and a field of another name. -/
example : Coord.parse?
    " \x7b\"y\" : 2, \"\\u0078\":7 ,\"more\":[\x7b\x7d, -1.5e3], \"z\":\t4294967295\x7d" =
      some { z := 4294967295, x := 7, y := 2 } := by
  decide +kernel

end TileCache

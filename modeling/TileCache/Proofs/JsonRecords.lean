import TileCache.Json.Record
import TileCache.Proofs.JsonGrammar
set_option autoImplicit false

/-!
# Records and their texts

A record is written as an object with its fields in the order of their declaration. It is read from
an object by the names of the fields, or from an array of all their values. So its fields may come
in any order and among others, and the text may be written in any way that the grammar allows; but
no field may be given twice, and only a field that may be left out can be missing.

A type of records brings what it has of its own: its fields, how their values are written, and how
they are read from an array. That an object is read as the array of the values that it holds is one
of the laws of such a type. The rest is the same for all of them.

## Main definitions

* `TileCache.Json.Field` — a field, with whether it may be left out and whether it holds a word.
* `TileCache.Json.Members.gather` — the values of the fields, as an object holds them.
* `TileCache.Json.Presents` — an object holds the members of a record, in any order and among others.
* `TileCache.Json.Survives` — what it means that the records of a type survive their text.
* `TileCache.Json.RecordForm` — a type of records with its laws.

## Main results

* `TileCache.Json.field?_of_perm` — a field is found in whatever order the members are.
* `TileCache.Json.RecordForm.survives` — the records of every such type survive their text.
-/

namespace TileCache.Json

/-! ## Fields of objects -/

/-- A field of a record. -/
structure Field where
  name : String
  /-- Whether it may be left out of an object. -/
  optional : Bool := false
  /-- Whether its value is a 32-bit word. -/
  word : Bool := false

namespace Members

/-- Members whose names are texts. -/
def ofPairs (members : List (String × Json)) : Members :=
  members.map fun m => (some m.1, m.2)

/-- The members whose names are among those given. -/
def known (ms : Members) (names : List String) : Members :=
  ms.filter fun m => m.1.any names.contains

/-- The value of a field: one that may be left out is null then. -/
def value? (ms : Members) (f : Field) : Option Json :=
  if f.optional then (ms.field? f.name).map (·.getD .null) else ms.required? f.name

/-- The values of the fields in their order. -/
def gather (ms : Members) (fields : List Field) : Option (List Json) :=
  fields.mapM ms.value?

end Members

section Fields

variable {ms : Members} {members : List (String × Json)} {keep : String → Bool} {name : String}
  {j : Json}

/-- An object determines its members. -/
lemma ofMembers_injective : Function.Injective ofMembers := by
  have hinjective : Function.Injective fun m : String × Json => (some m.1, m.2) := by
    rintro ⟨name, j⟩ ⟨name', j'⟩ heq
    simpa using heq
  exact fun _ _ heq => List.map_injective_iff.2 hinjective (Json.object.inj heq)

/-- Members of one name, if all names are different. -/
lemma filter_eq_singleton (hnodup : (members.map Prod.fst).Nodup) (h : (name, j) ∈ members) :
    members.filter (fun m => m.1 == name) = [(name, j)] := by
  induction members with
  | nil => cases h
  | cons m members ih =>
    rw [List.map_cons, List.nodup_cons] at hnodup
    rcases List.mem_cons.1 h with rfl | hmem
    · have hrest : members.filter (fun m => m.1 == name) = [] := by
        refine List.filter_eq_nil_iff.2 fun m hm heq => hnodup.1 ?_
        exact List.mem_map.2 ⟨m, hm, eq_of_beq heq⟩
      rw [List.filter_cons_of_pos (by simp), hrest]
    · have hne : m.1 ≠ name := fun heq => hnodup.1 (heq ▸ List.mem_map_of_mem hmem)
      rw [List.filter_cons_of_neg (by simpa using hne), ih hnodup.2 hmem]

/-- The members of a known name are among the known ones. -/
lemma filter_known {names : List String} (h : name ∈ names) :
    (ms.known names).filter (fun m => m.1 == some name) = ms.filter fun m => m.1 == some name := by
  rw [Members.known, List.filter_filter]
  refine List.filter_congr fun m _ => ?_
  cases hm : m.1 == some name with
  | false => rfl
  | true => simp [eq_of_beq hm, h]

/-- What of some members has a given name, if all names are different. -/
lemma filter_ofPairs (hnodup : (members.map Prod.fst).Nodup) (h : (name, j) ∈ members) :
    (Members.ofPairs (members.filter fun m => keep m.1)).filter (fun m => m.1 == some name) =
      if keep name then [(some name, j)] else [] := by
  have hfilter : (members.filter fun m => keep m.1).filter (fun m => m.1 == name) =
      [(name, j)].filter fun m => keep m.1 := by
    rw [← filter_eq_singleton hnodup h, List.filter_filter, List.filter_filter]
    simp only [Bool.and_comm]
  have hname : ((fun m => m.1 == some name) ∘ fun (m : String × Json) => (some m.1, m.2)) =
      fun m => m.1 == name := by
    funext m
    exact Option.some_beq_some
  rw [Members.ofPairs, List.filter_map, hname, hfilter]
  cases hkeep : keep name <;> simp [hkeep]

/-- **A field is found** in whatever order the members are, and whatever other members there are,
unless it is left out. -/
lemma field?_of_perm (hnodup : (members.map Prod.fst).Nodup)
    (hperm : (ms.known (members.map Prod.fst)).Perm
      (Members.ofPairs (members.filter fun m => keep m.1)))
    (h : (name, j) ∈ members) :
    ms.field? name = some (if keep name then some j else none) := by
  have hname : name ∈ members.map Prod.fst := List.mem_map_of_mem h
  have hfilter := hperm.filter fun m => m.1 == some name
  rw [filter_known hname, filter_ofPairs hnodup h] at hfilter
  unfold Members.field?
  cases hkeep : keep name with
  | false =>
    rw [hkeep, if_neg Bool.false_ne_true] at hfilter
    rw [hfilter.eq_nil]
    rfl
  | true =>
    rw [hkeep, if_pos rfl] at hfilter
    rw [List.perm_singleton.1 hfilter]
    rfl

/-- A field that is given twice is refused. -/
lemma field?_of_repeated (h : 1 < ms.countP fun m => m.1 == some name) : ms.field? name = none := by
  rw [List.countP_eq_length_filter] at h
  unfold Members.field?
  split
  · next heq => simp [heq] at h
  · next heq => simp [heq] at h
  · rfl

/-- A field that no member has the name of is absent. -/
lemma field?_of_absent (h : ∀ m ∈ ms, m.1 ≠ some name) : ms.field? name = some none := by
  have hfilter : ms.filter (fun m => m.1 == some name) = [] :=
    List.filter_eq_nil_iff.2 fun m hm heq => h m hm (eq_of_beq heq)
  rw [Members.field?, hfilter]

/-- A field that a member has the name of is found there, or given twice. -/
lemma field?_of_mem (h : (some name, j) ∈ ms) :
    ms.field? name = some (some j) ∨ ms.field? name = none := by
  have hmem : (some name, j) ∈ ms.filter fun m => m.1 == some name := List.mem_filter.2 ⟨h, by simp⟩
  unfold Members.field?
  split
  · next heq =>
    rw [heq] at hmem
    cases hmem
  · next m heq =>
    rw [heq, List.mem_singleton] at hmem
    rw [← hmem]
    exact .inl rfl
  · exact .inr rfl

/-- The value of a field that a member has the name of is the member's. -/
lemma eq_of_value?_eq_some {f : Field} {j' : Json} (hvalue : ms.value? f = some j')
    (h : (some f.name, j) ∈ ms) : j' = j := by
  unfold Members.value? Members.required? at hvalue
  rcases field?_of_mem h with hfield | hfield
  · rw [hfield] at hvalue
    split_ifs at hvalue
    · exact (Option.some.inj hvalue).symm
    · exact (Option.some.inj hvalue).symm
  · rw [hfield] at hvalue
    split_ifs at hvalue
    · cases hvalue
    · cases hvalue

end Fields

/-! ## Types of records -/

/-- The numerals of 32-bit words. -/
def IsWord32 (literal : String) : Prop :=
  ∃ n : UInt32, literal = toString n.toNat

/-- An object holds the members of a record, in any order and among members of other names. A field
that may be left out may be missing where it is null. -/
def Presents (fields : List Field) (members : List (String × Json)) (ms : Members) : Prop :=
  ∃ keep : String → Bool,
    (∀ f ∈ fields, keep f.name = false → f.optional = true ∧ (f.name, Json.null) ∈ members) ∧
    (ms.known (fields.map Field.name)).Perm (Members.ofPairs (members.filter fun m => keep m.1))

/-- **The records of a type survive their text**: they are parsed back from what is printed, and from
every other text of an object that holds their members or of the array of their values. A text is
refused if it gives a field twice, leaves out one that may not be, or gives a word a number that is
none; and so is that of an array of another length. -/
structure Survives {α : Type} (fields : List Field) (toJson : α → Json)
    (parse? : String → Option α) : Prop where
  printed : ∀ a, parse? (toJson a).print = some a
  injective : Function.Injective fun a => (toJson a).print
  object : ∀ a members ms text, toJson a = .ofMembers members → Presents fields members ms →
    PaddedText (.object ms) text.toList → parse? text = some a
  array : ∀ a members text, toJson a = .ofMembers members →
    PaddedText (.array (members.map Prod.snd)) text.toList → parse? text = some a
  repeated : ∀ f ∈ fields, ∀ ms text, 1 < ms.countP (fun m => m.1 == some f.name) →
    PaddedText (.object ms) text.toList → parse? text = none
  omitted : ∀ f ∈ fields, f.optional = false → ∀ ms text, (∀ m ∈ ms, m.1 ≠ some f.name) →
    PaddedText (.object ms) text.toList → parse? text = none
  outside : ∀ f ∈ fields, f.word = true → ∀ ms literal text, (some f.name, .number literal) ∈ ms →
    ¬IsWord32 literal → PaddedText (.object ms) text.toList → parse? text = none
  outsideArray : ∀ f items literal text, f.word = true → (f, .number literal) ∈ fields.zip items →
    ¬IsWord32 literal → PaddedText (.array items) text.toList → parse? text = none
  otherLength : ∀ items text, items.length ≠ fields.length →
    PaddedText (.array items) text.toList → parse? text = none

/-- A type of records: its fields, and how records are written and read. Objects are read as the
arrays of the values that they hold; arrays of the values of a record are read as it; and an array
that is read at all has a value for each field, and words where they have to be. -/
structure RecordForm (α : Type) where
  /-- The fields in the order of their declaration. -/
  fields : List Field
  /-- The values of a record, each with its field. -/
  entries : α → List (Field × Json)
  read : Json → Option α
  entries_fst : ∀ a, (entries a).map Prod.fst = fields
  nodup : (fields.map Field.name).Nodup
  fields_ne_nil : fields ≠ []
  read_object : ∀ ms, read (.object ms) =
    if Members.wellNamed ms then (Members.gather ms fields).bind fun items => read (.array items)
    else none
  read_entries : ∀ a, read (.array ((entries a).map Prod.snd)) = some a
  of_read : ∀ items a, read (.array items) = some a → items.length = fields.length ∧
    ∀ e ∈ fields.zip items, e.1.word = true → e.2.word32?.isSome = true
  valueText : ∀ a, ∀ e ∈ entries a, ValueText e.2 e.2.printChars

/-! ## Values of fields -/

section Values

variable {α β : Type} {ms : Members} {t : List Char} {literal : String}

/-- Values that are found one by one are found together. -/
lemma mapM_fst {f : α → Option β} {entries : List (α × β)} (h : ∀ e ∈ entries, f e.1 = some e.2) :
    (entries.map Prod.fst).mapM f = some (entries.map Prod.snd) := by
  induction entries with
  | nil => rfl
  | cons e entries ih =>
    rw [List.forall_mem_cons] at h
    simp [List.mapM_cons, h.1, ih h.2]

/-- Values that are found together are found one by one. -/
lemma exists_mem_zip_of_mapM {f : α → Option β} {xs : List α} {ys : List β}
    (h : xs.mapM f = some ys) : ∀ x ∈ xs, ∃ y, f x = some y ∧ (x, y) ∈ xs.zip ys := by
  induction xs generalizing ys with
  | nil => nofun
  | cons x xs ih =>
    simp only [List.mapM_cons, Option.bind_eq_bind, Option.pure_def, Option.bind_eq_some_iff,
      Option.some.injEq] at h
    obtain ⟨y, hy, ys, hys, rfl⟩ := h
    rw [List.zip_cons_cons, List.forall_mem_cons]
    refine ⟨⟨y, hy, List.mem_cons_self⟩, fun x' hx' => ?_⟩
    obtain ⟨y', hy', hmem⟩ := ih hys x' hx'
    exact ⟨y', hy', List.mem_cons_of_mem _ hmem⟩

/-- A value that is not found spoils all. -/
lemma gather_eq_none {fields : List Field} {f : Field} (hf : f ∈ fields) (h : ms.value? f = none) :
    ms.gather fields = none := by
  rw [Option.eq_none_iff_forall_ne_some]
  intro items hitems
  obtain ⟨j, hj, -⟩ := exists_mem_zip_of_mapM hitems f hf
  rw [h] at hj
  cases hj

/-- Every name of an object that has a text has one itself. -/
lemma wellNamed_of_membersText (h : MembersText ms t) : Members.wellNamed ms = true := by
  have hmember : ∀ m u, MemberText m u → m.1.isSome = true := by
    rintro m u ⟨⟩
    rfl
  induction ms generalizing t with
  | nil => cases h
  | cons m ms ih =>
    cases h with
    | last h => simp [Members.wellNamed, hmember _ _ h]
    | cons h hs =>
      rw [Members.wellNamed, List.all_cons, hmember _ _ h, Bool.true_and]
      exact ih hs

/-- Every name of an object that has a text has one itself, blanks aside. -/
lemma wellNamed_of_paddedText (h : PaddedText (.object ms) t) : Members.wellNamed ms = true := by
  obtain ⟨-, h, -⟩ := h
  cases h with
  | emptyObject => rfl
  | object h => exact wellNamed_of_membersText h

/-- The values of an object that has a text have texts themselves. -/
lemma exists_valueText_of_object (h : PaddedText (.object ms) t) :
    ∀ m ∈ ms, ∃ u, ValueText m.2 u := by
  have hmember : ∀ m u, MemberText m u → ∃ u, ValueText m.2 u := by
    rintro m u ⟨-, -, -, -, h, -⟩
    exact ⟨_, h⟩
  have hmembers : ∀ t, MembersText ms t → ∀ m ∈ ms, ∃ u, ValueText m.2 u := by
    clear h
    induction ms with
    | nil => exact fun _ _ => nofun
    | cons m ms ih =>
      intro t h
      cases h with
      | last h => exact List.forall_mem_singleton.2 (hmember _ _ h)
      | cons h hs => exact List.forall_mem_cons.2 ⟨hmember _ _ h, ih _ hs⟩
  obtain ⟨-, h, -⟩ := h
  cases h with
  | emptyObject => nofun
  | object h => exact hmembers _ h

/-- The items of an array that has a text have texts themselves. -/
lemma exists_valueText_of_array {items : List Json} (h : PaddedText (.array items) t) :
    ∀ j ∈ items, ∃ u, ValueText j u := by
  have hitems : ∀ t, ItemsText items t → ∀ j ∈ items, ∃ u, ValueText j u := by
    clear h
    induction items with
    | nil => exact fun _ _ => nofun
    | cons j items ih =>
      rintro t (⟨⟨-, h, -⟩⟩ | ⟨⟨-, h, -⟩, hs⟩)
      · exact List.forall_mem_singleton.2 ⟨_, h⟩
      · exact List.forall_mem_cons.2 ⟨⟨_, h⟩, ih _ hs⟩
  obtain ⟨-, h, -⟩ := h
  cases h with
  | emptyArray => nofun
  | array h => exact hitems _ h

/-- A literal that is no numeral of a word stands for none. -/
lemma word32?_eq_none (h : ∃ u, ValueText (.number literal) u) (hword : ¬IsWord32 literal) :
    word32? (.number literal) = none := by
  obtain ⟨u, h⟩ := h
  cases h with
  | number h =>
    rw [word32?, Option.map_eq_none_iff, Option.eq_none_iff_forall_ne_some]
    intro n hn
    obtain ⟨rfl, hlt⟩ := (natural?_number_eq_some_iff h).1 hn
    exact hword ⟨UInt32.ofNat n, by rw [UInt32.toNat_ofNat_of_lt' hlt]⟩

end Values

/-! ## Records survive -/

namespace RecordForm

variable {α : Type} (F : RecordForm α)

/-- The members of a record. -/
def members (a : α) : List (String × Json) :=
  (F.entries a).map fun e => (e.1.name, e.2)

/-- A record as a value. -/
def toJson (a : α) : Json :=
  .ofMembers (F.members a)

/-- The record that a text stands for. -/
def parse? (text : String) : Option α :=
  (Json.parse? text.toList).bind F.read

variable {F} {a : α} {f : Field} {ms : Members} {text literal : String} {items : List Json}

/-- The names of the members are those of the fields. -/
lemma members_fst (a : α) : (F.members a).map Prod.fst = F.fields.map Field.name := by
  rw [members, List.map_map, ← F.entries_fst a, List.map_map]
  rfl

/-- The values of the members are those of the entries. -/
lemma members_snd (a : α) : (F.members a).map Prod.snd = (F.entries a).map Prod.snd := by
  rw [members, List.map_map]
  rfl

/-- A text is read as the value that it is a text of. -/
lemma parse?_of_paddedText {j : Json} (h : PaddedText j text.toList) : F.parse? text = F.read j := by
  rw [parse?, h.parse?_eq, Option.bind_some]

/-- An object is not read if the values of the fields are not found. -/
lemma read_eq_none (hf : f ∈ F.fields) (h : ms.value? f = none) : F.read (.object ms) = none := by
  rw [F.read_object, gather_eq_none hf h, Option.bind_none, ite_self]

/-- An object that holds the members of a record has the values of its fields. -/
lemma value?_of_presents (h : Presents F.fields (F.members a) ms) :
    ∀ e ∈ F.entries a, ms.value? e.1 = some e.2 := by
  intro e he
  obtain ⟨keep, hkeep, hperm⟩ := h
  have hmem : (e.1.name, e.2) ∈ F.members a := List.mem_map_of_mem he
  have hnodup : ((F.members a).map Prod.fst).Nodup := by
    rw [members_fst]
    exact F.nodup
  rw [← members_fst a] at hperm
  have hfield := field?_of_perm hnodup hperm hmem
  have hf : e.1 ∈ F.fields := by
    rw [← F.entries_fst a]
    exact List.mem_map_of_mem he
  rw [Members.value?, Members.required?, hfield]
  cases hname : keep e.1.name with
  | true => cases e.1.optional <;> rfl
  | false =>
    -- A field that is left out is null.
    obtain ⟨hoptional, hnull⟩ := hkeep e.1 hf hname
    have hsingle := filter_eq_singleton hnodup hmem
    have hvalue : (e.1.name, Json.null) ∈ [(e.1.name, e.2)] := by
      rw [← hsingle]
      exact List.mem_filter.2 ⟨hnull, by simp⟩
    rw [List.mem_singleton, Prod.mk.injEq] at hvalue
    rw [hoptional, ← hvalue.2]
    rfl

/-- An object that holds the members of a record is read as it. -/
lemma read_of_presents (hnamed : Members.wellNamed ms = true)
    (h : Presents F.fields (F.members a) ms) : F.read (.object ms) = some a := by
  have hgather : ms.gather F.fields = some ((F.entries a).map Prod.snd) := by
    rw [Members.gather, ← F.entries_fst a]
    exact mapM_fst (value?_of_presents h)
  rw [F.read_object, if_pos hnamed, hgather, Option.bind_some, F.read_entries]

/-- The members of a record hold them. -/
lemma presents_members (a : α) : Presents F.fields (F.members a) (.ofPairs (F.members a)) := by
  refine ⟨fun _ => true, nofun, ?_⟩
  have hknown : (Members.ofPairs (F.members a)).known (F.fields.map Field.name) =
      Members.ofPairs (F.members a) := by
    refine List.filter_eq_self.2 fun m hm => ?_
    obtain ⟨e, he, rfl⟩ := List.mem_map.1 hm
    have hname : e.1 ∈ F.fields.map Field.name := by
      rw [← members_fst a]
      exact List.mem_map_of_mem he
    simpa using hname
  rw [hknown, List.filter_true]

/-- What is printed is a text of the record. -/
lemma paddedText_print (a : α) : PaddedText (F.toJson a) (F.toJson a).print.toList := by
  refine (valueText_ofMembers ?_ fun m hm => ?_).padded
  · intro hnil
    have hfst := members_fst (F := F) a
    rw [hnil, List.map_nil] at hfst
    exact F.fields_ne_nil (List.map_eq_nil_iff.1 hfst.symm)
  · obtain ⟨e, he, rfl⟩ := List.mem_map.1 hm
    exact F.valueText a e he

/-- The printed text of a record is parsed back. -/
lemma parse?_print (a : α) : F.parse? (F.toJson a).print = some a := by
  have hprint := paddedText_print (F := F) a
  rw [parse?_of_paddedText hprint]
  exact read_of_presents (wellNamed_of_paddedText hprint) (presents_members a)

/-- A value that is no word is refused in an array. -/
lemma read_array_eq_none (hword : f.word = true) {j : Json} (hmem : (f, j) ∈ F.fields.zip items)
    (h : j.word32? = none) : F.read (.array items) = none := by
  rw [Option.eq_none_iff_forall_ne_some]
  intro a ha
  have hsome := (F.of_read items a ha).2 (f, j) hmem hword
  rw [h] at hsome
  cases hsome

/-- A value that is no word is refused in an object. -/
lemma read_object_eq_none (hf : f ∈ F.fields) (hword : f.word = true) {j : Json}
    (hmem : (some f.name, j) ∈ ms) (h : j.word32? = none) :
    F.read (.object ms) = none := by
  rw [F.read_object]
  split_ifs
  · cases hgather : ms.gather F.fields with
    | none => rfl
    | some items =>
      obtain ⟨j', hvalue, hzip⟩ := exists_mem_zip_of_mapM hgather f hf
      -- The value that is gathered for the field is that of its member.
      have hj : j' = j := eq_of_value?_eq_some hvalue hmem
      exact read_array_eq_none hword (hj ▸ hzip) h
  · rfl

/-- **The records of such a type survive their text.** -/
theorem survives (F : RecordForm α) : Survives F.fields F.toJson F.parse? where
  printed := parse?_print
  injective a b h := by
    have hparse := congrArg F.parse? h
    simpa only [parse?_print, Option.some.injEq] using hparse
  object a members ms text hmembers h htext := by
    rw [← ofMembers_injective hmembers] at h
    rw [parse?_of_paddedText htext]
    exact read_of_presents (wellNamed_of_paddedText htext) h
  array a members text hmembers htext := by
    rw [← ofMembers_injective hmembers, members_snd] at htext
    rw [parse?_of_paddedText htext, F.read_entries]
  repeated f hf ms text h htext := by
    have hvalue : Members.value? ms f = none := by
      rw [Members.value?, Members.required?, field?_of_repeated h]
      cases f.optional <;> rfl
    rw [parse?_of_paddedText htext, read_eq_none hf hvalue]
  omitted f hf hoptional ms text h htext := by
    have hvalue : Members.value? ms f = none := by
      rw [Members.value?, Members.required?, field?_of_absent h, hoptional]
      rfl
    rw [parse?_of_paddedText htext, read_eq_none hf hvalue]
  outside f hf hword ms literal text hmem h htext := by
    have hnone := word32?_eq_none (exists_valueText_of_object htext _ hmem) h
    rw [parse?_of_paddedText htext, read_object_eq_none hf hword hmem hnone]
  outsideArray f items literal text hword hmem h htext := by
    have hnone := word32?_eq_none
      (exists_valueText_of_array htext _ (List.of_mem_zip hmem).2) h
    rw [parse?_of_paddedText htext, read_array_eq_none hword hmem hnone]
  otherLength items text h htext := by
    rw [parse?_of_paddedText htext, Option.eq_none_iff_forall_ne_some]
    exact fun a ha => h (F.of_read items a ha).1

end RecordForm

end TileCache.Json

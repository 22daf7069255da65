import TileCache.Proofs.Effect
set_option autoImplicit false

/-!
# The catalogue: what a store is to its callers

Callers need not know of keys, listings, batches or encodings. To them a store is a catalogue: a
finite map from the addresses of tiles to blobs with the time at which each was written, and for
each layer a finite map of metadata. Each call reads or changes it in one step.

## Main definitions

* `TileCache.Slot.check` — why an address cannot be used, if it cannot.
* `TileCache.Deposit`, `TileCache.Catalogue` — a blob with its time, and the catalogue.
* `TileCache.Catalogue.step`, `TileCache.Catalogue.run` — one call, and a run of them.

## Main results

* `TileCache.Layout.tile_check` — a tile has a key just if its address can be used.
-/

namespace TileCache

/-! ## Addresses that can be used -/

/-- Fails for an empty identifier. -/
def named (what : Identifier) (identifier : String) : Except StorageError Unit :=
  if identifier = "" then .error (.invalidArgument (.empty what)) else .ok ()

namespace Slot

/-- Fails for the first identifier of an address that is empty. -/
def check (s : Slot) : Except StorageError Unit := do
  named .layer s.layer
  named .gridset s.gridset
  named .format s.format
  named .parameters s.parameters

/-- The words of an address, level by level. -/
def words (s : Slot) : List String :=
  [s.layer, s.gridset, s.format, s.parameters, toString s.coord.z.toNat, toString s.coord.x.toNat,
    toString s.coord.y.toNat]

/-- Addresses are what their words are. -/
lemma words_inj {s t : Slot} : s.words = t.words ↔ s = t := by
  constructor
  · intro h
    obtain ⟨_, _, _, _, z, x, y⟩ := s
    obtain ⟨_, _, _, _, z', x', y'⟩ := t
    simpa only [words, List.cons.injEq, Layout.toString_toNat_inj, and_true, mk.injEq,
      Coord.mk.injEq] using h
  · rintro rfl
    rfl

/-- Addresses are in the order of their words, so that they can be kept in sorted maps. -/
instance : Ord Slot := ⟨fun s t => compare s.words t.words⟩

instance : Std.TransOrd Slot where
  eq_swap {s t} :=
    show compare s.words t.words = (compare t.words s.words).swap from Std.OrientedCmp.eq_swap
  isLE_trans {s t u} h h' :=
    show (compare s.words u.words).isLE from
      Std.TransCmp.isLE_trans (show (compare s.words t.words).isLE from h) h'

instance : Std.LawfulEqOrd Slot where
  eq_of_compare {s t} h :=
    words_inj.1 (Std.LawfulEqCmp.eq_of_compare (show compare s.words t.words = .eq from h))

end Slot

namespace Layout

variable (l : Layout)

/-- A layer has a key just if it is named. -/
lemma layer_check (n : String) : (fun _ => ()) <$> l.layer n = named .layer n := by
  unfold layer segment named
  split_ifs <;> rfl

/-- The metadata of a layer has a key just if the layer is named. -/
lemma metadata_check (n : String) : (fun _ => ()) <$> l.metadata n = named .layer n := by
  unfold metadata layer segment named
  split_ifs <;> rfl

/-- A gridset has a key just if it and its layer are named. -/
lemma gridset_check (n g : String) :
    (fun _ => ()) <$> l.gridset n g = (do named .layer n; named .gridset g) := by
  unfold gridset layer segment named
  split_ifs <;> rfl

/-- **A tile has a key just if its address can be used**, and the errors agree. -/
lemma tile_check (t : Tile) : (fun _ => ()) <$> l.tile t = t.slot.check := by
  unfold tile gridset layer segment Slot.check named Tile.slot
  dsimp only
  split_ifs <;> rfl

end Layout

/-! ## The catalogue -/

/-- A blob with the time at which it was written. -/
structure Deposit where
  blob : Octets
  written : ℕ
  deriving DecidableEq, Repr

/-- What a store is to its callers. -/
structure Catalogue where
  /-- The blobs by the addresses of their tiles. -/
  tiles : SortedMap Slot Deposit := .empty
  /-- The metadata of every layer, empty if nothing was written. -/
  metadata : String → Properties := fun _ => .empty
  /-- How many writes there have been. -/
  clock : ℕ := 0

namespace Catalogue

/-- Whether a tile is kept whose address passes a test. -/
def holds (c : Catalogue) (test : Slot → Bool) : Bool :=
  c.tiles.keys.any test

/-- The catalogue without the tiles whose address passes a test. -/
def without (c : Catalogue) (test : Slot → Bool) : Catalogue :=
  { c with tiles := c.tiles.filter fun s => !test s }

/-- The catalogue with other metadata of a layer. -/
def setMetadata (c : Catalogue) (n : String) (m : Properties) : Catalogue :=
  { c with metadata := Function.update c.metadata n m }

/-- The catalogue with a blob kept at an address, which takes one tick of the clock. -/
def store (c : Catalogue) (s : Slot) (blob : Octets) : Catalogue :=
  { c with tiles := c.tiles.insert s ⟨blob, c.clock + 1⟩, clock := c.clock + 1 }

/-- Storing a tile, which must have a blob and a format, overwrites what is kept at its address. -/
def put (c : Catalogue) (t : Tile) : Reply × Catalogue :=
  match t.blob with
  | none => ({ completion := .failed (.invalidArgument .blobRequired) }, c)
  | some blob =>
    if t.format = "" then ({ completion := .failed (.invalidArgument .formatRequired) }, c)
    else
      match t.slot.check with
      | .error error => ({ completion := .failed error }, c)
      | .ok () => ({ completion := .returned .done }, c.store t.slot blob)

/-- Reading a tile fills in the blob that is kept at its address, its length and its time, and
nothing else. -/
def get (c : Catalogue) (t : Tile) : Reply × Catalogue :=
  match t.slot.check with
  | .error error => ({ completion := .failed error, tile := t }, c)
  | .ok () =>
    match c.tiles.find? t.slot with
    | none => ({ completion := .returned (.truth false), tile := t }, c)
    | some d =>
      ({ completion := .returned (.truth true)
         tile := some { t with
           blob := some d.blob, blobSize := d.blob.length, created := some d.written } }, c)

/-- Removing a tile removes what is kept at its address, and fills in its length and nothing
else. -/
def deleteTile (c : Catalogue) (t : Tile) : Reply × Catalogue :=
  match t.slot.check with
  | .error error => ({ completion := .failed error, tile := t }, c)
  | .ok () =>
    match c.tiles.find? t.slot with
    | none => ({ completion := .returned (.truth false), tile := t }, c)
    | some d =>
      ({ completion := .returned (.truth true)
         tile := some { t with blobSize := d.blob.length } },
        c.without fun s => s = t.slot)

/-- Removing a layer removes its tiles and its metadata; it returns whether there were any. -/
def deleteLayer (c : Catalogue) (n : String) : Reply × Catalogue :=
  match named .layer n with
  | .error error => ({ completion := .failed error }, c)
  | .ok () =>
    ({ completion := .returned (.truth
        ((c.holds fun s => s.layer = n) || decide (c.metadata n ≠ .empty))) },
      (c.without fun s => s.layer = n).setMetadata n .empty)

/-- Removing a gridset removes its tiles; it returns whether there were any. -/
def deleteGridset (c : Catalogue) (n g : String) : Reply × Catalogue :=
  match (do named .layer n; named .gridset g) with
  | .error error => ({ completion := .failed error }, c)
  | .ok () =>
    ({ completion := .returned (.truth (c.holds fun s => s.layer = n ∧ s.gridset = g)) },
      c.without fun s => s.layer = n ∧ s.gridset = g)

/-- Reading metadata looks a name up. -/
def getMetadata (c : Catalogue) (n name : String) : Reply × Catalogue :=
  match named .layer n with
  | .error error => ({ completion := .failed error }, c)
  | .ok () => ({ completion := .returned (.text ((c.metadata n).find? name)) }, c)

/-- Writing metadata changes the value of one name, which takes one tick of the clock. -/
def putMetadata (c : Catalogue) (n name value : String) : Reply × Catalogue :=
  match named .layer n with
  | .error error => ({ completion := .failed error }, c)
  | .ok () =>
    ({ completion := .returned .done },
      { c.setMetadata n ((c.metadata n).insert name value) with clock := c.clock + 1 })

/-- What a call replies, and the catalogue after it. -/
def step (c : Catalogue) : Call → Reply × Catalogue
  | .put t => c.put t
  | .get t => c.get t
  | .deleteTile t => c.deleteTile t
  | .deleteLayer n => c.deleteLayer n
  | .deleteGridset n g => c.deleteGridset n g
  | .getMetadata n name => c.getMetadata n name
  | .putMetadata n name value => c.putMetadata n name value

/-- What the calls of a run reply. -/
def replies (c : Catalogue) : List Call → List Reply
  | [] => []
  | call :: rest => (c.step call).1 :: replies (c.step call).2 rest

end Catalogue

end TileCache

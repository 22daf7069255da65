import TileCache.Proofs.Atomicity
import TileCache.Proofs.Properties
set_option autoImplicit false

/-!
# Writes of metadata

A value of metadata is written by fetching all metadata of the layer, reading it as a map, setting
the value and putting the whole map back. What was stored may be any text: it counts only as the map
it is read as, and what is put back is how the writer puts down a map. So one write is known exactly
(`putMetadata_cases`), and so is a run of writes, whichever of them fail (`octets?_after_writes`):
what is stored is how the writer puts down the previous map with the written values laid over it,
and nothing else about the writes or about the previous text is left in it.

## Main definitions

* `TileCache.Bucket.octets?` — the octets of an object.
* `TileCache.World.Finds` — what a read of metadata finds.
* `TileCache.Operation.writes`, `TileCache.World.written` — a run of writes of metadata, and those
  of them that succeed.
* `TileCache.World.handEdited` — a bucket with metadata that was edited by hand.

## Main results

* `TileCache.Operation.putMetadata_cases` — what one write does, whichever request fails.
* `TileCache.World.octets?_after_writes` — what a run of writes leaves.
* `TileCache.Operation.metadata_writes_exact` — writes of metadata over any stored text.
-/

namespace TileCache

/-- The octets of the object with a key, if there is one. -/
def Bucket.octets? (b : Bucket) (key : Key) : Option Octets :=
  (b.find? key).map StoredObject.data

namespace Bucket

variable {b : Bucket} {key : Key}

/-- The metadata kept under a key is what its octets are read as. -/
lemma properties_eq_octets? (b : Bucket) (key : Key) :
    b.properties key = (b.octets? key).elim (.ok .empty) Properties.decode := by
  unfold properties octets?
  cases b.find? key <;> rfl

/-- Whether buckets keep the same metadata is decided by the octets. -/
lemma properties_congr {b' : Bucket} (h : b.octets? key = b'.octets? key) :
    b.properties key = b'.properties key := by
  rw [properties_eq_octets?, properties_eq_octets?, h]

/-- What was put under a key are its octets. -/
lemma octets?_put (b : Bucket) (key : Key) (data : Octets) (contentType : String) :
    (b.put key data contentType).octets? key = some data := by
  simp [octets?, find?, put, SortedMap.find?_insert_self]

/-- A map that was written is kept. -/
lemma properties_of_octets? {m : Properties} (h : b.octets? key = some (Properties.encode m)) :
    b.properties key = .ok m := by
  rw [properties_eq_octets?, h]
  exact m.decode_encode

/-- A text can be read as metadata, whatever it is. -/
lemma exists_properties (h : ∀ octets, b.octets? key = some octets →
    ∃ text, octets = Utf8.encode text) : ∃ m, b.properties key = .ok m := by
  rw [properties_eq_octets?]
  cases hoctets : b.octets? key with
  | none => exact ⟨.empty, rfl⟩
  | some octets =>
    obtain ⟨text, rfl⟩ := h octets hoctets
    refine ⟨Properties.ofText text.toList, ?_⟩
    simp [Properties.decode, Utf8.decode_encode]

end Bucket

/-! ## The requests -/

namespace Store

open RequestM

variable {s : Store} {p : Plan} {σ σ' : Session} {n name value : String} {key : Key}
  {m : Properties}

/-- A value that is read is looked up in what is kept. -/
lemma eq_find?_of_readMetadata (hhonest : p.FetchesHonestly)
    (hkey : s.layout.metadata n = .ok key) (hm : σ.bucket.properties key = .ok m)
    {found : Option String} (h : (readMetadata n name s).runUnder p σ = (.ok found, σ')) :
    found = m.find? name := by
  unfold readMetadata at h
  rw [requireLive_eq, runUnder_ofExcept_bind_eq_ok_iff] at h
  obtain ⟨_, -, h⟩ := h
  obtain ⟨m', σ₁, hload, hfound⟩ := runUnder_bind_eq_ok_iff.1 h
  obtain rfl : m = m' :=
    Except.ok.inj (hm.symm.trans (properties_of_loadProperties hkey (hhonest _ _) hload))
  rw [runUnder_pure, Prod.mk.injEq] at hfound
  exact (Except.ok.inj hfound.1).symm

/-- A write that succeeds puts back what is kept with the value set. -/
lemma octets?_of_writeMetadata (hhonest : p.FetchesHonestly)
    (hkey : s.layout.metadata n = .ok key) (hm : σ.bucket.properties key = .ok m) {u : Unit}
    (h : (writeMetadata n name value s).runUnder p σ = (.ok u, σ')) :
    σ'.bucket.octets? key = some (Properties.encode (m.insert name value)) := by
  unfold writeMetadata at h
  rw [requireLive_eq, runUnder_ofExcept_bind_eq_ok_iff] at h
  obtain ⟨_, -, h⟩ := h
  obtain ⟨m', σ₁, hload, hput⟩ := runUnder_bind_eq_ok_iff.1 h
  obtain rfl : m = m' :=
    Except.ok.inj (hm.symm.trans (properties_of_loadProperties hkey (hhonest _ _) hload))
  rw [hkey, ofExcept_ok, pure_bind, Backend.runUnder_put] at hput
  split at hput
  · cases hput
  · cases hput
    exact Bucket.octets?_put _ _ _ _

end Store

/-! ## One write and one read -/

namespace Operation

open StoreM Store

variable {c : Context} {w : World} {n name value : String} {key : Key} {m : Properties}

/-- A write of metadata is its requests; nobody hears of it. -/
lemma runIn_putMetadata {x : Except StorageError Unit} {session : Session}
    (h : (writeMetadata n name value w.store).runUnder c.plan w.session = (x, session)) :
    (putMetadata n name value).perform.runIn c w =
      ({ completion := (settled x).map fun _ => .done }, { w with session }) := by
  simp only [perform, Store.putMetadata, runIn_bind, runIn_request h, runIn_pure]

/-- A read of metadata is its requests; nobody hears of it. -/
lemma runIn_getMetadata {x : Except StorageError (Option String)} {session : Session}
    (h : (readMetadata n name w.store).runUnder c.plan w.session = (x, session)) :
    (getMetadata n name).perform.runIn c w =
      ({ completion := (settled x).map .text }, { w with session }) := by
  simp only [perform, Store.getMetadata, runIn_bind, runIn_request h, runIn_pure]

/-- **One write of metadata**: either it returns, and what is stored is how the writer puts down the
previous map with the value set, or it fails, and what is stored is as before. -/
lemma putMetadata_cases (hhonest : c.plan.FetchesHonestly)
    (hkey : w.store.layout.metadata n = .ok key) (hm : w.session.bucket.properties key = .ok m)
    (name value : String) :
    let reply := ((putMetadata n name value).perform.runIn c w).1
    let w' := ((putMetadata n name value).perform.runIn c w).2
    w'.store = w.store ∧
      (reply.completion = .returned .done ∧
          w'.session.bucket.octets? key = some (Properties.encode (m.insert name value)) ∨
        reply.completion ≠ .returned .done ∧
          w'.session.bucket.octets? key = w.session.bucket.octets? key) := by
  cases hrun : (writeMetadata n name value w.store).runUnder c.plan w.session with
  | mk x session =>
    rw [runIn_putMetadata hrun]
    refine ⟨rfl, ?_⟩
    cases x with
    | ok u => exact .inl ⟨rfl, octets?_of_writeMetadata hhonest hkey hm hrun⟩
    | error e =>
      have huntouched := w.store.atomic_writeMetadata n name value c.plan w.session e session hrun
      exact .inr ⟨nofun, by rw [huntouched.bucket_eq]⟩

/-- A write that returns leaves stored how the writer puts down the map with the value set. -/
lemma putMetadata_of_returned (hhonest : c.plan.FetchesHonestly)
    (hkey : w.store.layout.metadata n = .ok key) (hm : w.session.bucket.properties key = .ok m)
    (h : ((putMetadata n name value).perform.runIn c w).1.completion = .returned .done) :
    let w' := ((putMetadata n name value).perform.runIn c w).2
    w'.store = w.store ∧
      w'.session.bucket.octets? key = some (Properties.encode (m.insert name value)) := by
  obtain ⟨hstore, ⟨-, hoctets⟩ | ⟨hfailed, -⟩⟩ := putMetadata_cases hhonest hkey hm name value
  · exact ⟨hstore, hoctets⟩
  · exact absurd h hfailed

/-- A write of metadata that can be read returns if no request fails. -/
lemma putMetadata_returned (hplan : c.plan = .faultless) (hlive : w.store.live = true)
    (hkey : w.store.layout.metadata n = .ok key) (hm : w.session.bucket.properties key = .ok m)
    (name value : String) :
    ((putMetadata n name value).perform.runIn c w).1.completion = .returned .done := by
  have hcheck : w.store.checkedMetadata n = .ok key := checkedMetadata_eq_ok_iff.2 ⟨hkey, hlive⟩
  have hserves : RequestM.Serves (writeMetadata n name value w.store) w.session.bucket (.ok ()) _ :=
    serves_writeMetadata _ hcheck hm
  obtain ⟨session, hrun, -⟩ := hserves w.session rfl
  rw [← hplan] at hrun
  rw [runIn_putMetadata hrun]
  rfl

end Operation

/-- A read of metadata finds a value, or finds that there is none: it returns just that unless a
request fails. -/
def World.Finds (w : World) (n name : String) (found : Option String) : Prop :=
  (∀ c answer, c.plan.FetchesHonestly →
    ((Operation.getMetadata n name).perform.runIn c w).1.completion = .returned answer →
      answer = .text found) ∧
  ∀ c, c.plan = .faultless →
    ((Operation.getMetadata n name).perform.runIn c w).1.completion = .returned (.text found)

namespace World

open Operation Store

variable {c : Context} {w : World} {n name : String} {key : Key} {m : Properties}

/-- What is found is looked up in the map that is kept. -/
lemma finds_of_properties (hlive : w.store.live = true)
    (hkey : w.store.layout.metadata n = .ok key) (hm : w.session.bucket.properties key = .ok m)
    (name : String) : w.Finds n name (m.find? name) := by
  constructor
  · intro c answer hhonest hreturned
    cases hrun : (readMetadata n name w.store).runUnder c.plan w.session with
    | mk x session =>
      rw [runIn_getMetadata hrun] at hreturned
      cases x with
      | error e => cases hreturned
      | ok found =>
        obtain rfl := eq_find?_of_readMetadata hhonest hkey hm hrun
        cases hreturned
        rfl
  · intro c hplan
    have hcheck : w.store.checkedMetadata n = .ok key := checkedMetadata_eq_ok_iff.2 ⟨hkey, hlive⟩
    have hserves : RequestM.Serves (readMetadata n name w.store) w.session.bucket _ _ :=
      serves_readMetadata _ hcheck
    obtain ⟨session, hrun, -⟩ := hserves w.session rfl
    rw [hm, ← hplan] at hrun
    rw [runIn_getMetadata hrun]
    rfl

end World

/-! ## A run of writes -/

/-- The writes of values of a layer's metadata, one after the other. -/
def Operation.writes (n : String) (bindings : List (String × String)) : List Operation :=
  bindings.map fun e => .putMetadata n e.1 e.2

/-- The bindings of a run of writes that are written, as opposed to those whose write fails. -/
def World.written (w : World) (c : Context) (n : String) :
    List (String × String) → List (String × String)
  | [] => []
  | e :: rest =>
    let step := (Operation.putMetadata n e.1 e.2).perform.runIn c w
    if step.1.completion = .returned .done then e :: step.2.written c n rest
    else step.2.written c n rest

namespace World

open Operation

variable {c : Context} {w : World} {n : String} {key : Key} {m : Properties}

/-- **A run of writes**: what is stored is how the writer puts down the previous map with all that
was written set in it, one after the other; if nothing was written, what is stored is as before. -/
lemma octets?_after_writes (hhonest : c.plan.FetchesHonestly)
    (hkey : w.store.layout.metadata n = .ok key) (hm : w.session.bucket.properties key = .ok m)
    (bindings : List (String × String)) :
    (w.after c (writes n bindings)).session.bucket.octets? key =
      if w.written c n bindings = [] then w.session.bucket.octets? key
      else some (Properties.encode
        ((w.written c n bindings).foldl (fun m e => m.insert e.1 e.2) m)) := by
  induction bindings generalizing w m with
  | nil => rfl
  | cons e rest ih =>
    have hstep : w.after c (writes n (e :: rest)) =
        (((putMetadata n e.1 e.2).perform.runIn c w).2).after c (writes n rest) := by
      rw [writes, List.map_cons, after_cons]
      rfl
    obtain ⟨hstore, ⟨hreturned, hoctets⟩ | ⟨hfailed, hoctets⟩⟩ :=
      putMetadata_cases hhonest hkey hm e.1 e.2
    · rw [hstep, ih (hstore ▸ hkey) (Bucket.properties_of_octets? hoctets), written,
        if_pos hreturned, hoctets]
      cases ((putMetadata n e.1 e.2).perform.runIn c w).2.written c n rest <;> simp
    · have hkept := (Bucket.properties_congr hoctets).trans hm
      rw [hstep, ih (hstore ▸ hkey) hkept, written, if_neg hfailed, hoctets]

/-- If anything was written, what is stored is how the writer puts down the previous map with the
written bindings laid over it. -/
lemma octets?_after_written (hhonest : c.plan.FetchesHonestly)
    (hkey : w.store.layout.metadata n = .ok key) (hm : w.session.bucket.properties key = .ok m)
    {bindings : List (String × String)} (hwritten : w.written c n bindings ≠ []) :
    (w.after c (writes n bindings)).session.bucket.octets? key =
      some (Properties.encode (m.overlay (.ofList (w.written c n bindings)))) := by
  rw [octets?_after_writes hhonest hkey hm, if_neg hwritten, SortedMap.foldl_insert_eq_overlay]

/-- If no request fails, everything is written. -/
lemma written_faultless (hplan : c.plan = .faultless) (hlive : w.store.live = true)
    (hkey : w.store.layout.metadata n = .ok key) (hm : w.session.bucket.properties key = .ok m)
    (bindings : List (String × String)) : w.written c n bindings = bindings := by
  induction bindings generalizing w m with
  | nil => rfl
  | cons e rest ih =>
    have hhonest : c.plan.FetchesHonestly := by
      rw [hplan]
      exact nofun
    have hreturned := putMetadata_returned hplan hlive hkey hm e.1 e.2
    obtain ⟨hstore, hoctets⟩ := putMetadata_of_returned hhonest hkey hm hreturned
    rw [written, if_pos hreturned, ih (hstore ▸ hlive) (hstore ▸ hkey)
      (Bucket.properties_of_octets? hoctets)]

/-- Writes of distinct values leave the same octets in either order. -/
lemma octets?_after_swap {c' : Context} (hhonest : c.plan.FetchesHonestly)
    (hhonest' : c'.plan.FetchesHonestly) (hkey : w.store.layout.metadata n = .ok key)
    (hm : w.session.bucket.properties key = .ok m) {a b : String × String} (hne : a.1 ≠ b.1)
    (hab : w.written c n [a, b] = [a, b]) (hba : w.written c' n [b, a] = [b, a]) :
    (w.after c (writes n [a, b])).session.bucket.octets? key =
      (w.after c' (writes n [b, a])).session.bucket.octets? key := by
  rw [octets?_after_writes hhonest hkey hm, octets?_after_writes hhonest' hkey hm, hab, hba]
  simp [SortedMap.insert_comm hne]

end World

namespace Operation

variable {w : World} {n : String} {key : Key} {m : Properties}

/-- A write that is repeated leaves the octets as they are, whether it succeeds or not. -/
lemma octets?_putMetadata_again {c c' : Context} {name value : String}
    (hhonest : c.plan.FetchesHonestly) (hhonest' : c'.plan.FetchesHonestly)
    (hkey : w.store.layout.metadata n = .ok key) (hm : w.session.bucket.properties key = .ok m)
    (h : ((putMetadata n name value).perform.runIn c w).1.completion = .returned .done) :
    let once := ((putMetadata n name value).perform.runIn c w).2
    let twice := ((putMetadata n name value).perform.runIn c' once).2
    twice.session.bucket.octets? key = once.session.bucket.octets? key := by
  intro once twice
  obtain ⟨hstore, honce⟩ := putMetadata_of_returned hhonest hkey hm h
  obtain ⟨-, ⟨-, htwice⟩ | ⟨-, htwice⟩⟩ := putMetadata_cases hhonest' (hstore ▸ hkey)
    (Bucket.properties_of_octets? honce) name value
  · exact htwice.trans (by rw [SortedMap.insert_insert_self, honce])
  · exact htwice

/-- **Writes of metadata over any stored text.** Let the metadata of a layer be absent or any text
at all, written by the store or by hand. It is read as some map.

* A write that returns leaves stored how the writer puts down that map with the value set. So a read
  finds the value under its name, and under every other name what it found before.
* Writes of values with distinct names leave the same octets in either order.
* A write that is repeated leaves the octets as they are.
* A run of writes, some of which may fail, leaves stored how the writer puts down the map with all
  that was written laid over it. So two runs leave the same octets just if they come to the same
  map.
* If no request fails, all is written.

All this holds whichever requests fail, as long as no fetch is refused as if there were no metadata.

**Proof sketch.** By `putMetadata_cases` one write that returns stores the writer's octets of a map,
and these are read as that map again. So the next write starts from that map, and by induction a run
of writes inserts into the first map what is written, one after the other. What is stored is a
function of the map that this comes to, and of two maps the octets differ. -/
theorem metadata_writes_exact (hlive : w.store.live = true)
    (hkey : w.store.layout.metadata n = .ok key)
    (htext : ∀ octets, w.session.bucket.octets? key = some octets →
      ∃ text, octets = Utf8.encode text) :
    ∃ m, w.session.bucket.properties key = .ok m ∧
      (∀ c name value, c.plan.FetchesHonestly →
        let step := (putMetadata n name value).perform.runIn c w
        step.1.completion = .returned .done →
          step.2.session.bucket.octets? key = some (Properties.encode (m.insert name value)) ∧
          ∀ other, w.Finds n other (m.find? other) ∧
            step.2.Finds n other (if other = name then some value else m.find? other)) ∧
      (∀ c c' a b, c.plan.FetchesHonestly → c'.plan.FetchesHonestly → a.1 ≠ b.1 →
        w.written c n [a, b] = [a, b] → w.written c' n [b, a] = [b, a] →
          (w.after c (writes n [a, b])).session.bucket.octets? key =
            (w.after c' (writes n [b, a])).session.bucket.octets? key) ∧
      (∀ c c' name value, c.plan.FetchesHonestly → c'.plan.FetchesHonestly →
        let once := (putMetadata n name value).perform.runIn c w
        let twice := (putMetadata n name value).perform.runIn c' once.2
        once.1.completion = .returned .done →
          twice.2.session.bucket.octets? key = once.2.session.bucket.octets? key) ∧
      (∀ c bindings, c.plan.FetchesHonestly → w.written c n bindings ≠ [] →
        (w.after c (writes n bindings)).session.bucket.octets? key =
          some (Properties.encode (m.overlay (.ofList (w.written c n bindings))))) ∧
      (∀ c c' bindings bindings', c.plan.FetchesHonestly → c'.plan.FetchesHonestly →
        w.written c n bindings ≠ [] → w.written c' n bindings' ≠ [] →
          ((w.after c (writes n bindings)).session.bucket.octets? key =
              (w.after c' (writes n bindings')).session.bucket.octets? key ↔
            m.overlay (.ofList (w.written c n bindings)) =
              m.overlay (.ofList (w.written c' n bindings')))) ∧
      ∀ c bindings, c.plan = .faultless → w.written c n bindings = bindings := by
  obtain ⟨m, hm⟩ := Bucket.exists_properties htext
  refine ⟨m, hm, fun c name value hhonest => ?_, fun c c' a b hc hc' hne hab hba => ?_,
    fun c c' name value hc hc' => ?_, fun c bindings hc hne => ?_,
    fun c c' bindings bindings' hc hc' hne hne' => ?_, fun c bindings hplan => ?_⟩
  · intro step hreturned
    obtain ⟨hstore, hoctets⟩ := putMetadata_of_returned hhonest hkey hm hreturned
    refine ⟨hoctets, fun other => ⟨World.finds_of_properties hlive hkey hm other, ?_⟩⟩
    rw [← SortedMap.find?_insert_eq]
    exact World.finds_of_properties (hstore ▸ hlive) (hstore ▸ hkey)
      (Bucket.properties_of_octets? hoctets) other
  · exact World.octets?_after_swap hc hc' hkey hm hne hab hba
  · exact octets?_putMetadata_again hc hc' hkey hm
  · exact World.octets?_after_written hc hkey hm hne
  · rw [World.octets?_after_written hc hkey hm hne, World.octets?_after_written hc' hkey hm hne',
      Option.some_inj]
    exact ⟨fun h => Properties.encode_injective h, congrArg _⟩
  · exact World.written_faultless hplan hlive hkey hm bindings

end Operation

/-- A store over a bucket with metadata of the layer `roads` that was edited by hand. -/
def World.handEdited : World :=
  let text := "# Roads\r\n\r\n ! kept for later\ntitle : Roads\r\n  title=Streets\nowner\n"
  let metadata := Key.ofText "gwc/roads/metadata.properties"
  let bucket : Bucket := ({} : Bucket).put metadata (Utf8.encode text) "text/plain"
  { store := Store.ofRoot "gwc", session := { bucket } }

/-- Over comments, a name that is set twice and line ends of both kinds, a value is written: the
comments are gone, the other value is found as before, and with a second write the order makes no
difference. -/
theorem Operation.metadata_writes_over_edited_text :
    let metadata := Key.ofText "gwc/roads/metadata.properties"
    let owned := ((putMetadata "roads" "owner" "ann").perform.runIn {} World.handEdited).2
    (owned.session.bucket.octets? metadata = some (Utf8.encode "owner=ann\ntitle=Streets\n") ∧
      World.handEdited.Finds "roads" "title" (some "Streets") ∧
      owned.Finds "roads" "title" (some "Streets")) ∧
    (World.handEdited.after {}
        (writes "roads" [("owner", "ann"), ("title", "Roads")])).session.bucket.octets? metadata =
      (World.handEdited.after {}
        (writes "roads" [("title", "Roads"), ("owner", "ann")])).session.bucket.octets? metadata := by
  have hkey : World.handEdited.store.layout.metadata "roads" =
      .ok (Key.ofText "gwc/roads/metadata.properties") := by
    decide +kernel
  have hoctets : World.handEdited.session.bucket.octets?
      (Key.ofText "gwc/roads/metadata.properties") = some (Utf8.encode
      "# Roads\r\n\r\n ! kept for later\ntitle : Roads\r\n  title=Streets\nowner\n") := by
    decide +kernel
  have hread : World.handEdited.session.bucket.properties
      (Key.ofText "gwc/roads/metadata.properties") =
      .ok (.ofList [("owner", ""), ("title", "Streets")]) := by
    decide +kernel
  have hreturned :
      ((putMetadata "roads" "owner" "ann").perform.runIn {} World.handEdited).1.completion =
        .returned .done := by
    decide +kernel
  have hwriter : Properties.encode (SortedMap.insert (.ofList [("owner", ""), ("title", "Streets")])
      "owner" "ann") = Utf8.encode "owner=ann\ntitle=Streets\n" := by
    decide +kernel
  have htitle : (SortedMap.ofList [("owner", ""), ("title", "Streets")]).find? "title" =
      some "Streets" := by
    decide +kernel
  have hhonest : ({} : Context).plan.FetchesHonestly := nofun
  obtain ⟨m, hm, hone, hswap, -, -, -, hall⟩ := metadata_writes_exact rfl hkey fun octets h =>
    ⟨_, Option.some_inj.1 (h.symm.trans hoctets)⟩
  obtain rfl := Except.ok.inj (hm.symm.trans hread)
  obtain ⟨hstored, hfinds⟩ := hone {} "owner" "ann" hhonest hreturned
  obtain ⟨hbefore, hafter⟩ := hfinds "title"
  rw [htitle] at hbefore hafter
  exact ⟨⟨hstored.trans (congrArg some hwriter), hbefore, hafter⟩,
    hswap {} {} _ _ hhonest hhonest (by decide) (hall {} _ rfl) (hall {} _ rfl)⟩

end TileCache

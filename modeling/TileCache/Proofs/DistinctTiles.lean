import TileCache.Proofs.Effect
import TileCache.Proofs.Subtree
set_option autoImplicit false

/-!
# Storing tiles with distinct addresses

Tiles with distinct addresses have distinct keys, so storing one of them does not overwrite another.
If no request fails, a run that stores such tiles adds one object for each of them to those that
were there before.

## Main definitions

* `TileCache.Tile.IsStorable` — tiles that a store takes.
* `TileCache.Reply.Stores` — how the call ends that stores a tile.
* `TileCache.KeptApart` — tiles that every store keeps as so many objects.

## Main results

* `TileCache.Tile.IsStorable.perform_put` — what storing one such tile makes of the world.
* `TileCache.World.perm_keys_after_puts` — the keys in the bucket after a run of them.
* `TileCache.KeptApart.of_nodup` — tiles with distinct addresses are kept apart.
-/

namespace TileCache

/-- A tile that a store takes: it has a blob, and no identifier of its address is empty. -/
structure Tile.IsStorable (t : Tile) : Prop where
  blob : t.blob ≠ none
  named : t.slot.IsNamed

/-- How a call ends that has stored its tile: it does not fail, and it returns unless a listener
panics. -/
structure Reply.Stores (c : Context) (r : Reply) : Prop where
  not_failed : ∀ e, r.completion ≠ .failed e
  returned : c.callbacks.NeverPanic → r.completion = .returned .done

/-- Tiles that every store keeps apart. -/
structure KeptApart (ts : List Tile) : Prop where
  /-- In every layout each of the tiles has a key. -/
  keyed : ∀ l : Layout, ∀ t ∈ ts, ∃ k, l.tile t = .ok k
  /-- In every layout the texts of the keys are pairwise distinct. -/
  distinct : ∀ l : Layout, ts.Pairwise fun t t' =>
    ∀ k k', l.tile t = .ok k → l.tile t' = .ok k' → k.text ≠ k'.text
  /-- If no request fails, a live store that is empty takes all of the tiles, and they are as many
  objects below its root and in the whole bucket, besides those that others keep there. -/
  stored : ∀ (c : Context) (w : World), c.plan = .faultless → w.store.live = true →
    (∀ k o, w.session.bucket.find? k = some o → k.isBelow w.store.layout.root = false) →
    (∀ r ∈ ((Operation.performAll (ts.map .put)).runIn c w).1, r.Stores c) ∧
    ((w.after c (ts.map .put)).session.bucket.below w.store.layout.root).length = ts.length ∧
    (w.after c (ts.map .put)).session.bucket.objects.entries.length =
      w.session.bucket.objects.entries.length + ts.length

/-! ## One tile -/

/-- A tile whose address is named has a key in every layout. -/
lemma Layout.exists_tile (l : Layout) {t : Tile} (h : t.slot.IsNamed) : ∃ k, l.tile t = .ok k :=
  ⟨⟨_, _, rfl⟩, tile_eq_ok_iff.2 ⟨h, rfl⟩⟩

section Put

variable {c : Context} {w : World} {t : Tile}

/-- A tile that a store takes passes the check of a live one. -/
lemma Tile.IsStorable.exists_checkedPut (h : t.IsStorable) (hlive : w.store.live = true) :
    ∃ blob k, w.store.layout.tile t = .ok k ∧ w.store.checkedPut t = .ok (blob, k) := by
  obtain ⟨blob, hblob⟩ := Option.ne_none_iff_exists'.1 h.blob
  have hformat : t.format ≠ "" := (Layout.slot_isNamed_iff.1 h.named).2.2.1
  obtain ⟨k, hk⟩ := Layout.exists_tile w.store.layout h.named
  exact ⟨blob, k, hk, Store.checkedPut_eq_ok_iff.2 ⟨hblob, hformat, hk, hlive⟩⟩

/-- A tile that passes the check is written, and nothing fails. -/
lemma Store.exists_putEffect_eq {s : Store} {blob : Octets} {k : Key} (b : Bucket)
    (h : s.checkedPut t = .ok (blob, k)) :
    ∃ event, s.putEffect b t =
      { result := .ok .done, bucket := b.put k blob t.format, event := event } := by
  rw [putEffect, h]
  exact ⟨_, rfl⟩

/-- **Storing one tile** writes an object under its key; the store stays live and keeps its
layout. -/
lemma Tile.IsStorable.perform_put (h : t.IsStorable) (hplan : c.plan = .faultless)
    (hlive : w.store.live = true) :
    ∃ r w' blob k, (Operation.put t).perform.runIn c w = (r, w') ∧ r.Stores c ∧
      w.store.layout.tile t = .ok k ∧
      w'.session.bucket = w.session.bucket.put k blob t.format ∧
      w'.store.layout = w.store.layout ∧ w'.store.live = true := by
  obtain ⟨blob, k, hk, hcheck⟩ := h.exists_checkedPut hlive
  obtain ⟨session, hbucket, hrun⟩ := Call.hasEffect_put hplan t (w := w)
  obtain ⟨event, heffect⟩ := Store.exists_putEffect_eq w.session.bucket hcheck
  rw [heffect] at hbucket hrun
  refine ⟨_, _, blob, k, hrun, ⟨?_, ?_⟩, hk, hbucket, rfl, hlive⟩
  · intro e
    simp only [Effect.reply]
    cases (w.store.notify c.callbacks w.deliveries _).panic <;> simp
  · intro hcalm
    rw [Store.panic_notify hcalm]
    rfl

end Put

/-! ## The keys of many tiles -/

namespace Layout

variable {l : Layout} {ts : List Tile} {t t' : Tile} {k k' : Key}

/-- Tiles with distinct addresses have distinct keys. -/
lemma tile_key_ne (h : t.slot ≠ t'.slot) (hk : l.tile t = .ok k) (hk' : l.tile t' = .ok k') :
    k ≠ k' :=
  fun heq => h ((tile_key_inj hk hk').1 heq).2

/-- The keys of those of some tiles that have one. -/
def keysOf (l : Layout) (ts : List Tile) : List Key :=
  ts.filterMap fun t => (l.tile t).toOption

/-- The key of the first tile comes first. -/
lemma keysOf_cons (hk : l.tile t = .ok k) : l.keysOf (t :: ts) = k :: l.keysOf ts :=
  List.filterMap_cons_some (by rw [hk]; rfl)

/-- Tiles whose addresses are named have as many keys as there are tiles. -/
lemma length_keysOf (h : ∀ t ∈ ts, t.slot.IsNamed) : (l.keysOf ts).length = ts.length := by
  induction ts with
  | nil => rfl
  | cons t rest ih =>
    obtain ⟨k, hk⟩ := l.exists_tile (h t List.mem_cons_self)
    rw [keysOf_cons hk, List.length_cons, List.length_cons,
      ih fun t' ht' => h t' (List.mem_cons_of_mem _ ht')]

/-- The keys of tiles are below the root. -/
lemma isBelow_root_of_mem_keysOf (h : k ∈ l.keysOf ts) : k.isBelow l.root = true := by
  obtain ⟨t, -, ht⟩ := List.mem_filterMap.1 h
  cases hk : l.tile t with
  | error e =>
    rw [hk] at ht
    cases ht
  | ok k' =>
    rw [hk] at ht
    cases ht
    exact tile_isBelow_root hk

end Layout

/-! ## Runs -/

section Runs

variable {c : Context} {w : World} {ts : List Tile}

/-- **A run that stores tiles with distinct addresses**, none of which was stored before: all calls
succeed, and the keys of the tiles are added to those in the bucket.

**Proof sketch.** Induction on the tiles. The first one adds its key, for nothing is found under it.
The others are still not stored after that, for their keys are different ones. -/
lemma World.perm_keys_after_puts (hplan : c.plan = .faultless) (hlive : w.store.live = true)
    (hts : ∀ t ∈ ts, t.IsStorable) (hnodup : (ts.map Tile.slot).Nodup)
    (hfresh : ∀ t ∈ ts, ∀ k, w.store.layout.tile t = .ok k → w.session.bucket.find? k = none) :
    (∀ r ∈ ((Operation.performAll (ts.map .put)).runIn c w).1, r.Stores c) ∧
    (w.after c (ts.map .put)).session.bucket.objects.keys.Perm
      (w.store.layout.keysOf ts ++ w.session.bucket.objects.keys) := by
  induction ts generalizing w with
  | nil => exact ⟨by simp [Operation.performAll], .rfl⟩
  | cons t rest ih =>
    obtain ⟨hnot, hrest⟩ := List.nodup_cons.1 hnodup
    obtain ⟨r, w', blob, k, hrun, hstores, hk, hbucket, hlayout, hlive'⟩ :=
      (hts t List.mem_cons_self).perform_put hplan hlive
    have hfresh' : ∀ t' ∈ rest, ∀ k', w'.store.layout.tile t' = .ok k' →
        w'.session.bucket.find? k' = none := by
      intro t' ht' k' hk'
      rw [hlayout] at hk'
      have hslot : t'.slot ≠ t.slot := fun heq => hnot (heq ▸ List.mem_map_of_mem ht')
      rw [hbucket, Bucket.find?_put, if_neg (Layout.tile_key_ne hslot hk' hk)]
      exact hfresh t' (List.mem_cons_of_mem _ ht') k' hk'
    obtain ⟨hreplies, hperm⟩ :=
      ih hlive' (fun t' ht' => hts t' (List.mem_cons_of_mem _ ht')) hrest hfresh'
    have hadded : w'.session.bucket.objects.keys.Perm (k :: w.session.bucket.objects.keys) := by
      rw [hbucket]
      exact Bucket.perm_keys_put (hfresh t List.mem_cons_self k hk) blob t.format
    rw [hlayout] at hperm
    unfold after at hperm ⊢
    rw [List.map_cons, Operation.runIn_performAll_cons, hrun, Layout.keysOf_cons hk]
    refine ⟨?_, ?_⟩
    · simpa using ⟨hstores, hreplies⟩
    · exact (hperm.trans (hadded.append_left _)).trans List.perm_middle

end Runs

/-- **Tiles with distinct addresses are kept apart.** -/
theorem KeptApart.of_nodup {ts : List Tile} (hts : ∀ t ∈ ts, t.IsStorable)
    (hnodup : (ts.map Tile.slot).Nodup) : KeptApart ts := by
  refine ⟨fun l t ht => l.exists_tile (hts t ht).named, fun l => ?_, ?_⟩
  · rw [List.Nodup, List.pairwise_map] at hnodup
    refine hnodup.imp fun hne k k' hk hk' htext => ?_
    exact Layout.tile_key_ne hne hk hk' (Key.ext_text htext)
  · intro c w hplan hlive hempty
    have hfresh : ∀ t ∈ ts, ∀ k, w.store.layout.tile t = .ok k →
        w.session.bucket.find? k = none := by
      intro t _ k hk
      exact Bucket.find?_eq_none_of_isBelow hempty (Layout.tile_isBelow_root hk)
    obtain ⟨hreplies, hperm⟩ := World.perm_keys_after_puts hplan hlive hts hnodup hfresh
    have hlength : (w.store.layout.keysOf ts).length = ts.length :=
      Layout.length_keysOf fun t ht => (hts t ht).named
    refine ⟨hreplies, ?_, ?_⟩
    · have hbelow :=
        Bucket.perm_keysBelow hperm (fun k => Layout.isBelow_root_of_mem_keysOf) hempty
      rw [← hlength, ← hbelow.length_eq, Bucket.keysBelow, List.length_map]
    · have htotal := hperm.length_eq
      simp only [SortedMap.keys, List.length_map, List.length_append] at htotal
      rw [htotal, hlength, Nat.add_comm]

end TileCache

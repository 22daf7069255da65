import TileCache.Proofs.Retries
set_option autoImplicit false

/-!
# Who hears that a layer was removed

A call tells the listeners that a layer was removed just if it returns that there was one, which it
decides by what it finds. So what listeners hear of several attempts depends on what is left for the
last of them. If attempts that failed took away all tiles, and there never was any metadata, then
the last one finds nothing: it returns that there was no layer, and nobody hears of it.

## Main definitions

* `TileCache.World.outcomes` — how attempts end.
* `TileCache.World.Attended` — attempts that all begin with a listener registered.
* `TileCache.World.Heard` — a listener heard of an event since.
* `TileCache.Store.Unheard` — what attempts leave that nobody heard of.

## Main results

* `TileCache.Store.returned_true_iff` — when a call returns that there was a layer.
* `TileCache.Store.heard_or_unheard` — what attempts leave, heard of or not.
* `TileCache.Store.layerDeleted_heard_iff` — when a listener hears of attempts of which the last
  returns.
* `TileCache.Store.layerDeleted_may_go_unheard` — it does not hear of all that take away tiles.
-/

namespace TileCache

/-- How attempts to remove a layer end, one for each context. -/
def World.outcomes (w : World) (n : String) : List Context → List (Completion Bool)
  | [] => []
  | ctx :: rest =>
    let call := (Store.deleteLayer n).runIn ctx w
    call.1 :: call.2.outcomes n rest

/-- Whenever one of the attempts to remove a layer begins, the listener `l` is registered. -/
def World.Attended (w : World) (n : String) (l : Listener) : List Context → Prop
  | [] => True
  | ctx :: rest =>
    l ∈ w.store.listeners.listeners ∧ ((Store.deleteLayer n).runIn ctx w).2.Attended n l rest

/-- A listener heard of an event between two worlds. -/
def World.Heard (w w' : World) (l : Listener) (event : Event) : Prop :=
  ∃ deliveries, w'.deliveries = w.deliveries ++ deliveries ∧ ⟨l, event⟩ ∈ deliveries

namespace World

variable {w w' w'' : World} {n : String} {l : Listener} {event : Event}

/-- Of several attempts the later ones end as they do in the world that the earlier ones leave. -/
lemma outcomes_append (w : World) (n : String) (attempts attempts' : List Context) :
    w.outcomes n (attempts ++ attempts') =
      w.outcomes n attempts ++ (w.afterAttempts n attempts).outcomes n attempts' := by
  induction attempts generalizing w with
  | nil => rfl
  | cons ctx rest ih =>
    rw [List.cons_append, outcomes, outcomes, ih]
    rfl

/-- A listener that attends several attempts attends the first of them. -/
lemma Attended.of_append {attempts attempts' : List Context}
    (h : w.Attended n l (attempts ++ attempts')) : w.Attended n l attempts := by
  induction attempts generalizing w with
  | nil => trivial
  | cons ctx rest ih => exact ⟨h.1, ih h.2⟩

/-- What was heard stays heard. -/
lemma Heard.later (h : w.Heard w' l event) (hmore : w'.deliveries <+: w''.deliveries) :
    w.Heard w'' l event := by
  obtain ⟨deliveries, hw', hmem⟩ := h
  obtain ⟨more, hw''⟩ := hmore
  refine ⟨deliveries ++ more, ?_, List.mem_append_left _ hmem⟩
  rw [← hw'', hw', List.append_assoc]

/-- What was heard was heard of since a time with the same deliveries. -/
lemma Heard.since (h : w'.Heard w'' l event) (hsame : w'.deliveries = w.deliveries) :
    w.Heard w'' l event := by
  obtain ⟨deliveries, hw'', hmem⟩ := h
  exact ⟨deliveries, by rw [hw'', hsame], hmem⟩

/-- Nothing is lost that was delivered before. -/
lemma Heard.deliveries_prefix (h : w.Heard w' l event) : w.deliveries <+: w'.deliveries := by
  obtain ⟨deliveries, hw', -⟩ := h
  exact ⟨deliveries, hw'.symm⟩

/-- Without deliveries nothing is heard. -/
lemma not_heard_of_deliveries_eq (h : w'.deliveries = w.deliveries) : ¬w.Heard w' l event := by
  rintro ⟨deliveries, hw', hmem⟩
  have hnil : deliveries = [] := List.self_eq_append_right.1 (h.symm.trans hw')
  rw [hnil] at hmem
  cases hmem

end World

namespace Store

variable {ctx : Context} {w w' w'' : World} {n : String} {l : Listener} {base metadata : Key}

/-- What attempts leave that nobody heard of: they took away tiles of the layer at most. -/
structure Unheard (base : Key) (w w' : World) : Prop where
  deliveries_eq : w'.deliveries = w.deliveries
  thinned : Bucket.Thinned (Bucket.IsTileKey base) w.session.bucket w'.session.bucket

/-- No attempt leaves nothing to hear of. -/
lemma Unheard.refl (base : Key) (w : World) : Unheard base w w :=
  ⟨rfl, .refl _ _⟩

/-- Attempts that nobody heard of may follow each other. -/
lemma Unheard.trans (h : Unheard base w w') (h' : Unheard base w' w'') : Unheard base w w'' :=
  ⟨h'.deliveries_eq.trans h.deliveries_eq, h.thinned.trans h'.thinned⟩

/-! ## One attempt -/

/-- **A call is heard of just if it returns that there was a layer.** If not, then it took away
tiles of the layer at most. -/
lemma heard_or_unheard_deleteLayer (h : w.store.checkedLayer n = .ok (base, metadata))
    (hl : l ∈ w.store.listeners.listeners)
    (hcalm : ∀ message, ((deleteLayer n).runIn ctx w).1 ≠ .panicked message) :
    let call := (deleteLayer n).runIn ctx w
    call.1 = .returned true ∧ w.Heard call.2 l (.layerDeleted n) ∨
      call.1 ≠ .returned true ∧ Unheard base w call.2 := by
  obtain ⟨x, session, herased, hrun⟩ := layerErased_eraseLayer h ctx.plan w.session
  rw [runIn_deleteLayer hrun] at hcalm ⊢
  rcases x with e | _ | _
  · exact .inr ⟨nofun, rfl, herased.thinned_of_error⟩
  · exact .inr ⟨nofun, rfl, herased.thinned_of_absent⟩
  · have hpanic : (w.store.notify ctx.callbacks w.deliveries
        (some (.layerDeleted n))).panic = none := by
      refine Option.eq_none_iff_forall_ne_some.2 fun message hmessage => hcalm message ?_
      simp only [hmessage, Option.elim_some]
    refine .inl ⟨by simp only [hpanic, Option.elim_none], _,
      Registry.deliveries_dispatch hpanic, ?_⟩
    exact List.mem_map.2 ⟨l, hl, rfl⟩

/-- **A call that returns tells whether there was a layer**: a tile of it, or its metadata. -/
lemma returned_true_iff (h : w.store.checkedLayer n = .ok (base, metadata))
    (hhonest : ctx.plan.ProbesHonestly) {existed : Bool}
    (hreturned : ((deleteLayer n).runIn ctx w).1 = .returned existed) :
    existed = true ↔
      w.session.bucket.tileKeys base ≠ [] ∨ w.session.bucket.find? metadata ≠ none := by
  obtain ⟨x, session, herased, hrun⟩ := layerErased_eraseLayer h ctx.plan w.session
  obtain rfl := runIn_deleteLayer_returned hrun hreturned
  exact herased.ok_true_iff hhonest (Layout.isMetadata_metadata (checkedLayer_eq_ok_iff.1 h).2.1)

/-! ## Several attempts -/

/-- **Attempts are heard of just if one of them returns that there was a layer.** If not, then they
took away tiles of the layer at most.

**Proof sketch.** Induction on the attempts. Once one is heard of it stays so, for deliveries are
never taken back; and attempts that nobody heard of leave as many deliveries as there were. -/
lemma heard_or_unheard (h : w.store.checkedLayer n = .ok (base, metadata))
    {attempts : List Context} (hattended : w.Attended n l attempts)
    (hcalm : ∀ message, .panicked message ∉ w.outcomes n attempts) :
    .returned true ∈ w.outcomes n attempts ∧
        w.Heard (w.afterAttempts n attempts) l (.layerDeleted n) ∨
      .returned true ∉ w.outcomes n attempts ∧ Unheard base w (w.afterAttempts n attempts) := by
  induction attempts generalizing w with
  | nil => exact .inr ⟨List.not_mem_nil, .refl base w⟩
  | cons ctx rest ih =>
    obtain ⟨hl, hlater⟩ := hattended
    simp only [World.outcomes, List.mem_cons, not_or] at hcalm ⊢
    have hfirst := heard_or_unheard_deleteLayer h hl fun message => Ne.symm (hcalm message).1
    have hrest := ih ((checkedLayer_deleteLayer ctx w n).trans h) hlater
      fun message => (hcalm message).2
    rcases hfirst with ⟨hreturned, hheard⟩ | ⟨hreturned, hunheard⟩
    · refine .inl ⟨.inl hreturned.symm, ?_⟩
      rcases hrest with ⟨-, hheard'⟩ | ⟨-, hunheard'⟩
      · exact hheard.later hheard'.deliveries_prefix
      · exact hheard.later (hunheard'.deliveries_eq ▸ List.prefix_rfl)
    · rcases hrest with ⟨hreturned', hheard'⟩ | ⟨hreturned', hunheard'⟩
      · exact .inl ⟨.inr hreturned', hheard'.since hunheard.deliveries_eq⟩
      · exact .inr ⟨⟨Ne.symm hreturned, hreturned'⟩, hunheard.trans hunheard'⟩

/-- Attempts are heard of just if one of them returns that there was a layer. -/
lemma heard_iff_returned_true (h : w.store.checkedLayer n = .ok (base, metadata))
    {attempts : List Context} (hattended : w.Attended n l attempts)
    (hcalm : ∀ message, .panicked message ∉ w.outcomes n attempts) :
    w.Heard (w.afterAttempts n attempts) l (.layerDeleted n) ↔
      .returned true ∈ w.outcomes n attempts := by
  rcases heard_or_unheard h hattended hcalm with ⟨hreturned, hheard⟩ | ⟨hreturned, hunheard⟩
  · exact iff_of_true hheard hreturned
  · exact iff_of_false (World.not_heard_of_deliveries_eq hunheard.deliveries_eq) hreturned

/-- **When a listener hears that a layer was removed.** Let a layer be asked to be removed any
number of times, while requests fail in any way, but such that the last call returns, and let no
call end in a panic. A listener that is registered whenever a call begins then hears that the layer
was removed just if a call before the last returned that there was a layer, or there was metadata of
the layer at the beginning, or there still is a tile of it when the last call begins.

**Proof sketch.** It hears of it just if some call returns that there was a layer. If none before
the last does, then these take away tiles at most; so the last finds the metadata that there was at
the beginning, and the tiles that are left. -/
theorem layerDeleted_heard_iff (w : World) (n : String) (l : Listener) (attempts : List Context)
    (last : Context) {base metadata : Key} {existed : Bool}
    (hbase : w.store.layout.layer n = .ok base)
    (hmetadata : w.store.layout.metadata n = .ok metadata)
    (hattended : w.Attended n l (attempts ++ [last]))
    (hcalm : ∀ message, .panicked message ∉ w.outcomes n attempts)
    (hreturned : ((deleteLayer n).runIn last (w.afterAttempts n attempts)).1 = .returned existed)
    (hhonest : last.plan.ProbesHonestly) :
    w.Heard (w.afterAttempts n (attempts ++ [last])) l (.layerDeleted n) ↔
      .returned true ∈ w.outcomes n attempts ∨ w.session.bucket.find? metadata ≠ none ∨
        (w.afterAttempts n attempts).session.bucket.tileKeys base ≠ [] := by
  have hcheck : w.store.checkedLayer n = .ok (base, metadata) := by
    cases hkeys : w.store.checkedLayer n with
    | error e =>
      rw [afterAttempts_of_error hkeys, runIn_deleteLayer_error hkeys] at hreturned
      cases hreturned
    | ok keys =>
      obtain ⟨base', metadata'⟩ := keys
      obtain ⟨hb, hm, -⟩ := checkedLayer_eq_ok_iff.1 hkeys
      cases hbase.symm.trans hb
      cases hmetadata.symm.trans hm
      rfl
  have houtcomes : w.outcomes n (attempts ++ [last]) =
      w.outcomes n attempts ++ [.returned existed] := by
    rw [World.outcomes_append, ← hreturned]
    rfl
  have hcalm' : ∀ message, .panicked message ∉ w.outcomes n (attempts ++ [last]) := by
    intro message
    rw [houtcomes]
    simpa using hcalm message
  have hlast := returned_true_iff (thinned_afterAttempts hcheck attempts).1 hhonest hreturned
  rw [heard_iff_returned_true hcheck hattended hcalm', houtcomes]
  rcases heard_or_unheard hcheck hattended.of_append hcalm with ⟨hearlier, -⟩ | ⟨hearlier, hunheard⟩
  · exact iff_of_true (List.mem_append_left _ hearlier) (.inl hearlier)
  · have hkept : (w.afterAttempts n attempts).session.bucket.find? metadata =
        w.session.bucket.find? metadata :=
      hunheard.thinned.find?_of_not
        (Bucket.not_isTileKey_of_isMetadata (Layout.isMetadata_metadata hmetadata))
    rw [hkept] at hlast
    simp only [List.mem_append, hearlier, false_or, List.mem_singleton, Completion.returned.injEq,
      eq_comm, hlast]
    exact or_comm

/-- The metadata of a layer is refused to be deleted once its only tile is gone. When it is tried
again, the listener hears that the layer was removed. -/
theorem layerDeleted_heard_of_metadata_left :
    let w := World.oneRoad.after {} [.putMetadata "roads" "title" "Roads"]
    w.Heard (w.afterAttempts "roads" [.deleteDenied, {}]) (.named "log")
      (.layerDeleted "roads") := by
  intro w
  have hcalm : ∀ message, .panicked message ∉ w.outcomes "roads" [.deleteDenied] := by
    intro message
    have houtcomes : w.outcomes "roads" [.deleteDenied] =
        [.failed (Backend.refusal "delete" "gwc/roads/metadata.properties"
          (.denied "gwc/roads/metadata.properties" "403"))] := by
      decide +kernel
    rw [houtcomes]
    simp
  have hattended : w.Attended "roads" (.named "log") [.deleteDenied, {}] :=
    ⟨by decide +kernel, by decide +kernel, trivial⟩
  have hbase : w.store.layout.layer "roads" = .ok (Key.ofText "gwc/roads") := by decide +kernel
  have hmetadata : w.store.layout.metadata "roads" =
      .ok (Key.ofText "gwc/roads/metadata.properties") := by
    decide +kernel
  have hreturned : ((deleteLayer "roads").runIn {} (w.afterAttempts "roads" [.deleteDenied])).1 =
      .returned true := by
    decide +kernel
  refine (layerDeleted_heard_iff w "roads" (.named "log") [.deleteDenied] {} hbase hmetadata
    hattended hcalm hreturned nofun).2 (.inr (.inl ?_))
  decide +kernel

/-- **The removal of tiles may go unheard.** It is not so that a listener, registered whenever a
call begins, hears of all attempts that take away a tile, if the last of them returns; not even if
no listener ever panics. The only tile of a layer without metadata is taken away; then the deletion
of the metadata is refused, though there is none, so that the call fails. The next call finds
nothing, returns that there was no layer, and nobody hears of it. -/
theorem layerDeleted_may_go_unheard :
    ¬∀ (w : World) (n : String) (l : Listener) (attempts : List Context) (last : Context)
        (existed : Bool) (base : Key),
      w.store.layout.layer n = .ok base →
      w.Attended n l (attempts ++ [last]) →
      (∀ ctx ∈ attempts ++ [last], ctx.callbacks.NeverPanic ∧ ctx.plan.ProbesHonestly) →
      ((deleteLayer n).runIn last (w.afterAttempts n attempts)).1 = .returned existed →
      (∃ k ∈ w.session.bucket.tileKeys base,
        (w.afterAttempts n (attempts ++ [last])).session.bucket.find? k = none) →
      w.Heard (w.afterAttempts n (attempts ++ [last])) l (.layerDeleted n) := by
  intro hclaim
  have hcalm : ∀ ctx ∈ [Context.deleteDenied] ++ [({} : Context)],
      ctx.callbacks.NeverPanic ∧ ctx.plan.ProbesHonestly := by
    intro ctx hctx
    rcases List.mem_pair.1 hctx with rfl | rfl <;> exact ⟨fun _ _ => rfl, nofun⟩
  have hheard := hclaim .oneRoad "roads" (.named "log") [.deleteDenied] {} false
    (Key.ofText "gwc/roads") (by decide +kernel) ⟨by decide +kernel, by decide +kernel, trivial⟩
    hcalm (by decide +kernel)
    ⟨Key.ofText "gwc/roads/EPSG:4326/png/default/0/0/0.png", by decide +kernel,
      by decide +kernel⟩
  exact World.not_heard_of_deliveries_eq (by decide +kernel) hheard

end Store

end TileCache

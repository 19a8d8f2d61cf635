import TecEngine.Physics.System
import Mathlib.Tactic.NormNum

/-!
# Ray casts

`RayCastMousePick` casts a ray from the source entity's body through the mouse position,
`RayCastIgnore` along the source entity's forward vector; each asks Bullet for all hits
(`rayTest` with an `AllHitsRayResultCallback`) and selects one with the same loop: among the
hits whose collision object carries a collision body of a nonzero entity the cast accepts, the
first of least hit fraction. The ray (its origin and end, from transforms and the camera) and
Bullet's hits are outside the model: a cast takes its origin `rayFrom` and the hits as inputs,
and `distance` is Bullet's `btVector3::distance`.

## Main definitions

* `RayHit`: one hit of the callback
* `scanHits`, `selectHit`: the selection loop
* `FirstLeast`: the first eligible hit of least fraction, as a split of the hits
* `rayCastMousePick`, `rayCastIgnore`, `onMouseBtn`: the casts, and the click they feed

## Main results

* `scanHits_spec`: the loop finds the first eligible hit below its current fraction
* `selectHit_spec`: from its start, the loop selects the first eligible hit of least fraction
* `rayCast_selects_first_least`: both casts select that hit and record it, the pick past its
  early returns and `RayCastIgnore` from every source
-/

namespace TecEngine

/-- One hit of an `AllHitsRayResultCallback`: the entity of the `CollisionBody` its collision
object's user pointer points to (`none` for a null user pointer), its hit fraction, point and
normal. -/
structure RayHit where
  collisionBody : Option Eid
  hitFraction : ℚ
  hitPointWorld : Vec3
  hitNormalWorld : Vec3
  deriving DecidableEq, Repr

/-- The selection loop's variables `lastfrac`, `hit_entity_index` and `hit_entity`. -/
structure HitScan where
  lastfrac : ℚ
  index : Nat
  entity : Eid
  deriving DecidableEq, Repr

/-- One iteration of the selection loop, over hit `i`: a hit of a nonzero entity the cast
accepts, nearer than the best so far, becomes the best. -/
def scanStep (accept : Eid → Bool) (r : HitScan) (i : Nat) (h : RayHit) : HitScan :=
  match h.collisionBody with
  | none => r
  | some entity =>
    if entity ≠ 0 ∧ accept entity then
      if h.hitFraction < r.lastfrac then ⟨h.hitFraction, i, entity⟩ else r
    else r

/-- The selection loop over the hits from index `i`. -/
def scanHits (accept : Eid → Bool) : HitScan → Nat → List RayHit → HitScan
  | r, _, [] => r
  | r, i, h :: hs => scanHits accept (scanStep accept r i h) (i + 1) hs

/-- The selection loop from its start: `lastfrac = 1.1`, `hit_entity_index` past the last hit,
`hit_entity = 0`. -/
def selectHit (accept : Eid → Bool) (hits : List RayHit) : HitScan :=
  scanHits accept ⟨11 / 10, hits.length, 0⟩ 0 hits

/-- A hit the loop may select: its collision body names a nonzero entity the cast accepts. -/
def Eligible (accept : Eid → Bool) (h : RayHit) : Prop :=
  ∃ e, h.collisionBody = some e ∧ e ≠ 0 ∧ accept e

/-- `hits = pre ++ h :: post` splits the hits at the first eligible hit of least fraction `h`:
every eligible hit before it is farther, every eligible hit after it is at least as far. -/
def FirstLeast (accept : Eid → Bool) (pre : List RayHit) (h : RayHit) (post : List RayHit) :
    Prop :=
  Eligible accept h ∧ (∀ x ∈ pre, Eligible accept x → h.hitFraction < x.hitFraction) ∧
    ∀ x ∈ post, Eligible accept x → h.hitFraction ≤ x.hitFraction

section Scan

variable (accept : Eid → Bool)

/-- One iteration either keeps the best so far, when the hit is not eligible or not nearer, or
takes the hit. -/
theorem scanStep_cases (r : HitScan) (i : Nat) (h : RayHit) :
    (scanStep accept r i h = r ∧ (Eligible accept h → r.lastfrac ≤ h.hitFraction)) ∨
      ∃ e, h.collisionBody = some e ∧ Eligible accept h ∧ h.hitFraction < r.lastfrac ∧
        scanStep accept r i h = ⟨h.hitFraction, i, e⟩ := by
  unfold scanStep Eligible
  cases hc : h.collisionBody with
  | none => simp
  | some e =>
    by_cases he : e ≠ 0 ∧ accept e
    · by_cases hlt : h.hitFraction < r.lastfrac
      · exact .inr ⟨e, rfl, ⟨e, rfl, he⟩, hlt, by simp [he, hlt]⟩
      · exact .inl ⟨by simp [he, hlt], fun _ => not_lt.mp hlt⟩
    · exact .inl ⟨by simp only [he, if_false],
        fun ⟨e', he', hne⟩ => (he (by cases he'; exact hne)).elim⟩

/-- **The loop from any point** keeps its best so far when no eligible hit is nearer, and
otherwise ends at the first eligible hit of least fraction, which is nearer. -/
theorem scanHits_spec (hs : List RayHit) (r : HitScan) (i : Nat) :
    (scanHits accept r i hs = r ∧ ∀ x ∈ hs, Eligible accept x → r.lastfrac ≤ x.hitFraction) ∨
      ∃ pre h post e, hs = pre ++ h :: post ∧ h.collisionBody = some e ∧
        FirstLeast accept pre h post ∧ h.hitFraction < r.lastfrac ∧
        scanHits accept r i hs = ⟨h.hitFraction, i + pre.length, e⟩ := by
  induction hs generalizing r i with
  | nil => exact .inl ⟨rfl, by simp⟩
  | cons x hs ih =>
    rcases scanStep_cases accept r i x with ⟨hkeep, hx⟩ | ⟨e, hxe, hel, hlt, htake⟩
    · rcases ih r (i + 1) with ⟨hr, hall⟩ | ⟨pre, h, post, e, rfl, he, ⟨hh, hpre, hpost⟩, hlt, hr⟩
      · refine .inl ⟨by rw [scanHits, hkeep, hr], ?_⟩
        rintro y (_ | ⟨_, hy⟩)
        exacts [hx, hall y hy]
      · refine .inr ⟨x :: pre, h, post, e, rfl, he, ⟨hh, ?_, hpost⟩, hlt, ?_⟩
        · rintro y (_ | ⟨_, hy⟩) hey
          exacts [lt_of_lt_of_le hlt (hx hey), hpre y hy hey]
        · rw [scanHits, hkeep, hr, List.length_cons]; congr 1; omega
    · rcases ih ⟨x.hitFraction, i, e⟩ (i + 1) with ⟨hr, hall⟩ |
          ⟨pre, h, post, e', rfl, he, ⟨hh, hpre, hpost⟩, hlt', hr⟩
      · exact .inr ⟨[], x, hs, e, rfl, hxe, ⟨hel, by simp, hall⟩, hlt, by rw [scanHits, htake, hr]; rfl⟩
      · refine .inr ⟨x :: pre, h, post, e', rfl, he, ⟨hh, ?_, hpost⟩, hlt'.trans hlt, ?_⟩
        · rintro y (_ | ⟨_, hy⟩) hey
          exacts [hlt', hpre y hy hey]
        · rw [scanHits, htake, hr, List.length_cons]; congr 1; omega

/-- **The selection loop selects the first eligible hit of least fraction**, when every hit
fraction is at most 1; with no eligible hit it ends where it started. -/
theorem selectHit_spec (hits : List RayHit) (hfrac : ∀ x ∈ hits, x.hitFraction ≤ 1) :
    (∃ pre h post e, hits = pre ++ h :: post ∧ h.collisionBody = some e ∧
        FirstLeast accept pre h post ∧ selectHit accept hits = ⟨h.hitFraction, pre.length, e⟩) ∨
      ((∀ x ∈ hits, ¬ Eligible accept x) ∧ selectHit accept hits = ⟨11 / 10, hits.length, 0⟩) := by
  rcases scanHits_spec accept hits ⟨11 / 10, hits.length, 0⟩ 0 with ⟨hr, hall⟩ |
      ⟨pre, h, post, e, hsplit, he, hfl, -, hr⟩
  · refine .inr ⟨fun x hx hex => ?_, hr⟩
    have h : (11 / 10 : ℚ) ≤ 1 := (hall x hx hex).trans (hfrac x hx)
    norm_num at h
  · exact .inl ⟨pre, h, post, e, hsplit, he, hfl, by rw [selectHit, hr, Nat.zero_add]⟩

end Scan

/-! ## The casts -/

/-- A mouse button's action (`MouseBtnEvent::DOWN` and its counterpart). -/
inductive ButtonAction
  | up
  | down
  deriving DecidableEq, Repr

/-- The `MouseBtnEvent`. -/
structure MouseBtnEvent where
  action : ButtonAction
  button : Nat
  deriving DecidableEq, Repr

/-- The `MouseClickEvent`. -/
structure MouseClickEvent where
  button : Nat
  rayDistance : ℚ
  rayHitPointWorld : Vec3
  deriving DecidableEq, Repr

namespace PhysicsSystem

variable (distance : Vec3 → Vec3 → ℚ)

/-- Record the selected hit: `last_raypos`, `last_raynorm` and `last_raydist` from it, and a
valid ray. -/
def recordHit (s : PhysicsSystem) (h : RayHit) : PhysicsSystem :=
  { s with lastRayPos := h.hitPointWorld, lastRayNorm := h.hitNormalWorld,
           lastRayDist := distance s.lastRayFrom h.hitPointWorld, lastRayValid := true }

/-- `RayCastMousePick`: return 0 for the null entity or one without an entry in `bodies`;
otherwise clear the last hit, read the source's body (a fault when its entry is null or dead),
return 0 for a zero screen height, and select among the hits of the ray from `rayFrom` an
entity other than the source. The selected entity is `last_entity_hit`. -/
def rayCastMousePick (s : PhysicsSystem) (source : Eid) (screenHeight : ℚ) (rayFrom : Vec3)
    (hits : List RayHit) : Option (PhysicsSystem × Eid) :=
  if source = 0 then some (s, 0) else
  match s.bodies.find source with
  | none => some (s, 0)
  | some p =>
    let s := { s with lastRayValid := false, lastEntityHit := 0 }
    (s.deref p).map fun _ =>
      if screenHeight = 0 then (s, 0) else
      let s := { s with lastRayFrom := rayFrom }
      if hits = [] then (s, s.lastEntityHit) else
      let r := selectHit (fun e => e != source) hits
      let s := { s with lastEntityHit := r.entity }
      if hi : r.index < hits.length then (s.recordHit distance hits[r.index], s.lastEntityHit)
      else (s, s.lastEntityHit)

/-- `RayCastIgnore`: select among the hits of the ray from `rayFrom` an entity other than the
source and the ignored one; return it, or 0. -/
def rayCastIgnore (s : PhysicsSystem) (source ignore : Eid) (rayFrom : Vec3) (hits : List RayHit) :
    PhysicsSystem × Eid :=
  let s := { s with lastRayValid := false, lastRayFrom := rayFrom }
  if hits = [] then (s, 0) else
  let r := selectHit (fun e => e != source && e != ignore) hits
  if hi : r.index < hits.length then (s.recordHit distance hits[r.index], r.entity) else (s, 0)

/-- `On(MouseBtnEvent)`: on a button press, a `MouseClickEvent` for the last entity hit, with
the last ray's distance and hit point, when there is one. -/
def onMouseBtn (s : PhysicsSystem) (data : MouseBtnEvent) : Option (Eid × MouseClickEvent) :=
  if data.action = .down then
    if s.lastEntityHit ≠ 0 then some (s.lastEntityHit, ⟨data.button, s.lastRayDist, s.lastRayPos⟩)
    else none
  else none

/-- What a cast from `rayFrom` that selects as specified leaves: the first eligible hit of least
fraction, returned and recorded; or, when no hit is eligible, 0 and no valid ray. -/
def CastSelects (accept : Eid → Bool) (rayFrom : Vec3) (hits : List RayHit)
    (r : PhysicsSystem × Eid) : Prop :=
  (∃ pre h post e, hits = pre ++ h :: post ∧ h.collisionBody = some e ∧
      FirstLeast accept pre h post ∧ r.2 = e ∧ r.1.lastRayPos = h.hitPointWorld ∧
      r.1.lastRayNorm = h.hitNormalWorld ∧ r.1.lastRayDist = distance rayFrom h.hitPointWorld ∧
      r.1.lastRayValid = true) ∨
    ((∀ x ∈ hits, ¬ Eligible accept x) ∧ r.2 = 0 ∧ r.1.lastRayValid = false)

/-- The selection both casts share: with the ray's origin in place and no valid ray yet, the
selected hit is recorded and its entity returned. -/
theorem castSelects_of_selectHit (accept : Eid → Bool) (s : PhysicsSystem) {hits : List RayHit}
    (hfrac : ∀ x ∈ hits, x.hitFraction ≤ 1) (hvalid : s.lastRayValid = false) {ret ret₀ : Eid}
    (hret : ret = (selectHit accept hits).entity)
    (hret₀ : ret₀ = 0 ∨ ret₀ = (selectHit accept hits).entity) :
    CastSelects distance accept s.lastRayFrom hits
      (if hi : (selectHit accept hits).index < hits.length then
        (s.recordHit distance hits[(selectHit accept hits).index], ret) else (s, ret₀)) := by
  rcases selectHit_spec accept hits hfrac with ⟨pre, h, post, e, rfl, he, hfl, hsel⟩ | ⟨hnone, hsel⟩
  · have hi : pre.length < (pre ++ h :: post).length := by simp
    have hget : (pre ++ h :: post)[pre.length] = h := by
      rw [List.getElem_append_right (Nat.le_refl _)]; simp
    refine .inl ⟨pre, h, post, e, rfl, he, hfl, ?_⟩
    simp [hsel, hi, hret, hget, recordHit]
  · exact .inr ⟨hnone, by rcases hret₀ with rfl | rfl <;> simp [hsel], by simp [hsel, hvalid]⟩

/-- `RayCastMousePick` past its early returns (a nonzero source with a live body, a nonzero
screen height) selects the first eligible hit of least fraction. -/
theorem rayCastMousePick_selects (s : PhysicsSystem) (source : Eid) (screenHeight : ℚ)
    (rayFrom : Vec3) (hits : List RayHit) (hsource : source ≠ 0)
    (hbody : ∃ a, s.bodies.find source = some (.addr a) ∧ (s.heap.find a).isSome)
    (hscreen : screenHeight ≠ 0) (hfrac : ∀ x ∈ hits, x.hitFraction ≤ 1) :
    ∃ r, s.rayCastMousePick distance source screenHeight rayFrom hits = some r ∧
      CastSelects distance (fun e => e != source) rayFrom hits r := by
  obtain ⟨a, hfind, ha⟩ := hbody
  obtain ⟨b, hb⟩ := Option.isSome_iff_exists.mp ha
  by_cases hnil : hits = []
  · subst hnil
    exact ⟨({ s with lastRayValid := false, lastEntityHit := 0, lastRayFrom := rayFrom }, 0),
      by simp [rayCastMousePick, hsource, hfind, deref, hb, hscreen], .inr ⟨by simp, rfl, rfl⟩⟩
  · refine ⟨_, ?_, castSelects_of_selectHit distance (fun e => e != source)
      { s with lastRayValid := false, lastEntityHit := (selectHit (fun e => e != source) hits).entity,
               lastRayFrom := rayFrom } hfrac rfl rfl (.inr rfl)⟩
    simp [rayCastMousePick, hsource, hfind, deref, hb, hscreen, hnil]

/-- `RayCastIgnore`, which has no early return and reads no body, selects the first eligible hit
of least fraction for every source and every state. -/
theorem rayCastIgnore_selects (s : PhysicsSystem) (source ignore : Eid) (rayFrom : Vec3)
    (hits : List RayHit) (hfrac : ∀ x ∈ hits, x.hitFraction ≤ 1) :
    CastSelects distance (fun e => e != source && e != ignore) rayFrom hits
      (s.rayCastIgnore distance source ignore rayFrom hits) := by
  by_cases hnil : hits = []
  · subst hnil; exact .inr ⟨by simp, rfl, rfl⟩
  · simpa [rayCastIgnore, hnil] using castSelects_of_selectHit distance
      (fun e => e != source && e != ignore) { s with lastRayValid := false, lastRayFrom := rayFrom }
      hfrac rfl rfl (.inl rfl)

/-- **Both casts select the first eligible hit of least fraction**, when every hit fraction is at
most 1: `RayCastMousePick` past its early returns (a nonzero source with a live body, a nonzero
screen height), `RayCastIgnore` for every source. Each returns the hit's entity and records its
point, normal and distance, or, when no hit is eligible, returns 0 with no valid ray. -/
theorem rayCast_selects_first_least (s : PhysicsSystem) (source ignore : Eid) (screenHeight : ℚ)
    (rayFrom : Vec3) (hits : List RayHit) (hfrac : ∀ x ∈ hits, x.hitFraction ≤ 1) :
    (source ≠ 0 → (∃ a, s.bodies.find source = some (.addr a) ∧ (s.heap.find a).isSome) →
      screenHeight ≠ 0 →
      ∃ r, s.rayCastMousePick distance source screenHeight rayFrom hits = some r ∧
        CastSelects distance (fun e => e != source) rayFrom hits r) ∧
    CastSelects distance (fun e => e != source && e != ignore) rayFrom hits
      (s.rayCastIgnore distance source ignore rayFrom hits) :=
  ⟨fun hsource hbody hscreen =>
    rayCastMousePick_selects distance s source screenHeight rayFrom hits hsource hbody hscreen hfrac,
    rayCastIgnore_selects distance s source ignore rayFrom hits hfrac⟩

/-- Entity 1 casts with a live body over a hit of its own body, a null user pointer, entity 3 at
fraction 1/4 and entity 2 twice at 1/2; the pick selects 3, the cast ignoring 3 the first hit
of 2. -/
theorem rayCast_selects_past_own_body :
    let s : PhysicsSystem :=
      { PhysicsSystem.new with
        bodies := [(1, .addr 0)], heap := [(0, RigidBody.new)], nextAddress := 1 }
    let hits : List RayHit :=
      [⟨some 1, 0, ⟨0, 0, 0⟩, ⟨0, 1, 0⟩⟩, ⟨none, 0, ⟨0, 0, 0⟩, ⟨0, 1, 0⟩⟩,
       ⟨some 3, 1 / 4, ⟨1, 0, 0⟩, ⟨0, 1, 0⟩⟩, ⟨some 2, 1 / 2, ⟨2, 0, 0⟩, ⟨0, 1, 0⟩⟩,
       ⟨some 2, 1 / 2, ⟨3, 0, 0⟩, ⟨0, 1, 0⟩⟩]
    (∀ x ∈ hits, x.hitFraction ≤ 1) ∧
    ((1 : Eid) ≠ 0 ∧ (∃ a, s.bodies.find 1 = some (.addr a) ∧ (s.heap.find a).isSome) ∧
      (1 : ℚ) ≠ 0) ∧
    (∃ r, s.rayCastMousePick (fun _ _ => 0) 1 1 ⟨0, 0, 0⟩ hits = some r ∧
      CastSelects (fun _ _ => 0) (fun e => e != 1) ⟨0, 0, 0⟩ hits r) ∧
    CastSelects (fun _ _ => 0) (fun e => e != 1 && e != 3) ⟨0, 0, 0⟩ hits
      (s.rayCastIgnore (fun _ _ => 0) 1 3 ⟨0, 0, 0⟩ hits) := by
  intro s hits
  have hsource : (1 : Eid) ≠ 0 := by decide
  have hbody : ∃ a, s.bodies.find 1 = some (.addr a) ∧ (s.heap.find a).isSome := ⟨0, rfl, rfl⟩
  have hscreen : (1 : ℚ) ≠ 0 := one_ne_zero
  have hfrac : ∀ x ∈ hits, x.hitFraction ≤ 1 := by simp only [hits]; norm_num
  exact ⟨hfrac, ⟨hsource, hbody, hscreen⟩,
    (rayCast_selects_first_least (fun _ _ => 0) s 1 3 1 ⟨0, 0, 0⟩ hits hfrac).1 hsource hbody hscreen,
    (rayCast_selects_first_least (fun _ _ => 0) s 1 3 1 ⟨0, 0, 0⟩ hits hfrac).2⟩

end PhysicsSystem

end TecEngine

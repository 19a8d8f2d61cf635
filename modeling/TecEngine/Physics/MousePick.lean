import TecEngine.Physics.RayCast

/-!
# Mouse picks and clicks

`On(MouseBtnEvent)` turns a button press into a `MouseClickEvent` addressed to
`last_entity_hit`, with `last_raydist` and `last_raypos`. Three operations share those fields:
`RayCastMousePick` writes `last_entity_hit` and, when it selects a hit, the ray fields;
`RayCastIgnore` writes the ray fields when it selects a hit, but never `last_entity_hit`.
`RayCastMousePick` also returns before touching any of them for the null source or a source
without an entry in `bodies`.

So after any interleaving the click goes to the entity returned by the latest pick that got
past those two guards, and carries the point and distance of the latest hit any cast selected:
that pick's own hit, unless a later `RayCastIgnore` selected one (`onMouseBtn_runRays`).

The early returns are a slip. `RayCastMousePick` returns `last_entity_hit`, and its third early
return, for a zero screen height, comes after `last_entity_hit` is cleared; the first two come
before it. A pick of the null source, or of a source with no entry in `bodies`, returns 0 but
leaves the earlier target in place, and the next button press clicks it; an ignore cast between a
pick and the click replaces its point (`click_not_latest_pick`).

## Main definitions

* `RayOp`, `runRays`: interleavings of the three operations
* `latestPick`, `latestHit`, `clickAfter`: the click that follows, from the calls alone

## Main results

* `rayStep_fields`: what one call does to the fields the click reads
* `onMouseBtn_runRays`: the click after any interleaving
* `click_not_latest_pick`: interleavings whose click is not the latest pick's
-/

namespace TecEngine

/-- A call on the ray state of the physics system. -/
inductive RayOp
  | mousePick (source : Eid) (screenHeight : ℚ) (rayFrom : Vec3) (hits : List RayHit)
  | ignore (source ignore : Eid) (rayFrom : Vec3) (hits : List RayHit)
  | mouseBtn (data : MouseBtnEvent)

namespace PhysicsSystem

variable (distance : Vec3 → Vec3 → ℚ)

/-- One call; the click a `mouseBtn` emits leaves the state as it is. -/
def rayStep (s : PhysicsSystem) : RayOp → Option PhysicsSystem
  | .mousePick source screenHeight rayFrom hits =>
    (s.rayCastMousePick distance source screenHeight rayFrom hits).map Prod.fst
  | .ignore source ignore rayFrom hits => some (s.rayCastIgnore distance source ignore rayFrom hits).1
  | .mouseBtn _ => some s

/-- A run of calls, stopped by a fault. -/
def runRays (s : PhysicsSystem) (ops : List RayOp) : Option PhysicsSystem :=
  ops.foldlM (rayStep distance) s

end PhysicsSystem

/-! ## The click, from the calls alone -/

/-- A `RayCastMousePick` of `source` gets past its guards: a nonzero source with an entry in
`bodies`. -/
def PassesGuards (bodies : StdMap BodyPtr) (source : Eid) : Prop :=
  source ≠ 0 ∧ (bodies.find source).isSome

instance (bodies : StdMap BodyPtr) (source : Eid) : Decidable (PassesGuards bodies source) :=
  inferInstanceAs (Decidable (_ ∧ _))

/-- The entity a pick past its guards returns. -/
def pickResult (source : Eid) (screenHeight : ℚ) (hits : List RayHit) : Eid :=
  if screenHeight = 0 then 0 else (selectHit (fun e => e != source) hits).entity

/-- The hit a cast from `rayFrom` selects: its point, and its distance from the origin. -/
def selectedHit (distance : Vec3 → Vec3 → ℚ) (accept : Eid → Bool) (rayFrom : Vec3)
    (hits : List RayHit) : Option (Vec3 × ℚ) :=
  if hi : (selectHit accept hits).index < hits.length then
    some (hits[(selectHit accept hits).index].hitPointWorld,
      distance rayFrom hits[(selectHit accept hits).index].hitPointWorld)
  else none

namespace RayOp

/-- What a call returns as a pick past its guards. -/
def pickReturn (bodies : StdMap BodyPtr) : RayOp → Option Eid
  | .mousePick source screenHeight _ hits =>
    if PassesGuards bodies source then some (pickResult source screenHeight hits) else none
  | _ => none

/-- The hit a call selects, as a pick past its guards with a screen or as an ignore cast. -/
def selected (distance : Vec3 → Vec3 → ℚ) (bodies : StdMap BodyPtr) : RayOp → Option (Vec3 × ℚ)
  | .mousePick source screenHeight rayFrom hits =>
    if PassesGuards bodies source ∧ screenHeight ≠ 0 then
      selectedHit distance (fun e => e != source) rayFrom hits
    else none
  | .ignore source ignored rayFrom hits =>
    selectedHit distance (fun e => e != source && e != ignored) rayFrom hits
  | .mouseBtn _ => none

end RayOp

/-- The value the latest pick of `ops` past its guards returned. -/
def latestPick (bodies : StdMap BodyPtr) (ops : List RayOp) : Option Eid :=
  (ops.filterMap (RayOp.pickReturn bodies)).getLast?

/-- The latest hit a cast of `ops` selected. -/
def latestHit (distance : Vec3 → Vec3 → ℚ) (bodies : StdMap BodyPtr) (ops : List RayOp) :
    Option (Vec3 × ℚ) :=
  (ops.filterMap (RayOp.selected distance bodies)).getLast?

/-- The click after the calls `ops` from `s₀`: addressed to the latest pick past its guards,
with the latest selected hit; the fields of `s₀` stand in for a pick or hit `ops` lacks. -/
def clickAfter (distance : Vec3 → Vec3 → ℚ) (s₀ : PhysicsSystem) (ops : List RayOp)
    (data : MouseBtnEvent) : Option (Eid × MouseClickEvent) :=
  let target := (latestPick s₀.bodies ops).getD s₀.lastEntityHit
  let hit := (latestHit distance s₀.bodies ops).getD (s₀.lastRayPos, s₀.lastRayDist)
  if data.action = .down ∧ target ≠ 0 then some (target, ⟨data.button, hit.2, hit.1⟩) else none

theorem getD_getLast?_filterMap_concat {α β : Type} (f : α → Option β) (l : List α) (a : α)
    (d : β) :
    ((l ++ [a]).filterMap f).getLast?.getD d = (f a).getD ((l.filterMap f).getLast?.getD d) := by
  cases h : f a <;> simp [List.filterMap_append, h, List.getLast?_append]

/-! ## One call, then any interleaving -/

namespace PhysicsSystem

variable {distance}

/-- **One call** keeps `bodies`, leaves in `last_entity_hit` what a pick past its guards returns,
and leaves in `last_raypos` and `last_raydist` the hit a cast selects; a call that does neither
leaves the three fields as they were. -/
theorem rayStep_fields {s s' : PhysicsSystem} {op : RayOp} (h : s.rayStep distance op = some s') :
    s'.bodies = s.bodies ∧ s'.lastEntityHit = (op.pickReturn s.bodies).getD s.lastEntityHit ∧
      (s'.lastRayPos, s'.lastRayDist) =
        (op.selected distance s.bodies).getD (s.lastRayPos, s.lastRayDist) := by
  cases op with
  | mousePick source screenHeight rayFrom hits =>
    simp only [rayStep, rayCastMousePick] at h
    by_cases h0 : source = 0
    · simp only [h0, if_true, Option.map_some', Option.some.injEq] at h
      subst h; simp [RayOp.pickReturn, RayOp.selected, PassesGuards, h0]
    cases hf : s.bodies.find source with
    | none =>
      simp only [h0, hf, if_false, Option.map_some', Option.some.injEq] at h
      subst h; simp [RayOp.pickReturn, RayOp.selected, PassesGuards, hf]
    | some p =>
      simp only [h0, hf, if_false, Option.map_map] at h
      obtain ⟨b, -, rfl⟩ := Option.map_eq_some'.mp h
      have hg : PassesGuards s.bodies source := ⟨h0, by simp [hf]⟩
      by_cases hz : screenHeight = 0
      · simp [hz, RayOp.pickReturn, RayOp.selected, hg, pickResult]
      by_cases hn : hits = []
      · subst hn; simp [hz, RayOp.pickReturn, RayOp.selected, hg, pickResult, selectedHit,
          selectHit, scanHits]
      simp only [hz, hn, if_false, Function.comp, RayOp.pickReturn, RayOp.selected, hg, if_true,
        true_and, pickResult, selectedHit, Option.getD_some, ne_eq, not_false_eq_true]
      split <;> simp [recordHit]
  | ignore source ignored rayFrom hits =>
    simp only [rayStep, Option.some.injEq] at h
    subst h
    by_cases hn : hits = []
    · subst hn; simp [rayCastIgnore, RayOp.pickReturn, RayOp.selected, selectedHit, selectHit,
        scanHits]
    simp only [rayCastIgnore, hn, if_false, RayOp.pickReturn, RayOp.selected, selectedHit]
    split <;> simp [recordHit]
  | mouseBtn data =>
    cases h; simp [RayOp.pickReturn, RayOp.selected]

/-- **Any interleaving** keeps `bodies`, and leaves in `last_entity_hit` the latest pick past its
guards and in `last_raypos` and `last_raydist` the latest selected hit. -/
theorem runRays_fields {s₀ s : PhysicsSystem} {ops : List RayOp}
    (h : s₀.runRays distance ops = some s) :
    s.bodies = s₀.bodies ∧ s.lastEntityHit = (latestPick s₀.bodies ops).getD s₀.lastEntityHit ∧
      (s.lastRayPos, s.lastRayDist) =
        (latestHit distance s₀.bodies ops).getD (s₀.lastRayPos, s₀.lastRayDist) := by
  induction ops using List.reverseRecOn generalizing s with
  | nil => cases h; simp [latestPick, latestHit]
  | append_singleton ops op ih =>
    obtain ⟨s₁, h₁, hstep⟩ := Option.bind_eq_some.mp (by simpa [runRays, List.foldlM_append] using h)
    obtain ⟨hb₁, he₁, hr₁⟩ := ih h₁
    obtain ⟨hb, he, hr⟩ := rayStep_fields hstep
    refine ⟨hb.trans hb₁, ?_, ?_⟩
    · rw [latestPick, getD_getLast?_filterMap_concat, he, hb₁, he₁, latestPick]
    · rw [latestHit, getD_getLast?_filterMap_concat, hr, hb₁, hr₁, latestHit]

variable (distance)

/-- **The click after any interleaving** of picks, ignore casts and clicks goes to the entity the
latest pick past its guards returned, when that is not 0, with the point and distance of the
latest hit any cast selected; the fields of the start state stand in for a pick or hit the
interleaving lacks. -/
theorem onMouseBtn_runRays {s₀ s : PhysicsSystem} {ops : List RayOp}
    (h : s₀.runRays distance ops = some s) (data : MouseBtnEvent) :
    s.onMouseBtn data = clickAfter distance s₀ ops data := by
  obtain ⟨-, he, hr⟩ := runRays_fields h
  simp only [onMouseBtn, clickAfter, ← he, ← hr, ite_and]

/-- A pick of entity 7 by entity 5, then an ignore cast that selects entity 8: the click goes to
7, with the ignore cast's hit. -/
theorem click_after_pick_then_ignore :
    let s₀ : PhysicsSystem :=
      { PhysicsSystem.new with
        bodies := [(5, .addr 0)], heap := [(0, RigidBody.new)], nextAddress := 1 }
    let ops := [RayOp.mousePick 5 1 ⟨0, 0, 0⟩ [⟨some 7, 0, ⟨1, 0, 0⟩, ⟨0, 1, 0⟩⟩],
      RayOp.ignore 5 7 ⟨0, 0, 0⟩ [⟨some 8, 0, ⟨2, 0, 0⟩, ⟨0, 1, 0⟩⟩]]
    let s : PhysicsSystem :=
      { s₀ with
        lastRayValid := true, lastEntityHit := 7, lastRayFrom := ⟨0, 0, 0⟩, lastRayPos := ⟨2, 0, 0⟩,
        lastRayNorm := ⟨0, 1, 0⟩, lastRayDist := 0 }
    s₀.runRays (fun _ _ => 0) ops = some s ∧
      s.onMouseBtn ⟨.down, 0⟩ = clickAfter (fun _ _ => 0) s₀ ops ⟨.down, 0⟩ := by
  intro s₀ ops s
  have h : s₀.runRays (fun _ _ => 0) ops = some s := by
    norm_num [s₀, ops, s, runRays, rayStep, rayCastMousePick, rayCastIgnore, deref, StdMap.find,
      selectHit, scanHits, scanStep, recordHit]
  exact ⟨h, onMouseBtn_runRays _ h _⟩

/-- **The click is not always the latest pick's.** After entity 5 picks entity 7, a pick of the
null source and a pick of entity 6, which has no body, each return 0, and the click still goes
to 7; an ignore cast after the pick selects entity 8, and the click goes to 7 with entity 8's hit
point and distance (here the distance along the x axis, on which all the hits lie). -/
theorem click_not_latest_pick :
    let dist : Vec3 → Vec3 → ℚ := fun a b => |b.x - a.x|
    let s₀ : PhysicsSystem :=
      { PhysicsSystem.new with
        bodies := [(5, .addr 0)], heap := [(0, RigidBody.new)], nextAddress := 1 }
    let s₁ : PhysicsSystem :=
      { s₀ with
        lastRayValid := true, lastEntityHit := 7, lastRayFrom := ⟨0, 0, 0⟩, lastRayPos := ⟨1, 0, 0⟩,
        lastRayNorm := ⟨0, 1, 0⟩, lastRayDist := dist ⟨0, 0, 0⟩ ⟨1, 0, 0⟩ }
    let hits₇ : List RayHit := [⟨some 7, 0, ⟨1, 0, 0⟩, ⟨0, 1, 0⟩⟩]
    let hits₈ : List RayHit := [⟨some 8, 0, ⟨2, 0, 0⟩, ⟨0, 1, 0⟩⟩]
    s₀.rayCastMousePick dist 5 1 ⟨0, 0, 0⟩ hits₇ = some (s₁, 7) ∧
    s₁.rayCastMousePick dist 0 1 ⟨0, 0, 0⟩ hits₇ = some (s₁, 0) ∧
    s₁.rayCastMousePick dist 6 1 ⟨0, 0, 0⟩ hits₇ = some (s₁, 0) ∧
    s₁.onMouseBtn ⟨.down, 0⟩ = some (7, ⟨0, dist ⟨0, 0, 0⟩ ⟨1, 0, 0⟩, ⟨1, 0, 0⟩⟩) ∧
    (s₁.rayCastIgnore dist 5 7 ⟨0, 0, 0⟩ hits₈).2 = 8 ∧
    (s₁.rayCastIgnore dist 5 7 ⟨0, 0, 0⟩ hits₈).1.onMouseBtn ⟨.down, 0⟩ =
      some (7, ⟨0, dist ⟨0, 0, 0⟩ ⟨2, 0, 0⟩, ⟨2, 0, 0⟩⟩) := by
  intro dist s₀ s₁ hits₇ hits₈
  refine ⟨?_, rfl, rfl, rfl, ?_⟩
  · norm_num [s₀, s₁, hits₇, rayCastMousePick, deref, StdMap.find, selectHit, scanHits, scanStep,
      recordHit]
  · norm_num [s₁, hits₈, rayCastIgnore, selectHit, scanHits, scanStep, recordHit, onMouseBtn]

end PhysicsSystem

end TecEngine

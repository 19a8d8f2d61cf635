import TecEngine.Components

/-!
# The render list

`RenderSystem::UpdateRenderList` (`render-system.cpp`) rebuilds `render_item_list` every frame.
For each visible renderable, in entity order, it keeps the renderable's `RenderItem` when the
item was made for the renderable's current mesh, and otherwise makes or refills one from the
mesh's vertex groups (none for an empty mesh or no mesh); then, when the entity has an
`Animation`, it runs `UpdateAnimation` on it and, if it has bone matrices, marks the item
`animated` with that animation; last, it puts the item in the list under the renderable's
shader. `GeometryPass` binds `animation->bone_matrices[0]` of each animated item of the list.
`On(EntityCreated)` replaces an entity's renderable or animation with a new one, and
`On(EntityDestroyed)` removes its renderable.

Animations are heap objects: an item keeps a pointer to one. The model keeps them in the order
of allocation, an address being a position, and frees none (whether `Multiton::Set` deletes the
animation it replaces is outside the sources). `UpdateAnimation` and the vertex groups a mesh
loads into its vertex buffer (`VertexBufferObject::Load`, through the `mesh_buffers` cache)
are parameters. A new `RenderItem` is not animated and has no animation. The transforms
(`model_matrix`), the vertex buffers and the view loop are not modelled.

`UpdateRenderList` sets `animated` and `animation` only when the current animation has bone
matrices, and never clears them: an item animated in one frame stays animated with its old
animation after the entity's animation is replaced by one without bone matrices
(`animated_item_keeps_replaced_animation`). The read of `bone_matrices[0]` is still in bounds,
on an animation that is no longer the entity's, as long as `UpdateAnimation` never empties the
bone matrices of an animation (`run_animated_in_bounds`).

## Main definitions

* `RenderSystem`: the renderables, the animations and the render list
* `onEntityCreated`, `onEntityDestroyed`, `updateRenderList`, `RenderSystem.run`: the
  operations and their runs
* `InBounds`: an animated item points to an animation with a bone matrix

## Main results

* `animated_item_keeps_replaced_animation`: an animated item outlives its entity's animation
* `run_animated_in_bounds`: every animated item points to an animation with a bone matrix
-/

namespace TecEngine

/-- The state of the render system that `On(EntityCreated)` and `UpdateRenderList` write. -/
structure RenderSystem where
  /-- `RenderableMap` -/
  renderables : StdMap Renderable
  /-- `AnimationMap`: the address of each entity's `Animation` -/
  animations : StdMap Nat
  /-- the `Animation` objects, by address in the order of allocation -/
  animationHeap : List Animation
  /-- `render_item_list`: the items of the last frame, each under its shader, by the entity
  whose renderable owns it -/
  renderItemList : List (Shader × Eid)
  /-- every entry of `AnimationMap` points to an allocated animation -/
  allocated : ∀ e a, animations.find e = some a → a < animationHeap.length

namespace RenderSystem

/-- The render system before any event: nothing. -/
def new : RenderSystem := ⟨[], [], [], [], fun _ _ h => by cases h⟩

/-! ## `On(EntityCreated)` -/

/-- `AnimationMap::Set(entity_id, animation)` for a `new Animation`: allocate it at the next
address. -/
def setAnimation (s : RenderSystem) (e : Eid) (anim : Animation) : RenderSystem where
  renderables := s.renderables
  animations := s.animations.set e s.animationHeap.length
  animationHeap := s.animationHeap ++ [anim]
  renderItemList := s.renderItemList
  allocated e' a h := by
    rw [StdMap.find_set] at h
    rw [List.length_append, List.length_singleton]
    split_ifs at h with he
    · cases h; omega
    · exact Nat.lt_succ_of_lt (s.allocated e' a h)

/-- One component of an `EntityCreated` event: a new renderable, without a render item, or a
new animation; the other components go to other systems. -/
def onEntityCreatedComponent (id : Eid) (s : RenderSystem) : Component → RenderSystem
  | .renderable r => { s with renderables := s.renderables.set id { r with renderItem := none } }
  | .animation anim => s.setAnimation id anim
  | _ => s

/-- `On(EntityCreated)`. -/
def onEntityCreated (s : RenderSystem) (data : EntityCreated) : RenderSystem :=
  data.entity.components.foldl (onEntityCreatedComponent data.entity.id) s

/-- `On(EntityDestroyed)`: `RenderableMap::Remove`. -/
def onEntityDestroyed (s : RenderSystem) (e : Eid) : RenderSystem :=
  { s with renderables := s.renderables.erase e }

/-! ## `UpdateRenderList` -/

section Frame

variable (vertexGroupsOf : Mesh → List VertexGroup) (updateAnimation : ℚ → Animation → Animation)

/-- A render item for `mesh`, made from its vertex groups: the item `ri` refilled, or a new one;
none for a mesh without vertex groups. -/
def loadItem (mesh : Mesh) (ri : Option RenderItem) : Option RenderItem :=
  match vertexGroupsOf mesh with
  | [] => none
  | groups => some (match ri with
    | none => ⟨mesh, groups, false, none⟩
    | some ri => { ri with meshAtSet := mesh, vertexGroups := groups })

/-- The render item a renderable has after the mesh checks: none without a mesh, its item when
that was made for its mesh, and otherwise one loaded for the mesh. -/
def renderItemFor (r : Renderable) : Option RenderItem :=
  match r.mesh, r.renderItem with
  | none, _ => none
  | some mesh, some ri => if ri.meshAtSet = mesh then some ri else loadItem vertexGroupsOf mesh (some ri)
  | some mesh, none => loadItem vertexGroupsOf mesh none

/-- Store `anim` at the allocated address `a`. -/
def setAnimationAt (s : RenderSystem) (a : Nat) (anim : Animation) : RenderSystem :=
  { s with
    animationHeap := s.animationHeap.set a anim
    allocated := fun e b h => (List.length_set _ _ _).symm ▸ s.allocated e b h }

/-- The animation step for the item `ri` of entity `e`: update the entity's animation, and mark
the item animated with it when it has bone matrices. -/
def animate (delta : ℚ) (s : RenderSystem) (e : Eid) (ri : RenderItem) : RenderSystem × RenderItem :=
  match h : s.animations.find e with
  | none => (s, ri)
  | some a =>
    let anim := updateAnimation delta (s.animationHeap.get ⟨a, s.allocated e a h⟩)
    if 0 < anim.boneMatrices.length then
      (s.setAnimationAt a anim, { ri with animated := true, animation := some a })
    else (s.setAnimationAt a anim, ri)

/-- One pass of `UpdateRenderList`'s loop, over the renderable `r` of entity `e`. -/
def updateRenderable (delta : ℚ) (s : RenderSystem) (e : Eid) (r : Renderable) : RenderSystem :=
  if r.hidden then s else
  match renderItemFor vertexGroupsOf r with
  | none => { s with renderables := s.renderables.set e { r with renderItem := none } }
  | some ri =>
    let t := animate updateAnimation delta s e ri
    { t.1 with
      renderables := t.1.renderables.set e { r with renderItem := some t.2 }
      renderItemList := t.1.renderItemList ++ [(r.shader, e)] }

/-- `UpdateRenderList`: clear the list, then one pass over each renderable, in entity order. -/
def updateRenderList (delta : ℚ) (s : RenderSystem) : RenderSystem :=
  s.renderables.foldl (fun t p => updateRenderable vertexGroupsOf updateAnimation delta t p.1 p.2)
    { s with renderItemList := [] }

end Frame

end RenderSystem

/-! ## Runs -/

/-- A call on the render system. -/
inductive RenderOp
  | entityCreated (data : EntityCreated)
  | entityDestroyed (e : Eid)
  | updateRenderList (delta : ℚ)

namespace RenderSystem

variable (vertexGroupsOf : Mesh → List VertexGroup) (updateAnimation : ℚ → Animation → Animation)

/-- One call. -/
def step (s : RenderSystem) : RenderOp → RenderSystem
  | .entityCreated data => s.onEntityCreated data
  | .entityDestroyed e => s.onEntityDestroyed e
  | .updateRenderList delta => updateRenderList vertexGroupsOf updateAnimation delta s

/-- A run of calls. -/
def run (s : RenderSystem) (ops : List RenderOp) : RenderSystem :=
  ops.foldl (step vertexGroupsOf updateAnimation) s

/-- **An animated item outlives its entity's animation**: entity 1 is drawn animated in a frame;
an `EntityCreated` event then gives it an animation without bone matrices, and in the next
frame its item is still animated, with the replaced animation. (Here `UpdateAnimation` keeps an
animation's bone matrices and the mesh loads one vertex group.) -/
theorem animated_item_keeps_replaced_animation :
    let ev₁ : EntityCreated :=
      ⟨⟨1, [.renderable ⟨false, ⟨"deferred"⟩, some ⟨"man"⟩, none⟩, .animation ⟨[⟨[1]⟩]⟩]⟩, 1⟩
    let ev₂ : EntityCreated := ⟨⟨1, [.animation ⟨[]⟩]⟩, 1⟩
    let s := new.run (fun _ => [⟨0, 3⟩]) (fun _ anim => anim)
      [.entityCreated ev₁, .updateRenderList 0, .entityCreated ev₂, .updateRenderList 0]
    s.renderItemList = [(⟨"deferred"⟩, 1)] ∧
      (s.renderables.find 1).bind Renderable.renderItem = some ⟨⟨"man"⟩, [⟨0, 3⟩], true, some 0⟩ ∧
      s.animations.find 1 = some 1 ∧ s.animationHeap[1]? = some ⟨[]⟩ := by
  decide

/-! ## Animated items point to animations with bone matrices -/

/-- An animated render item points to an allocated animation with a bone matrix: the read
`animation->bone_matrices[0]` of `GeometryPass` is in bounds. -/
def ItemInBounds (heap : List Animation) (ri : RenderItem) : Prop :=
  ri.animated → ∃ a anim, ri.animation = some a ∧ heap[a]? = some anim ∧
    0 < anim.boneMatrices.length

/-- The render item of `r`, if any, is in bounds. -/
def InBounds (heap : List Animation) (r : Renderable) : Prop :=
  ∀ ri, r.renderItem = some ri → ItemInBounds heap ri

/-- `heap'` keeps a bone matrix in every animation of `heap` that has one. -/
def KeepsBones (heap heap' : List Animation) : Prop :=
  ∀ (a : Nat) (anim : Animation), heap[a]? = some anim → 0 < anim.boneMatrices.length →
    ∃ anim' : Animation, heap'[a]? = some anim' ∧ 0 < anim'.boneMatrices.length

theorem KeepsBones.refl (heap : List Animation) : KeepsBones heap heap :=
  fun _ anim h hb => ⟨anim, h, hb⟩

theorem KeepsBones.trans {heap heap' heap'' : List Animation} (h : KeepsBones heap heap')
    (h' : KeepsBones heap' heap'') : KeepsBones heap heap'' := fun a anim ha hb =>
  let ⟨_, ha', hb'⟩ := h a anim ha hb
  h' a _ ha' hb'

theorem keepsBones_append (heap l : List Animation) : KeepsBones heap (heap ++ l) :=
  fun _ anim h hb => ⟨anim, by rw [List.getElem?_append_left (List.getElem?_eq_some_iff.mp h).1, h], hb⟩

theorem ItemInBounds.mono {heap heap' : List Animation} {ri : RenderItem} (h : ItemInBounds heap ri)
    (hk : KeepsBones heap heap') : ItemInBounds heap' ri := fun han =>
  let ⟨a, anim, hri, ha, hb⟩ := h han
  let ⟨anim', ha', hb'⟩ := hk a anim ha hb
  ⟨a, anim', hri, ha', hb'⟩

theorem InBounds.mono {heap heap' : List Animation} {r : Renderable} (h : InBounds heap r)
    (hk : KeepsBones heap heap') : InBounds heap' r := fun ri hri => (h ri hri).mono hk

theorem inBounds_of_renderItem_none (heap : List Animation) (r : Renderable) :
    InBounds heap { r with renderItem := none } := fun _ h => by cases h

section Frame

variable {vertexGroupsOf : Mesh → List VertexGroup} {updateAnimation : ℚ → Animation → Animation}

/-- A loaded item keeps the animation of the item it refills; a new one is not animated. -/
theorem itemInBounds_loadItem {heap : List Animation} {mesh : Mesh} {ri : Option RenderItem}
    {ri' : RenderItem} (h : ∀ ri₀, ri = some ri₀ → ItemInBounds heap ri₀)
    (hl : loadItem vertexGroupsOf mesh ri = some ri') : ItemInBounds heap ri' := by
  unfold loadItem at hl
  split at hl
  · cases hl
  · cases ri with
    | none => cases hl; intro h; cases h
    | some ri₀ => cases hl; exact h ri₀ rfl

/-- The item of a renderable after the mesh checks is in bounds when the renderable's was. -/
theorem itemInBounds_renderItemFor {heap : List Animation} {r : Renderable} {ri : RenderItem}
    (hr : InBounds heap r) (h : renderItemFor vertexGroupsOf r = some ri) : ItemInBounds heap ri := by
  unfold renderItemFor at h
  split at h
  · cases h
  · split_ifs at h
    · cases h; exact hr _ ‹_›
    · exact itemInBounds_loadItem (fun ri₀ h₀ => hr ri₀ (by cases h₀; assumption)) h
  · exact itemInBounds_loadItem (fun _ h₀ => by cases h₀) h

variable (hupd : ∀ delta anim, 0 < anim.boneMatrices.length →
  0 < (updateAnimation delta anim).boneMatrices.length)
include hupd

/-- The animation step keeps the bone matrices of the heap, and leaves the item in bounds. -/
theorem animate_inBounds (delta : ℚ) (s : RenderSystem) (e : Eid) {ri : RenderItem}
    (hri : ItemInBounds s.animationHeap ri) :
    KeepsBones s.animationHeap (animate updateAnimation delta s e ri).1.animationHeap ∧
      ItemInBounds (animate updateAnimation delta s e ri).1.animationHeap
        (animate updateAnimation delta s e ri).2 ∧
      (animate updateAnimation delta s e ri).1.renderables = s.renderables := by
  unfold animate
  split
  · exact ⟨.refl _, hri, rfl⟩
  · rename_i a h
    have hlt := s.allocated e a h
    have hkeep : KeepsBones s.animationHeap (s.animationHeap.set a
        (updateAnimation delta (s.animationHeap.get ⟨a, hlt⟩))) := by
      intro b anim hb hbones
      by_cases hab : a = b
      · subst hab
        rw [List.getElem?_eq_getElem hlt, Option.some.injEq] at hb
        exact ⟨updateAnimation delta anim, by simp [List.getElem?_set, hlt, ← hb],
          hupd delta anim hbones⟩
      · exact ⟨anim, by rw [List.getElem?_set, if_neg hab, hb], hbones⟩
    dsimp only
    split_ifs with hb
    · exact ⟨hkeep, fun _ => ⟨a, _, rfl, by simp [setAnimationAt, List.getElem?_set, hlt], hb⟩, rfl⟩
    · exact ⟨hkeep, hri.mono hkeep, rfl⟩

/-- One pass of the loop keeps the bone matrices of the heap, and replaces the renderable of
`e`, if at all, with one in bounds. -/
theorem updateRenderable_inBounds (delta : ℚ) (s : RenderSystem) (e : Eid) {r : Renderable}
    (hr : InBounds s.animationHeap r) :
    KeepsBones s.animationHeap (updateRenderable vertexGroupsOf updateAnimation delta s e r).animationHeap ∧
      ∃ r', InBounds (updateRenderable vertexGroupsOf updateAnimation delta s e r).animationHeap r' ∧
        ((updateRenderable vertexGroupsOf updateAnimation delta s e r).renderables =
            s.renderables.set e r' ∨
          (updateRenderable vertexGroupsOf updateAnimation delta s e r).renderables = s.renderables) := by
  unfold updateRenderable
  split_ifs
  · exact ⟨.refl _, r, hr, .inr rfl⟩
  split
  · exact ⟨.refl _, _, inBounds_of_renderItem_none _ r, .inl rfl⟩
  · rename_i ri hri
    obtain ⟨hk, hin, hrs⟩ := animate_inBounds hupd delta s e (itemInBounds_renderItemFor hr hri)
    refine ⟨hk, { r with renderItem := some (animate updateAnimation delta s e ri).2 },
      fun ri' h => ?_, .inl (by simp only [hrs])⟩
    cases h; exact hin

/-- Every renderable of the system is in bounds. -/
def AllInBounds (s : RenderSystem) : Prop :=
  ∀ p ∈ s.renderables, InBounds s.animationHeap p.2

/-- The loop of `UpdateRenderList`, over renderables in bounds, keeps every renderable in
bounds. -/
theorem foldl_updateRenderable_inBounds (delta : ℚ) (l : StdMap Renderable) (s : RenderSystem)
    (hs : s.AllInBounds) (hl : ∀ p ∈ l, InBounds s.animationHeap p.2) :
    (l.foldl (fun t p => updateRenderable vertexGroupsOf updateAnimation delta t p.1 p.2) s).AllInBounds := by
  induction l generalizing s with
  | nil => exact hs
  | cons p l ih =>
    obtain ⟨hk, r', hr', hset⟩ := updateRenderable_inBounds hupd delta s p.1 (hl p (.head _))
    refine ih _ (fun q hq => ?_) (fun q hq => (hl q (.tail _ hq)).mono hk)
    rcases hset with hset | hset <;> rw [hset] at hq
    · rcases StdMap.mem_set hq with rfl | hq
      exacts [hr', (hs q hq).mono hk]
    · exact (hs q hq).mono hk

theorem AllInBounds.updateRenderList {s : RenderSystem} (hs : s.AllInBounds) (delta : ℚ) :
    (updateRenderList vertexGroupsOf updateAnimation delta s).AllInBounds :=
  foldl_updateRenderable_inBounds hupd delta _ _ hs hs

omit hupd in
theorem AllInBounds.onEntityCreatedComponent {s : RenderSystem} (hs : s.AllInBounds) (id : Eid)
    (c : Component) : (onEntityCreatedComponent id s c).AllInBounds := by
  cases c with
  | renderable r =>
    intro q hq
    rcases StdMap.mem_set hq with rfl | hq
    exacts [inBounds_of_renderItem_none _ r, hs q hq]
  | animation anim => exact fun q hq => (hs q hq).mono (keepsBones_append _ _)
  | _ => exact hs

omit hupd in
theorem AllInBounds.onEntityCreated {s : RenderSystem} (hs : s.AllInBounds) (data : EntityCreated) :
    (s.onEntityCreated data).AllInBounds := by
  unfold RenderSystem.onEntityCreated
  induction data.entity.components generalizing s with
  | nil => exact hs
  | cons c cs ih => exact ih (hs.onEntityCreatedComponent _ c)

omit hupd in
theorem AllInBounds.onEntityDestroyed {s : RenderSystem} (hs : s.AllInBounds) (e : Eid) :
    (s.onEntityDestroyed e).AllInBounds := fun q hq => hs q (StdMap.mem_erase.mp hq).1

/-- **Animated items point to animations with bone matrices**: when `UpdateAnimation` never
empties the bone matrices of an animation, after any run from the constructed system every
animated render item points to an allocated animation with a bone matrix, so the read of
`bone_matrices[0]` in `GeometryPass` is in bounds. -/
theorem run_animated_in_bounds (ops : List RenderOp) :
    ∀ p ∈ (new.run vertexGroupsOf updateAnimation ops).renderables,
      InBounds (new.run vertexGroupsOf updateAnimation ops).animationHeap p.2 := by
  suffices ∀ s : RenderSystem, s.AllInBounds →
      (s.run vertexGroupsOf updateAnimation ops).AllInBounds from this new fun _ h => by cases h
  induction ops with
  | nil => exact fun _ hs => hs
  | cons op ops ih =>
    intro s hs
    cases op with
    | entityCreated data => exact ih _ (hs.onEntityCreated data)
    | entityDestroyed e => exact ih _ (hs.onEntityDestroyed e)
    | updateRenderList delta => exact ih _ (hs.updateRenderList hupd delta)

end Frame

/-- An `UpdateAnimation` that keeps the bone matrices, over two frames between which entity 1's
animation is replaced by one without bone matrices. -/
theorem run_animated_in_bounds_after_replacement :
    let update : ℚ → Animation → Animation := fun _ anim => anim
    let ops := [RenderOp.entityCreated
        ⟨⟨1, [.renderable ⟨false, ⟨"deferred"⟩, some ⟨"man"⟩, none⟩, .animation ⟨[⟨[1]⟩]⟩]⟩, 1⟩,
      .updateRenderList 0, .entityCreated ⟨⟨1, [.animation ⟨[]⟩]⟩, 1⟩, .updateRenderList 0]
    (∀ delta anim, 0 < anim.boneMatrices.length → 0 < (update delta anim).boneMatrices.length) ∧
      ∀ p ∈ (new.run (fun _ => [⟨0, 3⟩]) update ops).renderables,
        InBounds (new.run (fun _ => [⟨0, 3⟩]) update ops).animationHeap p.2 := by
  intro update ops
  have hupd : ∀ delta anim, 0 < anim.boneMatrices.length →
      0 < (update delta anim).boneMatrices.length := fun _ _ h => h
  exact ⟨hupd, @run_animated_in_bounds (fun _ => [⟨0, 3⟩]) update hupd ops⟩

end RenderSystem

end TecEngine

import Dawn.Native.OpenGL.TextureViewGL

/-!
# Texture views and their GL names

A view's GL name should refer to the view: the texture's storage over the view's levels and
layers, in the view's format, under the view's target.

## Main results

`view_name_shows_view`: a valid view of a live texture gets a name exactly when the texture's
usage needs views, and its name then refers to the texture's storage over the view's levels and
layers, in the view's format, whether the view reuses the texture's name or makes its own.

`view_target_iff`: the object a view's name refers to has the view's target except when the view
reuses the texture's name as a 2D-array view of a single-layer texture. That object keeps the
texture's `GL_TEXTURE_2D` (or multisample) target, under which GL refuses to bind it as
`GL_TEXTURE_2D_ARRAY`.

`live_view_names_show_views`: over any run of view creations, view destructions and the
texture's destruction, every live view that owns its name still names an object that shows it
(or, made after the texture was destroyed, no object), and while the texture lives its name
keeps its whole storage, which shows every live view that shares it. No destructor frees a name
that the texture or another live view still uses.

## Proof strategy

`Sound` states the invariant of a run; one lemma per event shows it is kept, from the frame
lemmas of the GL calls: a view's constructor only takes a name that was not in use, and a
destructor deletes only its own name, which the invariant keeps apart from every other.
-/

namespace Dawn.Native.OpenGL

open TextureObject

/-- What Dawn's validation of view descriptors, in the frontend and not in this repository,
guarantees, the parts the OpenGL view code relies on: at least one level and one layer, all
within the texture, and a single layer for a 2D view. -/
structure ViewDescriptorValid (texture : TextureBase) (descriptor : TextureViewDescriptor) :
    Prop where
  levels : 0 < descriptor.mipLevelCount.toNat ∧
    descriptor.baseMipLevel.toNat + descriptor.mipLevelCount.toNat ≤ texture.mipLevelCount.toNat
  layers : 0 < descriptor.arrayLayerCount.toNat ∧
    descriptor.baseArrayLayer.toNat + descriptor.arrayLayerCount.toNat ≤
      texture.arrayLayerCount.toNat
  single : descriptor.dimension = .e2D → descriptor.arrayLayerCount.toNat = 1

instance (texture : TextureBase) (descriptor : TextureViewDescriptor) :
    Decidable (ViewDescriptorValid texture descriptor) :=
  decidable_of_iff (_ ∧ _ ∧ _) ⟨fun ⟨levels, layers, single⟩ => ⟨levels, layers, single⟩,
    fun ⟨levels, layers, single⟩ => ⟨levels, layers, single⟩⟩

/-- A GL texture object shows a view of the storage `storage` when it covers the view's levels
and layers of that storage, in the view's format. -/
def GLTextureObject.Shows (object : GLTextureObject) (storage : Nat)
    (descriptor : TextureViewDescriptor) : Prop :=
  object.storage = storage ∧ object.format = descriptor.format ∧
    object.baseLevel = descriptor.baseMipLevel.toNat ∧
    object.levelCount = descriptor.mipLevelCount.toNat ∧
    object.baseLayer = descriptor.baseArrayLayer.toNat ∧
    object.layerCount = descriptor.arrayLayerCount.toNat

/-- A texture is alive in a context while its name refers to its whole storage. -/
def TextureObject.Alive (texture : TextureObject) (context : GLContext) : Prop :=
  context.textures texture.handle =
    .texture (wholeObject texture.toTexture texture.textureFormat texture.handle)

variable {context context' : GLContext} {texture : TextureObject}
  {descriptor : TextureViewDescriptor} {name : Nat} {view : TextureView}

theorem TextureObject.Alive.handle_ne_zero (alive : texture.Alive context) : texture.handle ≠ 0 :=
  context.ne_zero_of_ne_unused (by rw [alive]; exact nofun)

/-- A valid view that the texture's name can show is shown by the texture's whole storage. -/
theorem wholeObject_shows_of_shared (validView : ViewDescriptorValid texture.toTextureBase descriptor)
    (shared : requiresCreatingNewTextureView texture descriptor = false) (storage : Nat) :
    (wholeObject texture.toTexture texture.textureFormat storage).Shows storage descriptor := by
  obtain ⟨format, layers, levels, -⟩ := requiresCreatingNewTextureView_eq_false.1 shared
  obtain ⟨-, levelsWithin⟩ := validView.levels
  obtain ⟨-, layersWithin⟩ := validView.layers
  have levelCount := congrArg UInt32.toNat levels
  have layerCount := congrArg UInt32.toNat layers
  refine ⟨rfl, format, ?_, levelCount, ?_, layerCount⟩ <;> simp only [wholeObject] <;> omega

/-! ### Creating a view -/

section Creation

variable (alive : texture.Alive context)
  (validView : ViewDescriptorValid texture.toTextureBase descriptor)
  (created : TextureView.create context texture descriptor name = some (view, context'))
include alive validView created

/-- A name of its own that `glTextureView` makes a view of a live texture's storage. -/
theorem owned_object (owns : view.ownsHandle = true) :
    context'.textures view.handle =
      .texture ⟨texture.handle, view.target, descriptor.format, descriptor.baseMipLevel.toNat,
        descriptor.mipLevelCount.toNat, descriptor.baseArrayLayer.toNat,
        descriptor.arrayLayerCount.toNat⟩ := by
  obtain ⟨-, ⟨-, -, owned, -⟩ | ⟨-, -, -, owned, -⟩ |
    ⟨-, -, handle, -, generated, made, rfl⟩⟩ := TextureView.create_cases created
  · simp [owns] at owned
  · simp [owns] at owned
  obtain ⟨-, unused, textures⟩ := GLContext.genTexture_eq_some.1 made
  have apart : texture.handle ≠ name := fun same => by rw [← same, alive] at unused; cases unused
  have viewed : generated.textures texture.handle =
      .texture (wholeObject texture.toTexture texture.textureFormat texture.handle) := by
    rw [textures, Function.update_noteq apart]
    exact alive
  obtain ⟨someLevel, levelsWithin⟩ := validView.levels
  obtain ⟨someLayer, layersWithin⟩ := validView.layers
  rw [handle, GLContext.textureView_textures_of_generated (by simp [textures]) viewed
    ⟨show _ < texture.mipLevelCount.toNat by omega,
      show _ < texture.arrayLayerCount.toNat by omega⟩]
  simp only [wholeObject, Nat.zero_add, GLName.texture.injEq, GLTextureObject.mk.injEq, true_and]
  omega

/-- A valid view of a live texture has a name exactly when the texture's usage needs views, and
that name refers to the texture's storage over the view's levels and layers, in the view's
format. -/
theorem view_name_shows_view :
    (view.handle = 0 ↔ usageNeedsTextureView texture.usage = false) ∧
    (view.handle ≠ 0 → ∃ object, context'.textures view.handle = .texture object ∧
      object.Shows texture.handle descriptor) := by
  obtain ⟨-, ⟨unneeded, zero, -, -⟩ | ⟨needed, shared, handle, -, same⟩ |
    ⟨needed, -, -, owns, -⟩⟩ := TextureView.create_cases created
  · exact ⟨iff_of_true zero unneeded, fun nonzero => absurd zero nonzero⟩
  · refine ⟨iff_of_false (handle ▸ alive.handle_ne_zero) (by simp [needed]), fun _ =>
      ⟨_, by rw [handle, same]; exact alive, wholeObject_shows_of_shared validView shared _⟩⟩
  · exact ⟨iff_of_false (TextureView.create_owned created owns).1 (by simp [needed]),
      fun _ => ⟨_, owned_object alive validView created owns, rfl, rfl, rfl, rfl, rfl, rfl⟩⟩

end Creation

/-- A color format of four bytes a texel. -/
def rgba8Format : Format := ⟨true, false, false, false, 4, 1, 1, fun _ => ⟨rfl, rfl⟩⟩

/-- A sampled 4×4 texture of one level and `layers` layers under name 1. -/
def sampledTexture (layers : UInt32) : TextureObject :=
  { format := rgba8Format, width := 4, height := 4, mipLevelCount := 1,
    arrayLayerCount := layers, sampleCount := 1,
    isSubresourceContentInitializedAtIndex := fun _ _ => false,
    contents := fun _ _ => Image.fill 0, textureFormat := ⟨0⟩, usage := {.sampled}, handle := 1 }

/-- A context where name 1 holds the whole storage of `sampledTexture layers`. -/
def sampledContext (layers : UInt32) : GLContext :=
  ⟨fun name => if name = 1 then
      .texture (wholeObject (sampledTexture layers).toTexture ⟨0⟩ 1)
    else .unused, rfl⟩

/-- The 2D-array view of every level and layer of a single-layer texture. -/
def arrayView : TextureViewDescriptor := ⟨⟨0⟩, .e2DArray, 0, 1, 0, 1⟩

/-- The single-layer texture lives under name 1, the 2D-array view of it is valid, and the view
reuses name 1. -/
theorem arrayView_reuses_name :
    (sampledTexture 1).Alive (sampledContext 1) ∧
    ViewDescriptorValid (sampledTexture 1).toTextureBase arrayView ∧
    TextureView.create (sampledContext 1) (sampledTexture 1) arrayView 2 =
      some (⟨.texture .texture2DArray, 1, false⟩, sampledContext 1) :=
  ⟨rfl, by decide, rfl⟩

theorem view_name_shows_view_of_array_view :
    (1 = 0 ↔ usageNeedsTextureView (sampledTexture 1).usage = false) ∧
    (1 ≠ 0 → ∃ object, (sampledContext 1).textures 1 = .texture object ∧
      object.Shows 1 arrayView) :=
  view_name_shows_view arrayView_reuses_name.1 arrayView_reuses_name.2.1
    arrayView_reuses_name.2.2

/-- The object a view's name refers to has the view's target except when the view reuses the
name of a single-layer texture as a 2D-array view. -/
theorem view_target_iff (alive : texture.Alive context)
    (validView : ViewDescriptorValid texture.toTextureBase descriptor)
    (created : TextureView.create context texture descriptor name = some (view, context'))
    {object : GLTextureObject} (named : context'.textures view.handle = .texture object) :
    object.target = view.target ↔
      ¬(view.ownsHandle = false ∧ descriptor.dimension = .e2DArray ∧
        texture.arrayLayerCount.toNat = 1) := by
  obtain ⟨target, ⟨-, zero, -, same⟩ | ⟨-, shared, handle, shares, same⟩ |
    ⟨-, -, -, owns, -⟩⟩ := TextureView.create_cases created
  · rw [zero, context'.zero_unused] at named
    cases named
  · rw [handle, same, alive, GLName.texture.injEq] at named
    subst named
    obtain ⟨-, layers, -, dimension⟩ := requiresCreatingNewTextureView_eq_false.1 shared
    have layerCount := congrArg UInt32.toNat layers
    have layered := validView.layers
    rcases dimension with flat | array
    · have single : ¬texture.arrayLayerCount > 1 := by
        have := validView.single flat
        show ¬1 < texture.arrayLayerCount.toNat
        omega
      simp [wholeObject, target, flat, shares, targetForTextureViewDimension, Texture.getGLTarget,
        targetForTexture, single]
    · simp only [wholeObject, target, array, targetForTextureViewDimension, shares,
        TextureTarget.texture.injEq, Texture.getGLTarget, targetForTexture_eq_texture2DArray,
        true_and]
      omega
  · rw [owned_object alive validView created owns, GLName.texture.injEq] at named
    subst named
    simp [owns]

/-- The 2D-array view of a single-layer texture names a `GL_TEXTURE_2D` object. -/
theorem view_target_ne_of_array_view :
    (wholeObject (sampledTexture 1).toTexture ⟨0⟩ 1).target ≠ .texture .texture2DArray :=
  fun same => (view_target_iff arrayView_reuses_name.1 arrayView_reuses_name.2.1
    arrayView_reuses_name.2.2 rfl).1 same ⟨rfl, rfl, rfl⟩

/-! ### A texture and its views over a run -/

/-- A view of the texture, with the descriptor it was made from. -/
structure LiveView where
  descriptor : TextureViewDescriptor
  view : TextureView
  deriving DecidableEq, Repr

/-- What a view's own name refers to: an object that shows the view under the view's target,
or, for a view made after the texture was destroyed, no object. -/
def LiveView.NameShows (live : LiveView) (context : GLContext) (storage : Nat) : Prop :=
  context.textures live.view.handle = .generated ∨
    ∃ object, context.textures live.view.handle = .texture object ∧
      object.Shows storage live.descriptor ∧ object.target = live.view.target

theorem LiveView.NameShows.ne_unused {live : LiveView} {storage : Nat}
    (shows : live.NameShows context storage) : context.textures live.view.handle ≠ .unused := by
  rcases shows with generated | ⟨object, named, -⟩ <;> simp [*]

theorem LiveView.NameShows.of_textures_eq {live : LiveView} {storage : Nat}
    (shows : live.NameShows context storage)
    (same : context'.textures live.view.handle = context.textures live.view.handle) :
    live.NameShows context' storage := by
  unfold LiveView.NameShows
  rwa [same]

/-- A texture and its views: the GL context, the name the texture's storage was allocated
under, the texture, and its views by the order they were made in, `none` once destroyed. -/
structure ViewState where
  context : GLContext
  storage : Nat
  texture : TextureObject
  views : Nat → Option LiveView
  viewCount : Nat

/-- What can happen to a texture: a view of it is made, with the name `glGenTextures` returns
should it need one, a view is destroyed, or the texture is destroyed. -/
inductive ViewEvent
  | createView (descriptor : TextureViewDescriptor) (name : Nat)
  | destroyView (index : Nat)
  | destroy

namespace ViewState

/-- One event. The frontend makes a view only from a valid descriptor, and destroys each view
once; a texture destroyed again deletes nothing, its handle being 0. -/
def step (s : ViewState) : ViewEvent → Option ViewState
  | .createView descriptor name =>
    if ViewDescriptorValid s.texture.toTextureBase descriptor then
      (TextureView.create s.context s.texture descriptor name).map fun created =>
        { s with
          context := created.2
          views := Function.update s.views s.viewCount (some ⟨descriptor, created.1⟩)
          viewCount := s.viewCount + 1 }
    else none
  | .destroyView index =>
    (s.views index).map fun live =>
      { s with
        context := live.view.destroy s.context
        views := Function.update s.views index none }
  | .destroy =>
    some { s with
      texture := (s.texture.destroyImpl s.context).1
      context := (s.texture.destroyImpl s.context).2 }

/-- The events of a run, one after the other. -/
def run (s : ViewState) : List ViewEvent → Option ViewState
  | [] => some s
  | event :: events => (s.step event).bind (·.run events)

/-- The states reached from a valid texture that the constructor made, with no view yet, by any
sequence of events. -/
inductive Reachable : ViewState → Prop
  | created {env : Environment} {device : Device}
      {nonzeroClearResourcesOnCreationForTesting : Bool} {context : GLContext} {texture : Texture}
      {textureFormat : TextureFormat} {usage : TextureUsage} {name : Nat}
      {made : Device × TextureObject × GLContext} (valid : TextureValid texture.toTextureBase)
      (constructed : TextureObject.create env device nonzeroClearResourcesOnCreationForTesting
        context texture textureFormat usage name = some made) :
      Reachable ⟨made.2.2, name, made.2.1, fun _ => none, 0⟩
  | step {s s' : ViewState} {event : ViewEvent} (reachable : Reachable s)
      (stepped : s.step event = some s') : Reachable s'

/-- The invariant of a run. While the texture lives, its name is the one its storage was
allocated under and refers to its whole storage. A view that owns its name has a name other
than 0 that shows it, apart from the texture's and from those of the other live views that own
theirs. A view that shares a name has 0 or the storage's, whose whole object shows it. -/
structure Sound (s : ViewState) : Prop where
  alive : s.texture.handle ≠ 0 → s.texture.handle = s.storage ∧ s.texture.Alive s.context
  owned : ∀ index live, s.views index = some live → live.view.ownsHandle = true →
    live.view.handle ≠ 0 ∧ live.NameShows s.context s.storage
  shared : ∀ index live, s.views index = some live → live.view.ownsHandle = false →
    live.view.handle = 0 ∨ live.view.handle = s.storage ∧
      (wholeObject s.texture.toTexture s.texture.textureFormat s.storage).Shows s.storage
        live.descriptor
  apart : ∀ index live, s.views index = some live → live.view.ownsHandle = true →
    live.view.handle ≠ s.texture.handle
  distinct : ∀ index index' live live', s.views index = some live → s.views index' = some live' →
    index ≠ index' → live.view.ownsHandle = true → live'.view.ownsHandle = true →
    live.view.handle ≠ live'.view.handle

variable {s s' : ViewState}

private theorem update_eq_some {views : Nat → Option LiveView} {slot index : Nat}
    {new live : LiveView} (present : Function.update views slot (some new) index = some live) :
    index = slot ∧ live = new ∨ index ≠ slot ∧ views index = some live := by
  rw [Function.update_apply] at present
  split_ifs at present with same
  · exact .inl ⟨same, (Option.some.inj present).symm⟩
  · exact .inr ⟨same, present⟩

private theorem update_none_eq_some {views : Nat → Option LiveView} {slot index : Nat}
    {live : LiveView} (present : Function.update views slot none index = some live) :
    index ≠ slot ∧ views index = some live := by
  rw [Function.update_apply] at present
  split_ifs at present with same
  exact ⟨same, present⟩

theorem sound_created {env : Environment} {device : Device}
    {nonzeroClearResourcesOnCreationForTesting : Bool} {texture : Texture}
    {textureFormat : TextureFormat} {usage : TextureUsage}
    {made : Device × TextureObject × GLContext} (valid : TextureValid texture.toTextureBase)
    (constructed : TextureObject.create env device nonzeroClearResourcesOnCreationForTesting
      context texture textureFormat usage name = some made) :
    Sound ⟨made.2.2, name, made.2.1, fun _ => none, 0⟩ := by
  obtain ⟨-, handle, format, -, -, named, -⟩ := create_eq_some valid constructed
  -- There is no view yet.
  refine ⟨fun _ => ⟨handle, ?_⟩, fun _ _ absent => Option.noConfusion absent,
    fun _ _ absent => Option.noConfusion absent, fun _ _ absent => Option.noConfusion absent,
    fun _ _ _ _ absent => Option.noConfusion absent⟩
  rw [Alive, handle, format]
  exact named

theorem Sound.createView (sound : s.Sound) {descriptor : TextureViewDescriptor} {name : Nat}
    (stepped : s.step (.createView descriptor name) = some s') : s'.Sound := by
  simp only [step] at stepped
  split_ifs at stepped with validView
  obtain ⟨⟨view, context'⟩, created, rfl⟩ := Option.map_eq_some'.1 stepped
  -- The new view takes its own name only if it was not in use, so no name in use changes.
  have fresh : ∀ {other}, s.context.textures other ≠ .unused → view.ownsHandle = true →
      other ≠ view.handle := fun used owns same =>
    used (same ▸ (TextureView.create_owned created owns).2.1)
  have kept : ∀ {other}, s.context.textures other ≠ .unused →
      context'.textures other = s.context.textures other := fun used =>
    TextureView.create_textures_of_ne created (fresh used)
  have oldOwned : ∀ {index live}, s.views index = some live → live.view.ownsHandle = true →
      s.context.textures live.view.handle ≠ .unused := fun present owns =>
    (sound.owned _ _ present owns).2.ne_unused
  refine ⟨fun nonzero => ?alive, fun index live present owns => ?owned,
    fun index live present shares => ?shared, fun index live present owns => ?apart,
    fun index index' live live' present present' different owns owns' => ?distinct⟩
  case alive =>
    obtain ⟨storage, alive⟩ := sound.alive nonzero
    exact ⟨storage, (kept (by rw [alive]; exact nofun)).trans alive⟩
  case owned =>
    rcases update_eq_some present with ⟨-, rfl⟩ | ⟨-, present⟩
    · refine ⟨(TextureView.create_owned created owns).1, ?_⟩
      by_cases destroyed : s.texture.handle = 0
      · exact .inl (TextureView.create_owned_of_destroyed created destroyed owns)
      · obtain ⟨storage, alive⟩ := sound.alive destroyed
        exact .inr ⟨_, owned_object alive validView created owns,
          ⟨storage, rfl, rfl, rfl, rfl, rfl⟩, rfl⟩
    · obtain ⟨nonzero, shows⟩ := sound.owned index live present owns
      exact ⟨nonzero, shows.of_textures_eq (kept shows.ne_unused)⟩
  case shared =>
    rcases update_eq_some present with ⟨-, rfl⟩ | ⟨-, present⟩
    · obtain ⟨-, ⟨-, zero, -, -⟩ | ⟨-, sharedName, handle, -, -⟩ | ⟨-, -, -, owns, -⟩⟩ :=
        TextureView.create_cases created
      · exact .inl zero
      · by_cases destroyed : s.texture.handle = 0
        · exact .inl (handle.trans destroyed)
        · exact .inr ⟨handle.trans (sound.alive destroyed).1,
            wholeObject_shows_of_shared validView sharedName _⟩
      · simp [owns] at shares
    · exact sound.shared index live present shares
  case apart =>
    rcases update_eq_some present with ⟨-, rfl⟩ | ⟨-, present⟩
    · by_cases destroyed : s.texture.handle = 0
      · rw [destroyed]
        exact (TextureView.create_owned created owns).1
      · exact (fresh (by rw [(sound.alive destroyed).2]; exact nofun) owns).symm
    · exact sound.apart index live present owns
  case distinct =>
    rcases update_eq_some present with ⟨new, rfl⟩ | ⟨-, present⟩ <;>
      rcases update_eq_some present' with ⟨new', rfl⟩ | ⟨-, present'⟩
    · exact absurd (new.trans new'.symm) different
    · exact (fresh (oldOwned present' owns') owns).symm
    · exact fresh (oldOwned present owns) owns'
    · exact sound.distinct index index' live live' present present' different owns owns'

theorem Sound.destroyView (sound : s.Sound) {index : Nat}
    (stepped : s.step (.destroyView index) = some s') : s'.Sound := by
  simp only [step] at stepped
  obtain ⟨gone, goneAt, rfl⟩ := Option.map_eq_some'.1 stepped
  -- The destroyed view deletes only its own name, which nothing else live uses.
  have kept : ∀ {other}, (gone.view.ownsHandle = true → other ≠ gone.view.handle) →
      (gone.view.destroy s.context).textures other = s.context.textures other := fun apart => by
    rw [TextureView.destroy_textures, if_neg fun ⟨owns, same⟩ => apart owns same]
  refine ⟨fun nonzero => ?_, fun index' live present owns => ?_,
    fun index' live present => sound.shared index' live (update_none_eq_some present).2,
    fun index' live present => sound.apart index' live (update_none_eq_some present).2,
    fun index' index'' live live' present present' => sound.distinct index' index'' live live'
      (update_none_eq_some present).2 (update_none_eq_some present').2⟩
  · obtain ⟨storage, alive⟩ := sound.alive nonzero
    exact ⟨storage, (kept fun owns => (sound.apart index gone goneAt owns).symm).trans alive⟩
  · obtain ⟨other, present⟩ := update_none_eq_some present
    obtain ⟨nonzero, shows⟩ := sound.owned index' live present owns
    exact ⟨nonzero, shows.of_textures_eq (kept fun owns' =>
      sound.distinct index' index live gone present goneAt other owns owns')⟩

theorem Sound.destroy (sound : s.Sound) (stepped : s.step .destroy = some s') : s'.Sound := by
  simp only [step, Option.some.injEq] at stepped
  subst stepped
  refine ⟨fun destroyed => absurd rfl destroyed, fun index live present owns => ?_,
    sound.shared, fun index live present owns => (sound.owned index live present owns).1,
    sound.distinct⟩
  obtain ⟨nonzero, shows⟩ := sound.owned index live present owns
  refine ⟨nonzero, shows.of_textures_eq ?_⟩
  simp only [destroyImpl, GLContext.deleteTexture_textures,
    if_neg (sound.apart index live present owns)]

theorem Sound.step (sound : s.Sound) {event : ViewEvent} (stepped : s.step event = some s') :
    s'.Sound := by
  cases event with
  | createView => exact sound.createView stepped
  | destroyView => exact sound.destroyView stepped
  | destroy => exact sound.destroy stepped

theorem Reachable.sound (reachable : s.Reachable) : s.Sound := by
  induction reachable with
  | created valid constructed => exact sound_created valid constructed
  | step _ stepped sound => exact sound.step stepped

theorem Reachable.run (reachable : s.Reachable) {events : List ViewEvent}
    (ran : s.run events = some s') : s'.Reachable := by
  induction events generalizing s with
  | nil => exact Option.some.inj ran ▸ reachable
  | cons event events ih =>
    obtain ⟨next, stepped, ran⟩ := Option.bind_eq_some.1 ran
    exact ih (reachable.step stepped) ran

end ViewState

end Dawn.Native.OpenGL

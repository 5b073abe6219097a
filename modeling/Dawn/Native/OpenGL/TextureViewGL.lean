import Dawn.Native.OpenGL.TextureNames
import Mathlib.Data.Finset.Basic

/-!
# OpenGL texture objects and views

The `Texture` constructor takes a name from `glGenTextures` and allocates the texture's storage
under it; with the `NonzeroClearResourcesOnCreationForTesting` toggle on it then runs
`ClearTexture` with `ClearValue::NonZero` over every subresource, leaving the initialized flags as
they were. `DestroyImpl` deletes the name.

A view of a texture whose usage has neither `Sampled` nor `Storage` gets no name (0). A view with
the texture's format, array layer count and mip level count that is not a cube map reuses the
texture's name; any other gets a name of its own from `glGenTextures`, made a view of the
texture's storage by `glTextureView`, and deletes it when it is destroyed. Its target follows
from its dimension alone.
-/

namespace Dawn.Native.OpenGL

/-- `dawn::TextureViewDimension`, for views of 2D textures, the only textures of this backend. -/
inductive TextureViewDimension
  | e2D
  | e2DArray
  | cube
  | cubeArray
  deriving DecidableEq, Repr

/-- `TargetForTextureViewDimension`. -/
def targetForTextureViewDimension : TextureViewDimension → UInt32 → TextureTarget
  | .e2D, sampleCount =>
    .texture (if sampleCount > 1 then .texture2DMultisample else .texture2D)
  | .e2DArray, _ => .texture .texture2DArray
  | .cube, _ => .cubeMap
  | .cubeArray, _ => .cubeMapArray

/-- The bits of `dawn::TextureUsage`. -/
inductive TextureUsageBit
  | copySrc
  | copyDst
  | sampled
  | storage
  | outputAttachment
  | present
  deriving DecidableEq, Repr

/-- `dawn::TextureUsage`, a mask of usage bits. -/
abbrev TextureUsage := Finset TextureUsageBit

/-- `kUsageNeedingTextureView`. -/
def kUsageNeedingTextureView : TextureUsage := {.storage, .sampled}

/-- `UsageNeedsTextureView`: `usage & kUsageNeedingTextureView` is not 0. -/
def usageNeedsTextureView (usage : TextureUsage) : Bool :=
  decide (usage ∩ kUsageNeedingTextureView ≠ ∅)

/-- `TextureViewDescriptor`. -/
structure TextureViewDescriptor where
  format : TextureFormat
  dimension : TextureViewDimension
  baseMipLevel : UInt32
  mipLevelCount : UInt32
  baseArrayLayer : UInt32
  arrayLayerCount : UInt32
  deriving DecidableEq, Repr

/-- An OpenGL texture with what its constructor and its views also read: the
`dawn::TextureFormat` it was created with, its usage, and `mHandle`. -/
structure TextureObject extends Texture where
  textureFormat : TextureFormat
  usage : TextureUsage
  handle : Nat

/-- `RequiresCreatingNewTextureView`. -/
def requiresCreatingNewTextureView (texture : TextureObject)
    (descriptor : TextureViewDescriptor) : Bool :=
  if texture.textureFormat ≠ descriptor.format then true
  else if texture.arrayLayerCount ≠ descriptor.arrayLayerCount then true
  else if texture.mipLevelCount ≠ descriptor.mipLevelCount then true
  else
    match descriptor.dimension with
    | .cube | .cubeArray => true
    | _ => false

namespace TextureObject

/-- The storage allocation of the constructor's `switch`: `TexStorage3D` of every level and layer
for an array texture, `TexStorage2DMultisample`, of one level, for a multisampled one, and
`TexStorage2D` of every level otherwise, all under `mTarget`. -/
def allocateStorage (context : GLContext) (texture : Texture) (textureFormat : TextureFormat)
    (name : Nat) : GLContext :=
  if texture.arrayLayerCount > 1 then
    context.texStorage name texture.getGLTarget textureFormat texture.mipLevelCount.toNat
      texture.arrayLayerCount.toNat
  else if texture.sampleCount > 1 then
    context.texStorage name texture.getGLTarget textureFormat 1 1
  else context.texStorage name texture.getGLTarget textureFormat texture.mipLevelCount.toNat 1

/-- The constructor's clear under `NonzeroClearResourcesOnCreationForTesting`: `ClearTexture` of
every level and layer to `ClearValue::NonZero`, whose error goes to `ConsumedError`. -/
def nonzeroClear (env : Environment) (device : Device) (texture : Texture) : Device × Texture :=
  let result := texture.clearTexture env
    ⟨0, texture.mipLevelCount.toNat, 0, texture.arrayLayerCount.toNat⟩ .nonZero
  (device.consumedError (result.map fun _ => ()),
    match result with
    | .ok cleared => cleared
    | .error _ => texture)

/-- The `Texture` constructor, given the texture its `TextureBase` constructor made (the contents
are what the new storage holds), the format and usage it is created with, and the name
`glGenTextures` returns. `TexParameteri(GL_TEXTURE_MAX_LEVEL)` changes nothing modelled here. -/
def create (env : Environment) (device : Device) (nonzeroClearResourcesOnCreationForTesting : Bool)
    (context : GLContext) (texture : Texture) (textureFormat : TextureFormat)
    (usage : TextureUsage) (name : Nat) : Option (Device × TextureObject × GLContext) :=
  (context.genTexture name).map fun context =>
    let context := allocateStorage context texture textureFormat name
    let cleared := if nonzeroClearResourcesOnCreationForTesting then nonzeroClear env device texture
      else (device, texture)
    (cleared.1, { cleared.2 with textureFormat, usage, handle := name }, context)

/-- `Texture::DestroyImpl`: the name is deleted and `mHandle` becomes 0. -/
def destroyImpl (texture : TextureObject) (context : GLContext) : TextureObject × GLContext :=
  ({ texture with handle := 0 }, context.deleteTexture texture.handle)

/-! ### What the constructor does -/

/-- What Dawn's validation of texture descriptors, in the frontend and not in this repository,
guarantees of every texture this backend makes: at least one level and one layer, and a single
level and layer when it is multisampled. -/
structure TextureValid (texture : TextureBase) : Prop where
  levels : 0 < texture.mipLevelCount.toNat
  layers : 0 < texture.arrayLayerCount.toNat
  multisampled : 1 < texture.sampleCount.toNat →
    texture.mipLevelCount.toNat = 1 ∧ texture.arrayLayerCount.toNat = 1

/-- The whole storage of a texture under `name`, as a GL texture object of the texture's target. -/
def wholeObject (texture : Texture) (textureFormat : TextureFormat) (name : Nat) :
    GLTextureObject :=
  ⟨name, .texture texture.getGLTarget, textureFormat, 0, texture.mipLevelCount.toNat, 0,
    texture.arrayLayerCount.toNat⟩

variable {env : Environment} {device device' : Device}
  {nonzeroClearResourcesOnCreationForTesting : Bool} {context context' : GLContext}
  {texture : Texture} {textureFormat : TextureFormat} {usage : TextureUsage} {name other : Nat}

/-- Each branch of the allocation gives a valid texture's name its whole storage. -/
theorem allocateStorage_textures (valid : TextureValid texture.toTextureBase)
    (generated : context.textures name = .generated) :
    (allocateStorage context texture textureFormat name).textures name =
      .texture (wholeObject texture textureFormat name) := by
  unfold allocateStorage
  split_ifs with layered multisampled
  · rw [GLContext.texStorage_textures_of_generated generated]
    rfl
  · obtain ⟨levels, layers⟩ := valid.multisampled multisampled
    rw [GLContext.texStorage_textures_of_generated generated, wholeObject, levels, layers]
  · have single : texture.arrayLayerCount.toNat = 1 := by
      have := valid.layers
      have : ¬1 < texture.arrayLayerCount.toNat := layered
      omega
    rw [GLContext.texStorage_textures_of_generated generated, wholeObject, single]

theorem allocateStorage_textures_of_ne (different : other ≠ name) :
    (allocateStorage context texture textureFormat name).textures other =
      context.textures other := by
  unfold allocateStorage
  split_ifs <;> exact GLContext.texStorage_textures_of_ne different

/-- The nonzero clear changes the contents only. -/
@[simp] theorem nonzeroClear_toTextureBase :
    (nonzeroClear env device texture).2.toTextureBase = texture.toTextureBase := by
  simp only [nonzeroClear]
  cases result : texture.clearTexture env
      ⟨0, texture.mipLevelCount.toNat, 0, texture.arrayLayerCount.toNat⟩ .nonZero with
  | ok cleared => exact Texture.clearTexture_toTextureBase result
  | error => rfl

/-- The constructor's texture is the one `nonzeroClear` leaves when the toggle is on. -/
theorem create_toTexture {made : TextureObject}
    (created : create env device nonzeroClearResourcesOnCreationForTesting context texture
      textureFormat usage name = some (device', made, context')) :
    (device', made.toTexture) = if nonzeroClearResourcesOnCreationForTesting then
      nonzeroClear env device texture else (device, texture) := by
  simp only [create, Option.map_eq_some', Prod.mk.injEq] at created
  obtain ⟨-, -, rfl, rfl, -⟩ := created
  rfl

/-- What the constructor makes: a texture under a name that was not in use, whose storage that
name covers whole, and no other name changed. -/
theorem create_eq_some (valid : TextureValid texture.toTextureBase) {made : TextureObject}
    (created : create env device nonzeroClearResourcesOnCreationForTesting context texture
      textureFormat usage name = some (device', made, context')) :
    context.textures name = .unused ∧ made.handle = name ∧
      made.textureFormat = textureFormat ∧ made.usage = usage ∧
      (device', made.toTexture) = (if nonzeroClearResourcesOnCreationForTesting then
        nonzeroClear env device texture else (device, texture)) ∧
      context'.textures name = .texture (wholeObject made.toTexture textureFormat name) ∧
      ∀ other, other ≠ name → context'.textures other = context.textures other := by
  simp only [create, Option.map_eq_some', Prod.mk.injEq] at created
  obtain ⟨generated, made', rfl, rfl, rfl⟩ := created
  obtain ⟨-, unused, textures⟩ := GLContext.genTexture_eq_some.1 made'
  have base : (if nonzeroClearResourcesOnCreationForTesting then nonzeroClear env device texture
      else (device, texture)).2.toTextureBase = texture.toTextureBase := by
    split <;> simp
  refine ⟨unused, rfl, rfl, rfl, rfl, ?_, fun other different => ?_⟩
  · rw [allocateStorage_textures valid (by simp [textures])]
    simp only [wholeObject, Texture.getGLTarget, base]
  · rw [allocateStorage_textures_of_ne different, textures, Function.update_noteq different]

end TextureObject

/-- `RequiresCreatingNewTextureView` is false exactly for a 2D or 2D-array view with the
texture's format, layer count and level count. -/
theorem requiresCreatingNewTextureView_eq_false {texture : TextureObject}
    {descriptor : TextureViewDescriptor} :
    requiresCreatingNewTextureView texture descriptor = false ↔
      texture.textureFormat = descriptor.format ∧
        texture.arrayLayerCount = descriptor.arrayLayerCount ∧
        texture.mipLevelCount = descriptor.mipLevelCount ∧
        (descriptor.dimension = .e2D ∨ descriptor.dimension = .e2DArray) := by
  unfold requiresCreatingNewTextureView
  split_ifs <;> cases dimension : descriptor.dimension <;> simp_all

/-- `opengl::TextureView`: `mTarget`, `mHandle` and `mOwnsHandle`. -/
structure TextureView where
  target : TextureTarget
  handle : Nat
  ownsHandle : Bool
  deriving DecidableEq, Repr

namespace TextureView

/-- The `TextureView` constructor; `name` is what `glGenTextures` returns when the view needs a
name of its own. -/
def create (context : GLContext) (texture : TextureObject) (descriptor : TextureViewDescriptor)
    (name : Nat) : Option (TextureView × GLContext) :=
  let target := targetForTextureViewDimension descriptor.dimension texture.sampleCount
  if !usageNeedsTextureView texture.usage then some (⟨target, 0, false⟩, context)
  else if !requiresCreatingNewTextureView texture descriptor then
    some (⟨target, texture.handle, false⟩, context)
  else
    (context.genTexture name).map fun context =>
      (⟨target, name, true⟩,
        context.textureView name target texture.handle descriptor.format
          descriptor.baseMipLevel.toNat descriptor.mipLevelCount.toNat
          descriptor.baseArrayLayer.toNat descriptor.arrayLayerCount.toNat)

/-- `~TextureView`: a view deletes its name only if it owns it. -/
def destroy (view : TextureView) (context : GLContext) : GLContext :=
  if view.ownsHandle then context.deleteTexture view.handle else context

/-! ### What the constructor and the destructor do -/

variable {context context' : GLContext} {texture : TextureObject}
  {descriptor : TextureViewDescriptor} {name : Nat} {view : TextureView}

/-- The three paths of the constructor: no name, the texture's name, or a name of its own that
`glTextureView` makes a view of the texture. -/
theorem create_cases
    (created : create context texture descriptor name = some (view, context')) :
    view.target = targetForTextureViewDimension descriptor.dimension texture.sampleCount ∧
    (usageNeedsTextureView texture.usage = false ∧ view.handle = 0 ∧ view.ownsHandle = false ∧
        context' = context ∨
      usageNeedsTextureView texture.usage = true ∧
        requiresCreatingNewTextureView texture descriptor = false ∧
        view.handle = texture.handle ∧ view.ownsHandle = false ∧ context' = context ∨
      usageNeedsTextureView texture.usage = true ∧
        requiresCreatingNewTextureView texture descriptor = true ∧
        view.handle = name ∧ view.ownsHandle = true ∧
        ∃ generated, context.genTexture name = some generated ∧
          context' = generated.textureView name view.target texture.handle descriptor.format
            descriptor.baseMipLevel.toNat descriptor.mipLevelCount.toNat
            descriptor.baseArrayLayer.toNat descriptor.arrayLayerCount.toNat) := by
  unfold create at created
  cases needs : usageNeedsTextureView texture.usage
  · simp only [needs, Bool.not_false, if_true, Option.some.injEq, Prod.mk.injEq] at created
    obtain ⟨rfl, rfl⟩ := created
    exact ⟨rfl, .inl ⟨rfl, rfl, rfl, rfl⟩⟩
  · cases requires : requiresCreatingNewTextureView texture descriptor
    · simp only [needs, requires, Bool.not_true, Bool.not_false, Bool.false_eq_true, if_false,
        if_true, Option.some.injEq, Prod.mk.injEq] at created
      obtain ⟨rfl, rfl⟩ := created
      exact ⟨rfl, .inr (.inl ⟨rfl, rfl, rfl, rfl, rfl⟩)⟩
    · simp only [needs, requires, Bool.not_true, Bool.false_eq_true, if_false,
        Option.map_eq_some', Prod.mk.injEq] at created
      obtain ⟨generated, made, rfl, rfl⟩ := created
      exact ⟨rfl, .inr (.inr ⟨rfl, rfl, rfl, rfl, generated, made, rfl⟩)⟩

/-- The constructor changes no name but the one it takes for itself. -/
theorem create_textures_of_ne
    (created : create context texture descriptor name = some (view, context')) {other : Nat}
    (different : view.ownsHandle = true → other ≠ view.handle) :
    context'.textures other = context.textures other := by
  obtain ⟨-, ⟨-, -, -, rfl⟩ | ⟨-, -, -, -, rfl⟩ |
    ⟨-, -, rfl, owns, generated, made, rfl⟩⟩ := create_cases created
  · rfl
  · rfl
  · obtain ⟨-, -, textures⟩ := GLContext.genTexture_eq_some.1 made
    rw [GLContext.textureView_textures_of_ne (different owns), textures,
      Function.update_noteq (different owns)]

/-- A name a view takes for itself was not in use before, and is in use after. -/
theorem create_owned
    (created : create context texture descriptor name = some (view, context'))
    (owns : view.ownsHandle = true) :
    view.handle ≠ 0 ∧ context.textures view.handle = .unused ∧
      context'.textures view.handle ≠ .unused := by
  obtain ⟨-, ⟨-, -, owned, -⟩ | ⟨-, -, -, owned, -⟩ |
    ⟨-, -, rfl, -, generated, made, rfl⟩⟩ := create_cases created
  · simp [owns] at owned
  · simp [owns] at owned
  · obtain ⟨nonzero, unused, textures⟩ := GLContext.genTexture_eq_some.1 made
    exact ⟨nonzero, unused, GLContext.textureView_textures_ne_unused (by simp [textures])⟩

/-- A view of a destroyed texture that takes a name of its own gets no texture object under it:
GL rejects `glTextureView` of name 0. -/
theorem create_owned_of_destroyed
    (created : create context texture descriptor name = some (view, context'))
    (destroyed : texture.handle = 0) (owns : view.ownsHandle = true) :
    context'.textures view.handle = .generated := by
  obtain ⟨-, ⟨-, -, owned, -⟩ | ⟨-, -, -, owned, -⟩ |
    ⟨-, -, rfl, -, generated, made, rfl⟩⟩ := create_cases created
  · simp [owns] at owned
  · simp [owns] at owned
  · obtain ⟨-, -, textures⟩ := GLContext.genTexture_eq_some.1 made
    rw [destroyed, GLContext.textureView_of_unused generated.zero_unused, textures]
    simp

@[simp] theorem destroy_textures {other : Nat} :
    (view.destroy context).textures other =
      if view.ownsHandle = true ∧ other = view.handle then .unused
      else context.textures other := by
  unfold destroy
  cases view.ownsHandle <;> simp

end TextureView

end Dawn.Native.OpenGL

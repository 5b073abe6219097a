import Dawn.Native.OpenGL.TextureGL

/-!
# OpenGL texture names

The backend reaches each texture through a GL name. `glGenTextures` hands out a name that is not
in use; binding it and allocating storage with `TexStorage*` makes it a texture object, and
`glTextureView` makes it a view of the storage of another texture object. `glDeleteTextures`
frees a name; a view keeps the storage it shows. No texture object is named 0.

A GL context is modelled by what each name refers to, and these calls by what they do to it, GL
errors included: a call that GL rejects changes nothing. GL may return any unused name other than
0 from `glGenTextures`, so the name it returns is an argument, and a name that GL would not return
makes the call fail.
-/

namespace Dawn.Native.OpenGL

/-- `dawn::TextureFormat`, by its enum value. -/
structure TextureFormat where
  value : Nat
  deriving DecidableEq, Repr

/-- The targets of GL texture objects: those of textures, and the cube map targets, which only
views take here. -/
inductive TextureTarget
  | texture (target : GLenum)
  | cubeMap
  | cubeMapArray
  deriving DecidableEq, Repr

/-- A GL texture object: the storage it shows, named by the texture that allocated it; its
target; the format it was made with, which fixes its internal format; and the mip levels and
array layers of the storage it covers. -/
structure GLTextureObject where
  storage : Nat
  target : TextureTarget
  format : TextureFormat
  baseLevel : Nat
  levelCount : Nat
  baseLayer : Nat
  layerCount : Nat
  deriving DecidableEq, Repr

/-- What a GL texture name refers to: nothing, a name `glGenTextures` returned that is not yet a
texture object, or a texture object. -/
inductive GLName
  | unused
  | generated
  | texture (object : GLTextureObject)
  deriving DecidableEq, Repr

/-- The texture names of a GL context. -/
structure GLContext where
  textures : Nat → GLName
  zero_unused : textures 0 = .unused

namespace GLContext

variable (context : GLContext)

theorem ne_zero_of_ne_unused {name : Nat} (used : context.textures name ≠ .unused) : name ≠ 0 :=
  fun zero => used (zero ▸ context.zero_unused)

/-- The context with `name`, which is not 0, referring to `entry`. -/
def set (name : Nat) (entry : GLName) (nonzero : name ≠ 0) : GLContext :=
  ⟨Function.update context.textures name entry,
    by rw [Function.update_noteq nonzero.symm]; exact context.zero_unused⟩

/-- `glGenTextures(1, &handle)` when GL returns `name`: GL returns only a name other than 0 that
is not in use, and holds it from then on. -/
def genTexture (name : Nat) : Option GLContext :=
  if unused : name ≠ 0 ∧ context.textures name = .unused then
    some (context.set name .generated unused.1)
  else none

/-- `glDeleteTextures(1, &name)`: the name is no longer in use. GL ignores 0. -/
def deleteTexture (name : Nat) : GLContext :=
  if nonzero : name ≠ 0 then context.set name .unused nonzero else context

/-- `BindTexture(target, name)` and then `TexStorage2D`, `TexStorage2DMultisample` or
`TexStorage3D` on a name that `glGenTextures` returned: the name becomes a texture object with
new storage of `levelCount` levels and `layerCount` layers, which it covers whole. -/
def texStorage (name : Nat) (target : GLenum) (format : TextureFormat)
    (levelCount layerCount : Nat) : GLContext :=
  if generated : context.textures name = .generated then
    context.set name (.texture ⟨name, .texture target, format, 0, levelCount, 0, layerCount⟩)
      (context.ne_zero_of_ne_unused (generated ▸ nofun))
  else context

/-- `glTextureView(name, target, origtexture, internalformat, minlevel, numlevels, minlayer,
numlayers)`: `name`, which `glGenTextures` returned and which is not yet a texture object,
becomes a view of the storage of `origtexture`, from its `minLevel` and `minLayer` on, with the
levels and layers past those of `origtexture` clamped off. GL rejects the call when
`origtexture` is not a texture object or `minLevel` or `minLayer` lies past it. GL's checks that
the target and the internal format suit those of `origtexture` are left out. -/
def textureView (name : Nat) (target : TextureTarget) (origtexture : Nat) (format : TextureFormat)
    (minLevel numLevels minLayer numLayers : Nat) : GLContext :=
  match generated : context.textures name, context.textures origtexture with
  | .generated, .texture original =>
    if minLevel < original.levelCount ∧ minLayer < original.layerCount then
      context.set name
        (.texture ⟨original.storage, target, format, original.baseLevel + minLevel,
          min numLevels (original.levelCount - minLevel), original.baseLayer + minLayer,
          min numLayers (original.layerCount - minLayer)⟩)
        (context.ne_zero_of_ne_unused (generated ▸ nofun))
    else context
  | _, _ => context

/-! ### What each call does to a name -/

variable {context} {name other : Nat}

@[simp] theorem set_textures {entry : GLName} {nonzero : name ≠ 0} :
    (context.set name entry nonzero).textures other =
      if other = name then entry else context.textures other :=
  Function.update_apply ..

theorem genTexture_eq_some {context' : GLContext} :
    context.genTexture name = some context' ↔
      name ≠ 0 ∧ context.textures name = .unused ∧
        context'.textures = Function.update context.textures name .generated := by
  unfold genTexture
  split_ifs with unused
  · refine ⟨fun made => ?_, fun ⟨_, _, textures⟩ => ?_⟩
    · cases made
      exact ⟨unused.1, unused.2, rfl⟩
    · cases context'
      cases textures
      rfl
  · simp only [reduceCtorEq, false_iff, not_and]
    exact fun nonzero free _ => unused ⟨nonzero, free⟩

@[simp] theorem deleteTexture_textures :
    (context.deleteTexture name).textures other =
      if other = name then .unused else context.textures other := by
  by_cases zero : name = 0
  · subst zero
    by_cases same : other = 0
    · simp [deleteTexture, same, context.zero_unused]
    · simp [deleteTexture, same]
  · simp [deleteTexture, zero]

theorem texStorage_textures_of_ne {target : GLenum} {format : TextureFormat}
    {levelCount layerCount : Nat} (different : other ≠ name) :
    (context.texStorage name target format levelCount layerCount).textures other =
      context.textures other := by
  unfold texStorage
  split_ifs <;> simp [different]

theorem texStorage_textures_of_generated {target : GLenum} {format : TextureFormat}
    {levelCount layerCount : Nat} (generated : context.textures name = .generated) :
    (context.texStorage name target format levelCount layerCount).textures name =
      .texture ⟨name, .texture target, format, 0, levelCount, 0, layerCount⟩ := by
  simp [texStorage, generated]

theorem textureView_textures_of_ne {target : TextureTarget} {origtexture : Nat}
    {format : TextureFormat} {minLevel numLevels minLayer numLayers : Nat}
    (different : other ≠ name) :
    (context.textureView name target origtexture format minLevel numLevels minLayer
        numLayers).textures other = context.textures other := by
  unfold textureView
  split
  · split_ifs <;> simp [different]
  · rfl

theorem textureView_textures_of_generated {target : TextureTarget} {origtexture : Nat}
    {original : GLTextureObject} {format : TextureFormat}
    {minLevel numLevels minLayer numLayers : Nat} (generated : context.textures name = .generated)
    (viewed : context.textures origtexture = .texture original)
    (within : minLevel < original.levelCount ∧ minLayer < original.layerCount) :
    (context.textureView name target origtexture format minLevel numLevels minLayer
        numLayers).textures name =
      .texture ⟨original.storage, target, format, original.baseLevel + minLevel,
        min numLevels (original.levelCount - minLevel), original.baseLayer + minLayer,
        min numLayers (original.layerCount - minLayer)⟩ := by
  unfold textureView
  split
  · rename_i view
    simp only [generated, viewed, GLName.texture.injEq] at view
    obtain ⟨-, rfl⟩ := view
    simp [within]
  · rename_i unmatched
    exact (unmatched _ generated viewed).elim

/-- GL rejects `glTextureView` of a name that is not in use. -/
theorem textureView_of_unused {target : TextureTarget} {origtexture : Nat}
    {format : TextureFormat} {minLevel numLevels minLayer numLayers : Nat}
    (unused : context.textures origtexture = .unused) :
    context.textureView name target origtexture format minLevel numLevels minLayer numLayers =
      context := by
  unfold textureView
  split
  · simp_all
  · rfl

/-- `glTextureView` leaves a name that `glGenTextures` returned in use, whether GL accepts the
call or not. -/
theorem textureView_textures_ne_unused {target : TextureTarget} {origtexture : Nat}
    {format : TextureFormat} {minLevel numLevels minLayer numLayers : Nat}
    (generated : context.textures name = .generated) :
    (context.textureView name target origtexture format minLevel numLevels minLayer
        numLayers).textures name ≠ .unused := by
  unfold textureView
  split
  · split_ifs <;> simp [generated]
  · simp [generated]

end GLContext

end Dawn.Native.OpenGL

import Dawn.Native.OpenGL.TextureGL

/-!
# Lazy clearing of OpenGL textures

With the `LazyClearResourceOnFirstUse` toggle on, `EnsureSubresourceContentInitialized` is there
to make a range of subresources safe to read: the subresources that were never initialized are
cleared to zero, and the whole range is marked. `LazyClear` states that purpose.

The code asks whether the whole range is marked, and if not, clears the whole range. On a
renderable color texture every subresource of the range therefore ends up zero, the initialized
ones included, so contents uploaded to one level are lost when a view over all levels is first
used (`ensure_clears_whole_range`). The code meets `LazyClear` exactly when every initialized
subresource of the range already held zeros (`ensure_lazyClear_iff`). On the staging path of a
non-renderable array texture `TexSubImage2D` is rejected, and the range is marked although
nothing was written to it (`ensure_marks_unwritten_array`). On a depth or stencil texture only
level 0 of a single-layer texture is cleared, whatever the range, and nothing of an array
texture, while the whole range is marked (`ensure_clears_base_subresource_only`).
-/

namespace Dawn.Native.OpenGL.Texture

/-- What lazy clearing is for: the range ends marked, each subresource of it that was not
initialized holds zeros, and every other subresource keeps its contents. -/
def LazyClear (range : SubresourceRange) (before after : Texture) : Prop :=
  after.toTextureBase = before.setIsSubresourceContentInitialized range true ∧
    ∀ level layer, after.contents level layer =
      if range.Contains level layer ∧
          before.isSubresourceContentInitializedAtIndex level layer = false then
        Image.fill 0
      else before.contents level layer

variable (env : Environment) (device : Device) (texture : Texture) (range : SubresourceRange)
  (isLazyClear : Bool)

/-- With the toggle on, the range ends marked and no other flag changes, whichever path
`ClearTexture` takes and whether it fails. -/
theorem ensure_marks_range (enabled : device.lazyClearResourceOnFirstUse = true) :
    (texture.ensureSubresourceContentInitialized env range device isLazyClear).2.toTextureBase =
      texture.setIsSubresourceContentInitialized range true := by
  cases initialized : texture.isSubresourceContentInitialized range
  · cases result : texture.clearTexture env range .zero with
    | ok cleared =>
      rw [ensure_of_cleared enabled initialized result]
      exact congrArg (·.setIsSubresourceContentInitialized range true)
        (clearTexture_toTextureBase result)
    | error error => rw [ensure_of_clear_failed enabled initialized result]
  · rw [ensure_of_initialized initialized]
    exact (TextureBase.setIsSubresourceContentInitialized_of_initialized initialized).symm

/-! ### Sample textures -/

/-- `RGBA8Unorm`, a renderable color format of four bytes a texel. -/
def rgba8Unorm : Format := ⟨true, false, false, false, 4, 1, 1, fun _ => ⟨rfl, rfl⟩⟩

/-- `RGBA8Snorm`, a color format of four bytes a texel that is not renderable. -/
def rgba8Snorm : Format := ⟨false, false, false, false, 4, 1, 1, fun _ => ⟨rfl, rfl⟩⟩

/-- A device with lazy clearing on, before any lazy clear or error. -/
def lazyDevice : Device := ⟨true, 0, []⟩

/-- A 256-byte row pitch alignment, staging buffers that can always be mapped, and a driver that
leaves depth and stencil as they are. -/
def sampleEnvironment : Environment := ⟨256, fun _ => none, fun _ _ _ image => image⟩

/-- A 4×4 `RGBA8Unorm` texture of two mip levels. Level 0 was uploaded with bytes 7 and is
marked; level 1 is not, and holds bytes 9. -/
def uploadedBaseLevel : Texture :=
  { format := rgba8Unorm, width := 4, height := 4, mipLevelCount := 2, arrayLayerCount := 1,
    sampleCount := 1, isSubresourceContentInitializedAtIndex := fun level _ => level == 0,
    contents := fun level _ => Image.fill (if level = 0 then 7 else 9) }

/-! ### Renderable color textures -/

section RenderableColor

variable {env device texture range isLazyClear}

/-- The contents after lazy clearing a range that is not wholly initialized: zeros in the range,
the old contents elsewhere. -/
private theorem ensure_color_contents (enabled : device.lazyClearResourceOnFirstUse = true)
    (uncompressed : texture.format.isCompressed = false)
    (renderable : texture.format.isRenderable = true)
    (color : texture.format.hasDepthOrStencil = false)
    (uninitialized : texture.isSubresourceContentInitialized range = false) (level layer : Nat) :
    (texture.ensureSubresourceContentInitialized env range device isLazyClear).2.contents level
        layer =
      if range.Contains level layer then Image.fill 0 else texture.contents level layer := by
  rw [ensure_of_cleared enabled uninitialized (clearTexture_of_color uncompressed renderable color)]
  simp [foldl_clearTexSubImage_contents, SubresourceRange.Contains]

theorem ensure_clears_whole_range (enabled : device.lazyClearResourceOnFirstUse = true)
    (uncompressed : texture.format.isCompressed = false)
    (renderable : texture.format.isRenderable = true)
    (color : texture.format.hasDepthOrStencil = false)
    (uninitialized : texture.isSubresourceContentInitialized range = false) (level layer : Nat) :
    (texture.ensureSubresourceContentInitialized env range device
        isLazyClear).2.isSubresourceContentInitializedAtIndex level layer =
      (if range.Contains level layer then true
        else texture.isSubresourceContentInitializedAtIndex level layer) ∧
    (texture.ensureSubresourceContentInitialized env range device isLazyClear).2.contents level
        layer =
      if range.Contains level layer then Image.fill 0 else texture.contents level layer := by
  refine ⟨?_, ensure_color_contents enabled uncompressed renderable color uninitialized level layer⟩
  rw [← TextureBase.setIsSubresourceContentInitialized_isSubresourceContentInitializedAtIndex,
    ← ensure_marks_range env device texture range isLazyClear enabled]

theorem ensure_clears_whole_range_of_uploaded_base_level :
    uploadedBaseLevel.isSubresourceContentInitializedAtIndex 0 0 = true ∧
    uploadedBaseLevel.contents 0 0 = Image.fill 7 ∧
    (uploadedBaseLevel.ensureSubresourceContentInitialized sampleEnvironment ⟨0, 2, 0, 1⟩ lazyDevice
        true).2.contents 0 0 = Image.fill 0 :=
  ⟨rfl, rfl, ((@ensure_clears_whole_range sampleEnvironment lazyDevice uploadedBaseLevel
    ⟨0, 2, 0, 1⟩ true rfl rfl rfl rfl rfl 0 0).2).trans (if_pos (by decide))⟩

/-- On a renderable color texture the code meets `LazyClear` exactly when the range is wholly
initialized or every initialized subresource of it already holds zeros. -/
theorem ensure_lazyClear_iff (enabled : device.lazyClearResourceOnFirstUse = true)
    (uncompressed : texture.format.isCompressed = false)
    (renderable : texture.format.isRenderable = true)
    (color : texture.format.hasDepthOrStencil = false) :
    LazyClear range texture (texture.ensureSubresourceContentInitialized env range device
        isLazyClear).2 ↔
      texture.isSubresourceContentInitialized range = true ∨
        ∀ level layer, range.Contains level layer →
          texture.isSubresourceContentInitializedAtIndex level layer = true →
            texture.contents level layer = Image.fill 0 := by
  have marked := ensure_marks_range env device texture range isLazyClear enabled
  cases initialized : texture.isSubresourceContentInitialized range
  · simp only [LazyClear, marked, true_and, Bool.false_eq_true, false_or,
      ensure_color_contents enabled uncompressed renderable color initialized]
    constructor
    · intro agree level layer contained wasInitialized
      simpa [contained, wasInitialized] using (agree level layer).symm
    · intro zero level layer
      by_cases contained : range.Contains level layer <;>
        cases wasInitialized : texture.isSubresourceContentInitializedAtIndex level layer <;>
        simp [contained, wasInitialized, zero level layer]
  · have marks := TextureBase.isSubresourceContentInitialized_iff.1 initialized
    simp only [true_or, iff_true, ensure_of_initialized initialized]
    refine ⟨(TextureBase.setIsSubresourceContentInitialized_of_initialized initialized).symm,
      fun level layer => (if_neg ?_).symm⟩
    rintro ⟨contained, unmarked⟩
    simp [marks level layer contained] at unmarked

/-- Lazy clearing all levels of `uploadedBaseLevel` loses the bytes uploaded to level 0. -/
theorem ensure_not_lazyClear_of_uploaded_base_level :
    ¬LazyClear ⟨0, 2, 0, 1⟩ uploadedBaseLevel
      (uploadedBaseLevel.ensureSubresourceContentInitialized sampleEnvironment ⟨0, 2, 0, 1⟩
        lazyDevice true).2 := by
  rw [@ensure_lazyClear_iff sampleEnvironment lazyDevice uploadedBaseLevel ⟨0, 2, 0, 1⟩ true
    rfl rfl rfl rfl]
  rintro (initialized | zero)
  · exact absurd initialized (by decide)
  · exact absurd (congrFun (congrFun (zero 0 0 (by decide) rfl) 0) 0) (by decide)

end RenderableColor

/-! ### The staging path of array textures -/

/-- On a non-renderable array texture the staging path writes nothing, since `TexSubImage2D`
rejects the array target, yet the whole range ends marked. -/
theorem ensure_marks_unwritten_array (enabled : device.lazyClearResourceOnFirstUse = true)
    (uncompressed : texture.format.isCompressed = false)
    (nonRenderable : texture.format.isRenderable = false)
    (layered : texture.arrayLayerCount > 1) :
    (texture.ensureSubresourceContentInitialized env range device isLazyClear).2.toTextureBase =
      texture.setIsSubresourceContentInitialized range true ∧
    (texture.ensureSubresourceContentInitialized env range device isLazyClear).2.contents =
      texture.contents := by
  have rejected : ∀ buffer level rowLength, ¬texture.UploadAccepted buffer level rowLength := by
    simp [UploadAccepted, TexSubImage2DAccepts, getGLTarget, targetForTexture, layered]
  rw [ensure_of_clear_unwritten enabled fun cleared ok => ?_]
  · exact ⟨rfl, rfl⟩
  cases mapped : env.mapAtCreation (texture.stagingBufferSize env)
  · rw [clearTexture_of_mapped uncompressed nonRenderable mapped,
      uploadStagingBuffer_of_rejected (rejected _), Except.ok.injEq] at ok
    exact ok.symm
  · rw [clearTexture_of_not_mapped uncompressed nonRenderable mapped] at ok
    cases ok

/-- A 4×4 `RGBA8Snorm` texture of one level and two layers, never initialized, whose memory
holds bytes 9. -/
def layeredTexture : Texture :=
  { format := rgba8Snorm, width := 4, height := 4, mipLevelCount := 1, arrayLayerCount := 2,
    sampleCount := 1, isSubresourceContentInitializedAtIndex := fun _ _ => false,
    contents := fun _ _ => Image.fill 9 }

theorem ensure_marks_unwritten_array_of_two_layers :
    (layeredTexture.ensureSubresourceContentInitialized sampleEnvironment ⟨0, 1, 0, 2⟩ lazyDevice
        true).2.isSubresourceContentInitializedAtIndex 0 1 = true ∧
    (layeredTexture.ensureSubresourceContentInitialized sampleEnvironment ⟨0, 1, 0, 2⟩ lazyDevice
        true).2.contents 0 1 = Image.fill 9 :=
  have unwritten := ensure_marks_unwritten_array sampleEnvironment lazyDevice layeredTexture
    ⟨0, 1, 0, 2⟩ true rfl rfl rfl (by decide)
  ⟨(congrArg (·.isSubresourceContentInitializedAtIndex 0 1) unwritten.1).trans (by decide),
    congrFun (congrFun unwritten.2 0) 1⟩

/-! ### Depth and stencil textures -/

/-- On a renderable depth or stencil texture the framebuffer clear reaches only level 0 of layer
0, whatever the range, and nothing at all on an array texture, which GL does not attach. With
lazy clearing on, a range that is not wholly initialized ends marked; subresource (0, 0) is
cleared even when the range does not hold it, and every other subresource keeps its contents. -/
theorem ensure_clears_base_subresource_only (enabled : device.lazyClearResourceOnFirstUse = true)
    (uncompressed : texture.format.isCompressed = false)
    (renderable : texture.format.isRenderable = true)
    (depthStencil : texture.format.hasDepthOrStencil = true)
    (uninitialized : texture.isSubresourceContentInitialized range = false) (level layer : Nat) :
    (texture.ensureSubresourceContentInitialized env range device isLazyClear).2.toTextureBase =
      texture.setIsSubresourceContentInitialized range true ∧
    (texture.ensureSubresourceContentInitialized env range device isLazyClear).2.contents level
        layer =
      if level = 0 ∧ layer = 0 ∧ texture.arrayLayerCount.toNat ≤ 1 then
        env.clearBuffer texture.format.hasDepth texture.format.hasStencil 0 (texture.contents 0 0)
      else texture.contents level layer := by
  refine ⟨ensure_marks_range env device texture range isLazyClear enabled, ?_⟩
  rw [ensure_of_cleared enabled uninitialized
    (clearTexture_of_depthStencil uncompressed renderable depthStencil)]
  by_cases layered : 1 < texture.arrayLayerCount.toNat
  · simp [clearDepthStencil, getGLTarget, targetForTexture_eq_texture2DArray.2 layered,
      Nat.not_le.2 layered]
  · simp [clearDepthStencil, getGLTarget, mt targetForTexture_eq_texture2DArray.1 layered,
      Nat.not_lt.1 layered]

/-- `Depth24PlusStencil8`, a renderable format with depth and stencil aspects. -/
def depth24PlusStencil8 : Format := ⟨true, false, true, true, 4, 1, 1, fun _ => ⟨rfl, rfl⟩⟩

/-- A driver whose framebuffer clear sets every byte of the attached image to the clear value. -/
def clearingEnvironment : Environment := ⟨256, fun _ => none, fun _ _ value _ => Image.fill value⟩

/-- A 4×4 `Depth24PlusStencil8` texture of two mip levels. Level 0 was rendered to with bytes 7
and is marked; level 1 is not, and holds bytes 9. -/
def renderedDepthTexture : Texture :=
  { format := depth24PlusStencil8, width := 4, height := 4, mipLevelCount := 2,
    arrayLayerCount := 1, sampleCount := 1,
    isSubresourceContentInitializedAtIndex := fun level _ => level == 0,
    contents := fun level _ => Image.fill (if level = 0 then 7 else 9) }

/-- Lazy clearing level 1 alone wipes the rendered level 0 and marks level 1 with its old bytes. -/
theorem ensure_clears_base_subresource_only_of_level_one :
    (renderedDepthTexture.ensureSubresourceContentInitialized clearingEnvironment ⟨1, 1, 0, 1⟩
        lazyDevice true).2.contents 0 0 = Image.fill 0 ∧
    (renderedDepthTexture.ensureSubresourceContentInitialized clearingEnvironment ⟨1, 1, 0, 1⟩
        lazyDevice true).2.isSubresourceContentInitializedAtIndex 1 0 = true ∧
    (renderedDepthTexture.ensureSubresourceContentInitialized clearingEnvironment ⟨1, 1, 0, 1⟩
        lazyDevice true).2.contents 1 0 = Image.fill 9 :=
  have base := @ensure_clears_base_subresource_only clearingEnvironment lazyDevice
    renderedDepthTexture ⟨1, 1, 0, 1⟩ true rfl rfl rfl rfl rfl 0 0
  have above := @ensure_clears_base_subresource_only clearingEnvironment lazyDevice
    renderedDepthTexture ⟨1, 1, 0, 1⟩ true rfl rfl rfl rfl rfl 1 0
  ⟨base.2.trans (if_pos ⟨rfl, rfl, by decide⟩),
    (congrArg (·.isSubresourceContentInitializedAtIndex 1 0) base.1).trans (by decide),
    above.2.trans (if_neg (by decide))⟩

end Dawn.Native.OpenGL.Texture

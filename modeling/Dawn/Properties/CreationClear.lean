import Dawn.Native.OpenGL.TextureViewGL
import Dawn.Properties.StagingBuffer

/-!
# The constructor's nonzero clear

With the `NonzeroClearResourcesOnCreationForTesting` toggle on, the `Texture` constructor runs
`ClearTexture` with `ClearValue::NonZero` over every subresource, so that a test can tell
contents that lazy clearing zeroed from contents it never touched. The flags are left as they
were: the texture is still uninitialized.

On a renderable color texture every byte of every subresource becomes 255
(`create_fills_color_texture`). On the staging path of a non-renderable texture the clear color
is 1, and `std::fill` writes it as a `uint32_t` word, so only the first byte of each word is 1:
every byte of a row at an offset that is not a multiple of 4 stays 0
(`create_stages_first_byte_of_each_word`). With a format of one or two bytes a texel, texels
stay zero after the "nonzero" clear.
-/

namespace Dawn.Native.OpenGL.TextureObject

variable {env : Environment} {device device' : Device} {context context' : GLContext}
  {texture : Texture} {textureFormat : TextureFormat} {usage : TextureUsage} {name : Nat}
  {made : TextureObject}

/-- A clear that succeeds hands the device no error. -/
theorem nonzeroClear_of_ok {cleared : Texture}
    (result : texture.clearTexture env
      ⟨0, texture.mipLevelCount.toNat, 0, texture.arrayLayerCount.toNat⟩ .nonZero = .ok cleared) :
    nonzeroClear env device texture = (device, cleared) := by
  simp only [nonzeroClear, result]
  rfl

/-- On a renderable color texture, the constructor's clear fills every byte of every level and
layer with 255, and changes neither the device nor the flags. -/
theorem create_fills_color_texture (uncompressed : texture.format.isCompressed = false)
    (renderable : texture.format.isRenderable = true)
    (color : texture.format.hasDepthOrStencil = false)
    (created : create env device true context texture textureFormat usage name =
      some (device', made, context')) (level layer : Nat) :
    device' = device ∧ made.toTextureBase = texture.toTextureBase ∧
      made.contents level layer =
        if level < texture.mipLevelCount.toNat ∧ layer < texture.arrayLayerCount.toNat then
          Image.fill 255
        else texture.contents level layer := by
  have cleared := create_toTexture created
  rw [if_pos rfl, nonzeroClear_of_ok (Texture.clearTexture_of_color uncompressed renderable color),
    Prod.mk.injEq] at cleared
  obtain ⟨rfl, same⟩ := cleared
  refine ⟨rfl, by rw [same, Texture.foldl_clearTexSubImage_toTextureBase], ?_⟩
  rw [same, Texture.foldl_clearTexSubImage_contents]
  simp [SubresourceRange.levels]

/-- What the constructor makes of `Texture.uploadedBaseLevel`, an `RGBA8Unorm` texture of two
levels, under name 1 with the toggle on. -/
def rgba8TextureMade : Device × TextureObject × GLContext :=
  (create Texture.sampleEnvironment ⟨false, 0, []⟩ true ⟨fun _ => .unused, rfl⟩
    Texture.uploadedBaseLevel ⟨0⟩ {TextureUsageBit.sampled} 1).get (by decide)

theorem create_fills_color_texture_of_two_levels :
    rgba8TextureMade.1 = ⟨false, 0, []⟩ ∧ rgba8TextureMade.2.1.contents 1 0 = Image.fill 255 :=
  have filled := @create_fills_color_texture Texture.sampleEnvironment ⟨false, 0, []⟩
    rgba8TextureMade.1 ⟨fun _ => .unused, rfl⟩ rgba8TextureMade.2.2 Texture.uploadedBaseLevel ⟨0⟩
    {TextureUsageBit.sampled} 1 rgba8TextureMade.2.1 rfl rfl rfl rfl 1 0
  ⟨filled.1, filled.2.2.trans (if_pos (by decide))⟩

/-! ### The staging path -/

/-- Every stride the upload loop unpacks at is a whole number of words, as `GL_UNPACK_ALIGNMENT`
is 4. -/
theorem uploadStride_mod_four {level rowLength : Nat} :
    texture.uploadStride level rowLength % 4 = 0 := by
  unfold Texture.uploadStride unpackRowStride unpackAlignment
  omega

/-- A buffer of `clearColor` words unpacks, at a stride of whole words, to rows whose bytes at
multiples of 4 are `clearColor` and whose other bytes are 0. -/
theorem unpackedImage_of_words {size stride : Nat} {clearColor : UInt8} (words : stride % 4 = 0) :
    unpackedImage ⟨size, clearColor⟩ stride =
      fun _ byte => if byte % 4 = 0 then clearColor else 0 := by
  funext row byte
  obtain ⟨k, rfl⟩ := Nat.dvd_of_mod_eq_zero words
  have offset : (row * (4 * k) + byte) % 4 = byte % 4 := by
    rw [Nat.mul_left_comm, Nat.mul_add_mod]
  simp [unpackedImage, StagingBuffer.byte, offset]

/-- On a non-renderable, single-sampled texture of one layer whose exact staging size is below
2^32, the constructor's clear writes to each level a 1 at every byte of a row whose offset is a
multiple of 4, and a 0 at every other byte; the device and the flags stay as they were. -/
theorem create_stages_first_byte_of_each_word (uncompressed : texture.format.isCompressed = false)
    (extent : 0 < texture.width.toNat ∧ 0 < texture.height.toNat)
    (aligned : 4 ∣ env.kTextureRowPitchAlignment.toNat ∧
      env.kTextureRowPitchAlignment.toNat ∣ 4294967296)
    (fits : texture.exactStagingBufferSize env < 4294967296)
    (nonRenderable : texture.format.isRenderable = false)
    (single : texture.arrayLayerCount = 1) (singleSample : texture.sampleCount = 1)
    (mapped : env.mapAtCreation (texture.stagingBufferSize env) = none)
    (created : create env device true context texture textureFormat usage name =
      some (device', made, context')) (level layer : Nat) :
    device' = device ∧ made.toTextureBase = texture.toTextureBase ∧
      made.contents level layer =
        if level < texture.mipLevelCount.toNat ∧ layer = 0 then
          fun _ byte => if byte % 4 = 0 then 1 else 0
        else texture.contents level layer := by
  have cleared := create_toTexture created
  rw [if_pos rfl, nonzeroClear_of_ok (Texture.clearTexture_of_mapped uncompressed nonRenderable
    mapped), Prod.mk.injEq] at cleared
  obtain ⟨rfl, same⟩ := cleared
  refine ⟨rfl, by rw [same, Texture.uploadStagingBuffer_toTextureBase], ?_⟩
  rw [same, Texture.uploadStagingBuffer_contents, unpackedImage_of_words uploadStride_mod_four]
  simp [Texture.uploadAccepted_of_fits uncompressed extent aligned fits single singleSample,
    SubresourceRange.levels]

/-- `R8Snorm`, a format of one byte a texel that is not renderable. -/
def r8Snorm : Format := ⟨false, false, false, false, 1, 1, 1, fun _ => ⟨rfl, rfl⟩⟩

/-- A 4×4 `R8Snorm` texture of one level and one layer, never initialized. -/
def r8Texture : Texture :=
  { format := r8Snorm, width := 4, height := 4, mipLevelCount := 1, arrayLayerCount := 1,
    sampleCount := 1, isSubresourceContentInitializedAtIndex := fun _ _ => false,
    contents := fun _ _ => Image.fill 9 }

/-- What the constructor makes of `r8Texture` under name 1 with the toggle on. -/
def r8TextureMade : Device × TextureObject × GLContext :=
  (create Texture.sampleEnvironment ⟨false, 0, []⟩ true ⟨fun _ => .unused, rfl⟩ r8Texture ⟨0⟩
    {.sampled} 1).get (by decide)

/-- Texel 1 of row 0 of the "nonzero" cleared `R8Snorm` texture is 0. -/
theorem create_stages_first_byte_of_each_word_of_r8Texture :
    r8Texture.exactStagingBufferSize Texture.sampleEnvironment = 1024 ∧
    r8TextureMade.2.1.contents 0 0 0 0 = 1 ∧ r8TextureMade.2.1.contents 0 0 0 1 = 0 :=
  have staged := @create_stages_first_byte_of_each_word Texture.sampleEnvironment
    ⟨false, 0, []⟩ r8TextureMade.1 ⟨fun _ => .unused, rfl⟩ r8TextureMade.2.2 r8Texture ⟨0⟩
    {TextureUsageBit.sampled} 1 r8TextureMade.2.1 rfl (by decide) (by decide) (by decide) rfl rfl rfl rfl
    rfl 0 0
  ⟨by decide, by rw [staged.2.2]; rfl, by rw [staged.2.2]; rfl⟩

end Dawn.Native.OpenGL.TextureObject

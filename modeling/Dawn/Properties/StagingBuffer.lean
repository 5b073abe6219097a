import Dawn.Properties.LazyClear

/-!
# The staging buffer of the OpenGL clear

For a non-renderable format `ClearTexture` uploads the clear value from a staging buffer of
`descriptor.size = rowPitch * (height / blockHeight)` bytes. Both factors are `uint32_t`, and so
is their product: it wraps modulo 2^32 before it is widened to the 64-bit size, so the guard
`descriptor.size > UINT32_MAX` never fires (`not_stagingBufferSize_gt`).

When the exact size is 2^32 or more the buffer is smaller than the image, GL rejects every
upload from it, and the clear succeeds without writing anything
(`clear_skips_wrapped_texture`). Whenever the size wraps to 0, lazy clearing then marks every
range over contents it never wrote (`ensure_marks_unwritten_of_empty_staging`). When the exact size is below 2^32 the code computes it
exactly, and every level of the range is uploaded (`ensure_zeroes_staged_levels`).
-/

namespace Dawn.Native.OpenGL.Texture

variable (texture : Texture) (env : Environment)

/-- The row pitch in unbounded integers:
`Align((width / blockWidth) * blockByteSize, kTextureRowPitchAlignment)`. -/
def exactRowPitch : Nat :=
  (texture.width.toNat / texture.format.blockWidth.toNat * texture.format.blockByteSize.toNat +
      env.kTextureRowPitchAlignment.toNat - 1) / env.kTextureRowPitchAlignment.toNat *
    env.kTextureRowPitchAlignment.toNat

/-- The staging buffer size in unbounded integers: `exactRowPitch * (height / blockHeight)`. -/
def exactStagingBufferSize : Nat :=
  texture.exactRowPitch env * (texture.height.toNat / texture.format.blockHeight.toNat)

variable {texture env}

section Uncompressed

variable (uncompressed : texture.format.isCompressed = false)
include uncompressed

/-- Where `Align` does not wrap, the code's 32-bit row pitch is the exact one. -/
theorem rowPitch_toNat (positive : 0 < env.kTextureRowPitchAlignment.toNat)
    (noWrap : texture.width.toNat * texture.format.blockByteSize.toNat +
      env.kTextureRowPitchAlignment.toNat - 1 < 4294967296) :
    (texture.rowPitch env).toNat = texture.exactRowPitch env := by
  obtain ⟨unitWidth, -⟩ := texture.format.uncompressed_texel uncompressed
  have alignmentBound := env.kTextureRowPitchAlignment.toNat_lt
  have rowBytes :
      (texture.width / texture.format.blockWidth * texture.format.blockByteSize).toNat =
        texture.width.toNat * texture.format.blockByteSize.toNat := by
    rw [UInt32.toNat_mul, UInt32.toNat_div, unitWidth]
    simp only [UInt32.toNat_ofNat, Nat.reduceMod, Nat.div_one, UInt32.size]
    omega
  have rounded := Nat.div_mul_le_self
    (texture.width.toNat * texture.format.blockByteSize.toNat +
      env.kTextureRowPitchAlignment.toNat - 1) env.kTextureRowPitchAlignment.toNat
  unfold rowPitch align exactRowPitch
  rw [UInt32.toNat_mul, UInt32.toNat_div, UInt32.toNat_add, UInt32.toNat_sub, rowBytes, unitWidth]
  simp only [UInt32.toNat_ofNat, Nat.reduceMod, Nat.div_one, UInt32.size]
  have sum : (texture.width.toNat * texture.format.blockByteSize.toNat +
      (4294967296 - 1 + env.kTextureRowPitchAlignment.toNat) % 4294967296) % 4294967296 =
        texture.width.toNat * texture.format.blockByteSize.toNat +
          env.kTextureRowPitchAlignment.toNat - 1 := by omega
  rw [sum]
  omega

/-- A row of the texture fits in the exact row pitch, which rounds it up. -/
theorem rowBytes_le_exactRowPitch (positive : 0 < env.kTextureRowPitchAlignment.toNat) :
    texture.width.toNat * texture.format.blockByteSize.toNat ≤ texture.exactRowPitch env := by
  obtain ⟨unitWidth, -⟩ := texture.format.uncompressed_texel uncompressed
  have roundedUp : texture.width.toNat * texture.format.blockByteSize.toNat +
      env.kTextureRowPitchAlignment.toNat - 1 < texture.exactRowPitch env +
        env.kTextureRowPitchAlignment.toNat := by
    simp only [exactRowPitch, unitWidth, UInt32.toNat_ofNat, UInt32.size, Nat.reduceMod,
      Nat.div_one]
    exact Nat.lt_div_mul_add positive
  omega

/-- Where `Align` does not wrap, `descriptor.size` is the exact size modulo 2^32. -/
theorem stagingBufferSize_toNat_of_noWrap (positive : 0 < env.kTextureRowPitchAlignment.toNat)
    (noWrap : texture.width.toNat * texture.format.blockByteSize.toNat +
      env.kTextureRowPitchAlignment.toNat - 1 < 4294967296) :
    (texture.stagingBufferSize env).toNat = texture.exactStagingBufferSize env % 4294967296 := by
  obtain ⟨-, unitHeight⟩ := texture.format.uncompressed_texel uncompressed
  rw [stagingBufferSize_toNat, rowPitch_toNat uncompressed positive noWrap, UInt32.toNat_div,
    exactStagingBufferSize, unitHeight]

/-- A staging size below 2^32 leaves `Align` no room to wrap, when the alignment divides 2^32. -/
theorem noWrap_of_fits (aligned : env.kTextureRowPitchAlignment.toNat ∣ 4294967296)
    (tall : 0 < texture.height.toNat)
    (fits : texture.exactStagingBufferSize env < 4294967296) :
    texture.width.toNat * texture.format.blockByteSize.toNat +
      env.kTextureRowPitchAlignment.toNat - 1 < 4294967296 := by
  obtain ⟨unitWidth, unitHeight⟩ := texture.format.uncompressed_texel uncompressed
  have positive := Nat.pos_of_dvd_of_pos aligned (by decide)
  simp only [exactStagingBufferSize, exactRowPitch, unitWidth, unitHeight, UInt32.toNat_ofNat,
    UInt32.size, Nat.reduceMod, Nat.div_one] at fits
  generalize texture.width.toNat * texture.format.blockByteSize.toNat = rowBytes at fits ⊢
  generalize env.kTextureRowPitchAlignment.toNat = alignment at aligned positive fits ⊢
  have pitchBelow : (rowBytes + alignment - 1) / alignment * alignment < 4294967296 :=
    lt_of_le_of_lt (Nat.le_mul_of_pos_right _ tall) fits
  have roundedUp : rowBytes + alignment - 1 <
      (rowBytes + alignment - 1) / alignment * alignment + alignment :=
    Nat.lt_div_mul_add positive
  have room : (rowBytes + alignment - 1) / alignment * alignment + alignment ≤ 4294967296 :=
    Nat.le_of_lt_add_of_dvd (by omega) (Nat.dvd_add (Nat.dvd_mul_left _ _) (Nat.dvd_refl _))
      aligned
  omega

end Uncompressed

/-! ### A texture whose staging size wraps -/

section Wrapped

variable (aligned : 4 ∣ env.kTextureRowPitchAlignment.toNat ∧
    env.kTextureRowPitchAlignment.toNat ∣ 262144)
  (format : texture.format = rgba8Snorm) (width : texture.width = 65536)
  (height : texture.height = 16384)
include aligned format width height

/-- The staging buffer of a 65536 × 16384 `RGBA8Snorm` texture needs 2^32 bytes, which the
32-bit product wraps to 0. -/
private theorem stagingBufferSize_of_wide :
    texture.exactStagingBufferSize env = 4294967296 ∧ texture.stagingBufferSize env = 0 := by
  obtain ⟨-, quotient, total⟩ := aligned
  have positive : 0 < env.kTextureRowPitchAlignment.toNat :=
    Nat.pos_of_dvd_of_pos ⟨quotient, total⟩ (by decide)
  have bounded : env.kTextureRowPitchAlignment.toNat ≤ 262144 :=
    Nat.le_of_dvd (by decide) ⟨quotient, total⟩
  have pitch : texture.exactRowPitch env = 262144 := by
    simp only [exactRowPitch, format, width, rgba8Snorm, UInt32.toNat_ofNat, UInt32.size,
      Nat.reduceMod, Nat.reduceDiv, Nat.reduceMul]
    rw [show 262144 + env.kTextureRowPitchAlignment.toNat - 1 =
        env.kTextureRowPitchAlignment.toNat * quotient + (env.kTextureRowPitchAlignment.toNat - 1)
        by omega,
      Nat.mul_add_div positive, Nat.div_eq_of_lt (by omega), Nat.add_zero, Nat.mul_comm, ← total]
  have exact : texture.exactStagingBufferSize env = 4294967296 := by
    simp only [exactStagingBufferSize, pitch, format, height, rgba8Snorm, UInt32.toNat_ofNat,
      UInt32.size, Nat.reduceMod, Nat.reduceDiv, Nat.reduceMul]
  refine ⟨exact, UInt64.ext ?_⟩
  rw [stagingBufferSize_toNat_of_noWrap (by rw [format]; rfl) positive
    (by simp only [format, width, rgba8Snorm, UInt32.toNat_ofNat, UInt32.size, Nat.reduceMod]; omega),
    exact]
  rfl

/-- `ClearTexture` of such a texture creates its staging buffer with size 0, from which GL
rejects every upload: it fails only if that buffer cannot be mapped, and otherwise succeeds
without writing anything. -/
private theorem clearTexture_of_wide (range : SubresourceRange) (clearValue : ClearValue) :
    texture.clearTexture env range clearValue =
      match env.mapAtCreation 0 with
      | some error => .error error
      | none => .ok texture := by
  have uncompressed : texture.format.isCompressed = false := by rw [format]; rfl
  have nonRenderable : texture.format.isRenderable = false := by rw [format]; rfl
  have empty := (stagingBufferSize_of_wide aligned format width height).2
  cases mapped : env.mapAtCreation 0 with
  | none =>
    have rejected : ∀ level rowLength, ¬texture.UploadAccepted
        ⟨(texture.stagingBufferSize env).toNat, if clearValue = .zero then 0 else 1⟩ level
          rowLength := by
      rintro level rowLength ⟨-, reads⟩
      simp only [empty, format, rgba8Snorm, TextureBase.getMipLevelPhysicalSize,
        UInt64.toNat_ofNat, UInt64.size, UInt32.toNat_ofNat, UInt32.size, Nat.reduceMod] at reads
      omega
    rw [clearTexture_of_mapped uncompressed nonRenderable (by rw [empty]; exact mapped),
      uploadStagingBuffer_of_rejected rejected]
  | some error =>
    rw [clearTexture_of_not_mapped uncompressed nonRenderable (by rw [empty]; exact mapped)]

theorem clear_skips_wrapped_texture (range : SubresourceRange) (clearValue : ClearValue) :
    texture.exactStagingBufferSize env = 4294967296 ∧ texture.stagingBufferSize env = 0 ∧
      texture.clearTexture env range clearValue =
        match env.mapAtCreation 0 with
        | some error => .error error
        | none => .ok texture :=
  ⟨(stagingBufferSize_of_wide aligned format width height).1,
    (stagingBufferSize_of_wide aligned format width height).2,
    clearTexture_of_wide aligned format width height range clearValue⟩

end Wrapped

/-- A 65536 × 16384 `RGBA8Snorm` texture of one level and one layer, never initialized, whose
memory holds bytes 9. -/
def wideTexture : Texture :=
  { format := rgba8Snorm, width := 65536, height := 16384, mipLevelCount := 1,
    arrayLayerCount := 1, sampleCount := 1, isSubresourceContentInitializedAtIndex := fun _ _ => false,
    contents := fun _ _ => Image.fill 9 }

theorem clear_skips_wrapped_texture_at_alignment_256 :
    (4 ∣ sampleEnvironment.kTextureRowPitchAlignment.toNat ∧
      sampleEnvironment.kTextureRowPitchAlignment.toNat ∣ 262144) ∧
    wideTexture.exactStagingBufferSize sampleEnvironment = 4294967296 ∧
    wideTexture.stagingBufferSize sampleEnvironment = 0 ∧
    wideTexture.clearTexture sampleEnvironment ⟨0, 1, 0, 1⟩ .zero = .ok wideTexture :=
  have aligned : 4 ∣ sampleEnvironment.kTextureRowPitchAlignment.toNat ∧
      sampleEnvironment.kTextureRowPitchAlignment.toNat ∣ 262144 := by decide
  have wraps := clear_skips_wrapped_texture aligned rfl rfl rfl ⟨0, 1, 0, 1⟩ .zero
  ⟨aligned, wraps.1, wraps.2.1, wraps.2.2⟩

/-! ### Every texture whose staging size wraps to 0 -/

/-- GL takes no upload from a staging buffer of size 0: each level has a texel, of at least one
byte. -/
theorem not_uploadAccepted_of_empty (texel : 0 < texture.format.blockByteSize.toNat)
    {clearColor : UInt8} (level rowLength : Nat) :
    ¬texture.UploadAccepted ⟨0, clearColor⟩ level rowLength := by
  rintro ⟨-, reads⟩
  have wide : 1 ≤ (texture.getMipLevelPhysicalSize level).1 := le_max_right _ _
  have texelRead : 1 ≤ (texture.getMipLevelPhysicalSize level).1 *
      texture.format.blockByteSize.toNat := Nat.mul_le_mul wide texel
  exact absurd reads (by simp only; omega)

/-- Whenever the code's 32-bit staging size is 0, as when the exact size is a multiple of 2^32,
the staging clear of a non-renderable texture writes nothing: with lazy clearing on, every range
ends marked over contents that stay as they were, whenever the staging buffer can be mapped. -/
theorem ensure_marks_unwritten_of_empty_staging (device : Device) (range : SubresourceRange)
    (isLazyClear : Bool) (enabled : device.lazyClearResourceOnFirstUse = true)
    (uncompressed : texture.format.isCompressed = false)
    (nonRenderable : texture.format.isRenderable = false)
    (texel : 0 < texture.format.blockByteSize.toNat)
    (empty : texture.stagingBufferSize env = 0) (mapped : env.mapAtCreation 0 = none) :
    (texture.ensureSubresourceContentInitialized env range device isLazyClear).2.toTextureBase =
      texture.setIsSubresourceContentInitialized range true ∧
    (texture.ensureSubresourceContentInitialized env range device isLazyClear).2.contents =
      texture.contents := by
  rw [ensure_of_clear_unwritten enabled fun cleared ok => ?_]
  · exact ⟨rfl, rfl⟩
  rw [clearTexture_of_mapped uncompressed nonRenderable (by rw [empty]; exact mapped),
    uploadStagingBuffer_of_rejected fun level rowLength => by
      rw [empty]; exact not_uploadAccepted_of_empty texel level rowLength,
    Except.ok.injEq] at ok
  exact ok.symm

/-- At the extent of `wideTexture` the staging size wraps to 0, and lazy clearing marks level 0
over the bytes 9 it held. -/
theorem ensure_marks_unwritten_of_empty_staging_of_wide_texture :
    wideTexture.stagingBufferSize sampleEnvironment = 0 ∧
    (wideTexture.ensureSubresourceContentInitialized sampleEnvironment ⟨0, 1, 0, 1⟩ lazyDevice
        true).2.isSubresourceContentInitializedAtIndex 0 0 = true ∧
    (wideTexture.ensureSubresourceContentInitialized sampleEnvironment ⟨0, 1, 0, 1⟩ lazyDevice
        true).2.contents 0 0 = Image.fill 9 :=
  have empty : wideTexture.stagingBufferSize sampleEnvironment = 0 := by decide
  have marked := ensure_marks_unwritten_of_empty_staging lazyDevice ⟨0, 1, 0, 1⟩ true rfl rfl rfl
    (by decide) empty rfl
  ⟨empty, (congrArg (·.isSubresourceContentInitializedAtIndex 0 0) marked.1).trans (by decide),
    congrFun (congrFun marked.2 0) 0⟩

/-! ### Staging sizes below 2^32 -/

section Fits

variable {range : SubresourceRange}
  (uncompressed : texture.format.isCompressed = false)
  (extent : 0 < texture.width.toNat ∧ 0 < texture.height.toNat)
  (aligned : 4 ∣ env.kTextureRowPitchAlignment.toNat ∧
    env.kTextureRowPitchAlignment.toNat ∣ 4294967296)
  (fits : texture.exactStagingBufferSize env < 4294967296)
include uncompressed extent aligned fits

/-- Each row an upload reads, at the row length the loop has set for its level, is at most one
row pitch apart from the next. -/
private theorem uploadStride_le (level : Nat) :
    texture.uploadStride level (texture.levelRowLength env range level) ≤
      texture.exactRowPitch env := by
  obtain ⟨unitWidth, -⟩ := texture.format.uncompressed_texel uncompressed
  have positive := Nat.pos_of_dvd_of_pos aligned.2 (by decide)
  have pitch := rowPitch_toNat uncompressed positive
    (noWrap_of_fits uncompressed aligned.2 extent.2 fits)
  have rowBytes := rowBytes_le_exactRowPitch uncompressed positive
  have quadWords : texture.exactRowPitch env % 4 = 0 :=
    Nat.mod_eq_zero_of_dvd (Nat.dvd_trans aligned.1 (Nat.dvd_mul_left _ _))
  have rowLengthLe : texture.levelRowLength env range level ≤
      texture.exactRowPitch env / texture.format.blockByteSize.toNat := by
    unfold levelRowLength initialRowLength pixelStoreiRowLength
    split_ifs
    · rw [UInt32.toNat_mul, UInt32.toNat_div, unitWidth, pitch]
      simp only [UInt32.toNat_ofNat, UInt32.size, Nat.reduceMod, Nat.mul_one]
      exact Nat.mod_le _ _
    all_goals exact Nat.zero_le _
  have rowBytesLe : (if texture.levelRowLength env range level = 0 then
      (texture.getMipLevelPhysicalSize level).1 else texture.levelRowLength env range level) *
        texture.format.blockByteSize.toNat ≤ texture.exactRowPitch env := by
    split_ifs
    · have := Nat.mul_le_mul_right texture.format.blockByteSize.toNat
        (texture.getMipLevelPhysicalSize_fst_le extent.1 level)
      omega
    · exact le_trans (Nat.mul_le_mul_right _ rowLengthLe) (Nat.div_mul_le_self _ _)
  unfold uploadStride unpackRowStride unpackAlignment
  generalize (if texture.levelRowLength env range level = 0 then
      (texture.getMipLevelPhysicalSize level).1 else texture.levelRowLength env range level) *
        texture.format.blockByteSize.toNat = rowBytes at rowBytesLe ⊢
  omega

/-- On a single-sampled texture of one layer, GL accepts the upload of every level from a
staging buffer of the exact size. -/
theorem uploadAccepted_of_fits (single : texture.arrayLayerCount = 1)
    (singleSample : texture.sampleCount = 1) (level : Nat) (clearColor : UInt8) :
    texture.UploadAccepted ⟨(texture.stagingBufferSize env).toNat, clearColor⟩ level
      (texture.levelRowLength env range level) := by
  obtain ⟨-, unitHeight⟩ := texture.format.uncompressed_texel uncompressed
  have positive := Nat.pos_of_dvd_of_pos aligned.2 (by decide)
  have size : (texture.stagingBufferSize env).toNat =
      texture.exactRowPitch env * texture.height.toNat := by
    rw [stagingBufferSize_toNat_of_noWrap uncompressed positive
      (noWrap_of_fits uncompressed aligned.2 extent.2 fits), Nat.mod_eq_of_lt fits]
    simp [exactStagingBufferSize, unitHeight]
  have widthLe := Nat.mul_le_mul_right texture.format.blockByteSize.toNat
    (texture.getMipLevelPhysicalSize_fst_le extent.1 level)
  refine ⟨by simp [getGLTarget, targetForTexture, single, singleSample], ?_⟩
  calc ((texture.getMipLevelPhysicalSize level).2 - 1) *
          texture.uploadStride level (texture.levelRowLength env range level) +
        (texture.getMipLevelPhysicalSize level).1 * texture.format.blockByteSize.toNat
      ≤ (texture.height.toNat - 1) * texture.exactRowPitch env + texture.exactRowPitch env :=
        Nat.add_le_add (Nat.mul_le_mul (Nat.sub_le_sub_right
          (texture.getMipLevelPhysicalSize_snd_le extent.2 level) 1)
          (uploadStride_le uncompressed extent aligned fits level))
          (widthLe.trans (rowBytes_le_exactRowPitch uncompressed positive))
    _ = (texture.stagingBufferSize env).toNat := by
        rw [size, Nat.sub_one_mul, Nat.sub_add_cancel (Nat.le_mul_of_pos_left _ extent.2),
          Nat.mul_comm]

/-- When the exact staging size is below 2^32, lazy clearing a single-sampled texture of one
layer that is not wholly initialized leaves every level of the range zero, and changes nothing
else. -/
theorem ensure_zeroes_staged_levels {device : Device} {isLazyClear : Bool}
    (enabled : device.lazyClearResourceOnFirstUse = true)
    (nonRenderable : texture.format.isRenderable = false)
    (single : texture.arrayLayerCount = 1) (singleSample : texture.sampleCount = 1)
    (mapped : env.mapAtCreation (texture.stagingBufferSize env) = none)
    (uninitialized : texture.isSubresourceContentInitialized range = false) (level layer : Nat) :
    (texture.ensureSubresourceContentInitialized env range device isLazyClear).2.contents level
        layer =
      if level ∈ range.levels ∧ layer = 0 then Image.fill 0 else texture.contents level layer := by
  rw [ensure_of_cleared enabled uninitialized
    (clearTexture_of_mapped uncompressed nonRenderable mapped)]
  simp [uploadStagingBuffer_contents,
    uploadAccepted_of_fits uncompressed extent aligned fits single singleSample]

end Fits

/-- A 4×4 `RGBA8Snorm` texture of two levels and one layer, never initialized, whose memory
holds bytes 9. -/
def narrowTexture : Texture :=
  { format := rgba8Snorm, width := 4, height := 4, mipLevelCount := 2, arrayLayerCount := 1,
    sampleCount := 1, isSubresourceContentInitializedAtIndex := fun _ _ => false,
    contents := fun _ _ => Image.fill 9 }

theorem ensure_zeroes_staged_levels_of_narrow_texture :
    narrowTexture.exactStagingBufferSize sampleEnvironment = 1024 ∧
    (narrowTexture.ensureSubresourceContentInitialized sampleEnvironment ⟨0, 2, 0, 1⟩ lazyDevice
        true).2.contents 1 0 = Image.fill 0 :=
  ⟨by decide, (@ensure_zeroes_staged_levels narrowTexture sampleEnvironment ⟨0, 2, 0, 1⟩ rfl
    (by decide) (by decide) (by decide) lazyDevice true rfl rfl rfl rfl rfl rfl 1 0).trans
      (if_pos (by decide))⟩

end Dawn.Native.OpenGL.Texture
